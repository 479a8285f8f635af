import EventStore.Selector.Syntax
import EventStore.Proofs.SelectorValidity
import Mathlib.Data.List.TakeWhile

/-! Reading and writing selectors are inverse to each other. Each part is cut off exactly where the
writer ended it, because no literal holds the characters that end its part; and whatever a cut
gives is written back to the text it was cut from. -/

namespace EventStore.Proofs.SelectorText
open Selector Outcomes

/-- A part ends before this text. -/
def Ends (text : List Char) : Prop := ∀ char ∈ text.head?, endsPart char = true

theorem ends_nil : Ends [] := by simp [Ends]

theorem ends_cons {char : Char} (ending : endsPart char = true) (text : List Char) :
    Ends (char :: text) := by simpa [Ends] using ending

/-- A part free of points and opening brackets is taken whole and nothing after it. -/
theorem takePart_append {part rest : List Char} (free : ∀ char ∈ part, endsPart char = false)
    (ends : Ends rest) : takePart (part ++ rest) = (part, rest) := by
  have inside : ∀ char ∈ part, (!endsPart char) = true := fun char member => by simp [free char member]
  rw [takePart, List.takeWhile_append_of_pos inside, List.dropWhile_append_of_pos inside]
  cases rest with
  | nil => simp
  | cons char rest =>
    have ending : endsPart char = true := ends char rfl
    simp [ending]

theorem takePart_joins (text : List Char) : (takePart text).1 ++ (takePart text).2 = text :=
  List.takeWhile_append_dropWhile

/-- A part that no mark within it ends. -/
def Unbroken (part : String) : Prop := '.' ∉ part.toList ∧ '[' ∉ part.toList

theorem unbroken_iff {part : String} :
    Unbroken part ↔ ∀ char ∈ part.toList, endsPart char = false := by
  constructor
  · rintro ⟨noPoint, noBracket⟩ char member
    have point : char ≠ '.' := fun same => noPoint (same ▸ member)
    have bracket : char ≠ '[' := fun same => noBracket (same ▸ member)
    simp [endsPart, point, bracket]
  · intro free
    constructor
    · intro member
      cases free '.' member
    · intro member
      cases free '[' member

theorem unbroken_empty : Unbroken "" := ⟨by simp, by simp⟩

theorem unbroken_takePart (text : List Char) : Unbroken (String.ofList (takePart text).1) := by
  rw [unbroken_iff]
  intro char member
  rw [String.toList_ofList] at member
  simpa using List.mem_takeWhile_imp member

theorem unbroken_of_stream {name : String} (allowed : LiteralRole.stream.Allows name) :
    Unbroken name := by
  constructor
  · intro member
    cases allowed.free '.' member
  · intro member
    cases allowed.free '[' member

theorem unbroken_of_category {name : String} (allowed : LiteralRole.category.Allows name) :
    Unbroken name := by
  constructor
  · intro member
    cases allowed.free '.' member
  · intro member
    cases allowed.free '[' member

/-- What a text can be cut into, whether the literals are valid or not: no part is empty, and none
goes past where it is cut off. -/
structure Cuttable (selector : Selector) : Prop where
  limited : selector.everything = false
  marked : selector.relative = true → selector.stream ≠ ""
  stream : Unbroken selector.stream
  categories : ∀ category ∈ selector.categories, category ≠ "" ∧ Unbroken category
  events : ∀ event ∈ selector.events, event ≠ "" ∧ ',' ∉ event.toList

theorem cuttable_of_valid {selector : Selector} (valid : selector.Valid)
    (part : selector.everything = false) : Cuttable selector where
  limited := part
  marked := valid.marked
  stream := by
    by_cases named : selector.stream = ""
    · exact named ▸ unbroken_empty
    · exact unbroken_of_stream (valid.stream named)
  categories category member := by
    have allowed := valid.categories category member
    exact ⟨by simpa using allowed.some, unbroken_of_category allowed⟩
  events event member := by
    have allowed := valid.events event member
    exact ⟨by simpa using allowed.some, allowed.comma_not_mem⟩

/-- The mark before a stream tells whether it is relative, so both come back. -/
theorem cutStream_append {selector : Selector} {rest : List Char} (cuttable : Cuttable selector)
    (ends : Ends rest) :
    cutStream (selector.writeStream ++ rest) = .ok ((selector.stream, selector.relative), rest) := by
  by_cases named : selector.stream = ""
  · have absolute : selector.relative = false := by simpa [named] using cuttable.marked
    simp only [writeStream, named, absolute, String.isEmpty_iff, if_true, List.nil_append]
    cases rest with
    | nil => rfl
    | cons char rest =>
      have ending : endsPart char = true := ends char rfl
      have unmarked : ¬ (char = '$' ∨ char = '~') := by
        rintro (rfl | rfl) <;> simp [endsPart] at ending
      rw [cutStream, if_neg unmarked]
  · have taken := takePart_append (unbroken_iff.mp cuttable.stream) ends
    cases relative : selector.relative <;>
      simp [writeStream, relative, named, cutStream, taken]

theorem ends_writeEvents (events : List String) : Ends (writeEvents events) := by
  rw [writeEvents]
  split
  · exact ends_nil
  · exact ends_cons rfl _

theorem ends_writeCategories (categories : List String) {rest : List Char} (ends : Ends rest) :
    Ends (writeCategories categories ++ rest) := by
  cases categories with
  | nil => exact ends
  | cons category categories => exact ends_cons rfl _

theorem writeCategories_cons_append (category : String) (categories : List String)
    (rest : List Char) :
    writeCategories (category :: categories) ++ rest =
      '.' :: (category.toList ++ (writeCategories categories ++ rest)) := by
  simp [writeCategories]

theorem writeEvents_head (events : List String) : (writeEvents events).head? ≠ some '.' := by
  rw [writeEvents]
  split <;> simp

theorem cutCategories_append {categories : List String} {rest : List Char}
    (unbroken : ∀ category ∈ categories, category ≠ "" ∧ Unbroken category)
    (ends : Ends rest) (closed : rest.head? ≠ some '.') :
    cutCategories (writeCategories categories ++ rest) = .ok (categories, rest) := by
  induction categories with
  | nil =>
    rw [writeCategories, List.flatMap_nil, List.nil_append]
    unfold cutCategories
    split
    · simp at closed
    · rfl
  | cons category categories ih =>
    obtain ⟨⟨named, first⟩, others⟩ := List.forall_mem_cons.mp unbroken
    have taken := takePart_append (unbroken_iff.mp first) (ends_writeCategories categories ends)
    rw [takePart, Prod.mk.injEq] at taken
    rw [writeCategories_cons_append, cutCategories]
    simp only [taken, ih others]
    simp [named, bind, Except.bind, pure, Except.pure]

theorem cutEvents_writeEvents {events : List String}
    (apart : ∀ event ∈ events, event ≠ "" ∧ ',' ∉ event.toList) :
    cutEvents (writeEvents events) = .ok events := by
  by_cases none : events = []
  · simp [none, writeEvents, cutEvents]
  · have pieces : Text.pieces ',' (Text.joined ',' (events.map String.toList)) =
        events.map String.toList :=
      Text.pieces_joined ',' (by simpa using none)
        (by simpa using fun event member => (apart event member).2)
    have named : (events.map String.toList).any List.isEmpty = false := by
      simpa using fun event member => (apart event member).1
    simp [writeEvents, none, cutEvents, pieces, named]

theorem cut_write {selector : Selector} (cuttable : Cuttable selector) :
    cut selector.write = .ok selector := by
  have ends := ends_writeEvents selector.events
  have closed := writeEvents_head selector.events
  have part := cuttable.limited
  rw [cut, write, if_neg (by simp [part]), List.append_assoc,
    cutStream_append cuttable (ends_writeCategories _ ends)]
  simp only [bind, Except.bind, cutCategories_append cuttable.categories ends closed,
    cutEvents_writeEvents cuttable.events, pure, Except.pure, Except.ok.injEq]
  cases selector
  simp_all

/-- What is written never starts like the text of the selector of everything. -/
theorem write_starts {selector : Selector} (valid : selector.Valid)
    (part : selector.everything = false) :
    ∃ first, selector.write.head? = some first ∧ first ≠ wildcard := by
  rw [write, if_neg (by simp [part])]
  by_cases named : selector.stream = ""
  · cases categories : selector.categories with
    | cons category others =>
      exact ⟨'.', by simp [writeStream, named, writeCategories], by decide⟩
    | nil =>
      have typed : selector.events ≠ [] := by
        obtain stream | categorised | typed := valid.narrowed part
        · exact absurd named stream
        · exact absurd categories categorised
        · exact typed
      exact ⟨'[', by simp [writeStream, named, writeCategories, writeEvents, typed], by decide⟩
  · cases relative : selector.relative
    · exact ⟨'$', by simp [writeStream, named, relative], by decide⟩
    · exact ⟨'~', by simp [writeStream, named, relative], by decide⟩

theorem parse_toText {selector : Selector} (valid : selector.Valid) :
    parse selector.toText = .ok selector := by
  cases everything : selector.everything with
  | true =>
    rw [valid.alone everything]
    rfl
  | false =>
    obtain ⟨first, head, distinct⟩ := write_starts valid everything
    obtain ⟨rest, shape⟩ := List.head?_eq_some_iff.mp head
    have whole := cut_write (cuttable_of_valid valid everything)
    rw [shape] at whole
    rw [parse, toText, String.toList_ofList, shape]
    simp only [if_neg distinct, whole]
    exact check_eq_ok_iff.mpr ⟨rfl, valid⟩

/-- A cut stream is written back to what it was cut from, and no mark stands alone. -/
theorem cutStream_joins {text rest : List Char} {stream : String} {relative : Bool}
    (cut : cutStream text = .ok ((stream, relative), rest)) :
    ({ stream, relative } : Selector).writeStream ++ rest = text ∧
      (relative = true → stream ≠ "") ∧ Unbroken stream := by
  cases text with
  | nil =>
    cases cut
    exact ⟨rfl, nofun, unbroken_empty⟩
  | cons mark text =>
    rw [cutStream] at cut
    split at cut
    next marked =>
      simp only at cut
      split at cut
      next => cases cut
      next named =>
        cases cut
        have joins := takePart_joins text
        have closed : String.ofList (takePart text).1 ≠ "" := by
          intro empty
          exact named (by simp [String.ofList_eq_empty_iff.mp empty])
        refine ⟨?_, fun _ => closed, unbroken_takePart text⟩
        rcases marked with rfl | rfl
        · simp [writeStream, closed, joins]
        · simp [writeStream, closed, joins]
    next =>
      cases cut
      exact ⟨rfl, nofun, unbroken_empty⟩

theorem cutCategories_joins {text rest : List Char} {categories : List String}
    (cut : cutCategories text = .ok (categories, rest)) :
    writeCategories categories ++ rest = text ∧
      ∀ category ∈ categories, category ≠ "" ∧ Unbroken category := by
  fun_induction cutCategories text generalizing categories rest with
  | case1 => cases cut
  | case2 text category named =>
    rename_i ih
    obtain ⟨⟨others, remaining⟩, found, same⟩ := bind_eq_ok_iff.mp cut
    cases same
    obtain ⟨joins, unbroken⟩ := ih found
    have closed : String.ofList category ≠ "" := by
      simpa [String.ofList_eq_empty_iff] using named
    refine ⟨?_, List.forall_mem_cons.mpr ⟨⟨closed, unbroken_takePart text⟩, unbroken⟩⟩
    calc writeCategories (String.ofList category :: others) ++ rest
        = '.' :: category ++ (writeCategories others ++ rest) := by simp [writeCategories]
      _ = '.' :: (takePart text).1 ++ (takePart text).2 := by rw [joins]; rfl
      _ = '.' :: text := by rw [List.cons_append, takePart_joins]
  | case3 text =>
    cases cut
    exact ⟨rfl, nofun⟩

theorem cutEvents_joins {text : List Char} {events : List String}
    (cut : cutEvents text = .ok events) :
    writeEvents events = text ∧ ∀ event ∈ events, event ≠ "" ∧ ',' ∉ event.toList := by
  unfold cutEvents at cut
  split at cut
  next =>
    cases cut
    exact ⟨rfl, nofun⟩
  next rest =>
    split at cut
    next closed =>
      simp only at cut
      split at cut
      next => cases cut
      next named =>
        cases cut
        obtain ⟨inner, rfl⟩ := List.getLast?_eq_some_iff.mp closed
        have typed := Text.pieces_ne_nil ',' inner
        refine ⟨by simp [writeEvents, typed, Text.joined_pieces], fun event member => ?_⟩
        obtain ⟨piece, inside, rfl⟩ := List.mem_map.mp member
        rw [String.toList_ofList]
        refine ⟨fun empty => named ?_, Text.not_mem_of_mem_pieces ',' inside⟩
        exact List.any_eq_true.mpr ⟨piece, inside, by simp [String.ofList_eq_empty_iff.mp empty]⟩
    next => cases cut
  next => cases cut

theorem cut_joins {text : List Char} {selector : Selector} (found : cut text = .ok selector) :
    selector.write = text ∧ Cuttable selector := by
  obtain ⟨⟨⟨stream, relative⟩, afterStream⟩, streamCut, found⟩ := bind_eq_ok_iff.mp found
  obtain ⟨⟨categories, afterCategories⟩, categoriesCut, found⟩ := bind_eq_ok_iff.mp found
  obtain ⟨events, eventsCut, same⟩ := bind_eq_ok_iff.mp found
  cases same
  obtain ⟨streamJoins, marked, unbroken⟩ := cutStream_joins streamCut
  obtain ⟨categoriesJoin, categoriesUnbroken⟩ := cutCategories_joins categoriesCut
  obtain ⟨eventsJoin, apart⟩ := cutEvents_joins eventsCut
  refine ⟨?_, rfl, marked, unbroken, categoriesUnbroken, apart⟩
  calc
    _ = ({ stream, relative } : Selector).writeStream ++
          (writeCategories categories ++ writeEvents events) := by simp [write, writeStream]
    _ = text := by rw [eventsJoin, categoriesJoin, streamJoins]

/-- A text is cut into a selector exactly if it is written so and can be cut into it. -/
theorem cut_eq_ok_iff {text : List Char} {selector : Selector} :
    cut text = .ok selector ↔ selector.write = text ∧ Cuttable selector := by
  refine ⟨cut_joins, ?_⟩
  rintro ⟨rfl, cuttable⟩
  exact cut_write cuttable

theorem toText_of_parse {text : String} {selector : Selector} (parsed : parse text = .ok selector) :
    selector.toText = text ∧ selector.Valid := by
  rw [parse] at parsed
  split at parsed
  next => cases parsed
  next first rest shape =>
    split at parsed
    next everything =>
      split at parsed
      next bare =>
        cases parsed
        refine ⟨?_, valid_all⟩
        rw [List.isEmpty_iff] at bare
        rw [everything, bare] at shape
        exact (String.ofList_toList ▸ congrArg String.ofList shape).symm
      next => cases parsed
    next =>
      split at parsed
      next => cases parsed
      next found cut_found =>
        obtain ⟨rfl, valid⟩ := check_eq_ok_iff.mp parsed
        rw [toText, (cut_joins cut_found).1, ← shape, String.ofList_toList]
        exact ⟨rfl, valid⟩

/-- A text is read as a selector exactly if it is what that selector is written as. -/
theorem parse_eq_ok_iff {text : String} {selector : Selector} :
    parse text = .ok selector ↔ selector.Valid ∧ selector.toText = text := by
  constructor
  · exact fun parsed => (toText_of_parse parsed).symm
  · rintro ⟨valid, rfl⟩
    exact parse_toText valid

/-- Writing a valid selector and reading a text undo each other with every field in its place.
So no two valid selectors share a text, and the texts accepted are the texts written. -/
theorem parse_inverts_toText :
    (∀ selector : Selector, selector.Valid → parse selector.toText = .ok selector) ∧
    (∀ (text : String) (selector : Selector), parse text = .ok selector →
      selector.toText = text ∧ selector.Valid) ∧
    (∀ selector other : Selector, selector.Valid → other.Valid →
      selector.toText = other.toText → selector = other) ∧
    ∀ text : String, (∃ selector, parse text = .ok selector) ↔
      ∃ selector : Selector, selector.Valid ∧ selector.toText = text := by
  refine ⟨fun selector => parse_toText, fun text selector => toText_of_parse, ?_, ?_⟩
  · intro selector other valid otherValid same
    have parsed := parse_toText valid
    rw [same, parse_toText otherValid] at parsed
    exact (Except.ok.inj parsed).symm
  · intro text
    simp only [parse_eq_ok_iff]

theorem parse_inverts_toText_marked :
    let selector : Selector :=
      { stream := "orders/*", relative := true, categories := ["b", "a", "b"], events := ["x.Y", "Z"] }
    selector.Valid ∧ selector.toText = "~orders/*.b.a.b[x.Y,Z]" ∧
      parse selector.toText = .ok selector := by
  intro selector
  have checked : selector.check = .ok selector := by decide +kernel
  have valid := (check_eq_ok_iff.mp checked).2
  exact ⟨valid, by decide +kernel, parse_inverts_toText.1 selector valid⟩

end EventStore.Proofs.SelectorText
