import EventStore.Proofs.SelectorText
import Mathlib.Data.List.Find

/-! The faults of texts that are no selectors. A text comes apart in one way at most, which is said
here without reading it: marks stand between parts that hold none of the marks that end them. Only
where all of the text comes apart, and into parts that are not empty, the literals are looked at. -/

namespace EventStore.Proofs.SelectorFaults
open Selector Outcomes SelectorText

theorem ends_writeParts (categories events : List String) :
    Ends (writeCategories categories ++ writeEvents events) :=
  ends_writeCategories categories (ends_writeEvents events)

/-- Where two texts are the same, the unbroken parts they start with end at the same place. -/
theorem unbroken_append_inj {part other : String} {rest remaining : List Char}
    (unbroken : Unbroken part) (otherUnbroken : Unbroken other) (ends : Ends rest)
    (otherEnds : Ends remaining) (same : part.toList ++ rest = other.toList ++ remaining) :
    part = other ∧ rest = remaining := by
  have taken := takePart_append (unbroken_iff.mp unbroken) ends
  rw [same, takePart_append (unbroken_iff.mp otherUnbroken) otherEnds, Prod.mk.injEq] at taken
  exact ⟨(String.toList_injective taken.1).symm, taken.2.symm⟩

theorem writeEvents_inj {events others : List String} (apart : ∀ event ∈ events, ',' ∉ event.toList)
    (otherApart : ∀ event ∈ others, ',' ∉ event.toList)
    (same : writeEvents events = writeEvents others) : events = others := by
  have back {types : List String} (typed : types ≠ [])
      (free : ∀ event ∈ types, ',' ∉ event.toList) :
      Text.pieces ',' (Text.joined ',' (types.map String.toList)) = types.map String.toList :=
    Text.pieces_joined ',' (by simpa using typed) (by simpa using free)
  by_cases none : events = [] <;> by_cases otherNone : others = []
  · rw [none, otherNone]
  · simp [writeEvents, none, otherNone] at same
  · simp [writeEvents, none, otherNone] at same
  · simp only [writeEvents, List.isEmpty_iff, none, otherNone, if_false, List.cons_append,
      List.cons.injEq, List.append_cancel_right_eq, true_and] at same
    have cut := back none apart
    rw [same, back otherNone otherApart] at cut
    exact ((List.map_inj_right fun _ _ => String.toList_injective).mp cut).symm

/-- A point starts a category and a bracket the event types, so neither is taken for the other. -/
theorem writeCategories_inj {categories others events types : List String}
    (unbroken : ∀ category ∈ categories, Unbroken category)
    (otherUnbroken : ∀ category ∈ others, Unbroken category)
    (same : writeCategories categories ++ writeEvents events =
      writeCategories others ++ writeEvents types) :
    categories = others ∧ writeEvents events = writeEvents types := by
  induction categories generalizing others with
  | nil =>
    cases others with
    | nil => exact ⟨rfl, same⟩
    | cons other others =>
      rw [writeCategories_cons_append] at same
      exact absurd (congrArg List.head? same) (writeEvents_head events)
  | cons category categories ih =>
    cases others with
    | nil =>
      rw [writeCategories_cons_append] at same
      exact absurd (congrArg List.head? same).symm (writeEvents_head types)
    | cons other others =>
      obtain ⟨first, later⟩ := List.forall_mem_cons.mp unbroken
      obtain ⟨otherFirst, otherLater⟩ := List.forall_mem_cons.mp otherUnbroken
      rw [writeCategories_cons_append, writeCategories_cons_append, List.cons.injEq] at same
      obtain ⟨rfl, rest⟩ := unbroken_append_inj first otherFirst (ends_writeParts categories events)
        (ends_writeParts others types) same.2
      obtain ⟨rfl, lists⟩ := ih later otherLater rest
      exact ⟨rfl, lists⟩

/-- What stands between the marks of a text: a stream with whether it is relative, the categories
and the event types. Any of them may be empty: brackets around nothing hold one empty type. -/
structure Parts where
  stream : Option (Bool × String) := none
  categories : List String := []
  events : List String := []

namespace Parts

def writeStream : Option (Bool × String) → List Char
  | none => []
  | some (relative, name) => (if relative then '~' else '$') :: name.toList

def write (parts : Parts) : List Char :=
  writeStream parts.stream ++ (writeCategories parts.categories ++ writeEvents parts.events)

/-- All of the text is these parts and their marks, each part as long as it can be: to the next
point or bracket, or to the next comma within the brackets. -/
structure Cover (parts : Parts) (text : String) : Prop where
  whole : parts.write = text.toList
  stream : ∀ part ∈ parts.stream, Unbroken part.2
  categories : ∀ category ∈ parts.categories, Unbroken category
  events : ∀ event ∈ parts.events, ',' ∉ event.toList

def literals (parts : Parts) : List (LiteralRole × String) :=
  parts.stream.toList.map (fun part => (.stream, part.2)) ++
    (parts.categories.map (.category, ·) ++ parts.events.map (.event, ·))

def Named (parts : Parts) : Prop := ∀ part ∈ parts.literals, part.2 ≠ ""

def firstReserved (parts : Parts) : Option (LiteralRole × String) :=
  parts.literals.find? fun part => part.2.toList.any part.1.isReserved

def selector (parts : Parts) : Selector where
  stream := (parts.stream.map Prod.snd).getD ""
  relative := (parts.stream.map Prod.fst).getD false
  categories := parts.categories
  events := parts.events

@[simp] theorem everything_selector (parts : Parts) : parts.selector.everything = false := rfl

@[simp] theorem categories_selector (parts : Parts) :
    parts.selector.categories = parts.categories := rfl

@[simp] theorem events_selector (parts : Parts) : parts.selector.events = parts.events := rfl

theorem stream_selector_of_none {parts : Parts} (unmarked : parts.stream = none) :
    parts.selector.stream = "" ∧ parts.selector.relative = false := by
  simp [selector, unmarked]

theorem stream_selector_of_some {parts : Parts} {relative : Bool} {name : String}
    (marked : parts.stream = some (relative, name)) :
    parts.selector.stream = name ∧ parts.selector.relative = relative := by
  simp [selector, marked]

theorem named_iff {parts : Parts} : parts.Named ↔
    (∀ part ∈ parts.stream, part.2 ≠ "") ∧ (∀ category ∈ parts.categories, category ≠ "") ∧
      ∀ event ∈ parts.events, event ≠ "" := by
  simp [Named, literals, or_imp, forall_and]

/-- Only the mark of a stream starts a text that has one, since it ends no part. -/
theorem writeStream_inj {stream other : Option (Bool × String)} {rest remaining : List Char}
    (unbroken : ∀ part ∈ stream, Unbroken part.2) (otherUnbroken : ∀ part ∈ other, Unbroken part.2)
    (ends : Ends rest) (otherEnds : Ends remaining)
    (same : writeStream stream ++ rest = writeStream other ++ remaining) :
    stream = other ∧ rest = remaining := by
  have apart {relative : Bool} {name : String} {rest remaining : List Char}
      (ends : Ends remaining) :
      writeStream (some (relative, name)) ++ rest ≠ remaining := by
    rintro rfl
    cases relative <;> exact absurd (ends _ rfl) (by decide)
  cases stream with
  | none =>
    cases other with
    | none => exact ⟨rfl, same⟩
    | some part => exact absurd same.symm (apart ends)
  | some part =>
    obtain ⟨relative, name⟩ := part
    cases other with
    | none => exact absurd same (apart otherEnds)
    | some part =>
      obtain ⟨otherRelative, otherName⟩ := part
      rw [writeStream, writeStream, List.cons_append, List.cons_append, List.cons.injEq] at same
      obtain ⟨rfl, tail⟩ := unbroken_append_inj (unbroken _ rfl) (otherUnbroken _ rfl) ends
        otherEnds same.2
      have marks : relative = otherRelative := by
        have first := same.1
        revert first
        cases relative <;> cases otherRelative <;> decide
      exact ⟨by rw [marks], tail⟩

/-- The marks leave no choice: a text comes apart in one way at most. -/
theorem Cover.unique {parts other : Parts} {text : String} (cover : parts.Cover text)
    (otherCover : other.Cover text) : parts = other := by
  have same := cover.whole.trans otherCover.whole.symm
  obtain ⟨streams, rest⟩ := writeStream_inj cover.stream otherCover.stream (ends_writeParts _ _)
    (ends_writeParts _ _) same
  obtain ⟨categories, lists⟩ := writeCategories_inj cover.categories otherCover.categories rest
  have events := writeEvents_inj cover.events otherCover.events lists
  cases parts
  cases other
  simp_all

theorem Cover.of_empty {parts : Parts} (cover : parts.Cover "") : parts = {} :=
  cover.unique ⟨rfl, nofun, nofun, nofun⟩

/-- The wildcard starts no part and ends none. -/
theorem Cover.limited {parts : Parts} {text : String} (cover : parts.Cover text) :
    text.toList.head? ≠ some wildcard := by
  rw [← cover.whole, write]
  cases stream : parts.stream with
  | some part => cases relative : part.1 <;> simp [writeStream, relative, wildcard]
  | none =>
    intro starts
    exact absurd (ends_writeParts _ _ _ starts) (by decide)

theorem write_selector {parts : Parts} (named : parts.Named) :
    parts.selector.write = parts.write := by
  have streams : parts.selector.writeStream = writeStream parts.stream := by
    cases stream : parts.stream with
    | none => simp [Selector.writeStream, stream_selector_of_none stream, writeStream]
    | some part =>
      have closed := (named_iff.mp named).1 part stream
      simp [Selector.writeStream, stream_selector_of_some stream, writeStream, closed]
  rw [Selector.write, everything_selector, if_neg Bool.false_ne_true, streams, categories_selector,
    events_selector, List.append_assoc, write]

theorem Cover.cut {parts : Parts} {text : String} (cover : parts.Cover text) (named : parts.Named) :
    Selector.cut text.toList = .ok parts.selector := by
  refine cut_eq_ok_iff.mpr ⟨(write_selector named).trans cover.whole, ?_⟩
  obtain ⟨streamNamed, categoriesNamed, eventsNamed⟩ := named_iff.mp named
  have categories category (member : category ∈ parts.categories) :=
    And.intro (categoriesNamed category member) (cover.categories category member)
  have events event (member : event ∈ parts.events) :=
    And.intro (eventsNamed event member) (cover.events event member)
  cases stream : parts.stream with
  | none =>
    obtain ⟨unnamed, absolute⟩ := stream_selector_of_none stream
    exact ⟨rfl, by simp [absolute], unnamed ▸ unbroken_empty, categories, events⟩
  | some part =>
    have name := (stream_selector_of_some stream).1
    exact ⟨rfl, fun _ => name ▸ streamNamed part stream, name ▸ cover.stream part stream,
      categories, events⟩

def ofSelector (selector : Selector) : Parts where
  stream := if selector.stream = "" then none else some (selector.relative, selector.stream)
  categories := selector.categories
  events := selector.events

theorem mem_ofSelector_stream {selector : Selector} {part : Bool × String} :
    part ∈ (ofSelector selector).stream ↔
      selector.stream ≠ "" ∧ part = (selector.relative, selector.stream) := by
  by_cases named : selector.stream = "" <;> simp [ofSelector, named, eq_comm]

theorem named_ofSelector {selector : Selector} (cuttable : Cuttable selector) :
    (ofSelector selector).Named := by
  refine named_iff.mpr ⟨fun part member => ?_, fun category member => ?_, fun event member => ?_⟩
  · obtain ⟨named, rfl⟩ := mem_ofSelector_stream.mp member
    exact named
  · exact (cuttable.categories category member).1
  · exact (cuttable.events event member).1

theorem selector_ofSelector {selector : Selector} (cuttable : Cuttable selector) :
    (ofSelector selector).selector = selector := by
  have limited := cuttable.limited
  have marked := cuttable.marked
  by_cases named : selector.stream = ""
  · have absolute : selector.relative = false := by simpa [named] using marked
    cases selector
    simp_all [ofSelector, Parts.selector]
  · cases selector
    simp_all [ofSelector, Parts.selector]

theorem cover_of_cut {text : String} {found : Selector}
    (cut : Selector.cut text.toList = .ok found) :
    ∃ parts : Parts, parts.Cover text ∧ parts.Named ∧ parts.selector = found := by
  obtain ⟨whole, cuttable⟩ := cut_eq_ok_iff.mp cut
  have named := named_ofSelector cuttable
  have same := selector_ofSelector cuttable
  refine ⟨ofSelector found, ⟨?_, fun part member => ?_, fun category member => ?_,
    fun event member => ?_⟩, named, same⟩
  · rw [← write_selector named, same, whole]
  · obtain ⟨-, rfl⟩ := mem_ofSelector_stream.mp member
    exact cuttable.stream
  · exact (cuttable.categories category member).2
  · exact (cuttable.events event member).2

end Parts

def blamed (literals : List (LiteralRole × String)) : Option SelectorFault :=
  (literals.find? fun part => !part.1.admits part.2).map fun part => .invalidLiteral part.1 part.2

theorem blamed_append (left right : List (LiteralRole × String)) :
    blamed (left ++ right) = (blamed left).or (blamed right) := by
  rw [blamed, List.find?_append, Option.map_or]
  rfl

theorem failsAs_checkLiteral (kind : LiteralRole) (literal : String) :
    FailsAs (checkLiteral kind literal) (blamed [(kind, literal)]) := by
  rw [checkLiteral]
  cases admitted : kind.admits literal with
  | true => simpa [blamed, admitted] using failsAs_ok ()
  | false => simpa [blamed, admitted] using failsAs_error _

theorem failsAs_forM_checkLiteral (kind : LiteralRole) (literals : List String) :
    FailsAs (literals.forM (checkLiteral kind)) (blamed (literals.map (kind, ·))) := by
  induction literals with
  | nil => exact failsAs_ok ()
  | cons literal literals ih =>
    have both := (failsAs_checkLiteral kind literal).bind fun _ => ih
    rw [← blamed_append] at both
    exact both

/-- With a part to select by, the checks fail as the first part that its kind does not admit. -/
theorem failsAs_check {parts : Parts} (named : parts.Named) (some : parts.write ≠ []) :
    FailsAs parts.selector.check (blamed parts.literals) := by
  have lists := (failsAs_forM_checkLiteral .category parts.categories).bind fun _ =>
    (failsAs_forM_checkLiteral .event parts.events).bind fun _ => failsAs_ok parts.selector
  rw [Option.or_none, ← blamed_append] at lists
  rw [check, Parts.everything_selector, if_neg Bool.false_ne_true, Parts.categories_selector,
    Parts.events_selector]
  cases stream : parts.stream with
  | none =>
    -- The text is not empty, so what stands in it are categories or event types.
    have narrowed : ¬ (parts.categories = [] ∧ parts.events = []) := by
      rintro ⟨uncategorised, untyped⟩
      simp [Parts.write, Parts.writeStream, stream, uncategorised, untyped, writeCategories,
        writeEvents] at some
    have closed : ¬ (parts.categories.isEmpty && parts.events.isEmpty) = true := by
      simpa using narrowed
    obtain ⟨unnamed, absolute⟩ := Parts.stream_selector_of_none stream
    rw [Parts.literals, stream, unnamed, absolute, if_pos (by simp), if_neg Bool.false_ne_true,
      if_neg closed]
    exact lists
  | some part =>
    have closed : part.2 ≠ "" := (Parts.named_iff.mp named).1 part stream
    have whole := (failsAs_checkLiteral .stream part.2).bind fun _ => lists
    rw [← blamed_append] at whole
    rw [Parts.literals, stream, (Parts.stream_selector_of_some stream).1,
      if_neg (by simpa using closed)]
    exact whole

theorem blamed_literals {parts : Parts} (named : parts.Named) : blamed parts.literals =
    parts.firstReserved.map fun part => .invalidLiteral part.1 part.2 := by
  have same part (member : part ∈ parts.literals) :
      (!part.1.admits part.2) = part.2.toList.any part.1.isReserved := by
    simp [LiteralRole.admits, named part member]
  rw [blamed, List.find?_congr same]
  rfl

theorem parse_exclusive {text : String} {rest : List Char} (shape : text.toList = wildcard :: rest)
    (more : rest ≠ []) : parse text = .error .exclusiveAll := by
  rw [parse, shape]
  simp [more]

theorem parse_eq_cut {text : String} (given : text ≠ "")
    (limited : text.toList.head? ≠ some wildcard) :
    parse text = match cut text.toList with
      | .error fault => .error (.invalidSyntax text fault)
      | .ok selector => selector.check := by
  cases shape : text.toList with
  | nil => exact absurd (String.toList_eq_nil_iff.mp shape) given
  | cons first rest =>
    have distinct : first ≠ wildcard := by simpa [shape] using limited
    rw [parse, shape]
    exact if_neg distinct

theorem parse_of_uncovered {text : String} (given : text ≠ "")
    (limited : text.toList.head? ≠ some wildcard)
    (uncovered : ∀ parts : Parts, parts.Cover text → ¬ parts.Named) :
    ∃ fault, parse text = .error (.invalidSyntax text fault) := by
  rw [parse_eq_cut given limited]
  cases found : cut text.toList with
  | error fault => exact ⟨fault, rfl⟩
  | ok selector =>
    obtain ⟨parts, cover, named, -⟩ := Parts.cover_of_cut found
    exact absurd named (uncovered parts cover)

theorem failsAs_parse {text : String} {parts : Parts} (cover : parts.Cover text)
    (named : parts.Named) (given : text ≠ "") :
    FailsAs (parse text) (parts.firstReserved.map fun part => .invalidLiteral part.1 part.2) := by
  rw [parse_eq_cut given cover.limited, cover.cut named, ← blamed_literals named]
  exact failsAs_check named (by simpa [cover.whole] using given)

theorem parse_of_reserved {text literal : String} {kind : LiteralRole} {parts : Parts}
    (cover : parts.Cover text) (named : parts.Named)
    (first : parts.firstReserved = some (kind, literal)) :
    parse text = .error (.invalidLiteral kind literal) := by
  have given : text ≠ "" := by
    rintro rfl
    rw [cover.of_empty] at first
    cases first
  exact (failsAs_parse cover named given _).mpr (by rw [first]; rfl)

theorem parse_of_free {text : String} {parts : Parts} (cover : parts.Cover text)
    (named : parts.Named) (given : text ≠ "") (free : parts.firstReserved = none) :
    parse text = .ok parts.selector := by
  have fails := failsAs_parse cover named given
  rw [free] at fails
  obtain ⟨read, parsed⟩ := fails.exists_ok_iff.mpr rfl
  have checked := parsed
  rw [parse_eq_cut given cover.limited, cover.cut named] at checked
  rw [parsed, (check_eq_ok_iff.mp checked).1]

/-- What becomes of a text, by how it comes apart. -/
inductive Reading (text : String) : Except SelectorFault Selector → Prop
  | empty : text = "" → Reading text (.error .empty)
  | everything : text = "*" → Reading text (.ok all)
  | exclusive {rest : List Char} : text.toList = wildcard :: rest → rest ≠ [] →
    Reading text (.error .exclusiveAll)
  | uncovered (fault : SyntaxFault) : text ≠ "" → text.toList.head? ≠ some wildcard →
    (∀ parts : Parts, parts.Cover text → ¬ parts.Named) →
    Reading text (.error (.invalidSyntax text fault))
  | reserved {parts : Parts} {kind : LiteralRole} {literal : String} : parts.Cover text →
    parts.Named → parts.firstReserved = some (kind, literal) →
    Reading text (.error (.invalidLiteral kind literal))
  | free {parts : Parts} : text ≠ "" → parts.Cover text → parts.Named →
    parts.firstReserved = none → Reading text (.ok parts.selector)

theorem reading_parse (text : String) : Reading text (parse text) := by
  by_cases empty : text = ""
  · subst empty
    exact .empty rfl
  by_cases starts : text.toList.head? = some wildcard
  · obtain ⟨rest, shape⟩ := List.head?_eq_some_iff.mp starts
    by_cases bare : rest = []
    · have same : text = "*" := String.toList_injective (by rw [shape, bare]; rfl)
      subst same
      exact .everything rfl
    · exact parse_exclusive shape bare ▸ .exclusive shape bare
  by_cases covered : ∃ parts : Parts, parts.Cover text ∧ parts.Named
  · obtain ⟨parts, cover, named⟩ := covered
    cases first : parts.firstReserved with
    | none => exact parse_of_free cover named empty first ▸ .free empty cover named first
    | some part => exact parse_of_reserved cover named first ▸ .reserved cover named first
  · have uncovered : ∀ parts : Parts, parts.Cover text → ¬ parts.Named :=
      fun parts cover named => covered ⟨parts, cover, named⟩
    obtain ⟨fault, parsed⟩ := parse_of_uncovered empty starts uncovered
    exact parsed ▸ .uncovered fault empty starts uncovered

/-- Every text that is not read is blamed for what is wrong with it. The empty text and one that
goes on after the wildcard have faults of their own. Any other text comes apart in one way at most,
and a text that does not come apart in full, or leaves a part empty, is returned whole as the fault.
Of the others the first literal with a reserved character is blamed, streams before categories
before event types, and the texts without one are exactly those read. -/
theorem parse_blames_first_fault (text : String) :
    (parse text = .error .empty ↔ text = "") ∧
    (parse text = .error .exclusiveAll ↔ ∃ rest, text.toList = wildcard :: rest ∧ rest ≠ []) ∧
    parse text ≠ .error .relativeWithoutStream ∧
    (∀ kind literal, parse text = .error (.invalidLiteral kind literal) ↔
      ∃ parts : Parts, parts.Cover text ∧ parts.Named ∧
        parts.firstReserved = some (kind, literal)) ∧
    (∀ blamed, (∃ fault, parse text = .error (.invalidSyntax blamed fault)) ↔
      blamed = text ∧ text ≠ "" ∧ text.toList.head? ≠ some wildcard ∧
        ∀ parts : Parts, parts.Cover text → ¬ parts.Named) ∧
    (∀ selector, parse text = .ok selector ↔ (text = "*" ∧ selector = all) ∨
      (text ≠ "" ∧ ∃ parts : Parts, parts.Cover text ∧ parts.Named ∧ parts.firstReserved = none ∧
        selector = parts.selector)) ∧
    ∀ parts other : Parts, parts.Cover text → other.Cover text → parts = other := by
  -- Each outcome belongs to one way of coming apart, so an outcome leaves a single case.
  have reading := reading_parse text
  refine ⟨⟨fun failed => ?_, ?_⟩, ⟨fun failed => ?_, ?_⟩, fun failed => ?_,
    fun kind literal => ⟨fun failed => ?_, ?_⟩, fun blamed => ⟨?_, ?_⟩,
    fun selector => ⟨fun parsed => ?_, ?_⟩, fun parts other => Parts.Cover.unique⟩
  · rw [failed] at reading
    cases reading with
    | empty empty => exact empty
  · rintro rfl
    rfl
  · rw [failed] at reading
    cases reading with
    | exclusive shape more => exact ⟨_, shape, more⟩
  · rintro ⟨rest, shape, more⟩
    exact parse_exclusive shape more
  · rw [failed] at reading
    cases reading
  · rw [failed] at reading
    cases reading with
    | reserved cover named first => exact ⟨_, cover, named, first⟩
  · rintro ⟨parts, cover, named, first⟩
    exact parse_of_reserved cover named first
  · rintro ⟨fault, failed⟩
    rw [failed] at reading
    cases reading with
    | uncovered fault given limited uncovered => exact ⟨rfl, given, limited, uncovered⟩
  · rintro ⟨rfl, given, limited, uncovered⟩
    exact parse_of_uncovered given limited uncovered
  · rw [parsed] at reading
    cases reading with
    | everything bare => exact .inl ⟨bare, rfl⟩
    | free given cover named free => exact .inr ⟨given, _, cover, named, free, rfl⟩
  · rintro (⟨rfl, rfl⟩ | ⟨given, parts, cover, named, free, rfl⟩)
    · rfl
    · exact parse_of_free cover named given free

theorem parse_blames_first_fault_of_three :
    let parts : Parts :=
      { stream := some (false, "a]b"), categories := ["x"], events := ["A[1]", "B*"] }
    parts.Cover "$a]b.x[A[1],B*]" ∧ parts.Named ∧
      parse "$a]b.x[A[1],B*]" = .error (.invalidLiteral .stream "a]b") := by
  intro parts
  have cover : parts.Cover "$a]b.x[A[1],B*]" :=
    { whole := by decide +kernel
      stream := by simp [parts, Unbroken]
      categories := by simp [parts, Unbroken]
      events := by simp [parts] }
  have named : parts.Named := by simp [Parts.named_iff, parts]
  have first : parts.firstReserved = some (.stream, "a]b") := by decide +kernel
  exact ⟨cover, named, ((parse_blames_first_fault "$a]b.x[A[1],B*]").2.2.2.1 .stream "a]b").mpr
    ⟨parts, cover, named, first⟩⟩

end EventStore.Proofs.SelectorFaults
