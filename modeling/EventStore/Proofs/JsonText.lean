import EventStore.Json.Reader
import EventStore.Proofs.JsonNumbers
import EventStore.Proofs.JsonStrings
import EventStore.Text.Pieces

/-! JSON text reads back. Every value takes exactly its own text, so lists of items and of members
come apart at their commas; nesting beyond the limit is the one thing that is refused. -/

namespace EventStore.Json

mutual
/-- What a value comes back as: each number as its own text reads, all else as it was. -/
def reread : Json → Option Json
  | .null => some .null
  | .bool value => some (.bool value)
  | .number value => value.reread.map .number
  | .string text => some (.string text)
  | .array items => (rereadItems items).map .array
  | .object members => (rereadMembers members).map ofMembers

def rereadItems : List Json → Option (List Json)
  | [] => some []
  | item :: items => do
    let item ← item.reread
    let items ← rereadItems items
    return item :: items

def rereadMembers : List (String × Json) → Option (List (String × Json))
  | [] => some []
  | (name, value) :: members => do
    let value ← value.reread
    let members ← rereadMembers members
    return (name, value) :: members
end

/-- A value comes back only if it is nested no deeper than the reader allows. -/
def rereadWithin (depth : Nat) (value : Json) : Option Json :=
  if value.depth ≤ depth then value.reread else none

def memberText (member : String × Json) : List Char := writeString member.1 ++ ':' :: member.2.write

theorem writeItems_eq (items : List Json) :
    writeItems items = Text.joined ',' (items.map write) := by
  induction items with
  | nil => rfl
  | cons item items ih =>
    cases items with
    | nil => rfl
    | cons next items => rw [writeItems, ih]; rfl

theorem writeMembers_eq (members : List (String × Json)) :
    writeMembers members = Text.joined ',' (members.map memberText) := by
  induction members with
  | nil => rfl
  | cons member members ih =>
    cases members with
    | nil => rfl
    | cons next members =>
      rw [writeMembers, ih]
      simp [memberText, Text.joined]

theorem mapM_rereadWithin (depth : Nat) (items : List Json) :
    items.mapM (rereadWithin depth) =
      if depthOfItems items ≤ depth then rereadItems items else none := by
  induction items with
  | nil => simp [depthOfItems, rereadItems]
  | cons item items ih =>
    rw [List.mapM_cons, ih, rereadWithin, depthOfItems, rereadItems]
    simp only [Nat.max_le]
    by_cases first : item.depth ≤ depth <;> by_cases others : depthOfItems items ≤ depth <;>
      simp [first, others]

theorem mapM_members (depth : Nat) (members : List (String × Json)) :
    members.mapM (fun member => (rereadWithin depth member.2).map (member.1, ·)) =
      if depthOfMembers members ≤ depth then rereadMembers members else none := by
  induction members with
  | nil => simp [depthOfMembers, rereadMembers]
  | cons member members ih =>
    obtain ⟨name, value⟩ := member
    rw [List.mapM_cons, ih, rereadWithin, depthOfMembers, rereadMembers]
    simp only [Nat.max_le]
    by_cases first : value.depth ≤ depth <;> by_cases others : depthOfMembers members ≤ depth <;>
      simp [first, others]
    cases value.reread <;> simp

/-- The text starts with no blank and with nothing that closes a list. -/
def Opens (text : List Char) : Prop :=
  ∃ first others, text = first :: others ∧ isBlank first = false ∧ first ≠ ']' ∧ first ≠ '\x7d'

theorem Opens.skipBlanks {text : List Char} (opens : Opens text) (rest : List Char) :
    skipBlanks (text ++ rest) = text ++ rest := by
  obtain ⟨first, others, rfl, solid, _⟩ := opens
  rw [Json.skipBlanks, List.cons_append, List.dropWhile_cons_of_neg (by simp [solid])]

theorem opens_digit {first : Char} {others : List Char} (digit : first.isDigit = true) :
    Opens (first :: others) := by
  refine ⟨first, others, rfl, ?_, ?_, ?_⟩
  · simp only [isBlank, Bool.or_eq_false_iff, decide_eq_false_iff_not]
    refine ⟨⟨⟨?_, ?_⟩, ?_⟩, ?_⟩ <;> rintro rfl <;> cases digit
  · rintro rfl
    cases digit
  · rintro rfl
    cases digit

theorem opens_number (number : Number) : Opens number.write := by
  obtain ⟨text, form, written | written⟩ := write_cases number
  · obtain ⟨first, others, rfl, digit⟩ := form.starts
    exact written ▸ opens_digit digit
  · rw [written]
    exact ⟨'-', text, rfl, by decide, by decide, by decide⟩

theorem opens_write (value : Json) : Opens value.write := by
  cases value with
  | null => exact ⟨'n', _, rfl, by decide, by decide, by decide⟩
  | bool value =>
    cases value with
    | true => exact ⟨'t', _, rfl, by decide, by decide, by decide⟩
    | false => exact ⟨'f', _, rfl, by decide, by decide, by decide⟩
  | number number => exact opens_number number
  | string text => exact ⟨'"', _, rfl, by decide, by decide, by decide⟩
  | array items => exact ⟨'[', _, rfl, by decide, by decide, by decide⟩
  | object members => exact ⟨'\x7b', _, rfl, by decide, by decide, by decide⟩

theorem opens_memberText (member : String × Json) : Opens (memberText member) :=
  ⟨'"', _, rfl, by decide, by decide, by decide⟩

section Lists

variable {α β : Type} {read : List Char → Option (α × List Char)} {close : Char}
  {text : β → List Char} {result : β → Option α} {entries : List β}

theorem ends_close (closing : close = ']' ∨ close = '\x7d') (rest : List Char) :
    Ends (close :: rest) := by
  rintro char ⟨rfl⟩
  exact .inr closing

theorem skipBlanks_close (closing : close = ']' ∨ close = '\x7d') (rest : List Char) :
    skipBlanks (close :: rest) = close :: rest := by
  rcases closing with rfl | rfl <;> rfl

/-- Entries are read up to the closing character if each of them is read off the front of whatever
follows it. -/
theorem readItems_joined (closing : close = ']' ∨ close = '\x7d')
    (opens : ∀ entry, Opens (text entry))
    (reads : ∀ entry ∈ entries, ∀ rest, Ends rest →
      read (text entry ++ rest) = (result entry).map (·, rest))
    (some : entries ≠ []) {fuel : Nat} (enough : entries.length ≤ fuel) (rest : List Char) :
    readItems read close fuel (Text.joined ',' (entries.map text) ++ close :: rest) =
      (entries.mapM result).map (·, rest) := by
  induction entries generalizing fuel with
  | nil => exact absurd rfl some
  | cons entry entries ih =>
    obtain ⟨first, others⟩ := List.forall_mem_cons.mp reads
    cases fuel with
    | zero => cases enough
    | succ fuel =>
      cases entries with
      | nil =>
        rw [List.map_singleton, Text.joined, readItems, (opens entry).skipBlanks,
          first _ (ends_close closing rest), List.mapM_cons, List.mapM_nil]
        cases found : result entry with
        | none => simp
        | some value =>
          simp only [Option.map_some, Option.bind_eq_bind, Option.bind_some,
            skipBlanks_close closing]
          rcases closing with rfl | rfl <;> rfl
      | cons next entries =>
        have later := ih others (by simp) (Nat.le_of_succ_le_succ enough)
        have comma (rest : List Char) : skipBlanks (',' :: rest) = ',' :: rest := rfl
        rw [List.map_cons, Text.joined_cons ',' _ (by simp), List.append_assoc, List.cons_append,
          readItems, (opens entry).skipBlanks, first _ (ends_comma _), List.mapM_cons]
        cases found : result entry with
        | none => simp
        | some value =>
          simp only [Option.map_some, Option.bind_eq_bind, Option.bind_some, comma, later]
          cases (next :: entries).mapM result <;> rfl

theorem length_le_joined (opens : ∀ entry, Opens (text entry)) (entries : List β) :
    entries.length ≤ (Text.joined ',' (entries.map text)).length := by
  induction entries with
  | nil => exact Nat.le_refl 0
  | cons entry entries ih =>
    obtain ⟨first, others, shape, _⟩ := opens entry
    cases entries with
    | nil => simp [Text.joined, shape]
    | cons next entries =>
      rw [List.map_cons, Text.joined_cons ',' _ (by simp), List.length_append, List.length_cons]
      exact Nat.le_trans (Nat.succ_le_succ ih) (Nat.le_add_left _ _)

theorem opens_joined (opens : ∀ entry, Opens (text entry)) (some : entries ≠ []) :
    Opens (Text.joined ',' (entries.map text)) := by
  cases entries with
  | nil => exact absurd rfl some
  | cons entry entries =>
    obtain ⟨first, others, shape, plain⟩ := opens entry
    cases entries with
    | nil => exact opens entry
    | cons next entries =>
      rw [List.map_cons, Text.joined_cons ',' _ (by simp), shape]
      exact ⟨first, _, rfl, plain⟩

theorem readList_joined (closing : close = ']' ∨ close = '\x7d')
    (opens : ∀ entry, Opens (text entry))
    (reads : ∀ entry ∈ entries, ∀ rest, Ends rest →
      read (text entry ++ rest) = (result entry).map (·, rest)) (rest : List Char) :
    readList read close (Text.joined ',' (entries.map text) ++ close :: rest) =
      (entries.mapM result).map (·, rest) := by
  by_cases empty : entries = []
  · subst empty
    rw [List.map_nil, Text.joined, List.nil_append, readList, skipBlanks_close closing]
    simp
  · have enough : entries.length ≤
        (Text.joined ',' (entries.map text) ++ close :: rest).length := by
      have longer := length_le_joined opens entries
      rw [List.length_append]
      omega
    have items := readItems_joined closing opens reads empty enough rest
    have opened := opens_joined opens empty
    rw [readList, opened.skipBlanks]
    obtain ⟨first, others, shape, _, noBracket, noBrace⟩ := opened
    have opening : first ≠ close := by
      rcases closing with rfl | rfl
      · exact noBracket
      · exact noBrace
    rw [shape, List.cons_append] at items ⊢
    simp only [if_neg opening]
    exact items

end Lists

theorem readMember_memberText {depth : Nat} {member : String × Json} {rest : List Char}
    (reads : readValue depth (member.2.write ++ rest) =
      (rereadWithin depth member.2).map (·, rest)) :
    readMember (readValue depth) (memberText member ++ rest) =
      ((rereadWithin depth member.2).map (member.1, ·)).map (·, rest) := by
  have shape : memberText member ++ rest =
      writeString member.1 ++ ':' :: (member.2.write ++ rest) := by
    simp [memberText]
  have colon : skipBlanks (':' :: (member.2.write ++ rest)) = ':' :: (member.2.write ++ rest) := rfl
  rw [readMember, shape, readString_writeString]
  simp only [Option.bind_eq_bind, Option.bind_some, colon, (opens_write member.2).skipBlanks, reads]
  cases rereadWithin depth member.2 <;> rfl

/-- A digit or a minus starts nothing but a number. -/
theorem readValue_of_start (depth : Nat) {first : Char} {others : List Char}
    (start : first.isDigit = true ∨ first = '-') :
    readValue depth (first :: others) =
      (readNumber (first :: others)).map fun (value, rest) => (.number value, rest) := by
  have other (char : Char) (noDigit : char.isDigit = false) (noMinus : char ≠ '-') :
      first ≠ char := by
    rintro rfl
    rcases start with digit | minus
    · rw [noDigit] at digit
      cases digit
    · exact noMinus minus
  rw [readValue.eq_def]
  split
  next same => exact absurd (List.cons.inj same).1 (other 'n' rfl (by decide))
  next same => exact absurd (List.cons.inj same).1 (other 't' rfl (by decide))
  next same => exact absurd (List.cons.inj same).1 (other 'f' rfl (by decide))
  next same => exact absurd (List.cons.inj same).1 (other '"' rfl (by decide))
  next same => exact absurd (List.cons.inj same).1 (other '[' rfl (by decide))
  next same => exact absurd (List.cons.inj same).1 (other '\x7b' rfl (by decide))
  next => rfl

theorem readValue_number (depth : Nat) (number : Number) {rest : List Char} (ends : Ends rest) :
    readValue depth (number.write ++ rest) =
      (rereadWithin depth (.number number)).map (·, rest) := by
  obtain ⟨first, others, shape, start⟩ : ∃ first others, number.write = first :: others ∧
      (first.isDigit = true ∨ first = '-') := by
    obtain ⟨text, form, written | written⟩ := write_cases number
    · obtain ⟨first, others, rfl, digit⟩ := form.starts
      exact ⟨first, others, written, .inl digit⟩
    · exact ⟨'-', text, written, .inr rfl⟩
  have read := readNumber_write_append number ends
  rw [shape, List.cons_append] at read ⊢
  rw [readValue_of_start depth start, read]
  simp only [rereadWithin, Json.depth, Nat.zero_le, if_true, reread]
  cases number.reread <;> rfl

mutual
/-- A value is read off the front of whatever may follow it, unless it is nested too deep. -/
theorem readValue_write : ∀ (value : Json) (depth : Nat) (rest : List Char), Ends rest →
    readValue depth (value.write ++ rest) = (rereadWithin depth value).map (·, rest)
  | .null, depth, rest, _ => by simp [write, readValue, rereadWithin, Json.depth, reread]
  | .bool true, depth, rest, _ => by simp [write, readValue, rereadWithin, Json.depth, reread]
  | .bool false, depth, rest, _ => by simp [write, readValue, rereadWithin, Json.depth, reread]
  | .number value, depth, rest, ends => readValue_number depth value ends
  | .string text, depth, rest, _ => by
    have read := readString_writeString text rest
    have shape : writeString text ++ rest =
        '"' :: (text.toList.flatMap escapedChar ++ ['"'] ++ rest) := rfl
    rw [shape] at read
    rw [write, shape, readValue, read]
    simp [rereadWithin, Json.depth, reread]
  | .array items, depth, rest, _ => by
    have shape : (Json.array items).write ++ rest =
        '[' :: (Text.joined ',' (items.map write) ++ ']' :: rest) := by
      simp [write, writeItems_eq]
    rw [shape]
    cases depth with
    | zero => simp [readValue, rereadWithin, Json.depth]
    | succ depth =>
      have list := readList_joined (.inl rfl) opens_write
        (fun item member => readValue_items items item member depth) rest
      rw [readValue, list, mapM_rereadWithin, rereadWithin, Json.depth, reread]
      simp only [Nat.add_le_add_iff_right]
      split
      · cases rereadItems items <;> rfl
      · rfl
  | .object members, depth, rest, _ => by
    have shape : (Json.object members).write ++ rest =
        '\x7b' :: (Text.joined ',' (members.map memberText) ++ '\x7d' :: rest) := by
      simp [write, writeMembers_eq]
    rw [shape]
    cases depth with
    | zero => simp [readValue, rereadWithin, Json.depth]
    | succ depth =>
      have list := readList_joined (.inr rfl) opens_memberText
        (fun member inside rest ends =>
          readMember_memberText (readValue_members members member inside depth rest ends)) rest
      rw [readValue, list, mapM_members, rereadWithin, Json.depth, reread]
      simp only [Nat.add_le_add_iff_right]
      split
      · cases rereadMembers members <;> rfl
      · rfl

theorem readValue_items : ∀ (items : List Json), ∀ item ∈ items, ∀ (depth : Nat)
    (rest : List Char), Ends rest →
    readValue depth (item.write ++ rest) = (rereadWithin depth item).map (·, rest)
  | [], _, impossible => by cases impossible
  | first :: others, item, member => by
    rcases List.mem_cons.mp member with same | later
    · rw [same]
      exact readValue_write first
    · exact readValue_items others item later

theorem readValue_members : ∀ (members : List (String × Json)), ∀ member ∈ members,
    ∀ (depth : Nat) (rest : List Char), Ends rest →
    readValue depth (member.2.write ++ rest) = (rereadWithin depth member.2).map (·, rest)
  | [], _, impossible => by cases impossible
  | (_, value) :: others, member, inside => by
    rcases List.mem_cons.mp inside with same | later
    · rw [same]
      exact readValue_write value
    · exact readValue_members others member later
end

/-- The text of a value reads as what the value comes back as. -/
theorem ofText_toText (value : Json) : ofText value.toText = rereadWithin maximumDepth value := by
  have read := readValue_write value maximumDepth [] ends_nil
  have solid := (opens_write value).skipBlanks []
  rw [List.append_nil] at read solid
  rw [ofText, readNested, toText, String.toList_ofList, solid, read]
  cases rereadWithin maximumDepth value <;> rfl

end EventStore.Json
