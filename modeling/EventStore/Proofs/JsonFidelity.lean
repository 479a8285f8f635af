import EventStore.Proofs.JsonText

/-! The payloads that storage gives back as they were. Their objects are in order and their
numbers are those that the reader finds again; every integer of 64 bits is one of them. -/

namespace EventStore.Json

mutual
/-- Members stand in the order of their names, and no decimal falls beside itself when read. -/
def Exact : Json → Prop
  | .null => True
  | .bool _ => True
  | .number value => value.reread = some value
  | .string _ => True
  | .array items => ExactItems items
  | .object members => (members.map Prod.fst).Pairwise (· < ·) ∧ ExactMembers members

def ExactItems : List Json → Prop
  | [] => True
  | item :: items => item.Exact ∧ ExactItems items

def ExactMembers : List (String × Json) → Prop
  | [] => True
  | (_, value) :: members => value.Exact ∧ ExactMembers members
end

theorem insertMember_of_greatest {name : String} {value : Json} {sorted : List (String × Json)}
    (greatest : ∀ member ∈ sorted, member.1 < name) :
    insertMember name value sorted = sorted ++ [(name, value)] := by
  induction sorted with
  | nil => rfl
  | cons first others ih =>
    obtain ⟨less, others⟩ := List.forall_mem_cons.mp greatest
    obtain ⟨other, kept⟩ := first
    have notBefore : ¬ name < other := String.lt_asymm less
    have notSame : name ≠ other := by
      rintro rfl
      exact String.lt_irrefl name less
    rw [insertMember, if_neg notBefore, if_neg notSame, ih others]
    rfl

theorem ofMembers_of_sorted {members : List (String × Json)}
    (ordered : (members.map Prod.fst).Pairwise (· < ·)) : ofMembers members = .object members := by
  have general (insert : List (String × Json) → String × Json → List (String × Json))
      (inserts : ∀ sorted name value, insert sorted (name, value) = insertMember name value sorted) :
      ∀ sorted, ((sorted ++ members).map Prod.fst).Pairwise (· < ·) →
        members.foldl insert sorted = sorted ++ members := by
    clear ordered
    induction members with
    | nil => simp
    | cons member members ih =>
      obtain ⟨name, value⟩ := member
      intro sorted ordered
      have greatest : ∀ earlier ∈ sorted, earlier.1 < name := by
        intro earlier inside
        rw [List.map_append, List.pairwise_append] at ordered
        exact ordered.2.2 _ (List.mem_map_of_mem inside) _ (by simp)
      rw [List.foldl_cons, inserts, insertMember_of_greatest greatest, ih]
      · simp
      · simpa using ordered
  rw [ofMembers, general _ (fun _ _ _ => rfl) [] (by simpa using ordered), List.nil_append]

mutual
theorem reread_of_exact : ∀ value : Json, value.Exact → value.reread = some value
  | .null, _ => rfl
  | .bool _, _ => rfl
  | .number value, faithful => by rw [reread, show value.reread = some value from faithful]; rfl
  | .string _, _ => rfl
  | .array items, faithful => by rw [reread, rereadItems_of_exact items faithful]; rfl
  | .object members, ⟨ordered, faithful⟩ => by
    rw [reread, rereadMembers_of_exact members faithful, Option.map_some, ofMembers_of_sorted ordered]

theorem rereadItems_of_exact : ∀ items : List Json, ExactItems items → rereadItems items = some items
  | [], _ => rfl
  | item :: items, ⟨first, others⟩ => by
    rw [rereadItems, reread_of_exact item first, rereadItems_of_exact items others]
    rfl

theorem rereadMembers_of_exact : ∀ members : List (String × Json), ExactMembers members →
    rereadMembers members = some members
  | [], _ => rfl
  | (_, value) :: members, ⟨first, others⟩ => by
    rw [rereadMembers, reread_of_exact value first, rereadMembers_of_exact members others]
    rfl
end

section Numbers

variable {good : Number → Prop}

mutual
/-- A value as callers hold it: members in the order of their names, and good numbers only. -/
def WellFormed (good : Number → Prop) : Json → Prop
  | .null => True
  | .bool _ => True
  | .number value => good value
  | .string _ => True
  | .array items => WellFormedItems good items
  | .object members => (members.map Prod.fst).Pairwise (· < ·) ∧ WellFormedMembers good members

def WellFormedItems (good : Number → Prop) : List Json → Prop
  | [] => True
  | item :: items => item.WellFormed good ∧ WellFormedItems good items

def WellFormedMembers (good : Number → Prop) : List (String × Json) → Prop
  | [] => True
  | (_, value) :: members => value.WellFormed good ∧ WellFormedMembers good members
end

mutual
/-- Only numbers can make a value come back as another one. -/
theorem exact_of_wellFormed (same : ∀ number, good number → number.reread = some number) :
    ∀ value : Json, value.WellFormed good → value.Exact
  | .null, _ => trivial
  | .bool _, _ => trivial
  | .number value, valid => same value valid
  | .string _, _ => trivial
  | .array items, valid => exactItems_of_wellFormed same items valid
  | .object members, ⟨ordered, valid⟩ => ⟨ordered, exactMembers_of_wellFormed same members valid⟩

theorem exactItems_of_wellFormed (same : ∀ number, good number → number.reread = some number) :
    ∀ items : List Json, WellFormedItems good items → ExactItems items
  | [], _ => trivial
  | item :: items, ⟨first, others⟩ =>
    ⟨exact_of_wellFormed same item first, exactItems_of_wellFormed same items others⟩

theorem exactMembers_of_wellFormed (same : ∀ number, good number → number.reread = some number) :
    ∀ members : List (String × Json), WellFormedMembers good members → ExactMembers members
  | [], _ => trivial
  | (_, value) :: members, ⟨first, others⟩ =>
    ⟨exact_of_wellFormed same value first, exactMembers_of_wellFormed same members others⟩
end

mutual
/-- Only numbers can keep a value from coming back. -/
theorem exists_reread (found : ∀ number, good number → ∃ back, number.reread = some back) :
    ∀ value : Json, value.WellFormed good → ∃ back, value.reread = some back
  | .null, _ => ⟨_, rfl⟩
  | .bool _, _ => ⟨_, rfl⟩
  | .number value, valid => by
    obtain ⟨back, read⟩ := found value valid
    exact ⟨.number back, by rw [reread, read]; rfl⟩
  | .string _, _ => ⟨_, rfl⟩
  | .array items, valid => by
    obtain ⟨back, read⟩ := exists_rereadItems found items valid
    exact ⟨.array back, by rw [reread, read]; rfl⟩
  | .object members, ⟨_, valid⟩ => by
    obtain ⟨back, read⟩ := exists_rereadMembers found members valid
    exact ⟨ofMembers back, by rw [reread, read]; rfl⟩

theorem exists_rereadItems (found : ∀ number, good number → ∃ back, number.reread = some back) :
    ∀ items : List Json, WellFormedItems good items → ∃ back, rereadItems items = some back
  | [], _ => ⟨_, rfl⟩
  | item :: items, ⟨first, others⟩ => by
    obtain ⟨value, read⟩ := exists_reread found item first
    obtain ⟨values, rest⟩ := exists_rereadItems found items others
    exact ⟨value :: values, by rw [rereadItems, read, rest]; rfl⟩

theorem exists_rereadMembers (found : ∀ number, good number → ∃ back, number.reread = some back) :
    ∀ members : List (String × Json), WellFormedMembers good members →
      ∃ back, rereadMembers members = some back
  | [], _ => ⟨_, rfl⟩
  | (name, value) :: members, ⟨first, others⟩ => by
    obtain ⟨value, read⟩ := exists_reread found value first
    obtain ⟨values, rest⟩ := exists_rereadMembers found members others
    exact ⟨(name, value) :: values, by rw [rereadMembers, read, rest]; rfl⟩
end

/-- An integer of 64 bits, signed or not. -/
def Number.Integral : Number → Prop
  | .integer value => -signedLimit ≤ value ∧ value < wordLimit
  | .decimal _ _ => False

theorem Number.Integral.reread_eq {number : Number} (integral : number.Integral) :
    number.reread = some number := by
  cases number with
  | integer value => exact reread_integer integral.1 integral.2
  | decimal negative magnitude => cases integral

end Numbers

end EventStore.Json
