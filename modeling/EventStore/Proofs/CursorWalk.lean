import EventStore.Storage.Cursor

/-! Walking a cursor. It shows the events before the first item that holds none, reports what that
item is once, and takes no item beyond it from the source. -/

namespace EventStore.EventCursor

abbrev Item := Except StorageFault Record

def event? (types : TypeHierarchy) : Item → Option Envelope
  | .ok record => if types.declares record.name then record.decode.toOption else none
  | .error _ => none

def fault? (types : TypeHierarchy) : Item → Option StorageFault
  | .ok record =>
    if types.declares record.name then
      match record.decode with
      | .ok _ => none
      | .error fault => some fault
    else none
  | .error fault => some fault

def eventAt (types : TypeHierarchy) (items : List Item) (place : Nat) : Option Envelope :=
  items[place]?.bind (event? types)

def faultAt (types : TypeHierarchy) (items : List Item) (place : Nat) : Option StorageFault :=
  items[place]?.bind (fault? types)

/-- How many events come before the item that ends the reading, or before the end. -/
def leading (types : TypeHierarchy) (items : List Item) : Nat :=
  (items.takeWhile fun item => (event? types item).isSome).length

section Places

variable {types : TypeHierarchy} {items : List Item} {place : Nat}

theorem isSome_eventAt (before : place < leading types items) :
    (eventAt types items place).isSome = true := by
  induction items generalizing place with
  | nil => simp [leading] at before
  | cons item items ih =>
    rw [leading, List.takeWhile_cons] at before
    split at before
    next shown =>
      cases place with
      | zero => exact shown
      | succ place => exact ih (Nat.lt_of_succ_lt_succ before)
    next => simp at before

theorem eventAt_leading : eventAt types items (leading types items) = none := by
  induction items with
  | nil => rfl
  | cons item items ih =>
    rw [leading, List.takeWhile_cons]
    split
    next => exact ih
    next hidden => simpa [eventAt] using hidden

/-- Taking the next item shows its event or its failure; without either the reading ends. -/
theorem next_drop : next types (items.drop place) =
    match eventAt types items place, faultAt types items place with
    | some current, _ => .ok (.standing current (items.drop (place + 1)))
    | none, some fault => .error fault
    | none, none => .ok .exhausted := by
  rw [eventAt, faultAt]
  cases found : items[place]? with
  | none =>
    rw [List.drop_eq_nil_of_le (List.getElem?_eq_none_iff.mp found)]
    rfl
  | some item =>
    obtain ⟨inside, rfl⟩ := List.getElem?_eq_some_iff.mp found
    rw [List.drop_eq_getElem_cons inside]
    cases items[place] with
    | error fault => rfl
    | ok record =>
      simp only [next, Option.bind_some, event?, fault?]
      split
      · cases record.decode <;> rfl
      · rfl

end Places

def shownAt (types : TypeHierarchy) (items : List Item) (passed : Nat) : Option Envelope :=
  if passed < leading types items then eventAt types items passed else none

/-- The failure that is reported on the way to the position after so many events. -/
def reportAt (types : TypeHierarchy) (items : List Item) (passed : Nat) : Option StorageFault :=
  if passed = leading types items then faultAt types items passed else none

def positionAt (types : TypeHierarchy) (items : List Item) (passed : Nat) : Position :=
  match shownAt types items passed with
  | some current => .standing current (items.drop (passed + 1))
  | none => .exhausted

section Steps

variable {types : TypeHierarchy} {items : List Item} {passed : Nat}

theorem isSome_shownAt : (shownAt types items passed).isSome = decide (passed < leading types items) := by
  rw [shownAt]
  split
  next before => simp [before, isSome_eventAt before]
  next beyond => simp [beyond]

theorem next_passed (reached : passed ≤ leading types items) :
    next types (items.drop passed) =
      match reportAt types items passed with
      | some fault => .error fault
      | none => .ok (positionAt types items passed) := by
  rw [next_drop, reportAt, positionAt, shownAt]
  rcases Nat.lt_or_eq_of_le reached with before | rfl
  · obtain ⟨current, shown⟩ := Option.isSome_iff_exists.mp (isSome_eventAt before)
    rw [if_pos before, if_neg (Nat.ne_of_lt before), shown]
  · rw [if_pos rfl, if_neg (Nat.lt_irrefl _), eventAt_leading]
    cases faultAt types items (leading types items) <;> rfl

theorem start_eq (name : String) : start types name items =
    match reportAt types items 0 with
    | some fault => .error fault
    | none => .ok { name, position := positionAt types items 0 } := by
  have first : next types (items.drop 0) = _ := next_passed (Nat.zero_le _)
  rw [List.drop_zero] at first
  rw [start, first]
  cases reportAt types items 0 <;> rfl

theorem positionAt_beyond (beyond : leading types items ≤ passed) :
    positionAt types items passed = .exhausted := by
  rw [positionAt, shownAt, if_neg (Nat.not_lt_of_le beyond)]

theorem eq_leading_of_reportAt {fault : StorageFault}
    (reported : reportAt types items passed = some fault) : passed = leading types items := by
  rw [reportAt] at reported
  split at reported
  next same => exact same
  next => cases reported

theorem advance_positionAt (name : String) :
    advance types { name, position := positionAt types items passed } =
      (reportAt types items (passed + 1),
        { name, position := positionAt types items (passed + 1) }) := by
  rcases Nat.lt_or_ge passed (leading types items) with before | beyond
  · have standing : (shownAt types items passed).isSome = true := by
      rw [isSome_shownAt, decide_eq_true before]
    obtain ⟨current, shown⟩ := Option.isSome_iff_exists.mp standing
    have here : positionAt types items passed = .standing current (items.drop (passed + 1)) := by
      rw [positionAt, shown]
    rw [advance, here]
    dsimp only
    rw [next_passed before]
    cases reported : reportAt types items (passed + 1) with
    | none => rfl
    | some fault =>
      rw [positionAt_beyond (Nat.le_of_eq (eq_leading_of_reportAt reported).symm)]
  · have silent : reportAt types items (passed + 1) = none := by
      rw [reportAt, if_neg (by omega)]
    rw [positionAt_beyond beyond, positionAt_beyond (Nat.le_succ_of_le beyond), silent]
    rfl

theorem current?_positionAt (name : String) :
    ({ name, position := positionAt types items passed } : EventCursor).current? =
      shownAt types items passed := by
  rw [current?, positionAt]
  cases shownAt types items passed <;> rfl

end Steps

inductive Call
  | advance
  | rewind
  deriving DecidableEq

/-- What the advances among some calls report, and the cursor after all of them. -/
def walk (types : TypeHierarchy) (cursor : EventCursor) :
    List Call → List (Option StorageFault) × EventCursor
  | [] => ([], cursor)
  | .rewind :: calls => walk types cursor.rewind calls
  | .advance :: calls =>
    let advanced := cursor.advance types
    let walked := walk types advanced.2 calls
    (advanced.1 :: walked.1, walked.2)

def reports (types : TypeHierarchy) (items : List Item) (passed advances : Nat) :
    List (Option StorageFault) :=
  (List.range' (passed + 1) advances).map (reportAt types items)

theorem walk_positionAt {types : TypeHierarchy} {items : List Item} (name : String) (passed : Nat)
    (calls : List Call) :
    walk types { name, position := positionAt types items passed } calls =
      (reports types items passed (calls.count .advance),
        { name, position := positionAt types items (passed + calls.count .advance) }) := by
  induction calls generalizing passed with
  | nil => rfl
  | cons call calls ih =>
    cases call with
    | rewind =>
      rw [walk, rewind, ih, List.count_cons_of_ne (by decide)]
    | advance =>
      have total : passed + 1 + calls.count .advance = passed + (calls.count .advance + 1) := by
        omega
      rw [walk, advance_positionAt]
      dsimp only
      rw [ih, List.count_cons_self, total, reports, reports, List.range'_succ, List.map_cons]

/-! A cursor holds the items it has not come to. Where they stand in a source that several hands
may take from, the same calls take no more than they show. -/

section Sources

def take : StateM (List Item) (Option Item) := fun source => (source.head?, source.tail)

/-- The next event of a source, of which nothing but the taking is known. -/
def pull {m : Type → Type} [Monad m] (types : TypeHierarchy) (take : m (Option Item)) :
    m (Except StorageFault (Option Envelope)) := do
  match ← take with
  | none => return .ok none
  | some (.error fault) => return .error fault
  | some (.ok record) =>
    if types.declares record.name then return record.decode.map some else return .ok none

def advanceFrom (types : TypeHierarchy) (shown : Option Envelope) :
    StateM (List Item) (Option StorageFault × Option Envelope) := do
  match shown with
  | none => return (none, none)
  | some _ =>
    match ← pull types take with
    | .ok shown => return (none, shown)
    | .error fault => return (some fault, none)

def walkFrom (types : TypeHierarchy) (shown : Option Envelope) :
    List Call → StateM (List Item) (List (Option StorageFault) × Option Envelope)
  | [] => return ([], shown)
  | .rewind :: calls => walkFrom types shown calls
  | .advance :: calls => do
    let (reported, shown) ← advanceFrom types shown
    let (later, shown) ← walkFrom types shown calls
    return (reported :: later, shown)

variable {types : TypeHierarchy} {items : List Item} {passed : Nat}

theorem pull_take (source : List Item) : pull types take source =
    (match next types source with
      | .ok (.standing current _) => .ok (some current)
      | .ok .exhausted => .ok none
      | .error fault => .error fault,
      source.tail) := by
  cases source with
  | nil => rfl
  | cons item rest =>
    cases item with
    | error fault => rfl
    | ok record =>
      simp only [pull, take, next, List.head?_cons, List.tail_cons, bind, StateT.bind]
      split
      · cases record.decode <;> rfl
      · rfl

theorem pull_drop (reached : passed ≤ leading types items) :
    pull types take (items.drop passed) =
      (match reportAt types items passed with
        | some fault => .error fault
        | none => .ok (shownAt types items passed),
        items.drop (passed + 1)) := by
  rw [pull_take, next_passed reached, List.tail_drop]
  cases reportAt types items passed with
  | some fault => rfl
  | none =>
    simp only [positionAt]
    cases shownAt types items passed <;> rfl

/-- Advancing takes one item while events are shown, and none after the last of them. -/
theorem advanceFrom_shownAt :
    advanceFrom types (shownAt types items passed)
        (items.drop (min passed (leading types items) + 1)) =
      ((reportAt types items (passed + 1), shownAt types items (passed + 1)),
        items.drop (min (passed + 1) (leading types items) + 1)) := by
  rcases Nat.lt_or_ge passed (leading types items) with before | beyond
  · have standing : (shownAt types items passed).isSome = true := by
      rw [isSome_shownAt, decide_eq_true before]
    obtain ⟨current, shown⟩ := Option.isSome_iff_exists.mp standing
    have pulled : pull types take (items.drop (passed + 1)) = _ := pull_drop before
    rw [Nat.min_eq_left (Nat.le_of_lt before), Nat.min_eq_left before, shown]
    simp only [advanceFrom, bind, StateT.bind, pulled]
    cases reported : reportAt types items (passed + 1) with
    | none => rfl
    | some fault =>
      have last := eq_leading_of_reportAt reported
      have hidden : shownAt types items (passed + 1) = none := by
        rw [shownAt, if_neg (by omega)]
      rw [hidden]
      rfl
  · have hidden : shownAt types items passed = none ∧ shownAt types items (passed + 1) = none := by
      rw [shownAt, shownAt, if_neg (by omega), if_neg (by omega)]
      exact ⟨rfl, rfl⟩
    have silent : reportAt types items (passed + 1) = none := by
      rw [reportAt, if_neg (by omega)]
    rw [hidden.1, hidden.2, silent, Nat.min_eq_right beyond,
      Nat.min_eq_right (Nat.le_succ_of_le beyond)]
    rfl

theorem walkFrom_shownAt (passed : Nat) (calls : List Call) :
    walkFrom types (shownAt types items passed) calls
        (items.drop (min passed (leading types items) + 1)) =
      ((reports types items passed (calls.count .advance),
          shownAt types items (passed + calls.count .advance)),
        items.drop (min (passed + calls.count .advance) (leading types items) + 1)) := by
  induction calls generalizing passed with
  | nil => rfl
  | cons call calls ih =>
    cases call with
    | rewind => rw [walkFrom, ih, List.count_cons_of_ne (by decide)]
    | advance =>
      have total : passed + 1 + calls.count .advance = passed + (calls.count .advance + 1) := by
        omega
      have later := ih (passed + 1)
      simp only [walkFrom, bind, StateT.bind, advanceFrom_shownAt, later]
      rw [List.count_cons_self, total, reports, reports, List.range'_succ, List.map_cons]
      rfl

end Sources

/-- What a walk shows: the event behind as many as there were advances, a report where the events
end, and of the source no more taken than that. -/
structure Walked (types : TypeHierarchy) (items : List Item) (opened : EventCursor)
    (calls : List Call) (answers : List (Option StorageFault)) (cursor : EventCursor) : Prop where
  current : cursor.current? =
    if calls.count .advance < leading types items then eventAt types items (calls.count .advance)
    else none
  standing : cursor.isStanding = decide (calls.count .advance < leading types items)
  key : cursor.key? = cursor.current?.map (·.id)
  rewound : cursor.rewind = cursor
  reported : answers = (List.range (calls.count .advance)).map fun earlier =>
    if earlier + 1 = leading types items then faultAt types items (earlier + 1) else none
  taken : walkFrom types opened.current? calls (items.drop 1) =
    ((answers, cursor.current?),
      items.drop (min (calls.count .advance) (leading types items) + 1))

theorem walked {types : TypeHierarchy} {items : List Item} {name : String} {opened : EventCursor}
    (started : start types name items = .ok opened) (calls : List Call) :
    Walked types items opened calls (walk types opened calls).1 (walk types opened calls).2 := by
  rw [start_eq] at started
  split at started
  next => cases started
  next silent =>
    obtain rfl := Except.ok.inj started
    rw [walk_positionAt, Nat.zero_add]
    have shown :
        ({ name, position := positionAt types items (calls.count .advance) } : EventCursor).current? =
          shownAt types items (calls.count .advance) := current?_positionAt name
    constructor
    · rw [shown, shownAt]
    · rw [isStanding, shown, isSome_shownAt]
    · rfl
    · rfl
    · rw [reports, List.range'_eq_map_range, List.map_map]
      apply List.map_congr_left
      intro earlier _
      rw [Function.comp_apply, Nat.zero_add, Nat.add_comm 1, reportAt]
    · have taken : walkFrom types (shownAt types items 0) calls
          (items.drop (min 0 (leading types items) + 1)) = _ := walkFrom_shownAt 0 calls
      rw [Nat.zero_min, Nat.zero_add, Nat.zero_add] at taken
      rw [current?_positionAt, shown, taken]

end EventStore.EventCursor

namespace EventStore.Proofs.CursorWalk
open EventCursor

/-- A cursor cannot be opened exactly if a failure stands before the first event. Otherwise it
stands on the first event, every advance moves it to the next one until there is none, and the
failure behind the last is reported by the one advance that comes to it. -/
theorem walk_shows_leading_events (types : TypeHierarchy) (name : String) (items : List Item) :
    (∀ fault, start types name items = .error fault ↔
      leading types items = 0 ∧ faultAt types items 0 = some fault) ∧
    pull types take items = ((start types name items).map (·.current?), items.drop 1) ∧
    ∀ opened, start types name items = .ok opened → ∀ calls,
      Walked types items opened calls (walk types opened calls).1 (walk types opened calls).2 := by
  refine ⟨?_, ?_, ?_⟩
  · intro fault
    rw [start_eq, reportAt]
    by_cases none : leading types items = 0
    · rw [if_pos none.symm]
      cases faultAt types items 0 <;> simp [none]
    · simp [none, Ne.symm none]
  · have pulled : pull types take (items.drop 0) = _ := pull_drop (Nat.zero_le _)
    rw [List.drop_zero] at pulled
    rw [pulled, start_eq]
    cases reportAt types items 0 with
    | some fault => rfl
    | none => rw [← current?_positionAt name]; rfl
  · intro opened started calls
    exact walked started calls

/-- The second record cannot be decoded. The first advance reports it and the second one nothing,
and the third record is left in the source. -/
theorem walk_shows_leading_events_broken :
    let types : TypeHierarchy := ⟨[⟨"Placed", []⟩], by simp [Layered]⟩
    let placed : Record :=
      { stream := "shop", id := "e1", name := "Placed", date := "2024-03-01 12:30:05.000001" }
    let items : List Item := [.ok placed, .ok { placed with id := "e2", data := some "\x7b" },
      .ok { placed with id := "e3" }]
    let calls : List Call := [.rewind, .advance, .rewind, .advance]
    ∃ opened, start types "$shop" items = .ok opened ∧
      Walked types items opened calls (walk types opened calls).1 (walk types opened calls).2 ∧
      opened.key? = some "e1" ∧
      (walk types opened calls).1 = [some (.serialization "\x7b"), none] ∧
      (walk types opened calls).2.key? = none ∧
      (walkFrom types opened.current? calls (items.drop 1)).2 = [.ok { placed with id := "e3" }] := by
  intro types placed items calls
  have single : leading types items = 1 := by decide +kernel
  have started : start types "$shop" items =
      .ok { name := "$shop", position := positionAt types items 0 } := by
    rw [start_eq, reportAt, single]
    rfl
  have walked := (walk_shows_leading_events types "$shop" items).2.2 _ started calls
  have left := congrArg Prod.snd walked.taken
  rw [single] at left
  exact ⟨_, started, walked, by decide +kernel, by decide +kernel, by decide +kernel, left⟩

end EventStore.Proofs.CursorWalk
