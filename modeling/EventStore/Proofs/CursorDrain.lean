import EventStore.Proofs.CursorWalk
import EventStore.Proofs.Outcomes

/-! Draining a cursor tells what walking it to the end would have told. Draining looks one item
ahead, so a failure that it meets there waits until the event before it has been handed out. -/

namespace EventStore.EventCursor

/-- A cursor that is drained, and the failure it has met but not handed out yet. -/
structure Draining where
  position : Position
  pending : Option StorageFault := none

/-- Hands out what comes next. The item behind an event is taken before the event is handed out. -/
def poll (types : TypeHierarchy) (draining : Draining) :
    Option (Except StorageFault Envelope) × Draining :=
  match draining.pending with
  | some fault => (some (.error fault), { draining with pending := none })
  | none =>
    match draining.position with
    | .exhausted => (none, draining)
    | .standing current rest =>
      match next types rest with
      | .ok position => (some (.ok current), { position })
      | .error fault => (some (.ok current), { position := .exhausted, pending := some fault })

def handedOut (types : TypeHierarchy) (draining : Draining) :
    Nat → Option (Except StorageFault Envelope)
  | 0 => (poll types draining).1
  | earlier + 1 => handedOut types (poll types draining).2 earlier

def Draining.ahead (types : TypeHierarchy) (draining : Draining) :
    List (Except StorageFault Envelope) :=
  draining.pending.toList.map .error ++ drain types { name := "", position := draining.position }

/-- What the advances among some calls leave behind: the events that were shown, and the failures
that were reported on the way to the next ones. -/
def passed (types : TypeHierarchy) (cursor : EventCursor) :
    List Call → List (Except StorageFault Envelope)
  | [] => []
  | .rewind :: calls => passed types cursor.rewind calls
  | .advance :: calls =>
    let advanced := cursor.advance types
    cursor.current?.toList.map .ok ++ advanced.1.toList.map .error ++ passed types advanced.2 calls

section Drains

variable {types : TypeHierarchy} {items : List Item}

theorem decoded_eq (rest : List Item) : decoded types rest =
    match next types rest with
    | .ok (.standing current rest) => .ok current :: decoded types rest
    | .ok .exhausted => []
    | .error fault => [.error fault] := by
  cases rest with
  | nil => rfl
  | cons item rest =>
    cases item with
    | error fault => rfl
    | ok record =>
      rw [decoded, next]
      split
      · cases record.decode <;> rfl
      · rfl

theorem poll_spec (draining : Draining) :
    (poll types draining).1 = (draining.ahead types).head? ∧
      (poll types draining).2.ahead types = (draining.ahead types).tail := by
  obtain ⟨position, pending⟩ := draining
  cases pending with
  | some fault => exact ⟨rfl, rfl⟩
  | none =>
    cases position with
    | exhausted => exact ⟨rfl, rfl⟩
    | standing current rest =>
      simp only [poll, Draining.ahead, drain]
      rw [decoded_eq rest]
      split
      · refine ⟨rfl, ?_⟩
        split <;> simp_all
      · simp_all

theorem handedOut_eq (draining : Draining) (earlier : Nat) :
    handedOut types draining earlier = (draining.ahead types)[earlier]? := by
  induction earlier generalizing draining with
  | zero => rw [handedOut, (poll_spec draining).1, List.head?_eq_getElem?]
  | succ earlier ih => rw [handedOut, ih, (poll_spec draining).2, List.getElem?_tail]

/-- An advance passes the first of what draining would give, or the last two if a failure ends it. -/
theorem drain_advance (cursor : EventCursor) :
    drain types cursor = cursor.current?.toList.map .ok ++
      (advance types cursor).1.toList.map .error ++ drain types (advance types cursor).2 := by
  obtain ⟨name, position⟩ := cursor
  cases position with
  | exhausted => rfl
  | standing current rest =>
    simp only [drain, current?, advance]
    rw [decoded_eq rest]
    split <;> simp_all

theorem drain_walk (cursor : EventCursor) (calls : List Call) :
    drain types cursor = passed types cursor calls ++ drain types (walk types cursor calls).2 := by
  induction calls generalizing cursor with
  | nil => rfl
  | cons call calls ih =>
    cases call with
    | rewind => exact ih cursor.rewind
    | advance =>
      rw [drain_advance cursor, ih (cursor.advance types).2, passed, walk, List.append_assoc,
        List.append_assoc, List.append_assoc]

end Drains

def eventsFrom (types : TypeHierarchy) (items : List Item) (passed : Nat) : List Envelope :=
  (List.range' passed (leading types items - passed)).filterMap (eventAt types items)

def faultFrom (types : TypeHierarchy) (items : List Item) (passed : Nat) : Option StorageFault :=
  if passed < leading types items then faultAt types items (leading types items) else none

section Positions

variable {types : TypeHierarchy} {items : List Item}

theorem eventsFrom_step {passed : Nat} (before : passed < leading types items) :
    eventsFrom types items passed =
      (shownAt types items passed).toList ++ eventsFrom types items (passed + 1) := by
  have more : leading types items - passed = leading types items - (passed + 1) + 1 := by omega
  obtain ⟨current, shown⟩ := Option.isSome_iff_exists.mp (isSome_eventAt before)
  rw [eventsFrom, more, List.range'_succ, List.filterMap_cons, shown, shownAt, if_pos before, shown]
  rfl

theorem faultFrom_step {passed : Nat} (before : passed < leading types items) :
    (faultFrom types items passed).toList =
      (reportAt types items (passed + 1)).toList ++ (faultFrom types items (passed + 1)).toList := by
  rw [faultFrom, if_pos before, reportAt, faultFrom]
  rcases Nat.lt_or_eq_of_le before with further | last
  · rw [if_neg (Nat.ne_of_lt further), if_pos further]
    rfl
  · have next : passed + 1 = leading types items := last
    rw [if_pos next, next, if_neg (Nat.lt_irrefl _)]
    simp

theorem drain_positionAt (name : String) (passed : Nat) :
    drain types { name, position := positionAt types items passed } =
      (eventsFrom types items passed).map .ok ++ (faultFrom types items passed).toList.map .error := by
  -- Downwards from the position behind the last event, where nothing is left.
  induction ahead : leading types items - passed generalizing passed with
  | zero =>
    have beyond : leading types items ≤ passed := by omega
    rw [positionAt_beyond beyond, eventsFrom, ahead, faultFrom, if_neg (Nat.not_lt_of_le beyond)]
    rfl
  | succ ahead ih =>
    have before : passed < leading types items := by omega
    rw [drain_advance, advance_positionAt, current?_positionAt, ih (passed + 1) (by omega),
      eventsFrom_step before, faultFrom_step before]
    cases reported : reportAt types items (passed + 1) with
    | none => simp
    | some fault =>
      have last := eq_leading_of_reportAt reported
      have none : eventsFrom types items (passed + 1) = [] := by
        rw [eventsFrom, last, Nat.sub_self]
        rfl
      simp [none]

theorem mapM_ended (events : List Envelope) (fault : Option StorageFault) :
    (events.map Except.ok ++ fault.toList.map Except.error).mapM id =
      match fault with
      | none => .ok events
      | some fault => .error fault := by
  induction events with
  | nil => cases fault <;> rfl
  | cons event events ih =>
    rw [List.map_cons, List.cons_append, List.mapM_cons, ih]
    cases fault <;> rfl

theorem collect_positionAt (name : String) (passed : Nat) :
    collect types { name, position := positionAt types items passed } =
      match faultFrom types items passed with
      | none => .ok (eventsFrom types items passed)
      | some fault => .error fault := by
  rw [collect, drain_positionAt, mapM_ended]

end Positions

section Cursors

variable {types : TypeHierarchy} {cursor : EventCursor}

theorem head?_drain : (cursor.drain types).head? = cursor.current?.map .ok := by
  obtain ⟨name, position⟩ := cursor
  cases position <;> rfl

theorem drain_of_exhausted (exhausted : cursor.isStanding = false) : cursor.drain types = [] := by
  obtain ⟨name, position⟩ := cursor
  cases position with
  | exhausted => rfl
  | standing current rest => cases exhausted

theorem drain_of_walked {calls : List Call}
    (ended : (walk types cursor calls).2.isStanding = false) :
    cursor.drain types = passed types cursor calls := by
  rw [drain_walk cursor calls, drain_of_exhausted ended, List.append_nil]

end Cursors

/-- What draining gives at a position, seen against what walking on from there shows. -/
structure Drained (types : TypeHierarchy) (items : List Item) (opened : EventCursor)
    (calls : List Call) (cursor : EventCursor) : Prop where
  current : (cursor.drain types).head? = cursor.current?.map .ok
  handed : ∀ earlier, handedOut types { position := cursor.position } earlier =
    (cursor.drain types)[earlier]?
  ends : ∀ further, leading types items ≤ calls.count .advance + further.count .advance →
    (walk types cursor further).2.isStanding = false
  walked : ∀ further, (walk types cursor further).2.isStanding = false →
    cursor.drain types = passed types cursor further
  exhausted : cursor.isStanding = false → cursor.drain types = [] ∧ cursor.collect types = .ok []
  remaining : cursor.drain types = (eventsFrom types items (calls.count .advance)).map .ok ++
    (faultFrom types items (calls.count .advance)).toList.map .error
  collected : cursor.collect types =
    match faultFrom types items (calls.count .advance) with
    | none => .ok (eventsFrom types items (calls.count .advance))
    | some fault => .error fault
  switched : opened.drain types = passed types opened calls ++ cursor.drain types

end EventStore.EventCursor

namespace EventStore.Proofs.CursorDrain
open EventCursor

/-- At whatever point a caller goes over from walking to draining, every event and every failure
is told once. Draining gives the current event, those that walking on would show, and last the
failure that walking on would report; collecting gives these events, or that failure. -/
theorem drain_agrees_with_walk (types : TypeHierarchy) (name : String) (items : List Item)
    (opened : EventCursor) (started : start types name items = .ok opened) (calls : List Call) :
    Drained types items opened calls (walk types opened calls).2 := by
  have first : opened = { name, position := positionAt types items 0 } := by
    rw [start_eq] at started
    split at started
    · cases started
    · exact (Except.ok.inj started).symm
  have reached : (walk types opened calls).2 =
      { name, position := positionAt types items (calls.count .advance) } := by
    rw [first, walk_positionAt, Nat.zero_add]
  constructor
  · exact head?_drain
  · intro earlier
    exact handedOut_eq _ earlier
  · intro further enough
    rw [reached, walk_positionAt, isStanding, current?_positionAt, isSome_shownAt]
    exact decide_eq_false (Nat.not_lt_of_le enough)
  · intro further ended
    exact drain_of_walked ended
  · intro exhausted
    have nothing := @drain_of_exhausted types _ exhausted
    refine ⟨nothing, ?_⟩
    rw [collect, nothing]
    rfl
  · rw [reached, drain_positionAt]
  · rw [reached, collect_positionAt]
  · exact drain_walk opened calls

/-- The third record cannot be decoded, and the first event is passed before the cursor is drained.
The second event and the failure are left. -/
theorem drain_agrees_with_walk_broken :
    let types : TypeHierarchy := ⟨[⟨"Placed", []⟩], by simp [Layered]⟩
    let placed : Record :=
      { stream := "shop", id := "e1", name := "Placed", date := "2024-03-01 12:30:05.000001" }
    let items : List Item := [.ok placed, .ok { placed with id := "e2" },
      .ok { placed with id := "e3", data := some "\x7b" }, .ok { placed with id := "e4" }]
    let calls : List Call := [.rewind, .advance, .rewind]
    ∃ opened, start types "$shop" items = .ok opened ∧
      let cursor := (walk types opened calls).2
      Drained types items opened calls cursor ∧
        (passed types opened calls).map (·.map (·.id)) = [.ok "e1"] ∧
        (cursor.drain types).map (·.map (·.id)) = [.ok "e2", .error (.serialization "\x7b")] ∧
        cursor.collect types = .error (.serialization "\x7b") := by
  intro types placed items calls
  have two : leading types items = 2 := by decide +kernel
  have started : start types "$shop" items =
      .ok { name := "$shop", position := positionAt types items 0 } := by
    rw [start_eq, reportAt, two]
    rfl
  have fault : faultFrom types items 1 = some (.serialization "\x7b") := by decide +kernel
  have drained := drain_agrees_with_walk types "$shop" items _ started calls
  refine ⟨_, started, drained, by decide +kernel, by decide +kernel, ?_⟩
  rw [drained.collected, show calls.count .advance = 1 from rfl, fault]

end EventStore.Proofs.CursorDrain
