import EventStore.Pool
import EventStore.Proofs.RecordEncoding
import EventStore.Proofs.SelectorAdmission

/-! An append is routed to the stores whose scope admits its record. Routing compares scopes with
a selector made of the append, and storing checks and packs the append by itself; both go through
the same checks, and the selector of an append is covered by exactly what admits its record. -/

namespace EventStore

namespace Selector

theorem check_of_stream {selector : Selector} (part : selector.everything = false)
    (named : LiteralRole.stream.Allows selector.stream) :
    selector.check = (do
      selector.categories.forM (checkLiteral .category)
      selector.events.forM (checkLiteral .event)
      .ok selector) := by
  have some := named.isEmpty_eq_false
  rw [check, if_neg (by simp [part]), if_neg (by simp [some]), checkLiteral_eq_ok_iff.mpr named]
  rfl

theorem covers_append {types : TypeHierarchy} {stream type : String} {categories : List String}
    (scope : Selector) (single : checkStreamName stream = .ok ()) :
    scope.covers types { stream, categories, events := [type] } =
      scope.admits types stream categories type := by
  obtain ⟨named, plain⟩ := checkStreamName_eq_ok_iff.mp single
  have some := named.isEmpty_eq_false
  have whole := stem_of_closed plain
  have streams : scope.coversStream { stream, categories, events := [type] } =
      scope.admitsStream stream := by
    rw [coversStream, admitsStream]
    cases scope.stream.isEmpty with
    | true => rfl
    | false =>
      cases wild : isOpenEnded scope.stream with
      | true => simp [some, whole]
      | false => simp [some, stem_of_closed wild, eq_comm]
  have shared : scope.coversCategories { stream, categories, events := [type] } =
      scope.admitsCategories categories := by
    rw [coversCategories, admitsCategories]
    cases scope.categories.isEmpty with
    | true => rfl
    | false => cases categories <;> simp
  have events : scope.coversEvents types { stream, categories, events := [type] } =
      scope.admitsType types type := by
    rw [coversEvents, admitsType]
    cases scope.events.isEmpty <;> simp
  rw [covers, admits, streams, shared, events]

end Selector

namespace Pool

theorem appendSelector_eq (stream : String) (categories : List String) (type : String) :
    appendSelector stream categories type = (do
      Record.checkAppend stream categories
      checkLiteral .event type
      .ok { stream, categories, events := [type] }) := by
  rw [appendSelector, Record.checkAppend]
  cases single : checkStreamName stream with
  | error fault => rfl
  | ok _ =>
    have named := (checkStreamName_eq_ok_iff.mp single).1
    have first : Selector.onStream stream = .ok { stream } := by
      rw [Selector.onStream, Selector.setStream, Selector.check_of_stream rfl named]
      rfl
    have second : ({ stream } : Selector).setCategories categories =
        (categories.forM checkCategory >>= fun _ => .ok { stream, categories }) := by
      rw [Selector.setCategories, Selector.check_of_stream rfl named]
      rfl
    cases checked : categories.forM checkCategory with
    | error fault =>
      rw [checked] at second
      simp only [first, second, bind, Except.bind]
    | ok _ =>
      have third : ({ stream, categories } : Selector).setEvents [type] =
          (checkLiteral .event type >>= fun _ =>
            .ok { stream, categories, events := [type] }) := by
        have literals : categories.forM (checkLiteral .category) = .ok () := checked
        have event : [type].forM (checkLiteral .event) = checkLiteral .event type := by
          rw [List.forM]
          cases checkLiteral .event type <;> rfl
        rw [Selector.setEvents, Selector.check_of_stream rfl named, literals, event]
        rfl
      rw [checked] at second
      simp only [first, second, third, bind, Except.bind]

theorem appendSelector_eq_ok_iff {stream type : String} {categories : List String}
    {selector : Selector} :
    appendSelector stream categories type = .ok selector ↔
      Record.Acceptable stream categories ∧ LiteralRole.event.Allows type ∧
        selector = { stream, categories, events := [type] } := by
  rw [appendSelector_eq, Proofs.Outcomes.then_eq_ok_iff, Proofs.Outcomes.then_eq_ok_iff,
    Record.checkAppend_eq_ok_iff, checkLiteral_eq_ok_iff, Except.ok.injEq, eq_comm]

section Concerned

variable {pool : Pool} {types : TypeHierarchy}

theorem mem_concerned_iff {selector : Selector} {store : Store} :
    store ∈ pool.concerned types selector ↔ ∃ enrolment ∈ pool.enrolments,
      enrolment.store = store ∧ enrolment.concerning.covers types selector = true := by
  simp only [concerned, List.mem_map, List.mem_filter]
  constructor
  · rintro ⟨enrolment, ⟨member, covered⟩, same⟩
    exact ⟨enrolment, member, same, covered⟩
  · rintro ⟨enrolment, member, same, covered⟩
    exact ⟨enrolment, ⟨member, covered⟩, same⟩

theorem concerned_append {stream type : String} {categories : List String}
    (single : checkStreamName stream = .ok ()) :
    pool.concerned types { stream, categories, events := [type] } =
      (pool.enrolments.filter (·.concerning.admits types stream categories type)).map (·.store) := by
  apply congrArg (List.map _)
  apply List.filter_congr
  intro enrolment _
  exact Selector.covers_append enrolment.concerning single

end Concerned

end Pool

namespace Proofs.AppendRouting

/-- Routing an append and storing it fail together and with the same fault. Where they succeed,
the append is routed to the stores of all enrolments whose scope selects the record, in the order
of enrolment, before all but the first store of a driver are left out. -/
theorem append_routed_as_matched (pool : Pool) (types : TypeHierarchy) (stream : String)
    (envelope : Envelope) (categories : List String)
    (typed : LiteralRole.event.Allows envelope.type) :
    (∀ fault, pool.appendBundle types stream categories envelope.type = .error (.selector fault) ↔
      Record.encode stream envelope categories = .error (.invalidLiteral fault)) ∧
    ((∃ bundle, pool.appendBundle types stream categories envelope.type = .ok bundle) ↔
      ∃ record, Record.encode stream envelope categories = .ok record) ∧
    ∀ bundle record, pool.appendBundle types stream categories envelope.type = .ok bundle →
      Record.encode stream envelope categories = .ok record →
        ∃ selector, Pool.appendSelector stream categories envelope.type = .ok selector ∧
          bundle = Bundle.ofStores (pool.concerned types selector) ∧
          pool.concerned types selector =
            (pool.enrolments.filter (Memory.selects types ·.concerning record)).map (·.store) ∧
            ∀ enrolment ∈ pool.enrolments,
              enrolment.concerning.covers types selector = true ↔
                Memory.selects types enrolment.concerning record = true := by
  cases checked : Record.checkAppend stream categories with
  | error refused =>
    have routed : Pool.appendSelector stream categories envelope.type = .error refused := by
      rw [Pool.appendSelector_eq, checked]
      rfl
    have encoded : Record.encode stream envelope categories = .error (.invalidLiteral refused) := by
      rw [Record.encode_eq, checked]
    simp [Pool.appendBundle, routed, encoded]
  | ok _ =>
    have acceptable := Record.checkAppend_eq_ok_iff.mp checked
    have routed := Pool.appendSelector_eq_ok_iff.mpr ⟨acceptable, typed, rfl⟩
    have encoded : Record.encode stream envelope categories =
        .ok (Record.prepared stream envelope categories) :=
      Record.encode_eq_ok_iff.mpr ⟨acceptable, rfl⟩
    refine ⟨by simp [Pool.appendBundle, routed, encoded],
      by simp [Pool.appendBundle, routed, encoded], ?_⟩
    intro bundle record bundled packed
    rw [Pool.appendBundle, routed] at bundled
    rw [encoded] at packed
    cases packed
    have selects : ∀ scope, Memory.selects types scope (Record.prepared stream envelope categories) =
        scope.admits types stream categories envelope.type := by
      intro scope
      rw [Memory.selects, Record.categoryList_prepared envelope acceptable]
      rfl
    refine ⟨_, routed, (Except.ok.inj bundled).symm, ?_, ?_⟩
    · simp only [Pool.concerned_append acceptable.stream, selects]
    · intro enrolment _
      rw [Selector.covers_append enrolment.concerning acceptable.stream, selects]

/-- A name that only a selector may have is refused by both. Two of the stores that admit the
other append share a driver, and the second of them is left out. -/
theorem append_routed_as_matched_shared :
    let types : TypeHierarchy := ⟨[⟨"Placed", ["Order"]⟩, ⟨"Order", []⟩], by simp [Layered]⟩
    let pool : Pool := { enrolments :=
      [⟨.all, ⟨"audit", 0⟩⟩, ⟨{ stream := "orders/*", events := ["Order"] }, ⟨"orders", 0⟩⟩,
        ⟨{ categories := ["billing"] }, ⟨"billing", 1⟩⟩] }
    let placed : Envelope := { type := "Placed", id := "e1" }
    LiteralRole.event.Allows placed.type ∧
      (Record.encode "orders/*" placed [] =
          .error (.invalidLiteral (.invalidLiteral .stream "orders/*")) ∧
        pool.appendBundle types "orders/*" [] placed.type =
          .error (.selector (.invalidLiteral .stream "orders/*"))) ∧
      ∃ bundle record selector, pool.appendBundle types "orders/1" [] placed.type = .ok bundle ∧
        Record.encode "orders/1" placed [] = .ok record ∧ bundle.names = ["audit"] ∧
          bundle = Bundle.ofStores (pool.concerned types selector) ∧
          pool.concerned types selector = [⟨"audit", 0⟩, ⟨"orders", 0⟩] ∧
          pool.concerned types selector =
            (pool.enrolments.filter (Memory.selects types ·.concerning record)).map (·.store) ∧
            ∀ enrolment ∈ pool.enrolments,
              enrolment.concerning.covers types selector = true ↔
                Memory.selects types enrolment.concerning record = true := by
  intro types pool placed
  have typed : LiteralRole.event.Allows placed.type := LiteralRole.admits_iff.mp (by decide +kernel)
  have refused : Record.encode "orders/*" placed [] =
      .error (.invalidLiteral (.invalidLiteral .stream "orders/*")) := by
    rw [Record.encode_eq]
    rfl
  have bundled : pool.appendBundle types "orders/1" [] placed.type = .ok ⟨[⟨"audit", 0⟩]⟩ := by
    decide +kernel
  have packed : Record.encode "orders/1" placed [] = .ok (Record.prepared "orders/1" placed []) :=
    Record.encode_eq_ok_iff.mpr ⟨⟨by decide +kernel, by simp⟩, rfl⟩
  refine ⟨typed, ⟨refused, ?_⟩, ?_⟩
  · exact ((append_routed_as_matched pool types "orders/*" placed [] typed).1 _).mpr refused
  · obtain ⟨selector, _, same, stores, agrees⟩ :=
      (append_routed_as_matched pool types "orders/1" placed [] typed).2.2 _ _ bundled packed
    have both : pool.concerned types selector = [⟨"audit", 0⟩, ⟨"orders", 0⟩] := by
      rw [stores]
      decide +kernel
    exact ⟨_, _, selector, bundled, packed, rfl, same, both, stores, agrees⟩

end Proofs.AppendRouting
end EventStore
