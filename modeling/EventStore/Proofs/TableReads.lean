import EventStore.Proofs.SelectionCondition
import EventStore.Proofs.TableRows

/-! A read of the relational table is a read of the list of records it was filled from, provided
that no null character cuts a stored text or the text of the statement. -/

namespace EventStore
open Proofs.StoredTexts Proofs.SelectionCondition

namespace Row

/-- Every text in the row passes statements and patterns whole. -/
def Plain (row : Row) : Prop := ∀ column, ∀ text ∈ row.text column, Clear text.toList

theorem isWritableRow_iff {row : Row} : Table.isWritableRow row = true ↔ row.Plain := by
  simp only [Table.isWritableRow, Bool.and_eq_true, List.all_eq_true, List.forall_mem_cons,
    List.not_mem_nil, false_implies, implies_true, and_true, Option.all_eq_true,
    Table.isWritable_iff]
  constructor
  · rintro ⟨⟨stream, id, name, date⟩, categories, aggregateId, data, metadata⟩ column text held
    cases column <;> simp only [Row.text, Option.mem_def, Option.some.injEq, reduceCtorEq] at held
    case eventStream => exact held ▸ stream
    case eventId => exact held ▸ id
    case eventName => exact held ▸ name
    case eventDate => exact held ▸ date
    case eventCategories => exact categories text held
    case aggregateId => exact aggregateId text held
    case data => exact data text held
    case metadata => exact metadata text held
  · intro plain
    exact ⟨⟨plain .eventStream _ rfl, plain .eventId _ rfl, plain .eventName _ rfl,
      plain .eventDate _ rfl⟩, plain .eventCategories, plain .aggregateId, plain .data,
      plain .metadata⟩

end Row

namespace Sql.Condition

/-- Every text that the condition compares with passes the statement whole. -/
def Plain (condition : Condition) : Prop := ∀ literal ∈ condition.literals, Clear literal.toList

@[simp] theorem plain_equals {column : Column} {value : String} :
    (equals column value).Plain ↔ Clear value.toList := by
  simp [Plain, literals]

@[simp] theorem plain_matching {column : Column} {pattern : String} :
    (matching column pattern).Plain ↔ Clear pattern.toList := by
  simp [Plain, literals]

@[simp] theorem plain_either {left right : Condition} :
    (either left right).Plain ↔ left.Plain ∧ right.Plain := by
  simp [Plain, literals, or_imp, forall_and]

@[simp] theorem plain_both {left right : Condition} :
    (both left right).Plain ↔ left.Plain ∧ right.Plain := by
  simp [Plain, literals, or_imp, forall_and]

private theorem plain_foldl {connective : Condition → Condition → Condition}
    (plain_connective : ∀ left right, (connective left right).Plain ↔ left.Plain ∧ right.Plain)
    {first : Condition} {others : List Condition} :
    (others.foldl connective first).Plain ↔ first.Plain ∧ ∀ other ∈ others, other.Plain := by
  induction others generalizing first with
  | nil => simp
  | cons next others ih => simp [ih, plain_connective, and_assoc]

theorem plain_anyOf {conditions : List Condition} :
    (∀ condition ∈ anyOf conditions, condition.Plain) ↔
      ∀ condition ∈ conditions, condition.Plain := by
  cases conditions with
  | nil => simp [anyOf]
  | cons first others => simp [anyOf, plain_foldl]

theorem plain_allOf {conditions : List Condition} :
    (∀ condition ∈ allOf conditions, condition.Plain) ↔
      ∀ condition ∈ conditions, condition.Plain := by
  cases conditions with
  | nil => simp [allOf]
  | cons first others => simp [allOf, plain_foldl]

/-- On a row of whole texts the table's patterns are the ordinary ones. -/
theorem evalBy_accepts {row : Row} (plain : row.Plain) (condition : Condition) :
    condition.evalBy Table.accepts row.text = condition.eval row.text := by
  induction condition with
  | equals => rfl
  | among => rfl
  | matching column pattern =>
    rw [eval, evalBy, evalBy]
    cases held : row.text column with
    | none => rfl
    | some text =>
      rw [Option.map_some, Option.map_some, Table.accepts_of_clear (plain column text held)]
  | both left right leftSame rightSame => rw [eval, evalBy, evalBy, leftSame, rightSame]; rfl
  | either left right leftSame rightSame => rw [eval, evalBy, evalBy, leftSame, rightSame]; rfl

end Sql.Condition

namespace Selector

/-- No null character stands in a literal. -/
structure Plain (selector : Selector) : Prop where
  stream : Clear selector.stream.toList
  categories : ∀ category ∈ selector.categories, Clear category.toList
  events : ∀ event ∈ selector.events, Clear event.toList

end Selector

namespace Proofs.TableReads
open Sql

theorem clear_literalPattern {text : List Char} (clear : Clear text) :
    Clear (literalPattern text) := by
  intro member
  obtain ⟨char, inside, written⟩ := List.mem_flatMap.mp member
  have ordinary : char ≠ '\x00' := fun null => clear (null ▸ inside)
  split at written
  · simp [escapeChar, ordinary.symm] at written
  · simp [ordinary.symm] at written

theorem plain_streamCondition {stream : String} (clear : Clear stream.toList) :
    (streamCondition stream).Plain := by
  have stemClear : Clear (stem stream).toList := by
    rw [stem]
    split
    · rw [String.toList_ofList]
      exact clear.of_subset (List.dropLast_subset _)
    · exact clear
  rw [streamCondition]
  split
  · simp [clear_literalPattern stemClear]
  · simp [stemClear]

theorem plain_categoryCondition {category : String} (clear : Clear category.toList) :
    (categoryCondition category).Plain := by
  simp [categoryCondition, clear, clear_literalPattern clear]

/-- The names in a condition are those of the selector and of the registered types. -/
theorem plain_eventsCondition {types : TypeHierarchy} {events : List String}
    (typesClear : ∀ name ∈ types.names, Clear name.toList)
    (clear : ∀ event ∈ events, Clear event.toList) :
    ∀ condition ∈ eventsCondition types events, condition.Plain := by
  intro condition demanded
  rw [eventsCondition] at demanded
  split at demanded
  · cases demanded
  · cases demanded
    intro name admitted
    obtain ⟨event, member, derived⟩ := mem_admittedNames.mp admitted
    by_cases declared : name ∈ types.names
    · exact typesClear name declared
    · rw [(TypeHierarchy.derives_iff.mp derived).eq_of_not_declared declared]
      exact clear event member

theorem plain_conditionFor {types : TypeHierarchy} {selector : Selector}
    (typesClear : ∀ name ∈ types.names, Clear name.toList) (plain : selector.Plain) :
    ∀ condition ∈ conditionFor types selector, condition.Plain := by
  intro condition demanded
  rw [conditionFor] at demanded
  split at demanded
  · cases demanded
  · refine Condition.plain_allOf.mpr ?_ condition demanded
    simp only [List.forall_mem_append, Option.mem_toList]
    refine ⟨⟨?_, ?_⟩, plain_eventsCondition typesClear plain.events⟩
    · intro condition demanded
      split at demanded
      · cases demanded
      · cases demanded
        exact plain_streamCondition plain.stream
    · rw [categoriesCondition]
      refine Condition.plain_anyOf.mpr fun condition member => ?_
      obtain ⟨category, inside, rfl⟩ := List.mem_map.mp member
      exact plain_categoryCondition (plain.categories category inside)

end Proofs.TableReads

namespace Table
open Proofs.TableReads

variable {table : Table} {memory : Memory} {types : TypeHierarchy} {selector : Selector}

theorem select_eq (rows : table.rows = memory.records.map Row.ofRecord)
    (plain : ∀ record ∈ memory.records, (Row.ofRecord record).Plain) (valid : selector.Valid) :
    table.select (Sql.conditionFor types selector) =
      (memory.select types selector).map Row.ofRecord := by
  have agrees : ∀ record ∈ memory.records, Selects (Row.ofRecord record).text
      (Sql.conditionFor types selector) ↔ Memory.selects types selector record = true :=
    fun _ _ => selects_conditionFor valid rfl rfl rfl
  unfold select Memory.select
  split
  next unconditional =>
    rw [rows]
    congr 1
    refine (List.filter_eq_self.mpr fun record member => (agrees record member).mp ?_).symm
    simp [Selects, unconditional]
  next condition conditional =>
    rw [rows, List.filter_map]
    congr 1
    refine List.filter_congr fun record member => ?_
    have same := agrees record member
    rw [conditional] at same
    simp only [Function.comp_apply, Sql.Condition.evalBy_accepts (plain record member)]
    rw [Bool.eq_iff_iff, ← same]
    simp [Selects, selects_iff]

theorem read_eq (rows : table.rows = memory.records.map Row.ofRecord)
    (plain : ∀ record ∈ memory.records, (Row.ofRecord record).Plain)
    (small : ∀ record ∈ memory.records, record.version < Row.versionLimit)
    (reads : memory.refusesReads = false) (valid : selector.Valid)
    (selectorPlain : selector.Plain) (typesClear : ∀ name ∈ types.names, Clear name.toList) :
    table.read types selector = memory.read types selector := by
  have writable : (Sql.conditionFor types selector).all (·.literals.all isWritable) = true := by
    rw [Option.all_eq_true]
    intro condition demanded
    rw [List.all_eq_true]
    exact fun literal member =>
      isWritable_iff.mpr (plain_conditionFor typesClear selectorPlain condition demanded _ member)
  have records : (((memory.select types selector).map Row.ofRecord).map
      fun row => (.ok row.toRecord : Except StorageFault Record)) =
      (memory.select types selector).map .ok := by
    rw [List.map_map]
    refine List.map_congr_left fun record selected => ?_
    have kept := (List.mem_filter.mp selected).1
    rw [Function.comp_apply, Row.toRecord_ofRecord (small record kept)]
  simp only [read, Memory.read, reads, writable, select_eq rows plain valid, records, if_true,
    Bool.false_eq_true, if_false]

end Table
end EventStore
