import EventStore.Proofs.StatementGrammar
import EventStore.Proofs.TableReads

/-! A query means what its selector asks for. Its text reads back as the condition it was written
from, with every literal whole; that condition is true of a row exactly where the three parts of the
selector are, and nothing that a literal holds is read outside of quotes. -/

namespace EventStore
open Sql

/-! ## What a condition is besides its literals -/

namespace Sql.Condition

/-- The same comparisons with other texts. -/
def relabel (change : String → String) : Condition → Condition
  | equals column value => equals column (change value)
  | matching column pattern => matching column (change pattern)
  | among column values => among column (values.map change)
  | both left right => both (left.relabel change) (right.relabel change)
  | either left right => either (left.relabel change) (right.relabel change)

/-- What is written of a condition besides its literals. -/
def frame : Condition → List Char
  | equals column _ => column.write ++ " = ".toList
  | matching column _ => column.write ++ " LIKE ".toList ++ " ESCAPE ".toList
  | among column values =>
    column.write ++ " IN (".toList ++ commaSeparated (values.map fun _ => []) ++ [')']
  | both left right =>
    parenthesized left.isDisjunction left.frame ++ " AND ".toList ++
      parenthesized right.isCompound right.frame
  | either left right =>
    parenthesized left.isConjunction left.frame ++ " OR ".toList ++
      parenthesized right.isCompound right.frame

variable (change : String → String) (condition : Condition)

@[simp] theorem isConjunction_relabel :
    (condition.relabel change).isConjunction = condition.isConjunction := by
  cases condition <;> rfl

@[simp] theorem isDisjunction_relabel :
    (condition.relabel change).isDisjunction = condition.isDisjunction := by
  cases condition <;> rfl

@[simp] theorem isCompound_relabel :
    (condition.relabel change).isCompound = condition.isCompound := by
  simp [isCompound]

theorem frame_relabel : (condition.relabel change).frame = condition.frame := by
  induction condition with
  | equals => rfl
  | matching => rfl
  | among => simp [relabel, frame, Function.comp_def]
  | both left right left_same right_same => simp [relabel, frame, left_same, right_same]
  | either left right left_same right_same => simp [relabel, frame, left_same, right_same]

end Sql.Condition

/-! ## The truth that a selector asks for -/

/-- A category stands alone in the packed ones, or first, or last, or between others. -/
def StandsIn (category packed : String) : Prop :=
  packed = category ∨ category.toList ++ [','] <+: packed.toList ∨
    ',' :: category.toList <:+ packed.toList ∨ ',' :: category.toList ++ [','] <:+: packed.toList

instance (category packed : String) : Decidable (StandsIn category packed) :=
  inferInstanceAs (Decidable (_ ∨ _))

namespace Selector

variable (types : TypeHierarchy) (selector : Selector) (row : Column → Option String)

def streamTruth : Option Bool :=
  if selector.stream.isEmpty then some true
  else (row .eventStream).map fun name =>
    if isOpenEnded selector.stream then decide ((stem selector.stream).toList <+: name.toList)
    else decide (name = stem selector.stream)

def categoriesTruth : Option Bool :=
  if selector.categories.isEmpty then some true
  else (row .eventCategories).map fun packed =>
    selector.categories.any fun category => decide (StandsIn category packed)

def eventsTruth : Option Bool :=
  if selector.events.isEmpty then some true
  else (row .eventName).map fun name => selector.events.any fun event => types.derives name event

/-- What a row has to be true of: every part of the selector that is given. -/
def truth : Option Bool :=
  if selector.everything then some true
  else conjunction (conjunction (selector.streamTruth row) (selector.categoriesTruth row))
    (selector.eventsTruth types row)

end Selector

namespace Proofs.StatementReading
open Scanner LikePatterns SelectionCondition StoredTexts

variable {row : Column → Option String} {column : Column} {rest : List Char}

/-- The truth of what stands after `WHERE`; without a condition every row is meant. -/
def whereTruth (row : Column → Option String) (condition : Option Condition) : Option Bool :=
  condition.elim (some true) (·.eval row)

theorem conjunction_true (truth : Option Bool) : conjunction truth (some true) = truth := by
  rcases truth with _ | _ | _ <;> rfl

theorem true_conjunction (truth : Option Bool) : conjunction (some true) truth = truth := by
  rcases truth with _ | _ | _ <;> rfl

/-- Two comparisons with one column are unknown together. -/
theorem disjunction_map {held : Option String} (left right : String → Bool) :
    disjunction (held.map left) (held.map right) =
      held.map fun text => left text || right text := by
  cases held with
  | none => rfl
  | some text =>
    rw [Option.map_some, Option.map_some, Option.map_some]
    cases left text <;> cases right text <;> rfl

private theorem eval_foldl_both (first : Condition) (others : List Condition) :
    (others.foldl Condition.both first).eval row =
      (others.map (·.eval row)).foldl conjunction (first.eval row) := by
  induction others generalizing first with
  | nil => rfl
  | cons next others ih => exact ih (.both first next)

theorem whereTruth_allOf (conditions : List Condition) :
    whereTruth row (Condition.allOf conditions) =
      (conditions.map (·.eval row)).foldl conjunction (some true) := by
  cases conditions with
  | nil => rfl
  | cons first others =>
    rw [List.map_cons, List.foldl_cons, true_conjunction]
    exact eval_foldl_both first others

theorem foldl_part (truth : Option Bool) (part : Option Condition) :
    (part.toList.map (·.eval row)).foldl conjunction truth =
      conjunction truth (whereTruth row part) := by
  cases part with
  | none => exact (conjunction_true truth).symm
  | some condition => rfl

private theorem eval_foldl_either {α : Type} {write : α → Condition} {holds : α → String → Bool}
    (eval_write : ∀ item, (write item).eval row = (row column).map (holds item))
    (items : List α) (first : Condition) (before : String → Bool)
    (eval_first : first.eval row = (row column).map before) :
    ((items.map write).foldl Condition.either first).eval row =
      (row column).map fun text => before text || items.any (holds · text) := by
  induction items generalizing first before with
  | nil => simpa using eval_first
  | cons item items ih =>
    have joined : (Condition.either first (write item)).eval row =
        (row column).map fun text => before text || holds item text := by
      rw [← disjunction_map, ← eval_first, ← eval_write]
      rfl
    rw [List.map_cons, List.foldl_cons, ih _ _ joined]
    simp [Bool.or_assoc]

/-- Alternatives over one column hold where any of them does. -/
theorem whereTruth_anyOf {α : Type} {write : α → Condition} {holds : α → String → Bool}
    (eval_write : ∀ item, (write item).eval row = (row column).map (holds item)) (items : List α) :
    whereTruth row (Condition.anyOf (items.map write)) =
      if items.isEmpty then some true
      else (row column).map fun text => items.any (holds · text) := by
  cases items with
  | nil => rfl
  | cons item items =>
    exact eval_foldl_either eval_write items (write item) (holds item) (eval_write item)

theorem eval_equals (value : String) :
    (Condition.equals column value).eval row =
      (row column).map fun text => decide (text = value) := rfl

theorem eval_either (left right : Condition) :
    (Condition.either left right).eval row = disjunction (left.eval row) (right.eval row) := rfl

theorem eval_matching (pattern : List Char) :
    (Condition.matching column (String.ofList pattern)).eval row =
      (row column).map fun text => like pattern text.toList := by
  rw [Condition.eval, Condition.evalBy, String.toList_ofList]

theorem eval_categoryCondition (category : String) :
    (categoryCondition category).eval row =
      (row .eventCategories).map fun packed => decide (StandsIn category packed) := by
  rw [categoryCondition, eval_either, eval_either, eval_either, eval_matching, eval_matching,
    eval_matching, eval_equals, disjunction_map, disjunction_map, disjunction_map]
  congr 1
  funext packed
  rw [Bool.eq_iff_iff]
  simp only [Bool.or_eq_true, decide_eq_true_eq, like_leading, like_trailing, like_between,
    or_assoc]
  rfl

theorem whereTruth_stream (selector : Selector) :
    whereTruth row (if selector.stream.isEmpty then none
        else some (streamCondition selector.stream)) = selector.streamTruth row := by
  rw [Selector.streamTruth]
  split
  · rfl
  · rw [whereTruth, Option.elim_some, streamCondition]
    split
    · rw [eval_matching]
      congr 1
      funext name
      rw [Bool.eq_iff_iff, like_beginning, decide_eq_true_eq]
    · exact eval_equals _

theorem whereTruth_categories (selector : Selector) :
    whereTruth row (categoriesCondition selector.categories) = selector.categoriesTruth row := by
  rw [categoriesCondition, whereTruth_anyOf eval_categoryCondition, Selector.categoriesTruth]

theorem whereTruth_events (types : TypeHierarchy) (selector : Selector) :
    whereTruth row (eventsCondition types selector.events) = selector.eventsTruth types row := by
  rw [eventsCondition, Selector.eventsTruth]
  split
  · rfl
  · change (row .eventName).map (admittedNames types selector.events).contains = _
    congr 1
    funext name
    rw [Bool.eq_iff_iff, List.contains_iff_mem, mem_admittedNames, List.any_eq_true]

theorem whereTruth_conditionFor (types : TypeHierarchy) (selector : Selector)
    (row : Column → Option String) :
    whereTruth row (conditionFor types selector) = selector.truth types row := by
  rw [conditionFor, Selector.truth]
  split
  · rfl
  · rw [whereTruth_allOf, List.map_append, List.map_append, List.foldl_append, List.foldl_append,
      foldl_part, foldl_part, foldl_part, true_conjunction, whereTruth_stream,
      whereTruth_categories, whereTruth_events]

/-! ## What is read outside of literals -/

theorem outside_parenthesized {inner : Bool} {text frame : List Char}
    (outside_text : ∀ rest, Apart rest → gap.outside (text ++ rest) = frame ++ gap.outside rest)
    (apart : Apart rest) :
    gap.outside (parenthesized inner text ++ rest) =
      parenthesized inner frame ++ gap.outside rest := by
  cases inner with
  | false => exact outside_text rest apart
  | true =>
    have parts (text : List Char) :
        parenthesized true text ++ rest = ['('] ++ (text ++ ([')'] ++ rest)) := by
      simp [parenthesized]
    rw [parts, Separator.parenthesis.outside_append,
      outside_text _ (Separator.close.apart_append rest), Separator.close.outside_append]
    simp [parenthesized]

theorem outside_members (values : List String) (rest : List Char) :
    gap.outside (commaSeparated (values.map Dialect.sqlite.literal) ++ ([')'] ++ rest)) =
      commaSeparated (values.map fun _ => []) ++ ([')'] ++ gap.outside rest) := by
  induction values with
  | nil => exact Separator.close.outside_append rest
  | cons value values ih =>
    cases values with
    | nil =>
      change gap.outside (Dialect.sqlite.literal value ++ _) = _
      rw [outside_literal value (Separator.close.apart_append rest),
        Separator.close.outside_append]
      rfl
    | cons next values =>
      rw [commaSeparated_map, commaSeparated_map, List.append_assoc, List.append_assoc,
        outside_literal value (Separator.comma.apart_append _), Separator.comma.outside_append, ih]
      simp

theorem outside_write (condition : Condition) (rest : List Char) (apart : Apart rest) :
    gap.outside (condition.write .sqlite ++ rest) = condition.frame ++ gap.outside rest := by
  induction condition generalizing rest with
  | equals column value =>
    simp only [Condition.write, Condition.frame, List.append_assoc]
    rw [outside_column column (Separator.equals.apart_append _), Separator.equals.outside_append,
      outside_literal value apart]
  | matching column pattern =>
    simp only [Condition.write, Condition.frame, List.append_assoc]
    rw [outside_column column (Separator.like.apart_append _), Separator.like.outside_append,
      outside_literal pattern (Separator.escape.apart_append _), Separator.escape.outside_append,
      outside_literal _ apart]
  | among column values =>
    simp only [Condition.write, Condition.frame, List.append_assoc]
    rw [outside_column column (Separator.members.apart_append _),
      Separator.members.outside_append, outside_members]
  | both left right left_outside right_outside =>
    simp only [Condition.write, Condition.frame, List.append_assoc]
    rw [outside_parenthesized left_outside (Separator.conjunction.apart_append _),
      Separator.conjunction.outside_append, outside_parenthesized right_outside apart]
  | either left right left_outside right_outside =>
    simp only [Condition.write, Condition.frame, List.append_assoc]
    rw [outside_parenthesized left_outside (Separator.disjunction.apart_append _),
      Separator.disjunction.outside_append, outside_parenthesized right_outside apart]

theorem outside_columns (columns : List Column) (apart : Apart rest) :
    gap.outside (commaSeparated (columns.map Column.write) ++ rest) =
      commaSeparated (columns.map Column.write) ++ gap.outside rest := by
  induction columns with
  | nil => rfl
  | cons column columns ih =>
    cases columns with
    | nil => exact outside_column column apart
    | cons next columns =>
      rw [commaSeparated_map, List.append_assoc, List.append_assoc,
        outside_column column (Separator.comma.apart_append _), Separator.comma.outside_append, ih]
      simp

theorem outside_tableName (apart : Apart rest) :
    gap.outside ('"' :: tableName.toList ++ (['"'] ++ rest)) =
      '"' :: tableName.toList ++ (['"'] ++ gap.outside rest) := by
  have named : (gap.run ('"' :: tableName.toList ++ ['"'])).1 = closing '"' tableName.toList := by
    decide
  have own : gap.outside ('"' :: tableName.toList ++ ['"']) = '"' :: tableName.toList ++ ['"'] := by
    decide
  rw [← List.append_assoc, outside_append, named, own, outside_closing (.inr rfl) apart,
    List.append_assoc]

theorem outside_orderClause (order : Column) :
    gap.outside (orderClause order) = orderClause order := by
  cases order <;> decide

/-- Outside of literals the statement reads as what is written besides them. -/
theorem outside_statementText (columns : List Column) (condition : Option Condition)
    (order : Column) :
    gap.outside (statementText columns condition order) =
      selectClause columns ++
        (condition.elim [] (" WHERE ".toList ++ ·.frame) ++ orderClause order) := by
  have demands : gap.outside (whereClause .sqlite condition ++ orderClause order) =
      condition.elim [] (" WHERE ".toList ++ ·.frame) ++ orderClause order := by
    cases condition with
    | none =>
      rw [whereClause_none, List.nil_append, outside_orderClause]
      rfl
    | some condition =>
      rw [whereClause_some, List.append_assoc, Separator.demand.outside_append,
        outside_write condition _ (apart_orderClause order), outside_orderClause,
        ← List.append_assoc]
      rfl
  rw [statementText, selectClause_eq]
  simp only [List.append_assoc]
  rw [Separator.select.outside_append, outside_columns columns (Separator.source.apart_append _),
    Separator.source.outside_append, outside_tableName (apart_whereClause condition order), demands]

/-! ## Null characters -/

theorem clear_literal (value : String) :
    Clear (Dialect.sqlite.literal value) ↔ Clear value.toList := by
  have doubled : Clear (value.toList.flatMap doubledQuote) ↔ Clear value.toList := by
    induction value.toList with
    | nil => rfl
    | cons char text ih =>
      rw [List.flatMap_cons, clear_append, clear_cons, ih, doubledQuote]
      split
      next same => simp [same]
      next => simp
  simp [Dialect.literal, doubled]

theorem clear_parenthesized (inner : Bool) (text : List Char) :
    Clear (parenthesized inner text) ↔ Clear text := by
  cases inner <;> simp [parenthesized]

theorem clear_commaSeparated (texts : List (List Char)) :
    Clear (commaSeparated texts) ↔ ∀ text ∈ texts, Clear text := by
  induction texts with
  | nil => simp [commaSeparated]
  | cons text texts ih =>
    cases texts with
    | nil => simp [commaSeparated]
    | cons next texts => simp [commaSeparated, ih]

theorem clear_column (column : Column) : Clear column.write := by
  cases column <;> decide

theorem clear_write (condition : Condition) :
    Clear (condition.write .sqlite) ↔ condition.Plain := by
  induction condition with
  | equals => simp [Condition.write, clear_column, clear_literal]
  | matching =>
    have escape : escapeChar ≠ '\x00' := by decide
    simp [Condition.write, clear_column, clear_literal, escape]
  | among =>
    simp [Condition.write, clear_column, clear_commaSeparated, clear_literal, Condition.Plain,
      Condition.literals]
  | both left right left_clear right_clear =>
    simp [Condition.write, clear_parenthesized, left_clear, right_clear]
  | either left right left_clear right_clear =>
    simp [Condition.write, clear_parenthesized, left_clear, right_clear]

theorem clear_statementText (columns : List Column) (condition : Option Condition)
    (order : Column) :
    Clear (statementText columns condition order) ↔
      ∀ demanded ∈ condition, demanded.Plain := by
  have select : Clear (selectClause columns) := by
    have names : Clear (commaSeparated (columns.map Column.write)) := by
      simp [clear_commaSeparated, clear_column]
    simp [selectClause_eq, names, tableName]
  have ending : Clear (orderClause order) := by
    cases order <;> decide
  cases condition with
  | none => simp [statementText, whereClause_none, select, ending]
  | some condition => simp [statementText, whereClause_some, select, ending, clear_write]

theorem toList_recordQuery (types : TypeHierarchy) (selector : Selector) :
    (recordQuery .sqlite types selector).toList =
      statementText Column.ofRecord (conditionFor types selector) .id := by
  unfold recordQuery statementText orderClause
  rw [String.toList_ofList]
  simp only [List.append_assoc]

/-- The text of a query is the condition of its selector for whoever reads it as a statement. The
last part says when the text has no null character, where a reader would stop early. -/
theorem query_reads_back_as_condition (types : TypeHierarchy) (selector : Selector) :
    let text := (recordQuery .sqlite types selector).toList
    let condition := conditionFor types selector
    Statement.read text =
        some { columns := Column.ofRecord, table := tableName, condition, order := .id } ∧
      (∀ row, whereTruth row condition = selector.truth types row) ∧
      (∀ change, gap.outside
          (statementText Column.ofRecord (condition.map (·.relabel change)) .id) =
        gap.outside text) ∧
      (Clear text ↔ ∀ demanded ∈ condition, demanded.Plain) := by
  intro text condition
  have written : text = statementText Column.ofRecord condition .id :=
    toList_recordQuery types selector
  rw [written]
  refine ⟨read_statementText _ _ condition .id, whereTruth_conditionFor types selector, ?_,
    clear_statementText _ _ _⟩
  intro change
  rw [outside_statementText, outside_statementText]
  cases condition with
  | none => rfl
  | some condition => simp [Condition.frame_relabel]

end Proofs.StatementReading
end EventStore
