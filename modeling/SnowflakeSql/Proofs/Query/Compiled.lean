import Mathlib.Tactic.Common
import SnowflakeSql.Query.Compile

/-!
# When a query compiles, and to what

`Query.templateOn` is the template of a query whose table is known.  A query that is no raw SQL
compiles exactly if it asks for no returned columns, has a table, and has an assignment if it is
an update (`compile_eq_ok_iff`); its statement is then the template's text with the template's
values.
-/

namespace SnowflakeSql

namespace Query

variable (naming : Naming) (query : Query)

/-- The template of a query on a table, by what the query does. -/
def templateOn (table : String) : Template :=
  match query.method with
  | .raw => []
  | .select | .pluck => query.selectTemplate naming query.limit table
  | .first => query.selectTemplate naming (some 1) table
  | .insert => query.insertTemplate naming table
  | .update => query.updateTemplate naming table
  | .delete => query.deleteTemplate naming table
  | .truncate => [.text ("truncate table " ++ query.spell naming table)]
  | .columnInfo => Catalogue.lookup "columns" table none

/-- The statement with the text and the values of a template. -/
def statementOf (t : Template) : Statement where
  sql := t.sql
  binds := t.binds
  method := query.method
  options := query.options
  context := query.context
  pluck := if query.method = .pluck then query.columns.head? else none
  output :=
    if query.method = .columnInfo then some (Catalogue.columnInfo query.columns.head?) else none

/-- The statement that a query without its table is missing it for. -/
def statementWord : Method → String
  | .first | .pluck => "select"
  | method => method.name

/-- What becomes of a query that is no raw SQL. -/
def compiled : Except CompileError Statement :=
  if query.returning ≠ [] then .error (.unsupported "snowflake" "returning")
  else match query.table with
    | none => .error (.missingTable (statementWord query.method))
    | some table =>
      if query.method = .update ∧ query.assignments = [] then .error (.emptyColumns "update")
      else .ok (query.statementOf (query.templateOn naming table))

variable {naming query}

theorem template_of_table_eq_none (hmethod : query.method ≠ .raw) (htable : query.table = none) :
    query.template naming = .error (.missingTable (statementWord query.method)) := by
  unfold template requireTable
  rw [htable]
  cases hm : query.method with
  | raw => exact absurd hm hmethod
  | _ => rfl

theorem template_of_table_eq_some {table : String} (hmethod : query.method ≠ .raw)
    (htable : query.table = some table) :
    query.template naming =
      if query.method = .update ∧ query.assignments = [] then .error (.emptyColumns "update")
      else .ok (query.templateOn naming table) := by
  unfold template templateOn requireTable
  rw [htable]
  cases hm : query.method with
  | raw => exact absurd hm hmethod
  | update => cases query.assignments <;> rfl
  | _ => rfl

theorem compile_eq_compiled (hmethod : query.method ≠ .raw) :
    query.compile naming = query.compiled naming := by
  have hsql : query.sqlAndBinds naming =
      (query.template naming).map fun t => (t.sql, t.binds) := by
    unfold sqlAndBinds
    cases hm : query.method with
    | raw => exact absurd hm hmethod
    | _ => cases query.template naming <;> rfl
  unfold compile compiled
  rw [hsql]
  cases query.returning with
  | cons column columns => rfl
  | nil =>
    cases htable : query.table with
    | none => rw [template_of_table_eq_none hmethod htable]; rfl
    | some table =>
      rw [template_of_table_eq_some hmethod htable]
      by_cases hset : query.method = .update ∧ query.assignments = []
      · rw [if_pos hset]; simp [hset]; rfl
      · rw [if_neg hset]; simp [hset]; rfl

theorem compile_eq_ok_iff {statement : Statement} (hmethod : query.method ≠ .raw) :
    query.compile naming = .ok statement ↔
      query.returning = [] ∧ ∃ table, query.table = some table ∧
        (query.method = .update → query.assignments ≠ []) ∧
        statement = query.statementOf (query.templateOn naming table) := by
  rw [compile_eq_compiled hmethod]
  unfold compiled
  constructor
  · intro h
    by_cases hreturning : query.returning = []
    · rw [if_neg (not_not.2 hreturning)] at h
      cases htable : query.table with
      | none => rw [htable] at h; cases h
      | some table =>
        rw [htable] at h
        dsimp only at h
        split_ifs at h with hset
        cases h
        exact ⟨hreturning, table, rfl, fun hm he => hset ⟨hm, he⟩, rfl⟩
    · rw [if_pos hreturning] at h
      cases h
  · rintro ⟨hreturning, table, htable, hset, rfl⟩
    rw [if_neg (not_not.2 hreturning), htable]
    exact if_neg fun h => hset h.1 h.2

/-- A query that compiles passes its options on to its statement. -/
theorem options_of_compile {statement : Statement} (h : query.compile naming = .ok statement) :
    statement.options = query.options := by
  unfold compile at h
  cases hreturning : query.returning with
  | cons column columns =>
    rw [hreturning] at h
    cases h
  | nil =>
    rw [hreturning] at h
    cases hsql : query.sqlAndBinds naming with
    | error e =>
      rw [hsql] at h
      cases h
    | ok sql =>
      rw [hsql] at h
      cases h
      rfl

end Query

end SnowflakeSql
