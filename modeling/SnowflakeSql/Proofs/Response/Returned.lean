import SnowflakeSql.Proofs.Query.Refusals
import SnowflakeSql.Proofs.Session.Runs

/-!
# What reading queries return

A query that reads compiles to a statement that has text whatever its clauses are, so it is run,
and a run of it returns the shape of the response after the last step (`Client.exists_returns`).
-/

namespace SnowflakeSql

/-- Whether the method reads rows. -/
def Method.reads : Method → Bool
  | .select | .first | .pluck | .columnInfo => true
  | _ => false

namespace Query

variable {naming : Naming} {query : Query} {table : String}

/-- A query that reads a table compiles to a statement with text. -/
theorem compile_of_reads (naming : Naming) (hreads : query.method.reads = true)
    (hreturning : query.returning = []) (htable : query.table = some table) :
    query.compile naming = .ok (query.statementOf (query.templateOn naming table)) ∧
      (query.statementOf (query.templateOn naming table)).isEmpty = false := by
  have hne : ∀ method, method.reads = false → query.method ≠ method := by
    rintro method hmethod rfl
    rw [hreads] at hmethod
    cases hmethod
  have hupdate : query.method = .update → query.assignments ≠ [] :=
    fun h => absurd h (hne .update rfl)
  have hcolumns : query.method = .insert → query.insertColumns ≠ [] :=
    fun h => absurd h (hne .insert rfl)
  exact ⟨(compile_eq_ok_iff (hne .raw rfl)).mpr ⟨hreturning, table, htable, hupdate, rfl⟩,
    isEmpty_statementOf naming table (hne .raw rfl) hcolumns⟩

/-- Only column info brings a rule of its own. -/
theorem shape_statementOf (hmethod : query.method ≠ .columnInfo) (t : Template)
    (response : Response) :
    (query.statementOf t).shape (some response) =
      (query.statementOf t).shapeByMethod response := by
  have houtput : (query.statementOf t).output = none := if_neg hmethod
  unfold Statement.shape
  rw [houtput]

theorem shape_pluck (hmethod : query.method = .pluck) (t : Template) (rows : Option (List Json))
    (info : Option StatementInfo) :
    (query.statementOf t).shape (some { rows := rows, statement := info }) =
      .rows ((rows.getD []).map (pluckValue (query.columns.head?.getD ""))) := by
  rw [shape_statementOf (by rw [hmethod]; exact Method.noConfusion)]
  simp only [Statement.shapeByMethod, statementOf, hmethod, if_true]

theorem shape_select (hmethod : query.method = .select) (t : Template)
    (rows : Option (List Json)) (info : Option StatementInfo) :
    (query.statementOf t).shape (some { rows := rows, statement := info }) =
      .rows (rows.getD []) := by
  rw [shape_statementOf (by rw [hmethod]; exact Method.noConfusion)]
  simp only [Statement.shapeByMethod, statementOf, hmethod]

theorem shape_first (hmethod : query.method = .first) (t : Template)
    (rows : Option (List Json)) (info : Option StatementInfo) :
    (query.statementOf t).shape (some { rows := rows, statement := info }) =
      .row ((rows.bind List.head?).getD .null) := by
  rw [shape_statementOf (by rw [hmethod]; exact Method.noConfusion)]
  simp only [Statement.shapeByMethod, statementOf, hmethod]

end Query

namespace Client

variable {client : Client} {query : Query} {table : String}

/-- A client of the dialect without a rule of its own tidies what it returns. -/
theorem finish_eq_tidy (hkind : client.kind = .snowflake) (hrule : client.config.rule = none)
    (outcome : Outcome) (context : Option Context) :
    client.finish outcome context = outcome.tidy := by
  unfold finish Outcome.finish
  rw [hkind, hrule]

/-- A query that reads compiles, and what a run of it returns is read off its shape. -/
theorem exists_returns (hkind : client.kind = .snowflake) (hrule : client.config.rule = none)
    (hreads : query.method.reads = true) (hreturning : query.returning = [])
    (htable : query.table = some table) :
    ∃ statement, client.compileQuery query = .ok statement ∧
      statement = query.statementOf (query.templateOn client.compilerNaming table) ∧
      ∀ (rows : Option (List Json)) (shape : Outcome),
        (∀ info, statement.shape (some { rows := rows, statement := some info }) = shape) →
          client.Returns statement rows shape.tidy := by
  obtain ⟨hcompile, htext⟩ := Query.compile_of_reads client.compilerNaming hreads
    hreturning htable
  refine ⟨_, hcompile, rfl, fun rows shape hshape => ?_⟩
  refine returns_of_outcome htext fun info => ?_
  unfold outcome
  rw [finish_eq_tidy hkind hrule, hshape]

end Client

end SnowflakeSql
