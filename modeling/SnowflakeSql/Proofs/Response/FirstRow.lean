import SnowflakeSql.Proofs.Response.Returned
import SnowflakeSql.Proofs.Response.Tidied

/-!
# The first row

Asking for the first row is selecting one row at most (`Query.statementOf_asFirst`): both are
refused for one reason, or become statements that differ in nothing but what they are for.  Their
responses are shaped and tidied in ways of their own, and still the first row that comes back is
the first of the rows that the selection of the same response gives, or null if that has none
(`first_beside_single`).
-/

namespace SnowflakeSql

namespace Query

/-- The query with the first row for an answer. -/
def asFirst (query : Query) : Query := { query with method := .first }

/-- The query as a selection of one row at most. -/
def asSingle (query : Query) : Query := { query with method := .select, limit := some 1 }

variable {naming : Naming} {query : Query}

/-- The two statements differ in nothing but what they are for. -/
theorem statementOf_asFirst (table : String) :
    query.asFirst.statementOf (query.asFirst.templateOn naming table) =
      { query.asSingle.statementOf (query.asSingle.templateOn naming table) with
        method := .first } := rfl

end Query

/-! ## Tidying the first row -/

/-- The first of the tidied rows is the tidied first row. -/
theorem head?_map_lowerKeys (rows : Option (List Json)) :
    ((rows.getD []).map Json.lowerKeys).head?.getD .null =
      ((rows.bind List.head?).getD .null).lowerKeys := by
  cases rows with
  | none => rfl
  | some items =>
    cases items with
    | nil => rfl
    | cons item items => rfl

variable {client : Client} {query : Query}

theorem outcome_select (hkind : client.kind = .snowflake) (hrule : client.config.rule = none)
    (hmethod : query.method = .select) (t : Template) (rows : Option (List Json))
    (info : Option StatementInfo) :
    client.outcome (query.statementOf t) (some { rows := rows, statement := info }) =
      .rows ((rows.getD []).map Json.lowerKeys) := by
  unfold Client.outcome
  rw [Client.finish_eq_tidy hkind hrule, Query.shape_select hmethod]
  rfl

theorem outcome_first (hkind : client.kind = .snowflake) (hrule : client.config.rule = none)
    (hmethod : query.method = .first) (t : Template) (rows : Option (List Json))
    (info : Option StatementInfo) :
    client.outcome (query.statementOf t) (some { rows := rows, statement := info }) =
      .row (((rows.getD []).map Json.lowerKeys).head?.getD .null) := by
  unfold Client.outcome
  rw [Client.finish_eq_tidy hkind hrule, Query.shape_first hmethod, head?_map_lowerKeys]
  rfl

/-- Of any query, the first row and the selection of one row at most are refused for the same
reason, or become one statement for two ends.  Without a rule of the caller's own the first row is
then the first of the selected ones, or null if there are none, whatever the response, and so it
is in every run. -/
theorem first_beside_single (client : Client) (query : Query) :
    (∃ error, client.compileQuery query.asFirst = .error error ∧
      client.compileQuery query.asSingle = .error error) ∨
    ∃ first single : Statement,
      client.compileQuery query.asFirst = .ok first ∧
      client.compileQuery query.asSingle = .ok single ∧
      first = { single with method := .first } ∧
      (client.kind = .snowflake → client.config.rule = none →
        (∀ response : Response, ∃ items,
          items = (response.rows.getD []).map Json.lowerKeys ∧
          client.outcome single (some response) = .rows items ∧
          client.outcome first (some response) = .row (items.head?.getD .null)) ∧
        ∀ rows : Option (List Json), ∃ items,
          items = (rows.getD []).map Json.lowerKeys ∧
          client.Returns single rows (.rows items) ∧
          client.Returns first rows (.row (items.head?.getD .null))) := by
  by_cases hreturning : query.returning = []
  · cases htable : query.table with
    | none =>
      exact .inl ⟨_, Query.compile_of_refused (.noTable hreturning nofun htable),
        Query.compile_of_refused (.noTable hreturning nofun htable)⟩
    | some table =>
      obtain ⟨hfirst, hfirstText⟩ := query.asFirst.compile_of_reads client.compilerNaming rfl
        hreturning htable
      obtain ⟨hsingle, hsingleText⟩ := query.asSingle.compile_of_reads client.compilerNaming rfl
        hreturning htable
      refine .inr ⟨_, _, hfirst, hsingle, Query.statementOf_asFirst table, fun hkind hrule =>
        ⟨fun response => ?_, fun rows => ?_⟩⟩
      · exact ⟨_, rfl, outcome_select hkind hrule rfl _ response.rows response.statement,
          outcome_first hkind hrule rfl _ response.rows response.statement⟩
      · refine ⟨_, rfl, ?_, ?_⟩
        · exact Client.returns_of_outcome hsingleText fun info =>
            outcome_select hkind hrule rfl _ rows (some info)
        · exact Client.returns_of_outcome hfirstText fun info =>
            outcome_first hkind hrule rfl _ rows (some info)
  · exact .inl ⟨_, Query.compile_of_refused (.returning hreturning),
      Query.compile_of_refused (.returning hreturning)⟩

/-- A selection with a window of its own. -/
def ranked : Query := (Query.select "t").applyAll [.orderBy "score" true, .limit 5, .offset 2]

/-- Of two rows the first comes back, and of none null. -/
theorem first_beside_single_ranked :
    ∃ first, ({} : Client).compileQuery ranked.asFirst = .ok first ∧
      first.sql = "select * from \"T\" order by \"SCORE\" desc limit 1 offset 2" ∧
      ({} : Client).outcome first (some { rows := some [.obj [("ID", .int 7)], .obj []] }) =
        .row (.obj [("id", .int 7)]) ∧
      ({} : Client).outcome first (some {}) = .row .null := by
  have hcompile : ({} : Client).compileQuery ranked.asFirst =
      .ok (ranked.asFirst.statementOf (ranked.asFirst.templateOn .folded "t")) := rfl
  have hlower := Json.lowerKeys_singleton (show Text.lowerString "ID" = "id" by decide +kernel)
    (.int 7)
  obtain ⟨error, herror, -⟩ | ⟨first, single, hfirst, -, -, hgives⟩ :=
    first_beside_single {} ranked
  · rw [hcompile] at herror
    cases herror
  · obtain ⟨houtcome, -⟩ := hgives rfl rfl
    obtain ⟨items, rfl, -, htwo⟩ := houtcome { rows := some [.obj [("ID", .int 7)], .obj []] }
    obtain ⟨none, rfl, -, hnone⟩ := houtcome {}
    refine ⟨first, hfirst, ?_, htwo.trans (congrArg Outcome.row hlower), hnone⟩
    rw [hcompile] at hfirst
    cases hfirst
    decide +kernel

end SnowflakeSql
