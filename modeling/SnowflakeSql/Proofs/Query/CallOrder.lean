import SnowflakeSql.Proofs.Query.BoundData

/-!
# The order of calls

Each kind of call writes a clause of its own, so calls of different kinds can change places
(`QueryCall.apply_comm`).  Two sequences that have the same calls of each kind in the same order
(`SameByKind`) therefore lead from one query to the same query (`Query.applyAll_of_sameByKind`),
which compiles to one statement or fails for one reason.  The clauses that are lists grow by what
the calls add to them (`Query.clause_applyAll`): an update binds what is assigned, in order, and
then the values of its conditions, however the calls were mixed.
-/

namespace SnowflakeSql

namespace QueryCall

/-- The kinds of calls, one for each clause. -/
inductive Kind where
  | columns
  | condition
  | orderBy
  | limit
  | offset
  | row
  | set
  | returning
  | option
  | context
  deriving DecidableEq, Repr

/-- The kind of a call. -/
def kind : QueryCall → Kind
  | columns _ => .columns
  | condition _ => .condition
  | orderBy _ _ => .orderBy
  | limit _ => .limit
  | offset _ => .offset
  | row _ => .row
  | set _ _ => .set
  | returning _ => .returning
  | option _ _ => .option
  | context _ => .context

/-- The conditions that a call adds. -/
def addedConditions : QueryCall → List Condition
  | condition c => [c]
  | _ => []

/-- The assignments that a call adds. -/
def addedAssignments : QueryCall → List (String × Value)
  | set column value => [(column, value)]
  | _ => []

/-- Calls of different kinds can change places. -/
theorem apply_comm (query : Query) {a b : QueryCall} (h : a.kind ≠ b.kind) :
    apply (apply query a) b = apply (apply query b) a := by
  cases a <;> cases b <;> first | rfl | exact absurd rfl h

end QueryCall

/-- The same calls of each kind, in the same order. -/
def SameByKind (xs ys : List QueryCall) : Prop :=
  ∀ kind, xs.filter (fun call => call.kind = kind) = ys.filter fun call => call.kind = kind

namespace SameByKind

variable {call : QueryCall} {xs ys : List QueryCall}

theorem nil_left (h : SameByKind [] ys) : ys = [] := by
  cases ys with
  | nil => rfl
  | cons call ys =>
    have hkind := h call.kind
    simp at hkind

/-- The first call of one sequence is in the other the first of its kind, and without it the two
sequences still have the same calls. -/
theorem cons_left (h : SameByKind (call :: xs) ys) :
    ∃ before after, ys = before ++ call :: after ∧
      (∀ earlier ∈ before, earlier.kind ≠ call.kind) ∧ SameByKind xs (before ++ after) := by
  have hcall := (h call.kind).symm
  rw [List.filter_cons_of_pos (by simp)] at hcall
  obtain ⟨before, after, rfl, hbefore, -, hafter⟩ := List.filter_eq_cons_iff.mp hcall
  have hother : ∀ earlier ∈ before, earlier.kind ≠ call.kind := by
    intro earlier hearlier
    simpa using hbefore earlier hearlier
  refine ⟨before, after, rfl, hother, fun kind => ?_⟩
  by_cases hkind : call.kind = kind
  · subst hkind
    have hnone : before.filter (fun earlier => earlier.kind = call.kind) = [] := by
      simpa [List.filter_eq_nil_iff] using hother
    rw [List.filter_append, hnone, hafter]
    rfl
  · have hrest := h kind
    rw [List.filter_cons_of_neg (by simpa using hkind), List.filter_append,
      List.filter_cons_of_neg (by simpa using hkind)] at hrest
    rw [hrest, List.filter_append]

end SameByKind

namespace Query

variable {naming : Naming} {query : Query} {xs ys : List QueryCall}

theorem applyAll_cons (query : Query) (call : QueryCall) (calls : List QueryCall) :
    query.applyAll (call :: calls) = (call.apply query).applyAll calls := rfl

/-- A call can be made before all calls of other kinds. -/
theorem applyAll_append_cons {call : QueryCall} {before : List QueryCall}
    (h : ∀ earlier ∈ before, earlier.kind ≠ call.kind) (query : Query)
    (after : List QueryCall) :
    query.applyAll (before ++ call :: after) = query.applyAll (call :: (before ++ after)) := by
  induction before generalizing query with
  | nil => rfl
  | cons first before ih =>
    obtain ⟨hfirst, hbefore⟩ := List.forall_mem_cons.mp h
    calc query.applyAll (first :: (before ++ call :: after))
        = (first.apply query).applyAll (call :: (before ++ after)) := ih hbefore _
      _ = (call.apply (first.apply query)).applyAll (before ++ after) := rfl
      _ = (first.apply (call.apply query)).applyAll (before ++ after) := by
        rw [QueryCall.apply_comm query hfirst]

/-- Only the order of the calls of one kind matters. -/
theorem applyAll_of_sameByKind (h : SameByKind xs ys) (query : Query) :
    query.applyAll xs = query.applyAll ys := by
  induction xs generalizing query ys with
  | nil => rw [h.nil_left]
  | cons call xs ih =>
    obtain ⟨before, after, rfl, hbefore, hrest⟩ := h.cons_left
    rw [applyAll_append_cons hbefore]
    exact ih hrest _

/-! ## What the calls leave in a clause -/

/-- A clause to which each call adds what it has for it, has all of that in the end, in order. -/
theorem clause_applyAll {α : Type} {clause : Query → List α} {added : QueryCall → List α}
    (h : ∀ query call, clause (call.apply query) = clause query ++ added call) (query : Query)
    (calls : List QueryCall) :
    clause (query.applyAll calls) = clause query ++ calls.flatMap added := by
  induction calls generalizing query with
  | nil => exact (List.append_nil _).symm
  | cons call calls ih =>
    rw [applyAll_cons, ih, h, List.flatMap_cons, List.append_assoc]

theorem conditions_applyAll (query : Query) (calls : List QueryCall) :
    (query.applyAll calls).conditions =
      query.conditions ++ calls.flatMap QueryCall.addedConditions := by
  refine clause_applyAll (fun query call => ?_) query calls
  cases call with
  | condition c => rfl
  | _ => exact (List.append_nil _).symm

theorem assignments_applyAll (query : Query) (calls : List QueryCall) :
    (query.applyAll calls).assignments =
      query.assignments ++ calls.flatMap QueryCall.addedAssignments := by
  refine clause_applyAll (fun query call => ?_) query calls
  cases call with
  | set column value => rfl
  | _ => exact (List.append_nil _).symm

theorem method_applyAll (query : Query) (calls : List QueryCall) :
    (query.applyAll calls).method = query.method := by
  induction calls generalizing query with
  | nil => rfl
  | cons call calls ih =>
    rw [applyAll_cons, ih]
    cases call <;> rfl

/-- An update binds what is assigned and then the values of its conditions. -/
theorem binds_of_compile_update {statement : Statement} (hupdate : query.method = .update)
    (h : query.compile naming = .ok statement) :
    statement.binds = query.assignments.map Prod.snd ++
      query.conditions.flatMap Placeholder.conditionValues := by
  have hraw : query.method ≠ .raw := by
    rw [hupdate]
    exact nofun
  obtain ⟨-, table, htable, -, rfl⟩ := (compile_eq_ok_iff hraw).mp h
  have hbinds : (query.templateOn naming table).binds = Placeholder.boundValues query :=
    binds_templateOn htable
  unfold Placeholder.boundValues at hbinds
  rw [hupdate] at hbinds
  exact hbinds

/-- From any query on, two sequences of the same calls of each kind lead to one and the same
statement or error.  An update binds the assigned values and then those of the conditions, each
in the order of its own calls. -/
theorem compile_applyAll_of_sameByKind (naming : Naming) (query : Query) {xs ys : List QueryCall}
    (h : SameByKind xs ys) :
    (query.applyAll xs).compile naming = (query.applyAll ys).compile naming ∧
    ∀ statement, query.method = .update →
      (query.applyAll ys).compile naming = .ok statement →
        statement.binds =
          (query.assignments ++ xs.flatMap QueryCall.addedAssignments).map Prod.snd ++
          (query.conditions ++ xs.flatMap QueryCall.addedConditions).flatMap
            Placeholder.conditionValues := by
  have hsame := applyAll_of_sameByKind h query
  refine ⟨congrArg (compile naming) hsame, fun statement hupdate hcompile => ?_⟩
  rw [← hsame] at hcompile
  have hbinds := binds_of_compile_update ((method_applyAll query xs).trans hupdate) hcompile
  rw [hbinds, assignments_applyAll, conditions_applyAll]

/-- The calls of an update, mixed and clause by clause. -/
def mixedCalls : List QueryCall :=
  [.whereEq "id" (.int 7), .set "a" (.int 1), .condition (.isNull "c" false), .set "b" (.int 2)]

def clauseByClause : List QueryCall :=
  [.set "a" (.int 1), .set "b" (.int 2), .whereEq "id" (.int 7), .condition (.isNull "c" false)]

/-- Both make the same statement, with the values of the assignments first. -/
theorem compile_applyAll_of_sameByKind_mixedCalls :
    SameByKind mixedCalls clauseByClause ∧ ∃ statement,
      ((update "t").applyAll mixedCalls).compile .folded = .ok statement ∧
      ((update "t").applyAll clauseByClause).compile .folded = .ok statement ∧
      statement.binds = [.int 1, .int 2, .int 7] := by
  have hsame : SameByKind mixedCalls clauseByClause := fun kind => by cases kind <;> rfl
  obtain ⟨hcompile, hbinds⟩ := compile_applyAll_of_sameByKind .folded (update "t") hsame
  exact ⟨hsame, _, hcompile, rfl, hbinds _ rfl rfl⟩

end Query

end SnowflakeSql
