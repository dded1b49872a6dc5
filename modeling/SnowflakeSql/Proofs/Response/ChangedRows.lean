import Mathlib.Algebra.Ring.Int.Defs
import Mathlib.Algebra.Order.BigOperators.Group.List
import SnowflakeSql.Client

/-!
# How many rows were changed

The backend reports changed rows in one field of its rows, which is a field of its own for inserted,
updated and deleted rows, and a row without an integer of 64 bits there reports nothing
(`Json.Reports`).  `Tallied` lists the counts of a response.  If there are none the response is
passed on as it came, and otherwise the outcome is their sum.  The sum is kept within 64 bits after
each addition, which for counts that are not negative is the same as adding them all and cutting the
sum off at the greatest such integer (`foldl_saturate_of_nonneg`), so neither the order of the rows
nor a row without a count makes a difference (`exists_countsChanges`).
-/

namespace SnowflakeSql

/-! ## What rows report -/

/-- The row is an object that has the number, an integer of 64 bits, under the field. -/
def Json.Reports (row : Json) (field : String) (n : Int) : Prop :=
  ∃ fields : Fields Json, row = .obj fields ∧ fields.get? field = some (.int n) ∧
    Json.minInt64 ≤ n ∧ n ≤ Json.maxInt64

/-- The counts that rows report under a field, in the order of the rows. -/
inductive Tallied (field : String) : List Json → List Int → Prop
  | nil : Tallied field [] []
  | count {row : Json} {rows : List Json} {n : Int} {counts : List Int} :
    row.Reports field n → Tallied field rows counts → Tallied field (row :: rows) (n :: counts)
  | silent {row : Json} {rows : List Json} {counts : List Int} :
    (∀ n, ¬row.Reports field n) → Tallied field rows counts → Tallied field (row :: rows) counts

theorem Json.int64?_eq_some_iff {json : Json} {n : Int} :
    json.int64? = some n ↔ json = .int n ∧ Json.minInt64 ≤ n ∧ n ≤ Json.maxInt64 := by
  cases json with
  | int m =>
    unfold int64?
    dsimp only
    rw [Option.ite_none_right_eq_some, Option.some.injEq, Json.int.injEq]
    exact ⟨fun ⟨hrange, hm⟩ => ⟨hm, hm ▸ hrange⟩, fun ⟨hm, hrange⟩ => ⟨hm ▸ hrange, hm⟩⟩
  | _ => exact ⟨fun h => (nomatch h), fun h => nomatch h.1⟩

theorem reports_iff {row : Json} {field : String} {n : Int} :
    row.Reports field n ↔ (row.get? field).bind Json.int64? = some n := by
  simp only [Option.bind_eq_some_iff, Json.int64?_eq_some_iff]
  cases row with
  | obj fields =>
    refine ⟨fun ⟨fields', hobj, hget, hrange⟩ => ⟨_, ?_, rfl, hrange⟩,
      fun ⟨value, hget, hvalue, hrange⟩ => ⟨fields, rfl, hvalue ▸ hget, hrange⟩⟩
    cases hobj
    exact hget
  | _ => exact ⟨fun ⟨_, hobj, _⟩ => (nomatch hobj), fun ⟨_, hget, _⟩ => nomatch hget⟩

instance decidableReportsAny (row : Json) (field : String) :
    Decidable (∃ n, row.Reports field n) :=
  decidable_of_iff (((row.get? field).bind Json.int64?).isSome = true) <| by
    simp only [Option.isSome_iff_exists, reports_iff]

theorem reportedCounts_cons_of_reports {row : Json} {field : String} {n : Int}
    (h : row.Reports field n) (rows : List Json) :
    reportedCounts field (row :: rows) = n :: reportedCounts field rows :=
  List.filterMap_cons_some (reports_iff.mp h)

theorem reportedCounts_cons_of_silent {row : Json} {field : String}
    (h : ∀ n, ¬row.Reports field n) (rows : List Json) :
    reportedCounts field (row :: rows) = reportedCounts field rows := by
  refine List.filterMap_cons_none (Option.eq_none_iff_forall_ne_some.mpr fun n hn => ?_)
  exact h n (reports_iff.mpr hn)

/-- Rows have one list of counts. -/
theorem tallied_iff {field : String} {rows : List Json} {counts : List Int} :
    Tallied field rows counts ↔ counts = reportedCounts field rows := by
  constructor
  · intro h
    induction h with
    | nil => rfl
    | count hrow _ ih => rw [reportedCounts_cons_of_reports hrow, ih]
    | silent hrow _ ih => rw [reportedCounts_cons_of_silent hrow, ih]
  · rintro rfl
    induction rows with
    | nil => exact .nil
    | cons row rows ih =>
      by_cases hrow : ∃ n, row.Reports field n
      · obtain ⟨n, hn⟩ := hrow
        rw [reportedCounts_cons_of_reports hn]
        exact .count hn ih
      · have hsilent := not_exists.mp hrow
        rw [reportedCounts_cons_of_silent hsilent]
        exact .silent hsilent ih

theorem range_of_mem_reportedCounts {field : String} {rows : List Json} {n : Int}
    (h : n ∈ reportedCounts field rows) : Json.minInt64 ≤ n ∧ n ≤ Json.maxInt64 := by
  obtain ⟨row, -, hrow⟩ := List.mem_filterMap.mp h
  obtain ⟨_, -, -, hrange⟩ := reports_iff.mpr hrow
  exact hrange

/-- Rows that report nothing may be left out. -/
theorem reportedCounts_filter (field : String) (rows : List Json) :
    reportedCounts field (rows.filter fun row => ∃ n, row.Reports field n) =
      reportedCounts field rows := by
  unfold reportedCounts
  rw [List.filterMap_filter]
  refine List.filterMap_congr fun row _ => ?_
  by_cases hrow : ∃ n, row.Reports field n
  · exact if_pos (decide_eq_true hrow)
  · refine (if_neg (by simpa using hrow)).trans (Eq.symm ?_)
    exact Option.eq_none_iff_forall_ne_some.mpr fun n hn => hrow ⟨n, reports_iff.mpr hn⟩

/-! ## Adding counts up -/

theorem saturate_range (n : Int) : Json.minInt64 ≤ saturate n ∧ saturate n ≤ Json.maxInt64 := by
  unfold saturate Json.minInt64 Json.maxInt64
  omega

/-- A sum of counts that are not negative is cut off at most once, at the end. -/
theorem foldl_saturate_of_nonneg {counts : List Int} (h : ∀ n ∈ counts, 0 ≤ n) {start : Int}
    (hlow : 0 ≤ start) (hhigh : start ≤ Json.maxInt64) :
    counts.foldl (fun sum count => saturate (sum + count)) start =
      min (start + counts.sum) Json.maxInt64 := by
  induction counts generalizing start with
  | nil => rw [List.foldl_nil, List.sum_nil, add_zero, min_eq_left hhigh]
  | cons n counts ih =>
    have hn : 0 ≤ n := h n List.mem_cons_self
    have hrest : ∀ m ∈ counts, 0 ≤ m := fun m hm => h m (List.mem_cons_of_mem n hm)
    have hsum : 0 ≤ counts.sum := List.sum_nonneg hrest
    have hstep : saturate (start + n) = min (start + n) Json.maxInt64 := by
      unfold saturate Json.minInt64 Json.maxInt64
      omega
    have hnext : 0 ≤ min (start + n) Json.maxInt64 := by
      unfold Json.maxInt64
      omega
    rw [List.foldl_cons, hstep, ih hrest hnext (min_le_right _ _), List.sum_cons]
    omega

theorem foldl_saturate_range (counts : List Int) {start : Int}
    (h : Json.minInt64 ≤ start ∧ start ≤ Json.maxInt64) :
    Json.minInt64 ≤ counts.foldl (fun sum count => saturate (sum + count)) start ∧
      counts.foldl (fun sum count => saturate (sum + count)) start ≤ Json.maxInt64 := by
  induction counts generalizing start with
  | nil => exact h
  | cons n counts ih => exact ih (saturate_range (start + n))

theorem totalCount?_of_nonneg {counts : List Int} (hne : counts ≠ []) (hlow : ∀ n ∈ counts, 0 ≤ n)
    (hhigh : ∀ n ∈ counts, n ≤ Json.maxInt64) :
    totalCount? counts = some (min counts.sum Json.maxInt64) := by
  cases counts with
  | nil => exact absurd rfl hne
  | cons n counts =>
    rw [List.sum_cons]
    exact congrArg some (foldl_saturate_of_nonneg (List.forall_mem_cons.mp hlow).2
      (hlow n List.mem_cons_self) (hhigh n List.mem_cons_self))

theorem range_of_totalCount? {counts : List Int} {total : Int} (h : totalCount? counts = some total)
    (hrange : ∀ n ∈ counts, Json.minInt64 ≤ n ∧ n ≤ Json.maxInt64) :
    Json.minInt64 ≤ total ∧ total ≤ Json.maxInt64 := by
  cases counts with
  | nil => cases h
  | cons n counts =>
    cases h
    exact foldl_saturate_range counts (hrange n List.mem_cons_self)

/-! ## The outcome -/

namespace Statement

variable {statement : Statement} {field : String}

/-- How the outcome of a statement that changes rows comes of the counts in a response. -/
structure CountsChanges (statement : Statement) (field : String) (response : Response)
    (counts : List Int) : Prop where
  tallied : Tallied field (response.rows.getD []) counts
  /-- Without a count the response is the outcome. -/
  raw : counts = [] → statement.shape (some response) = .raw response
  /-- Counts are added up, and a sum beyond 64 bits is cut off. -/
  total : counts ≠ [] → (∀ n ∈ counts, 0 ≤ n) →
    statement.shape (some response) = .count (min counts.sum Json.maxInt64)
  /-- The order of the rows makes no difference, and rows without a count make none. -/
  order : counts ≠ [] → (∀ n ∈ counts, 0 ≤ n) → ∀ response' : Response,
    ((response'.rows.getD []).filter fun row => ∃ n, row.Reports field n).Perm
      ((response.rows.getD []).filter fun row => ∃ n, row.Reports field n) →
    statement.shape (some response') = statement.shape (some response)
  /-- A count has 64 bits, and the last step leaves it as it is. -/
  kept : ∀ n, statement.shape (some response) = .count n →
    Json.minInt64 ≤ n ∧ n ≤ Json.maxInt64 ∧
    ∀ client : Client, client.config.rule = none →
      client.outcome statement (some response) = .count n

theorem affectedRows?_eq (hfield : statement.method.affectedRowsField? = some field)
    (response : Response) : affectedRows? statement.method response =
      totalCount? (reportedCounts field (response.rows.getD [])) := by
  unfold affectedRows?
  rw [hfield]
  cases response.rows with
  | none => rfl
  | some rows => rfl

theorem shape_of_affectedRowsField? (houtput : statement.output = none)
    (hfield : statement.method.affectedRowsField? = some field) (response : Response) :
    statement.shape (some response) =
      match totalCount? (reportedCounts field (response.rows.getD [])) with
      | some count => .count count
      | none => .raw response := by
  rw [← affectedRows?_eq hfield]
  unfold shape shapeByMethod
  rw [houtput]
  generalize hm : statement.method = method at hfield ⊢
  cases method <;> cases hfield <;> rfl

theorem shape_of_nonneg (houtput : statement.output = none)
    (hfield : statement.method.affectedRowsField? = some field) {response : Response}
    (hne : reportedCounts field (response.rows.getD []) ≠ [])
    (hlow : ∀ n ∈ reportedCounts field (response.rows.getD []), 0 ≤ n) :
    statement.shape (some response) =
      .count (min (reportedCounts field (response.rows.getD [])).sum Json.maxInt64) := by
  rw [shape_of_affectedRowsField? houtput hfield,
    totalCount?_of_nonneg hne hlow fun n hn => (range_of_mem_reportedCounts hn).2]

/-- The rows that report a count decide the outcome, in whatever order they come. -/
theorem shape_eq_of_perm (houtput : statement.output = none)
    (hfield : statement.method.affectedRowsField? = some field) {response response' : Response}
    (hne : reportedCounts field (response.rows.getD []) ≠ [])
    (hlow : ∀ n ∈ reportedCounts field (response.rows.getD []), 0 ≤ n)
    (hperm : ((response'.rows.getD []).filter fun row => ∃ n, row.Reports field n).Perm
      ((response.rows.getD []).filter fun row => ∃ n, row.Reports field n)) :
    statement.shape (some response') = statement.shape (some response) := by
  have hcounts : (reportedCounts field (response'.rows.getD [])).Perm
      (reportedCounts field (response.rows.getD [])) := by
    rw [← reportedCounts_filter field (response'.rows.getD []),
      ← reportedCounts_filter field (response.rows.getD [])]
    exact hperm.filterMap _
  have hne' : reportedCounts field (response'.rows.getD []) ≠ [] := fun h =>
    hne (List.perm_nil.mp (h ▸ hcounts.symm))
  rw [shape_of_nonneg houtput hfield hne hlow, shape_of_nonneg houtput hfield hne' fun n hn =>
    hlow n (hcounts.mem_iff.mp hn), hcounts.sum_eq]

theorem countsChanges_reportedCounts (houtput : statement.output = none)
    (hfield : statement.method.affectedRowsField? = some field) (response : Response) :
    statement.CountsChanges field response (reportedCounts field (response.rows.getD [])) where
  tallied := tallied_iff.mpr rfl
  raw hnil := by rw [shape_of_affectedRowsField? houtput hfield, hnil]; rfl
  total hne hlow := shape_of_nonneg houtput hfield hne hlow
  order hne hlow _ hperm := shape_eq_of_perm houtput hfield hne hlow hperm
  kept n hn := by
    have hrange : Json.minInt64 ≤ n ∧ n ≤ Json.maxInt64 := by
      rw [shape_of_affectedRowsField? houtput hfield] at hn
      split at hn
      · next total htotal =>
        cases hn
        exact range_of_totalCount? htotal fun _ => range_of_mem_reportedCounts
      · cases hn
    refine ⟨hrange.1, hrange.2, fun client hrule => ?_⟩
    unfold Client.outcome Client.finish Outcome.finish
    rw [hn, hrule]
    cases client.kind <;> rfl

/-- A statement that changes rows and has no rule of its own gives the number of changed rows: the
sum of the counts in the response if there are any, and otherwise the response. -/
theorem exists_countsChanges (houtput : statement.output = none)
    (hfield : statement.method = .insert ∧ field = "number of rows inserted" ∨
      statement.method = .update ∧ field = "number of rows updated" ∨
      statement.method = .delete ∧ field = "number of rows deleted") (response : Response) :
    ∃ counts, statement.CountsChanges field response counts := by
  refine ⟨_, countsChanges_reportedCounts houtput ?_ response⟩
  rcases hfield with ⟨hmethod, rfl⟩ | ⟨hmethod, rfl⟩ | ⟨hmethod, rfl⟩ <;> rw [hmethod] <;> rfl

end Statement

/-- A response with counts in two of its rows, whose sum has more than 64 bits. -/
def overflowingResponse : Response where
  rows := some [.obj [("number of rows inserted", .int 9223372036854775807)],
    .obj [("other", .int 4)], .obj [("number of rows inserted", .str "2")], .null,
    .obj [("number of rows inserted", .int 5)]]

/-- The count stops at the greatest integer of 64 bits, also if the rows come the other way
round. -/
theorem exists_countsChanges_overflowing :
    ({ sql := "insert into t", method := .insert } : Statement).shape (some overflowingResponse) =
        .count 9223372036854775807 ∧
      ({ sql := "insert into t", method := .insert } : Statement).shape
        (some { rows := overflowingResponse.rows.map List.reverse }) =
          .count 9223372036854775807 := by
  obtain ⟨counts, hcounts⟩ :=
    @Statement.exists_countsChanges { sql := "insert into t", method := .insert }
      "number of rows inserted" rfl (.inl ⟨rfl, rfl⟩) overflowingResponse
  have hlist : counts = [9223372036854775807, 5] := tallied_iff.mp hcounts.tallied
  subst hlist
  have htotal := hcounts.total (by decide) (by decide)
  exact ⟨htotal, (hcounts.order (by decide) (by decide)
    { rows := overflowingResponse.rows.map List.reverse }
    ((List.reverse_perm _).filter _)).trans htotal⟩

end SnowflakeSql
