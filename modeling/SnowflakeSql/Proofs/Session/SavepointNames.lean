import Mathlib.Data.List.Nodup
import SnowflakeSql.Proofs.Session.Ledger
import SnowflakeSql.Proofs.Text.Runs

/-!
# The names of savepoints

Transactions get their names from a counter of 64 bits, so the names are all different as long as
the counter has not come round (`nodup_names_iff`).  The savepoint that a statement is about can be
read off its text (`savepointOf?`): it is the one that is named after the transaction that sent it,
whatever the operation (`savepointOf?_sql`).  So no transaction touches the savepoint of another
one, in whatever order transactions are created and operations are asked, polled and given up
(`savepointsApart_of_reachable`).
-/

namespace SnowflakeSql

/-! ## Reading a name off a statement -/

/-- The savepoint that a statement is about: what stands after the words, up to the end of the
statement. -/
def savepointOf? (sql : String) : Option String :=
  savepointWords.findSome? fun words =>
    (words.toList.isPrefixOf? sql.toList).map fun rest =>
      String.ofList (rest.takeWhile (· != ';'))

theorem isSome_savepointOf? (sql : String) :
    (savepointOf? sql).isSome = isAboutSavepoint sql := by
  unfold savepointOf? isAboutSavepoint
  rw [List.isSome_findSome?]
  refine congrArg savepointWords.any (funext fun words => ?_)
  rw [Option.isSome_map, List.isSome_isPrefixOf?_eq_isPrefixOf]

/-- No two of the words begin alike. -/
theorem savepointOf?_append {words : String} (h : words ∈ savepointWords) (rest : String) :
    savepointOf? (words ++ rest) = some (String.ofList (rest.toList.takeWhile (· != ';'))) := by
  unfold savepointOf?
  rw [String.toList_append]
  unfold savepointWords at h ⊢
  simp only [List.mem_cons, List.not_mem_nil, or_false] at h
  rcases h with rfl | rfl | rfl <;> rfl

namespace Transaction

theorem ne_of_mem_name {t : Transaction} {c : Char} (h : c ∈ t.name.toList) : c ≠ ';' := by
  unfold name at h
  rw [String.toList_append] at h
  rcases List.mem_append.mp h with hword | hdigit
  · rintro rfl
    exact absurd hword (by decide)
  · rintro rfl
    rw [Nat.toString_eq_ofList_toDigits, String.toList_ofList] at hdigit
    exact absurd (Nat.isDigit_of_mem_toDigits (by decide) (by decide) hdigit) (by decide)

theorem savepointOf?_savepointSql (t : Transaction) {words : String}
    (h : words ++ " " ∈ savepointWords) : savepointOf? (t.savepointSql words) = some t.name := by
  unfold savepointSql
  have hrest : ∀ c ∈ (";".toList).head?, (c != ';') = false := by
    intro c hc
    obtain rfl : ';' = c := Option.some.inj hc
    rfl
  rw [String.append_assoc, savepointOf?_append h, String.toList_append,
    Text.takeWhile_run (fun c hc => bne_iff_ne.mpr (ne_of_mem_name hc)) hrest,
    String.ofList_toList]

/-- What touches a savepoint is about the one that bears the name of the transaction, whatever the
operation, and nothing else is about any. -/
theorem savepointOf?_sql (t : Transaction) (op : TransactionOp) :
    savepointOf? (t.sql op) = if t.touchesSavepoint op then some t.name else none := by
  have hset : savepointOf? (t.savepointSql "SAVEPOINT") = some t.name :=
    t.savepointOf?_savepointSql (by decide)
  have hrelease : savepointOf? (t.savepointSql "RELEASE SAVEPOINT") = some t.name :=
    t.savepointOf?_savepointSql (by decide)
  have hback : savepointOf? (t.savepointSql "ROLLBACK TO SAVEPOINT") = some t.name :=
    t.savepointOf?_savepointSql (by decide)
  have hbegin : savepointOf? "BEGIN;" = none := by decide
  have hcommit : savepointOf? "COMMIT;" = none := by decide
  have hrollback : savepointOf? "ROLLBACK;" = none := by decide
  unfold touchesSavepoint
  cases op <;> cases hnested : t.nested <;> simp [sql, TransactionOp.isSavepoint, *]

/-- A name that begins like another one is told from it. -/
example : savepointOf? "RELEASE SAVEPOINT trx11;" = some "trx11" ∧
    savepointOf? "RELEASE SAVEPOINT trx1;" = some "trx1" := by decide

/-! ## Numbers -/

/-- A number can be read off its digits. -/
theorem toString_injective : Function.Injective (toString : Nat → String) := by
  intro n m h
  have hdigits : Nat.toDigits 10 n = Nat.toDigits 10 m := by
    rw [Nat.toString_eq_ofList_toDigits, Nat.toString_eq_ofList_toDigits] at h
    exact String.ofList_injective h
  calc n = Nat.ofDigitChars 10 (Nat.toDigits 10 n) 0 := Nat.ofDigitChars_ten_toDigits.symm
    _ = Nat.ofDigitChars 10 (Nat.toDigits 10 m) 0 := by rw [hdigits]
    _ = m := Nat.ofDigitChars_ten_toDigits

/-- The counter gives every number once before it comes round. -/
theorem numberAfter_inj {j k : Nat} (hj : j < UInt64.size) (hk : k < UInt64.size)
    (h : numberAfter j = numberAfter k) : j = k := by
  unfold numberAfter at h
  have heq := congrArg UInt64.toNat (UInt64.add_right_inj 1 |>.mp h)
  rwa [UInt64.toNat_ofNat_of_lt' hj, UInt64.toNat_ofNat_of_lt' hk] at heq

theorem numberAfter_size : numberAfter UInt64.size = numberAfter 0 := by decide

end Transaction

namespace Ledger

variable {σ : Type} {B : Backend σ}

/-- The names are different exactly if not more transactions were created than there are
numbers. -/
theorem Law.nodup_names_iff {l : Ledger σ} (law : Law l) :
    (l.created.map Transaction.name).Nodup ↔ l.created.length ≤ UInt64.size := by
  have hname : Function.Injective fun n : Nat => "trx" ++ toString n := fun n m h =>
    Transaction.toString_injective ((String.append_right_inj "trx").mp h)
  have hnames : l.created.map Transaction.name =
      (l.created.map Transaction.number).map fun n => "trx" ++ toString n := by
    rw [List.map_map]
    rfl
  rw [hnames, List.nodup_map_iff hname, law.numbers, List.nodup_map_iff_inj_on List.nodup_range]
  constructor
  · intro hinj
    by_contra hmore
    have hsize := hinj UInt64.size (List.mem_range.mpr (Nat.lt_of_not_le hmore)) 0
      (List.mem_range.mpr (by omega)) (congrArg UInt64.toNat Transaction.numberAfter_size)
    exact absurd hsize (by decide)
  · intro hfew j hj k hk hnumber
    exact Transaction.numberAfter_inj (Nat.lt_of_lt_of_le (List.mem_range.mp hj) hfew)
      (Nat.lt_of_lt_of_le (List.mem_range.mp hk) hfew) (UInt64.toNat_inj.mp hnumber)

/-! ## What transactions send -/

/-- Transactions do not touch each other's savepoints. -/
structure SavepointsApart (B : Backend σ) (l : Ledger σ) : Prop where
  /-- No two transactions have the same name. -/
  names : (l.created.map Transaction.name).Nodup
  /-- What a transaction sends goes to its connection and is the statement of the operation.  If
  the operation touches a savepoint, it is the one named after the transaction, and the transaction
  is one of those that use savepoints. -/
  own : ∀ x ∈ l.sent, ∃ t, l.created[x.transaction]? = some t ∧ x.connection = t.connection ∧
    x.text = t.sql x.op ∧
    savepointOf? x.text = (if t.touchesSavepoint x.op then some t.name else none) ∧
    (isAboutSavepoint x.text = true → t.usesSavepoints = true)
  /-- Two statements are about the same savepoint exactly if the same transaction sent them. -/
  same : ∀ x ∈ l.sent, ∀ y ∈ l.sent, ∀ a b, savepointOf? x.text = some a →
    savepointOf? y.text = some b → (a = b ↔ x.transaction = y.transaction)
  /-- No statement about a savepoint is sent by two transactions. -/
  texts : ∀ x ∈ l.sent, ∀ y ∈ l.sent, x.transaction ≠ y.transaction →
    isAboutSavepoint x.text = true → x.text ≠ y.text
  /-- Where savepoints are used and the connection is idle, an operation sends its statement once
  its task is polled. -/
  sends : ∀ k t op client, l.created[k]? = some t → t.usesSavepoints = true →
    l.system.slotOf t.connection = .idle →
    ((l.ask client k op).act B (.poll l.system.taskCount)).sent =
      l.sent ++ [⟨k, op, t.connection, t.sql op⟩]

/-- A statement about a savepoint is about that of the transaction that sent it. -/
theorem Law.eq_name {l : Ledger σ} (law : Law l) {x : SentText} (hx : x ∈ l.sent) {a : String}
    (ha : savepointOf? x.text = some a) :
    ∃ t, l.created[x.transaction]? = some t ∧ a = t.name ∧ t.usesSavepoints = true := by
  obtain ⟨t, hcreated, hsends⟩ := law.sent x hx
  have hplanned := hsends.planned
  rw [hsends.text, t.savepointOf?_sql] at ha
  rw [t.plan_eq] at hplanned
  split_ifs at ha hplanned with htouches huses
  cases ha
  refine ⟨t, hcreated, rfl, ?_⟩
  by_contra hnot
  exact huses ⟨htouches, Bool.eq_false_iff.mpr hnot⟩

/-- Names tell the transactions apart. -/
theorem eq_of_name_eq {l : Ledger σ} (hnames : (l.created.map Transaction.name).Nodup)
    {j k : Nat} {t u : Transaction} (ht : l.created[j]? = some t) (hu : l.created[k]? = some u)
    (h : t.name = u.name) : j = k := by
  have hname : ∀ {k : Nat} {t : Transaction}, l.created[k]? = some t →
      (l.created.map Transaction.name)[k]? = some t.name := fun hk => by
    rw [List.getElem?_map, hk]
    rfl
  obtain ⟨hj, -⟩ := List.getElem?_eq_some_iff.mp (hname ht)
  exact (List.getElem?_inj hj hnames).mp ((hname ht).trans (h ▸ (hname hu).symm))

/-- As long as the counter has not come round, transactions do not touch each other's savepoints,
whatever was created and asked in whatever order, and whatever the driver does. -/
theorem savepointsApart_of_reachable {l : Ledger σ} (h : Reachable B l)
    (hfew : l.created.length < UInt64.size) : SavepointsApart B l := by
  have law := law_of_reachable h
  have hnames := law.nodup_names_iff.mpr (Nat.le_of_lt hfew)
  have hsame : ∀ x ∈ l.sent, ∀ y ∈ l.sent, ∀ a b, savepointOf? x.text = some a →
      savepointOf? y.text = some b → (a = b ↔ x.transaction = y.transaction) := by
    intro x hx y hy a b ha hb
    obtain ⟨t, ht, rfl, -⟩ := law.eq_name hx ha
    obtain ⟨u, hu, rfl, -⟩ := law.eq_name hy hb
    refine ⟨eq_of_name_eq hnames ht hu, fun htransaction => ?_⟩
    rw [htransaction, hu] at ht
    cases ht
    rfl
  refine ⟨hnames, fun x hx => ?_, hsame, fun x hx y hy hne habout htext => hne ?_,
    fun k t op client hcreated huses hidle => ?_⟩
  · obtain ⟨t, hcreated, hsends⟩ := law.sent x hx
    refine ⟨t, hcreated, hsends.connection, hsends.text, hsends.text ▸ t.savepointOf?_sql x.op,
      fun habout => ?_⟩
    rw [← isSome_savepointOf?] at habout
    obtain ⟨a, ha⟩ := Option.isSome_iff_exists.mp habout
    obtain ⟨u, hu, -, huses⟩ := law.eq_name hx ha
    rw [hcreated] at hu
    cases hu
    exact huses
  · rw [← isSome_savepointOf?] at habout
    obtain ⟨a, ha⟩ := Option.isSome_iff_exists.mp habout
    exact (hsame x hx y hy a a ha (htext ▸ ha)).mp rfl
  · refine sent_ask_poll l hcreated ?_ hidle client
    unfold Transaction.plan
    rw [huses]
    rfl

/-- On each of two connections a transaction sets its savepoint, the second one while its driver
holds the statement of the first one; then the one is given up, and both go on.  A third
transaction uses no savepoints. -/
def twoScopes : Ledger Rehearsal :=
  let opened := List.foldl (act Rehearsal.backend) { system := { backend := {} } }
    [.begin (.acquire {} none), .poll 0, .begin (.acquire {} none), .poll 1]
  let created := ((opened.create 0 false true).create 1 true true).create 0 false false
  let asked := ((created.ask {} 0 .savepoint).ask {} 1 .begin).ask {} 2 .savepoint
  let tried := List.foldl (act Rehearsal.backend) asked
    [.backend fun r => { r with holdsNext := true }, .poll 3, .poll 2, .drop 3]
  List.foldl (act Rehearsal.backend) ((tried.ask {} 1 .rollback).ask {} 0 .release)
    [.poll 5, .poll 4]

theorem savepointsApart_twoScopes :
    Reachable Rehearsal.backend twoScopes ∧ twoScopes.created.length < UInt64.size ∧
      twoScopes.created.map Transaction.name = ["trx1", "trx2", "trx3"] ∧
      twoScopes.sent = [⟨1, .begin, 1, "SAVEPOINT trx2;"⟩, ⟨0, .savepoint, 0, "SAVEPOINT trx1;"⟩,
        ⟨0, .release, 0, "RELEASE SAVEPOINT trx1;"⟩,
        ⟨1, .rollback, 1, "ROLLBACK TO SAVEPOINT trx2;"⟩] ∧
      SavepointsApart Rehearsal.backend twoScopes := by
  have hreach : Reachable Rehearsal.backend twoScopes := by
    have hopened := ((((Reachable.start (B := Rehearsal.backend) {}).act
      (a := .begin (.acquire {} none)) ⟨rfl, fun _ h => nomatch h⟩).act
      (a := .poll 0) trivial).act
      (a := .begin (.acquire {} none)) ⟨rfl, fun _ h => nomatch h⟩).act (a := .poll 1) trivial
    have hcreated := ((hopened.create 0 false true (by decide)).create 1 true true
      (by decide)).create 0 false false (by decide)
    have hasked := ((hcreated.ask {} 0 .savepoint).ask {} 1 .begin).ask {} 2 .savepoint
    have htried := (((hasked.act (a := .backend fun r => { r with holdsNext := true })
      trivial).act (a := .poll 3) trivial).act (a := .poll 2) trivial).act (a := .drop 3) trivial
    exact (((htried.ask {} 1 .rollback).ask {} 0 .release).act (a := .poll 5) trivial).act
      (a := .poll 4) trivial
  have hfew : twoScopes.created.length < UInt64.size := by decide +kernel
  exact ⟨hreach, hfew, by decide +kernel, by decide +kernel,
    savepointsApart_of_reachable hreach hfew⟩

end Ledger

end SnowflakeSql
