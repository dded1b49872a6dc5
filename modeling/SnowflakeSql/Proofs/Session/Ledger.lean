import SnowflakeSql.Proofs.Session.Runs
import SnowflakeSql.Proofs.Session.Savepoints

/-!
# Ledgers of transactions

A `Ledger` is a system together with the transactions that were created in it and the texts that
they sent.  Transactions are created on any connection at any time, and operations are asked of
them in any order.  An operation that sends something is a task of its own, which is polled, kept
waiting and given up like any other, so the operations of many transactions may be under way at
once.  `Ledger.Reachable` says that the ledger came about by some sequence of such happenings; what
carrying out an operation to its end does is one of them (`exists_reachable_carryOut`).

`Ledger.Law` holds of all these ledgers (`law_of_reachable`): transactions are numbered by a
counter of 64 bits, and a session gets the statement of an operation from the task of that
operation only (`sends_of_mem_sentBy`).  A task that finds its connection idle sends it
(`sent_ask_poll`).
-/

namespace SnowflakeSql

/-- A text that a session got for an operation of a transaction. -/
structure SentText where
  /-- How many transactions were created before this one. -/
  transaction : Nat
  op : TransactionOp
  connection : Nat
  text : String
  deriving DecidableEq, Repr

/-- A system, with the transactions in it and what they sent. -/
structure Ledger (σ : Type) where
  system : System σ
  /-- The transactions, in the order in which they were created. -/
  created : List Transaction := []
  /-- The transaction and the operation that a task is for, if it is for any. -/
  work : Numbered (Option (Nat × TransactionOp)) := fun _ => none
  sent : List SentText := []

namespace Transaction

/-- The number of the transaction that is created after `k` others. -/
def numberAfter (k : Nat) : UInt64 := 1 + UInt64.ofNat k

theorem numberAfter_succ (k : Nat) : numberAfter (k + 1) = numberAfter k + 1 := by
  unfold numberAfter
  rw [UInt64.ofNat_add, UInt64.add_assoc]
  rfl

/-- The text is what the transaction sends for the operation. -/
structure Sends (t : Transaction) (x : SentText) : Prop where
  planned : t.plan x.op = .send (t.sql x.op)
  connection : x.connection = t.connection
  text : x.text = t.sql x.op

/-- An operation is left out, with a warning, if it touches a savepoint and none are used. -/
theorem plan_eq (t : Transaction) (op : TransactionOp) :
    t.plan op = if t.touchesSavepoint op = true ∧ t.usesSavepoints = false
      then .skip [.noSavepoints] else .send (t.sql op) := by
  unfold plan
  rw [planWithout_eq]
  cases t.usesSavepoints <;> cases t.touchesSavepoint op <;> rfl

theorem eq_sql_of_plan {t : Transaction} {op : TransactionOp} {sql : String}
    (h : t.plan op = .send sql) : sql = t.sql op := by
  rw [plan_eq] at h
  split_ifs at h
  cases h
  rfl

end Transaction

namespace Ledger

open SnowflakeSql.System

variable {σ : Type} (B : Backend σ)

/-- The ledger after a transaction is created. -/
def create (l : Ledger σ) (connection : Nat) (nested usesSavepoints : Bool) : Ledger σ :=
  let (t, system) := l.system.createTransaction connection nested usesSavepoints
  { l with system, created := l.created ++ [t] }

/-- The ledger after an operation is asked of the transaction that was created after `k` others.
What it sends is left to a task. -/
def ask (l : Ledger σ) (client : Client) (k : Nat) (op : TransactionOp) : Ledger σ :=
  match l.created[k]? with
  | none => l
  | some t =>
    match t.plan op with
    | .skip warnings => { l with system := l.system.warn (client.heard warnings) }
    | .send sql =>
      let (n, system) := l.system.begin (transactionTask t sql)
      { l with system, work := l.work.put n (some (k, op)) }

/-- What the sessions get for an operation by a happening: all that the task for it sends. -/
def sentBy (l : Ledger σ) : Action σ → List SentText
  | .poll n =>
    match l.work n with
    | none => []
    | some (k, op) =>
      ((l.system.poll B n).2.sentTexts.drop l.system.sentTexts.length).map fun entry =>
        ⟨k, op, entry.1, entry.2⟩
  | _ => []

/-- The ledger after something has happened to the system. -/
def act (l : Ledger σ) (a : Action σ) : Ledger σ :=
  { l with system := l.system.act B a, sent := l.sent ++ l.sentBy B a }

/-- Some sequence of happenings leads to the ledger, from before the first transaction on. -/
inductive Reachable : Ledger σ → Prop where
  | start (b : σ) : Reachable { system := { backend := b } }
  | create {l : Ledger σ} (connection : Nat) (nested usesSavepoints : Bool) : Reachable l →
    connection < l.system.sessionCount → Reachable (l.create connection nested usesSavepoints)
  | ask {l : Ledger σ} (client : Client) (k : Nat) (op : TransactionOp) : Reachable l →
    Reachable (l.ask client k op)
  | act {l : Ledger σ} {a : Action σ} : Reachable l → System.Allowed l.system a →
    Reachable (l.act B a)

/-- What holds of every ledger: the transactions have their numbers from the counter, the tasks do
what was asked of the transactions, and nothing else was sent. -/
structure Law (l : Ledger σ) : Prop where
  slots : SlotLaw l.system
  next : l.system.nextTransaction = Transaction.numberAfter l.created.length
  numbers : l.created.map Transaction.number =
    (List.range l.created.length).map fun k => (Transaction.numberAfter k).toNat
  connected : ∀ t ∈ l.created, t.connection < l.system.sessionCount
  unused : ∀ n, l.system.taskCount ≤ n → l.work n = none
  works : ∀ n k op, l.work n = some (k, op) → ∃ t, l.created[k]? = some t ∧
    t.plan op = .send (t.sql op) ∧
    Executes t.connection (.ofSql (t.sql op)) (fun _ => .done) (l.system.tasks n)
  sent : ∀ x ∈ l.sent, ∃ t, l.created[x.transaction]? = some t ∧ t.Sends x

variable {B}

/-! ## What a poll sends -/

/-- A poll of a buffered statement sends its text or nothing. -/
theorem sentTexts_poll_cases {s : System σ} {n i : Nat} {statement : Statement}
    {finish : Option Response → Reply} (h : Executes i statement finish (s.tasks n)) :
    (s.poll B n).2.sentTexts = s.sentTexts ∨
      (s.poll B n).2.sentTexts = s.sentTexts ++ [(i, statement.sql)] := by
  have hasks : Asks s (s.poll B n).2 (startsOfPoll (s.tasks n) s) := asks_act B s (.poll n)
  have hquiet (hnone : startsOfPoll (s.tasks n) s = []) :
      (s.poll B n).2.sentTexts = s.sentTexts := by
    unfold sentTexts
    rw [submissions_of_asks_nil (hnone ▸ hasks)]
  rcases h with habsent | ⟨running, htask⟩
  · exact .inl (hquiet (by rw [habsent]; rfl))
  · cases running with
    | some running => exact .inl (hquiet (by rw [htask]; rfl))
    | none =>
      cases htext : statement.isEmpty with
      | true =>
        refine .inl (hquiet ?_)
        rw [htask]
        simp [startsOfPoll, Task.wanting?, htext]
      | false =>
        by_cases hidle : s.slotOf i = .idle
        · refine .inr ?_
          unfold sentTexts
          rw [submissions_poll_execute htask htext hidle, List.map_append]
          rfl
        · refine .inl (hquiet ?_)
          rw [htask]
          simp [startsOfPoll, Task.wanting?, htext, hidle]

/-- What the task of an operation sends is all booked. -/
theorem Law.sentTexts_poll {l : Ledger σ} (law : Law l) {n k : Nat} {op : TransactionOp}
    (hwork : l.work n = some (k, op)) :
    (l.system.poll B n).2.sentTexts =
      l.system.sentTexts ++ (l.sentBy B (.poll n)).map fun x => (x.connection, x.text) := by
  obtain ⟨t, -, -, htask⟩ := law.works n k op hwork
  have hbooked : (l.sentBy B (.poll n)).map (fun x => (x.connection, x.text)) =
      (l.system.poll B n).2.sentTexts.drop l.system.sentTexts.length := by
    unfold sentBy
    simp only [hwork, List.map_map]
    exact List.map_id _
  rw [hbooked]
  rcases sentTexts_poll_cases (B := B) htask with hsame | hmore
  · rw [hsame, List.drop_length, List.append_nil]
  · rw [hmore, List.drop_left]

/-- The task of an operation sends the statement of the operation, and nothing else. -/
theorem Law.sends_of_mem_sentBy {l : Ledger σ} (law : Law l) {a : Action σ} {x : SentText}
    (hx : x ∈ l.sentBy B a) : ∃ t, l.created[x.transaction]? = some t ∧ t.Sends x := by
  unfold sentBy at hx
  split at hx
  · next n =>
    split at hx
    · cases hx
    · next k op hwork =>
      obtain ⟨t, hcreated, hplan, htask⟩ := law.works n k op hwork
      rcases sentTexts_poll_cases (B := B) htask with hsame | hmore
      · rw [hsame, List.drop_length] at hx
        cases hx
      · rw [hmore, List.drop_left] at hx
        obtain rfl := List.mem_singleton.mp hx
        exact ⟨t, hcreated, hplan, rfl, rfl⟩
  · cases hx

/-! ## Every happening keeps the law -/

theorem law_start (b : σ) : Law ({ system := { backend := b } } : Ledger σ) where
  slots := slotLaw_start b
  next := rfl
  numbers := rfl
  connected _ h := nomatch h
  unused _ _ := rfl
  works _ _ _ h := nomatch h
  sent _ h := nomatch h

theorem getElem?_append_of_eq_some {α : Type} {xs : List α} {k : Nat} {x : α}
    (h : xs[k]? = some x) (ys : List α) : (xs ++ ys)[k]? = some x := by
  obtain ⟨hk, -⟩ := List.getElem?_eq_some_iff.mp h
  rw [List.getElem?_append_left hk, h]

theorem Law.create {l : Ledger σ} (law : Law l) {connection : Nat}
    (hconnection : connection < l.system.sessionCount) (nested usesSavepoints : Bool) :
    Law (l.create connection nested usesSavepoints) where
  slots := law.slots.keep (fun _ => rfl) rfl rfl rfl
  next := by
    show l.system.nextTransaction + 1 = Transaction.numberAfter (l.created ++ [_]).length
    rw [law.next, List.length_append, List.length_singleton, Transaction.numberAfter_succ]
  numbers := by
    have hnumber := congrArg UInt64.toNat law.next
    show (l.created ++ [_]).map Transaction.number =
      (List.range (l.created ++ [_]).length).map _
    rw [List.length_append, List.length_singleton, List.range_succ, List.map_append,
      List.map_append, law.numbers]
    exact congrArg (_ ++ [·]) hnumber
  connected t ht := by
    rcases List.mem_append.mp ht with hold | hnew
    · exact law.connected t hold
    · obtain rfl := List.mem_singleton.mp hnew
      exact hconnection
  unused := law.unused
  works n k op hwork := by
    obtain ⟨t, hcreated, hrest⟩ := law.works n k op hwork
    exact ⟨t, getElem?_append_of_eq_some hcreated _, hrest⟩
  sent x hx := by
    obtain ⟨t, hcreated, hsends⟩ := law.sent x hx
    exact ⟨t, getElem?_append_of_eq_some hcreated _, hsends⟩

theorem ask_of_send {l : Ledger σ} {k : Nat} {t : Transaction} {op : TransactionOp}
    {sql : String} (hcreated : l.created[k]? = some t) (hplan : t.plan op = .send sql)
    (client : Client) :
    l.ask client k op =
      { l with
        system := (l.system.begin (transactionTask t sql)).2
        work := l.work.put l.system.taskCount (some (k, op)) } := by
  unfold ask
  simp only [hcreated, hplan]
  rfl

theorem ask_of_skip {l : Ledger σ} {k : Nat} {t : Transaction} {op : TransactionOp}
    {warnings : List Warning} (hcreated : l.created[k]? = some t)
    (hplan : t.plan op = .skip warnings) (client : Client) :
    l.ask client k op = { l with system := l.system.warn (client.heard warnings) } := by
  unfold ask
  simp only [hcreated, hplan]

theorem ask_of_none {l : Ledger σ} {k : Nat} (hcreated : l.created[k]? = none)
    (client : Client) (op : TransactionOp) : l.ask client k op = l := by
  unfold ask
  simp only [hcreated]

/-- The task that an operation is left to begins with the statement of the operation. -/
theorem Law.ask_of_send {l : Ledger σ} (law : Law l) {k : Nat} {t : Transaction}
    {op : TransactionOp} {sql : String} (hcreated : l.created[k]? = some t)
    (hplan : t.plan op = .send sql) (client : Client) : Law (l.ask client k op) := by
  obtain rfl := Transaction.eq_sql_of_plan hplan
  rw [Ledger.ask_of_send hcreated hplan]
  have hconnected := law.connected t (List.mem_of_getElem? hcreated)
  refine
    { slots := law.slots.begin rfl fun w hw => ?_
      next := law.next
      numbers := law.numbers
      connected := law.connected
      unused := fun n hn => ?_
      works := fun n k' op' hwork => ?_
      sent := law.sent }
  · cases hw
    exact hconnected
  · have hlt : l.system.taskCount < n := hn
    exact (Numbered.put_of_ne _ _ (by omega)).trans (law.unused n (by omega))
  · by_cases hn : n = l.system.taskCount
    · subst hn
      obtain ⟨rfl, rfl⟩ : k = k' ∧ op = op' := by
        simpa using (Numbered.put_self _ _ _).symm.trans hwork
      exact ⟨t, hcreated, hplan, .inr ⟨none, Numbered.put_self _ _ _⟩⟩
    · obtain ⟨t', hcreated', hplan', htask⟩ :=
        law.works n k' op' ((Numbered.put_of_ne _ _ hn).symm.trans hwork)
      refine ⟨t', hcreated', hplan', ?_⟩
      rwa [← Numbered.put_of_ne l.system.tasks (transactionTask t (t.sql op)) hn] at htask

theorem Law.ask {l : Ledger σ} (law : Law l) (client : Client) (k : Nat) (op : TransactionOp) :
    Law (l.ask client k op) := by
  cases hcreated : l.created[k]? with
  | none =>
    rw [ask_of_none hcreated]
    exact law
  | some t =>
    cases hplan : t.plan op with
    | send sql => exact law.ask_of_send hcreated hplan client
    | skip warnings =>
      rw [ask_of_skip hcreated hplan]
      exact { law with slots := law.slots.keep (fun _ => rfl) rfl rfl rfl }

theorem Law.act {l : Ledger σ} (law : Law l) {a : Action σ} (ha : System.Allowed l.system a) :
    Law (l.act B a) := by
  have frame := actFrame_act (B := B) law.slots a
  exact
    { slots := law.slots.act ha
      next := frame.nextTransaction.trans law.next
      numbers := law.numbers
      connected := fun t ht => Nat.lt_of_lt_of_le (law.connected t ht) frame.sessionCount
      unused := fun n hn => law.unused n (Nat.le_trans frame.taskCount hn)
      works := fun n k op hwork => by
        obtain ⟨t, hcreated, hplan, htask⟩ := law.works n k op hwork
        have hn : n < l.system.taskCount := by
          by_contra hnot
          exact nomatch (law.unused n (Nat.le_of_not_lt hnot)).symm.trans hwork
        exact ⟨t, hcreated, hplan, (htask.act law.slots hn a).1⟩
      sent := fun x hx => by
        rcases List.mem_append.mp hx with hold | hnew
        · exact law.sent x hold
        · exact law.sends_of_mem_sentBy hnew }

theorem law_of_reachable {l : Ledger σ} (h : Reachable B l) : Law l := by
  induction h with
  | start b => exact law_start b
  | create connection nested usesSavepoints _ hconnection law =>
    exact law.create hconnection nested usesSavepoints
  | ask client k op _ law => exact law.ask client k op
  | act _ ha law => exact law.act ha

/-! ## What is sent in fact -/

/-- An operation that is asked while the connection is idle sends its statement when its task is
polled. -/
theorem sent_ask_poll (l : Ledger σ) {k : Nat} {t : Transaction} {op : TransactionOp}
    (hcreated : l.created[k]? = some t) (hplan : t.plan op = .send (t.sql op))
    (hidle : l.system.slotOf t.connection = .idle) (client : Client) :
    ((l.ask client k op).act B (.poll l.system.taskCount)).sent =
      l.sent ++ [⟨k, op, t.connection, t.sql op⟩] := by
  rw [Ledger.ask_of_send hcreated hplan]
  have hsubmitted := submissions_poll_execute (B := B)
    (s := (l.system.begin (transactionTask t (t.sql op))).2) (n := l.system.taskCount)
    (Numbered.put_self _ _ _) (t.isEmpty_ofSql_sql op) hidle
  have hsent : ((l.system.begin (transactionTask t (t.sql op))).2.poll B
      l.system.taskCount).2.sentTexts =
        l.system.sentTexts ++ [(t.connection, t.sql op)] := by
    unfold sentTexts
    rw [hsubmitted, List.map_append]
    rfl
  refine congrArg (l.sent ++ ·) ?_
  unfold sentBy
  simp only [Numbered.put_self]
  show (List.drop l.system.sentTexts.length _).map _ = _
  rw [hsent, List.drop_left]
  rfl

/-- Polling a task to its end, or giving it up, is a sequence of happenings. -/
theorem Reachable.attend {l : Ledger σ} (h : Reachable B l) (n : Nat)
    (changes : List (σ → σ)) :
    ∃ l', Reachable B l' ∧ l'.created = l.created ∧
      l'.system = (l.system.attend B n changes).2 := by
  have hpolled : Reachable B (l.act B (.poll n)) := h.act trivial
  induction changes generalizing l with
  | nil =>
    cases hpoll : (l.system.poll B n).1 with
    | some result => exact ⟨_, hpolled, rfl, by rw [attend_of_ready [] hpoll]; rfl⟩
    | none =>
      exact ⟨_, hpolled.act (a := .drop n) trivial, rfl, by
        rw [attend_nil_of_pending hpoll]
        rfl⟩
  | cons change changes ih =>
    cases hpoll : (l.system.poll B n).1 with
    | some result => exact ⟨_, hpolled, rfl, by rw [attend_of_ready _ hpoll]; rfl⟩
    | none =>
      have hchanged := hpolled.act (a := .backend change) trivial
      obtain ⟨l', hl', hcreated, hsystem⟩ := ih hchanged (hchanged.act trivial)
      refine ⟨l', hl', hcreated, hsystem.trans ?_⟩
      rw [attend_cons_of_pending change changes hpoll]
      rfl

/-- Carrying out an operation of a transaction is a sequence of happenings. -/
theorem exists_reachable_carryOut {l : Ledger σ} (h : Reachable B l) {k : Nat} {t : Transaction}
    (hcreated : l.created[k]? = some t) (client : Client) (op : TransactionOp)
    (changes : List (σ → σ)) :
    ∃ l', Reachable B l' ∧ l'.created = l.created ∧
      l'.system = (l.system.carryOut B client t op changes).2 := by
  have hasked : Reachable B (l.ask client k op) := h.ask client k op
  cases hplan : t.plan op with
  | skip warnings =>
    rw [carryOut_of_skip client hplan]
    rw [ask_of_skip hcreated hplan] at hasked
    exact ⟨_, hasked, rfl, rfl⟩
  | send sql =>
    obtain rfl := Transaction.eq_sql_of_plan hplan
    rw [carryOut_of_send client hplan]
    rw [Ledger.ask_of_send hcreated hplan] at hasked
    exact hasked.attend l.system.taskCount changes

end Ledger

end SnowflakeSql
