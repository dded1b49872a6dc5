import SnowflakeSql.Session.Script
import SnowflakeSql.Proofs.Session.OneStatement
import SnowflakeSql.Proofs.Session.Submitted

/-!
# Transactions without savepoints

Where a dialect has no savepoints, the operations that would use one are left out.  So the same
operations, carried out with savepoints and without, send the same texts but for those about
savepoints, and there is one warning for each text that is missing
(`sentTexts_conduct_without_savepoints`).

The two ways are told apart by the plans of the operations alone (`planWithout_eq`).  What is
planned is then sent once, whatever the driver answers and however long it takes, and leaves the
connection idle for the next operation (`adds_attend`).  `Adds` counts what one operation adds,
and a sequence adds up (`adds_conduct_with`, `adds_conduct_without`).
-/

namespace SnowflakeSql

/-! ## Statements about savepoints -/

/-- How statements about savepoints begin. -/
def savepointWords : List String := ["SAVEPOINT ", "RELEASE SAVEPOINT ", "ROLLBACK TO SAVEPOINT "]

/-- Whether a statement is about a savepoint. -/
def isAboutSavepoint (sql : String) : Bool :=
  savepointWords.any fun words => words.toList.isPrefixOf sql.toList

/-- Whether an operation is about a savepoint in any transaction. -/
def TransactionOp.isSavepoint : TransactionOp → Bool
  | .begin | .commit | .rollback => false
  | .savepoint | .release | .rollbackTo => true

theorem Statement.isEmpty_ofSql_append {text : String} (h : (ofSql text).isEmpty = false)
    (rest : String) : (ofSql (text ++ rest)).isEmpty = false := by
  unfold isEmpty ofSql at h ⊢
  rw [String.toList_append, Text.allBlank_append, h, Bool.false_and]

theorem Client.heard_nil (client : Client) : client.heard [] = [] := ite_self []

theorem Client.heard_append (client : Client) (warnings warnings' : List Warning) :
    client.heard (warnings ++ warnings') = client.heard warnings ++ client.heard warnings' := by
  unfold heard
  split_ifs <;> rfl

namespace Transaction

/-- The transaction with savepoints used, or left out. -/
def withSavepoints (t : Transaction) (usesSavepoints : Bool) : Transaction :=
  { t with usesSavepoints := usesSavepoints }

/-- Whether an operation is about a savepoint; in a nested transaction every one is. -/
def touchesSavepoint (t : Transaction) (op : TransactionOp) : Bool := t.nested || op.isSavepoint

theorem isAboutSavepoint_savepointSql (t : Transaction) {words : String}
    (h : words ++ " " ∈ savepointWords) : isAboutSavepoint (t.savepointSql words) = true := by
  have hprefix : (words ++ " ").toList.isPrefixOf (t.savepointSql words).toList = true := by
    rw [List.isPrefixOf_iff_prefix]
    unfold savepointSql
    rw [String.append_assoc]
    exact ⟨(t.name ++ ";").toList, String.toList_append.symm⟩
  exact List.any_eq_true.mpr ⟨_, h, hprefix⟩

/-- The statements that touch a savepoint can be told by their texts. -/
theorem isAboutSavepoint_sql (t : Transaction) (op : TransactionOp) :
    isAboutSavepoint (t.sql op) = t.touchesSavepoint op := by
  have hset : isAboutSavepoint (t.savepointSql "SAVEPOINT") = true :=
    t.isAboutSavepoint_savepointSql (by decide)
  have hrelease : isAboutSavepoint (t.savepointSql "RELEASE SAVEPOINT") = true :=
    t.isAboutSavepoint_savepointSql (by decide)
  have hback : isAboutSavepoint (t.savepointSql "ROLLBACK TO SAVEPOINT") = true :=
    t.isAboutSavepoint_savepointSql (by decide)
  have hbegin : isAboutSavepoint "BEGIN;" = false := by decide
  have hcommit : isAboutSavepoint "COMMIT;" = false := by decide
  have hrollback : isAboutSavepoint "ROLLBACK;" = false := by decide
  unfold touchesSavepoint
  cases op <;> cases hnested : t.nested <;> simp [sql, TransactionOp.isSavepoint, *]

/-- Every operation has a statement to run. -/
theorem isEmpty_ofSql_sql (t : Transaction) (op : TransactionOp) :
    (Statement.ofSql (t.sql op)).isEmpty = false := by
  have hwords : ∀ words, (Statement.ofSql words).isEmpty = false →
      (Statement.ofSql (t.savepointSql words)).isEmpty = false := by
    intro words h
    unfold savepointSql
    rw [String.append_assoc, String.append_assoc]
    exact Statement.isEmpty_ofSql_append h _
  have hset := hwords "SAVEPOINT" (by decide)
  have hrelease := hwords "RELEASE SAVEPOINT" (by decide)
  have hback := hwords "ROLLBACK TO SAVEPOINT" (by decide)
  have hbegin : (Statement.ofSql "BEGIN;").isEmpty = false := by decide
  have hcommit : (Statement.ofSql "COMMIT;").isEmpty = false := by decide
  have hrollback : (Statement.ofSql "ROLLBACK;").isEmpty = false := by decide
  cases op <;> cases hnested : t.nested <;> simp [sql, *]

/-- Without savepoints, what touches one is left out with a warning, and nothing else is. -/
theorem planWithout_eq (t : Transaction) (op : TransactionOp) :
    t.planWithout op =
      if t.touchesSavepoint op then .skip [.noSavepoints] else .send (t.sql op) := by
  unfold touchesSavepoint
  cases op <;> cases hnested : t.nested <;>
    simp [planWithout, TransactionOp.isSavepoint, hnested, warningsOf_savepoint,
      warningsOf_release, warningsOf_rollbackTo]

end Transaction

namespace System

variable {σ : Type} {B : Backend σ} {i n : Nat}

/-! ## Awaiting a statement -/

/-- The texts that sessions have been given to run. -/
def sentTexts (s : System σ) : List (Nat × String) :=
  s.submissions.map fun entry => (entry.1, entry.2.sqlText)

/-- What happens from one state to another: the texts that the session of a connection is given,
and the warnings. -/
structure Adds (i : Nat) (texts : List String) (warnings : List Warning) (s s' : System σ) :
    Prop where
  sent : s'.sentTexts = s.sentTexts ++ texts.map fun text => (i, text)
  warned : s'.warnings = s.warnings ++ warnings

theorem Adds.trans {texts texts' : List String} {warnings warnings' : List Warning}
    {s s₁ s₂ : System σ} (h₁ : Adds i texts warnings s s₁) (h₂ : Adds i texts' warnings' s₁ s₂) :
    Adds i (texts ++ texts') (warnings ++ warnings') s s₂ where
  sent := by rw [h₂.sent, h₁.sent, List.map_append, List.append_assoc]
  warned := by rw [h₂.warned, h₁.warned, List.append_assoc]

/-- Where nothing is started and nothing warned of, nothing is added. -/
theorem adds_of_asks_nil (i : Nat) {s s' : System σ} (h : Asks s s' [])
    (hwarned : s'.warnings = s.warnings) : Adds i [] [] s s' where
  sent := by
    unfold sentTexts
    rw [submissions_of_asks_nil h, List.map_nil, List.append_nil]
  warned := by rw [hwarned, List.append_nil]

/-- A warning is heard by the caller and by nobody else. -/
theorem adds_warn (i : Nat) (s : System σ) (warnings : List Warning) :
    Adds i [] warnings s (s.warn warnings) where
  sent := (List.append_nil _).symm
  warned := rfl

/-- A statement that is started is sent to the session of its connection. -/
theorem adds_startStatement (i : Nat) (statement : Statement) (s : System σ) :
    Adds i [statement.sql] [] s (startStatement B i statement (s.reserved i)).2 where
  sent := by
    unfold sentTexts
    rw [submissions_startStatement, List.map_append]
    rfl
  warned := by
    unfold startStatement
    dsimp only
    split_ifs <;> exact (List.append_nil _).symm

/-- A poll that asks for the rows of a statement: the statement is finished and its slot free, or
it goes on waiting. -/
structure Awaited (i n : Nat) (s : System σ) (r : Option (Except ClientError Reply) × System σ) :
    Prop where
  adds : Adds i [] [] s r.2
  idle : r.1.isSome → r.2.slotOf i = .idle
  waits : r.1 = none → ∃ statement finish running,
    r.2.tasks n = .execute i statement finish (some running)

theorem awaited_of_pollTask {s s₁ : System σ} {statement : Statement}
    {finish : Option Response → Reply} {running : Running}
    (h : pollTask B (s.tasks n) s = awaitRows B i statement finish running s₁) :
    Awaited i n s₁ (s.poll B n) where
  adds := by
    rw [poll_snd, h]
    refine adds_of_asks_nil i (asks_awaitRows B i statement finish running s₁) ?_
    unfold awaitRows
    split <;> rfl
  idle := by
    rw [poll_fst, poll_snd, h]
    unfold awaitRows
    split
    · exact nofun
    · exact fun _ => (slotOf_releaseSlot _ i i).trans (if_pos rfl)
    · exact fun _ => (slotOf_releaseSlot _ i i).trans (if_pos rfl)
  waits := by
    rw [poll_fst, poll_snd, h]
    unfold awaitRows
    split
    · exact fun _ => ⟨_, _, _, Numbered.put_self _ _ _⟩
    · exact nofun
    · exact nofun

theorem attend_of_ready (changes : List (σ → σ)) {s : System σ}
    {result : Except ClientError Reply} (h : (s.poll B n).1 = some result) :
    s.attend B n changes = (some result, (s.poll B n).2) := by
  unfold attend
  rw [show s.poll B n = (some result, (s.poll B n).2) from Prod.ext h rfl]

theorem attend_nil_of_pending {s : System σ} (h : (s.poll B n).1 = none) :
    s.attend B n [] = (none, (s.poll B n).2.drop B n) := by
  unfold attend
  rw [show s.poll B n = (none, (s.poll B n).2) from Prod.ext h rfl]

theorem attend_cons_of_pending (change : σ → σ) (changes : List (σ → σ)) {s : System σ}
    (h : (s.poll B n).1 = none) :
    s.attend B n (change :: changes) =
      ((s.poll B n).2.setBackend (change (s.poll B n).2.backend)).attend B n changes := by
  conv_lhs => unfold attend
  rw [show s.poll B n = (none, (s.poll B n).2) from Prod.ext h rfl]

/-- However often the driver changes before a statement has its rows, and whether it ever has
them, nothing more is sent, and the slot is free in the end. -/
theorem adds_attend (changes : List (σ → σ)) {s s₁ : System σ}
    (h : Awaited i n s₁ (s.poll B n)) :
    Adds i [] [] s₁ (s.attend B n changes).2 ∧ (s.attend B n changes).2.slotOf i = .idle := by
  induction changes generalizing s s₁ with
  | nil =>
    cases hpoll : (s.poll B n).1 with
    | some result =>
      rw [attend_of_ready [] hpoll]
      exact ⟨h.adds, h.idle (by rw [hpoll]; rfl)⟩
    | none =>
      obtain ⟨statement, finish, running, htask⟩ := h.waits hpoll
      rw [attend_nil_of_pending hpoll]
      have hholds : ((s.poll B n).2.tasks n).Holds i := ⟨.running running, by rw [htask]; rfl⟩
      refine ⟨h.adds.trans (adds_of_asks_nil i (asks_dropTask B _ _) ?_), slotOf_drop hholds⟩
      unfold drop
      rw [htask]
      rfl
  | cons change changes ih =>
    cases hpoll : (s.poll B n).1 with
    | some result =>
      rw [attend_of_ready _ hpoll]
      exact ⟨h.adds, h.idle (by rw [hpoll]; rfl)⟩
    | none =>
      obtain ⟨statement, finish, running, htask⟩ := h.waits hpoll
      rw [attend_cons_of_pending change changes hpoll]
      -- The next poll asks for the rows of the same statement again.
      obtain ⟨hadds, hidle⟩ := ih (awaited_of_pollTask
        (s := (s.poll B n).2.setBackend (change (s.poll B n).2.backend))
        (congrArg (pollTask B · _) htask))
      exact ⟨h.adds.trans ⟨hadds.sent, hadds.warned⟩, hidle⟩

/-! ## One operation -/

theorem carryOut_of_skip (client : Client) {t : Transaction} {op : TransactionOp}
    {warnings : List Warning} (h : t.plan op = .skip warnings) (changes : List (σ → σ))
    (s : System σ) :
    s.carryOut B client t op changes = (some (.ok .done), s.warn (client.heard warnings)) := by
  unfold carryOut
  rw [h]

/-- Without savepoints, an operation that touches one is done at once: whatever the state of the
connection and of the driver, there is a warning and nothing else. -/
theorem carryOut_of_touchesSavepoint (client : Client) {t : Transaction} {op : TransactionOp}
    (huses : t.usesSavepoints = false) (h : t.touchesSavepoint op = true)
    (changes : List (σ → σ)) (s : System σ) :
    s.carryOut B client t op changes =
      (some (.ok .done), s.warn (client.heard [.noSavepoints])) := by
  refine carryOut_of_skip client ?_ changes s
  unfold Transaction.plan
  rw [huses, t.planWithout_eq, h]
  rfl

theorem carryOut_of_send (client : Client) {t : Transaction} {op : TransactionOp} {sql : String}
    (h : t.plan op = .send sql) (changes : List (σ → σ)) (s : System σ) :
    s.carryOut B client t op changes =
      (s.begin (transactionTask t sql)).2.attend B s.taskCount changes := by
  unfold carryOut
  rw [h]
  rfl

/-- An operation that is not left out sends its statement on an idle connection, and leaves the
connection idle. -/
theorem adds_carryOut_of_send (client : Client) {t : Transaction} {op : TransactionOp}
    (h : t.plan op = .send (t.sql op)) (changes : List (σ → σ)) {s : System σ}
    (hidle : s.slotOf t.connection = .idle) :
    Adds t.connection [t.sql op] [] s (s.carryOut B client t op changes).2 ∧
      (s.carryOut B client t op changes).2.slotOf t.connection = .idle := by
  have htask : (s.begin (transactionTask t (t.sql op))).2.tasks s.taskCount =
      transactionTask t (t.sql op) := Numbered.put_self _ _ _
  have hpoll := pollExecute_of_idle B (fun _ => Reply.done)
    (s := (s.begin (transactionTask t (t.sql op))).2) (t.isEmpty_ofSql_sql op) hidle
  rw [carryOut_of_send client h]
  obtain ⟨hadds, hidle⟩ := adds_attend changes
    (awaited_of_pollTask ((congrArg (pollTask B · _) htask).trans hpoll))
  have hstart := adds_startStatement (B := B) t.connection (.ofSql (t.sql op))
    (s.begin (transactionTask t (t.sql op))).2
  have hsent : Adds t.connection [t.sql op] [] s _ := ⟨hstart.sent, hstart.warned⟩
  exact ⟨hsent.trans hadds, hidle⟩

/-! ## Sequences of operations -/

/-- An operation that is asked of a transaction, and how the driver changes meanwhile. -/
structure Turn (σ : Type) where
  transaction : Transaction
  op : TransactionOp
  changes : List (σ → σ) := []

/-- What is asked, whatever the driver does. -/
def Turn.asked (turn : Turn σ) : Transaction × TransactionOp := (turn.transaction, turn.op)

/-- The system after operations, one after the other, with savepoints or without. -/
def conduct (B : Backend σ) (client : Client) (usesSavepoints : Bool) (turns : List (Turn σ))
    (s : System σ) : System σ :=
  turns.foldl (fun s turn =>
    (s.carryOut B client (turn.transaction.withSavepoints usesSavepoints) turn.op
      turn.changes).2) s

/-- The statements of operations where there are savepoints. -/
def textsOf (asked : List (Transaction × TransactionOp)) : List String :=
  asked.map fun entry => entry.1.sql entry.2

/-- With savepoints, each operation sends its statement. -/
theorem adds_conduct_with (client : Client) (turns : List (Turn σ))
    (hon : ∀ turn ∈ turns, turn.transaction.connection = i) {s : System σ}
    (hidle : s.slotOf i = .idle) :
    Adds i (textsOf (turns.map Turn.asked)) [] s (conduct B client true turns s) := by
  induction turns generalizing s with
  | nil => exact adds_of_asks_nil i (asks_of_eq rfl) rfl
  | cons turn turns ih =>
    obtain ⟨hturn, hturns⟩ := List.forall_mem_cons.mp hon
    have hplan : (turn.transaction.withSavepoints true).plan turn.op =
        .send ((turn.transaction.withSavepoints true).sql turn.op) := rfl
    obtain ⟨hadds, hidle⟩ := adds_carryOut_of_send (B := B) client hplan turn.changes (s := s)
      (hturn ▸ hidle)
    have hone : Adds i [turn.transaction.sql turn.op] [] s _ := hturn ▸ hadds
    exact hone.trans (ih hturns (hturn ▸ hidle))

/-- Without savepoints, an operation sends its statement if that is not about a savepoint, and
gives a warning if it is. -/
theorem adds_carryOut_without (client : Client) {t : Transaction}
    (huses : t.usesSavepoints = false) (op : TransactionOp) (changes : List (σ → σ)) {s : System σ}
    (hidle : s.slotOf t.connection = .idle) :
    Adds t.connection ([t.sql op].filter fun text => !isAboutSavepoint text)
        (client.heard (List.replicate ([t.sql op].countP isAboutSavepoint) .noSavepoints))
        s (s.carryOut B client t op changes).2 ∧
      (s.carryOut B client t op changes).2.slotOf t.connection = .idle := by
  rw [List.filter_cons, List.filter_nil, List.countP_singleton, t.isAboutSavepoint_sql]
  cases htouches : t.touchesSavepoint op with
  | true =>
    rw [carryOut_of_touchesSavepoint client huses htouches]
    exact ⟨adds_warn _ s _, hidle⟩
  | false =>
    have hplan : t.plan op = .send (t.sql op) := by
      unfold Transaction.plan
      rw [huses, t.planWithout_eq, htouches]
      rfl
    obtain ⟨hadds, hidle⟩ := adds_carryOut_of_send (B := B) client hplan changes hidle
    refine ⟨?_, hidle⟩
    show Adds t.connection [t.sql op] (client.heard []) s _
    rw [client.heard_nil]
    exact hadds

/-- Without savepoints, the statements about them are not sent, and there is a warning for each of
them. -/
theorem adds_conduct_without (client : Client) (turns : List (Turn σ))
    (hon : ∀ turn ∈ turns, turn.transaction.connection = i) {s : System σ}
    (hidle : s.slotOf i = .idle) :
    Adds i ((textsOf (turns.map Turn.asked)).filter fun text => !isAboutSavepoint text)
      (client.heard (List.replicate
        ((textsOf (turns.map Turn.asked)).countP isAboutSavepoint) .noSavepoints))
      s (conduct B client false turns s) := by
  induction turns generalizing s with
  | nil =>
    show Adds i [] (client.heard []) s s
    rw [client.heard_nil]
    exact adds_of_asks_nil i (asks_of_eq rfl) rfl
  | cons turn turns ih =>
    obtain ⟨hturn, hturns⟩ := List.forall_mem_cons.mp hon
    obtain ⟨hadds, hidle⟩ := adds_carryOut_without (B := B) client
      (t := turn.transaction.withSavepoints false) rfl turn.op turn.changes (s := s)
      (hturn ▸ hidle)
    have htexts : textsOf ((turn :: turns).map Turn.asked) =
        [turn.transaction.sql turn.op] ++ textsOf (turns.map Turn.asked) := rfl
    rw [htexts, List.filter_append, List.countP_append,
      ← List.replicate_append_replicate, client.heard_append]
    have hone : Adds i _ _ s _ := hturn ▸ hadds
    exact hone.trans (ih hturns (hturn ▸ hidle))

/-- Transactions of the dialect send what general ones send for the same operations, without the
statements about savepoints, and warn once for each of these, whatever the drivers do meanwhile.
An operation that is left out is done at once and touches nothing, also where the connection is
busy, broken or closed. -/
theorem sentTexts_conduct_without_savepoints {τ : Type} (B : Backend σ) (B' : Backend τ)
    {client : Client} (client' : Client) (hkind : client.kind = .snowflake)
    {turns : List (Turn σ)} {turns' : List (Turn τ)}
    (hsame : turns.map Turn.asked = turns'.map Turn.asked) {i : Nat}
    (hon : ∀ turn ∈ turns, turn.transaction.connection = i)
    {s : System σ} {u : System τ} (hs : s.slotOf i = .idle) (hu : u.slotOf i = .idle) :
    (∃ texts : List String,
      (conduct B' client' true turns' u).sentTexts =
        u.sentTexts ++ (texts.map fun text => (i, text)) ∧
      (conduct B client client.usesSavepoints turns s).sentTexts =
        s.sentTexts ++ ((texts.filter fun text => !isAboutSavepoint text).map fun text =>
          (i, text)) ∧
      (conduct B' client' true turns' u).warnings = u.warnings ∧
      (conduct B client client.usesSavepoints turns s).warnings =
        s.warnings ++
          client.heard (List.replicate (texts.countP isAboutSavepoint) .noSavepoints)) ∧
    ∀ {ρ : Type} (D : Backend ρ) (t : Transaction) (op : TransactionOp) (changes : List (ρ → ρ))
      (r : System ρ), t.usesSavepoints = client.usesSavepoints →
        t.nested = true ∨ op.isSavepoint = true →
          r.carryOut D client t op changes =
            (some (.ok .done), r.warn (client.heard [.noSavepoints])) := by
  have huses : client.usesSavepoints = false := by
    unfold Client.usesSavepoints
    rw [hkind]
  have hon' : ∀ turn ∈ turns', turn.transaction.connection = i := by
    intro turn hturn
    obtain ⟨turn', hturn', hasked⟩ := List.mem_map.mp (hsame ▸ List.mem_map_of_mem hturn)
    rw [← hon turn' hturn']
    exact congrArg (fun asked => asked.1.connection) hasked.symm
  rw [huses]
  refine ⟨⟨textsOf (turns.map Turn.asked), ?_⟩, fun D t op changes r ht htouches => ?_⟩
  · have hwith := adds_conduct_with (B := B') client' turns' hon' hu
    have hwithout := adds_conduct_without (B := B) client turns hon hs
    rw [← hsame] at hwith
    exact ⟨hwith.sent, hwithout.sent, hwith.warned.trans (List.append_nil _), hwithout.warned⟩
  · refine carryOut_of_touchesSavepoint client ht ?_ changes r
    simpa [Transaction.touchesSavepoint] using htouches

/-- An operation of a transaction on the first connection, of a driver that answers at once. -/
def turnOn (number : Nat) (nested : Bool) (op : TransactionOp) : Turn Rehearsal where
  transaction := ⟨number, 0, nested, false⟩
  op := op

/-- A transaction, with a savepoint, around a nested one that is rolled back. -/
def nestedTurns : List (Turn Rehearsal) := [
  turnOn 1 false .begin, turnOn 1 false .savepoint, turnOn 2 true .begin, turnOn 2 true .rollback,
  turnOn 1 false .release, turnOn 1 false .commit]

/-- A closed connection whose slot is taken. -/
def closedSession : System Rehearsal :=
  ({ backend := {} } : System Rehearsal).setConnection 0 { closed := true, slot := .starting }

/-- Of these operations, the dialect knows two.  The others can be done on a closed connection. -/
theorem sentTexts_conduct_nestedTurns :
    (conduct Rehearsal.backend {} true nestedTurns { backend := {} }).sentTexts = [
      (0, "BEGIN;"), (0, "SAVEPOINT trx1;"), (0, "SAVEPOINT trx2;"),
      (0, "ROLLBACK TO SAVEPOINT trx2;"), (0, "RELEASE SAVEPOINT trx1;"), (0, "COMMIT;")] ∧
    (conduct Rehearsal.backend {} ({} : Client).usesSavepoints nestedTurns
      { backend := {} }).sentTexts = [(0, "BEGIN;"), (0, "COMMIT;")] ∧
    (conduct Rehearsal.backend {} ({} : Client).usesSavepoints nestedTurns
      { backend := {} }).warnings = List.replicate 4 .noSavepoints ∧
    closedSession.carryOut Rehearsal.backend {} (turnOn 2 true .begin).transaction .begin [] =
      (some (.ok .done), closedSession.warn [.noSavepoints]) := by
  have hgeneral : (conduct Rehearsal.backend {} true nestedTurns { backend := {} }).sentTexts = [
      (0, "BEGIN;"), (0, "SAVEPOINT trx1;"), (0, "SAVEPOINT trx2;"),
      (0, "ROLLBACK TO SAVEPOINT trx2;"), (0, "RELEASE SAVEPOINT trx1;"), (0, "COMMIT;")] := by
    decide +kernel
  have hkind : ({} : Client).kind = .snowflake := rfl
  have hsame : nestedTurns.map Turn.asked = nestedTurns.map Turn.asked := rfl
  have hon : ∀ turn ∈ nestedTurns, turn.transaction.connection = 0 := by decide
  have hidle : slotOf ({ backend := {} } : System Rehearsal) 0 = .idle := rfl
  obtain ⟨⟨texts, hwith, hwithout, -, hwarned⟩, hskipped⟩ :=
    sentTexts_conduct_without_savepoints Rehearsal.backend Rehearsal.backend {} hkind hsame hon
      hidle hidle
  have htexts : texts = [
      "BEGIN;", "SAVEPOINT trx1;", "SAVEPOINT trx2;", "ROLLBACK TO SAVEPOINT trx2;",
      "RELEASE SAVEPOINT trx1;", "COMMIT;"] := by
    have hsnd := congrArg (List.map Prod.snd) (hgeneral.symm.trans hwith)
    rw [List.map_append, List.map_map] at hsnd
    exact ((List.map_id texts).symm.trans hsnd.symm)
  subst htexts
  exact ⟨hgeneral, hwithout.trans (by decide +kernel), hwarned.trans (by decide +kernel),
    hskipped Rehearsal.backend _ .begin [] closedSession rfl (.inl rfl)⟩

end System

end SnowflakeSql
