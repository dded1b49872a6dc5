import SnowflakeSql.Client
import SnowflakeSql.Session.Poll

/-!
# Transactions

A transaction begins, commits and rolls back by statements of its own, and a nested one by a
savepoint that bears its name (`Transaction.sql`).  Names are made of numbers that are given out
in turn.  The dialect has no savepoints: there, whatever would touch one is left out with a warning,
and a nested transaction is part of the one around it (`Transaction.planWithout`).
`Transaction.plan` says which of the two an operation comes to, and `System.carryOut` does it.
-/

namespace SnowflakeSql

/-- A transaction on a connection. -/
structure Transaction where
  number : Nat
  connection : Nat
  nested : Bool
  /-- Whether savepoints are used, or left out with a warning. -/
  usesSavepoints : Bool
  deriving DecidableEq, Repr

/-- What can be asked of a transaction. -/
inductive TransactionOp where
  | begin
  | commit
  | rollback
  | savepoint
  | release
  | rollbackTo
  deriving DecidableEq, Repr

/-- What an operation comes to. -/
inductive TransactionPlan where
  /-- A statement is run. -/
  | send (sql : String)
  /-- Nothing is run, with warnings. -/
  | skip (warnings : List Warning)
  deriving DecidableEq, Repr

namespace Transaction

/-- The name of a transaction and of its savepoint. -/
def name (t : Transaction) : String := "trx" ++ toString t.number

/-- A statement about the savepoint of the transaction. -/
def savepointSql (t : Transaction) (words : String) : String := words ++ " " ++ t.name ++ ";"

/-- The statement of an operation where there are savepoints; a nested transaction uses its own. -/
def sql (t : Transaction) : TransactionOp → String
  | .begin => if t.nested then t.savepointSql "SAVEPOINT" else "BEGIN;"
  | .commit => if t.nested then t.savepointSql "RELEASE SAVEPOINT" else "COMMIT;"
  | .rollback => if t.nested then t.savepointSql "ROLLBACK TO SAVEPOINT" else "ROLLBACK;"
  | .savepoint => t.savepointSql "SAVEPOINT"
  | .release => t.savepointSql "RELEASE SAVEPOINT"
  | .rollbackTo => t.savepointSql "ROLLBACK TO SAVEPOINT"

/-- What an operation comes to where there are no savepoints; a nested transaction is part of the
one around it. -/
def planWithout (t : Transaction) : TransactionOp → TransactionPlan
  | .begin => if t.nested then .skip (warningsOf "savepoint") else .send (t.sql .begin)
  | .commit => if t.nested then .skip (warningsOf "release") else .send (t.sql .commit)
  | .rollback => if t.nested then .skip (warningsOf "rollbackTo") else .send (t.sql .rollback)
  | .savepoint => .skip (warningsOf "savepoint")
  | .release => .skip (warningsOf "release")
  | .rollbackTo => .skip (warningsOf "rollbackTo")

/-- What an operation comes to. -/
def plan (t : Transaction) (op : TransactionOp) : TransactionPlan :=
  if t.usesSavepoints then .send (t.sql op) else t.planWithout op

end Transaction

/-- Whether transactions of a client use savepoints, if the caller does not insist on them. -/
def Client.usesSavepoints (client : Client) : Bool :=
  match client.kind with
  | .snowflake => false
  | .generic => true

namespace System

variable {σ : Type}

/-- A new transaction, with the next number. -/
def createTransaction (s : System σ) (connection : Nat) (nested usesSavepoints : Bool) :
    Transaction × System σ :=
  (⟨s.nextTransaction.toNat, connection, nested, usesSavepoints⟩,
    { s with nextTransaction := s.nextTransaction + 1 })

/-- The task of a statement of a transaction. -/
def transactionTask (t : Transaction) (sql : String) : Task :=
  .execute t.connection (.ofSql sql) (fun _ => .done) none

/-- Carries out an operation of a transaction, while the driver changes from one poll of its
statement to the next. -/
def carryOut (B : Backend σ) (client : Client) (t : Transaction) (op : TransactionOp)
    (changes : List (σ → σ)) (s : System σ) : Option (Except ClientError Reply) × System σ :=
  match t.plan op with
  | .skip warnings => (some (.ok .done), s.warn (client.heard warnings))
  | .send sql =>
    let (n, s) := s.begin (transactionTask t sql)
    s.attend B n changes

end System

end SnowflakeSql
