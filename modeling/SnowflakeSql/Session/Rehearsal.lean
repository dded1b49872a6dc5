import SnowflakeSql.Session.Backend
import SnowflakeSql.Session.Numbered

/-!
# A rehearsed driver

`Rehearsal` is the state of a driver that does what it has been told beforehand: which calls
fail, what each statement answers, which rows each cursor has.  Failures are for one call, the
answer to a probe stands until it is replaced.  A statement that is held has no answer until it
is let go (`Rehearsal.finish`) or cancelled.  Statements are named `q0`, `q1`, … in order.
-/

namespace SnowflakeSql

/-- How a statement of the rehearsed driver stands. -/
inductive Progress where
  /-- It waits to be let go or cancelled. -/
  | held
  | finished
  | cancelled
  /-- Nobody waits for it any more. -/
  | abandoned
  deriving DecidableEq, Repr

/-- A statement of the rehearsed driver, with its answer. -/
structure Rehearsed where
  answer : Except DriverError (Option (List Json))
  progress : Progress

/-- What a driver has been told to do, and what it has been asked. -/
structure Rehearsal where
  failConnect : Option DriverError := none
  failClose : Option DriverError := none
  failCancel : Option DriverError := none
  probeAnswer : Except DriverError Bool := .ok true
  /-- The answers of the statements to come. -/
  answers : List (Except DriverError (Option (List Json))) := []
  /-- The rows of the cursors to come. -/
  rowLists : List (List Delivery) := []
  /-- Whether the next statement is held. -/
  holdsNext : Bool := false
  statements : Numbered Rehearsed := fun _ => ⟨.ok (some []), .finished⟩
  cursors : Numbered (List Delivery) := fun _ => []
  /-- The statements that are held, by name and number. -/
  heldNames : List (String × Nat) := []

namespace Rehearsal

/-- The error of a statement that was cancelled. -/
def cancelError : DriverError where
  message := "SQL execution canceled"
  code := some "000604"

/-- A call that fails once if it was told to. -/
def failOnce (error : Option DriverError) : Except DriverError Unit :=
  match error with
  | some e => .error e
  | none => .ok ()

/-- The rehearsal with a statement in another state. -/
def setProgress (r : Rehearsal) (n : Nat) (progress : Progress) : Rehearsal :=
  { r with statements := r.statements.put n { r.statements n with progress := progress } }

/-- The rehearsal with a held statement forgotten. -/
def forget (r : Rehearsal) (n : Nat) : Rehearsal :=
  { r with heldNames := r.heldNames.filter fun entry => entry.2 ≠ n }

/-- Starts a statement with the next answer, held if the next one is to be. -/
def execute (execution : Nat) (submission : Submission) (r : Rehearsal) :
    StatementInfo × Rehearsal :=
  let name := "q" ++ toString execution
  let answer := r.answers.head?.getD (.ok (some []))
  (⟨name, submission.sqlText⟩,
    { r with
      answers := r.answers.tail
      holdsNext := false
      statements := r.statements.put execution
        ⟨answer, if r.holdsNext then .held else .finished⟩
      heldNames := if r.holdsNext then (name, execution) :: r.heldNames else r.heldNames })

/-- The answer of a statement, once it is let go or cancelled. -/
def rows (execution : Nat) (r : Rehearsal) : Answer (Option (List Json)) × Rehearsal :=
  let statement := r.statements execution
  (match statement.progress with
    | .held | .abandoned => none
    | .finished => some statement.answer
    | .cancelled => some (.error cancelError), r)

/-- Stops a statement, unless it fails to; one that is not held stays as it is. -/
def cancel (execution : Nat) (r : Rehearsal) : Answer Unit × Rehearsal :=
  match r.failCancel with
  | some e => (some (.error e), { r with failCancel := none })
  | none =>
    (some (.ok ()),
      if (r.statements execution).progress = .held then
        (r.setProgress execution .cancelled).forget execution
      else r)

/-- The next row of a cursor. -/
def next (cursor : Nat) (r : Rehearsal) : Option (Option Delivery) × Rehearsal :=
  match r.cursors cursor with
  | [] => (some none, r)
  | delivery :: rest => (some (some delivery), { r with cursors := r.cursors.put cursor rest })

/-- Lets a held statement go, by its name; whether it was held and somebody waited for it. -/
def finish (name : String) (r : Rehearsal) : Bool × Rehearsal :=
  match r.heldNames.lookup name with
  | none => (false, r)
  | some n =>
    if (r.statements n).progress = .held then (true, (r.setProgress n .finished).forget n)
    else (false, r.forget n)

/-- The rehearsed driver. -/
def backend : Backend Rehearsal where
  connect _ _ r := (some (failOnce r.failConnect), { r with failConnect := none })
  probe _ r := (some r.probeAnswer, r)
  close _ r := (some (failOnce r.failClose), { r with failClose := none })
  execute _ execution submission r := r.execute execution submission
  rows execution r := r.rows execution
  cancel execution r := r.cancel execution
  abandon execution r := r.setProgress execution .abandoned
  openCursor _ cursor _ r :=
    { r with
      cursors := r.cursors.put cursor (r.rowLists.head?.getD [])
      rowLists := r.rowLists.tail }
  next cursor r := r.next cursor

end Rehearsal

end SnowflakeSql
