import SnowflakeSql.Capability
import SnowflakeSql.Session.Backend
import SnowflakeSql.Session.Connection
import SnowflakeSql.Session.Numbered

/-!
# The state of all sessions

A `System` is the state of a driver together with all connections, channels and tasks, by their
numbers, and a record of what the driver was asked (`Event`) and warned of.  Connections are
numbered as their sessions are created.  A `Task` is a piece of work that is done step by step,
each time it is polled, until it has a `Reply`; what it has done so far is its stage.
-/

namespace SnowflakeSql

/-- What a session of the driver was asked to do. -/
inductive Call where
  | create (settings : Settings)
  /-- Errors of the session are to be heard. -/
  | listen
  | connect
  | probe
  | close
  /-- Nobody listens any more. -/
  | unlisten
  | execute (statement : Running) (submission : Submission)
  | cancel (statement : Running)
  | stream (submission : Submission)
  /-- The caller is told of the statement, while the slot holds `running`. -/
  | announce (info : StatementInfo) (running : Option Running)

/-- A call on the session of a connection. -/
structure Event where
  connection : Nat
  call : Call

/-- What a finished task gives. -/
inductive Reply where
  | done
  | connected (connection : Nat)
  | valid (isValid : Bool)
  /-- The response of a statement, none if there was nothing to run. -/
  | response (method : Method) (response : Option Response)
  | outcome (outcome : Outcome)

/-- How far a stream has come. -/
inductive StreamStage where
  | fresh
  /-- The cursor is open; a delivery may be waiting for room in the channel. -/
  | flowing (cursor : Nat) (held : Option Delivery)

/-- A piece of work that is done step by step. -/
inductive Task where
  /-- There is no such work, or it is finished. -/
  | absent
  /-- Opens a session; the connection is known once the session is created. -/
  | acquire (settings : Settings) (connection : Option Nat)
  /-- Asks whether a connection can be used; `asked` once the session was probed. -/
  | validate (connection : Nat) (asked : Bool)
  /-- Closes a connection; `asked` once the session was told. -/
  | destroy (connection : Nat) (asked : Bool)
  /-- Stops the statement of a connection; it is known once the driver was told. -/
  | cancel (connection : Nat) (target : Option Running)
  /-- Runs a statement for a response as a whole, of which `finish` makes the reply. -/
  | execute (connection : Nat) (statement : Statement) (finish : Option Response → Reply)
      (running : Option Running)
  /-- Runs a statement for rows one by one, sent into a channel. -/
  | stream (connection : Nat) (statement : Statement) (channel : Nat) (stage : StreamStage)

/-- A driver, and all that goes on with it. -/
structure System (σ : Type) where
  backend : σ
  connections : Numbered Connection := fun _ => {}
  channels : Numbered Channel := fun _ => { capacity := 0 }
  tasks : Numbered Task := fun _ => .absent
  /-- How many sessions have been created, and how many of each other thing. -/
  sessionCount : Nat := 0
  channelCount : Nat := 0
  taskCount : Nat := 0
  executionCount : Nat := 0
  cursorCount : Nat := 0
  /-- The number of the next transaction, which starts again from zero after the last of 64 bits. -/
  nextTransaction : UInt64 := 1
  events : List Event := []
  warnings : List Warning := []

namespace System

variable {σ : Type}

/-- The system with another state of a connection. -/
def setConnection (s : System σ) (i : Nat) (c : Connection) : System σ :=
  { s with connections := s.connections.put i c }

/-- The system with another state of a channel. -/
def setChannel (s : System σ) (i : Nat) (c : Channel) : System σ :=
  { s with channels := s.channels.put i c }

/-- The system with another state of a task. -/
def setTask (s : System σ) (i : Nat) (t : Task) : System σ := { s with tasks := s.tasks.put i t }

/-- The system with another state of the driver. -/
def setBackend (s : System σ) (b : σ) : System σ := { s with backend := b }

/-- The system with a call recorded. -/
def record (s : System σ) (i : Nat) (call : Call) : System σ :=
  { s with events := s.events ++ [⟨i, call⟩] }

/-- The system with the slot of a connection free. -/
def releaseSlot (s : System σ) (i : Nat) : System σ := s.setConnection i (s.connections i).release

/-- The system with the sender of a channel gone. -/
def dropSender (s : System σ) (i : Nat) : System σ := s.setChannel i (s.channels i).dropSender

/-- The system with warnings given. -/
def warn (s : System σ) (warnings : List Warning) : System σ :=
  { s with warnings := s.warnings ++ warnings }

/-- A session reports an error, which its listeners hear. -/
def reportError (s : System σ) (i : Nat) (error : DriverError) : System σ :=
  s.setConnection i ((s.connections i).hear error)

/-- A new channel, and its number. -/
def openChannel (s : System σ) (capacity : Nat) : Nat × System σ :=
  (s.channelCount,
    { s with
      channels := s.channels.put s.channelCount { capacity := capacity }
      channelCount := s.channelCount + 1 })

/-- A new task, and its number. -/
def begin (s : System σ) (task : Task) : Nat × System σ :=
  (s.taskCount,
    { s with tasks := s.tasks.put s.taskCount task, taskCount := s.taskCount + 1 })

/-- Takes one delivery off a channel. -/
def receive (s : System σ) (channel : Nat) : Received × System σ :=
  let (received, c) := (s.channels channel).receive
  (received, s.setChannel channel c)

/-- The receiver of a channel goes. -/
def dropReceiver (s : System σ) (channel : Nat) : System σ :=
  s.setChannel channel (s.channels channel).dropReceiver

end System

end SnowflakeSql
