import SnowflakeSql.Client
import SnowflakeSql.Inspect.Client
import SnowflakeSql.Session.Poll
import SnowflakeSql.Session.Rehearsal
import SnowflakeSql.Session.Transaction

/-!
# Session scripts

A script is a sequence of cues for one client over the rehearsed driver: what the driver is to
do next, and what the client is asked.  Connections, streams, tasks and transactions go by the
names that the script gives them.  `Stage.perform` does one cue and says what came of it; what
the driver was asked meanwhile, and the warnings, are found in the state.
-/

namespace SnowflakeSql

/-- Where a statement of a script comes from. -/
inductive StatementSource where
  | given (statement : Statement)
  | query (query : Query)
  /-- The statement of a schema script at the position. -/
  | schema (script : SchemaScript) (position : Nat)

/-- What is done with a statement of a script. -/
inductive TaskKind where
  /-- The response is asked for. -/
  | query
  /-- The outcome is asked for. -/
  | run
  /-- The rows are asked for one by one. -/
  | stream
  deriving DecidableEq, Repr

/-- How many deliveries the channel of a stream holds unless the script says otherwise. -/
def usualCapacity : Nat := 256

/-- One cue of a script. -/
inductive Cue where
  | respond (answer : Except DriverError (Option (List Json)))
  | streamItems (items : List Delivery)
  | failConnect (error : DriverError)
  | failDestroy (error : DriverError)
  | failCancel (error : DriverError)
  | probe (answer : Except DriverError Bool)
  | hold
  | finish (queryId : String)
  | emitError (connection : String) (error : DriverError)
  | acquire (connection : String)
  | state (connection : String)
  | validate (connection : String)
  | destroy (connection : String)
  | cancel (connection : String)
  /-- A statement that is polled once and then given up. -/
  | once (kind : TaskKind) (connection : String) (source : StatementSource) (announces : Bool)
    (dropsReceiver : Bool)
  /-- A statement that is kept under a name. -/
  | start (id : String) (kind : TaskKind) (connection : String) (source : StatementSource)
    (announces : Bool) (capacity : Nat)
  | poll (id : String)
  | drop (id : String)
  | receive (id : String)
  | close (id : String)
  | transaction (name connection : String) (nested usesSavepoints : Bool)
  | control (transaction : String) (op : TransactionOp)
  | identity

/-- Names that a script can use without having introduced them. -/
inductive UnknownName where
  | connection
  | task
  | channel
  | transaction
  deriving DecidableEq, Repr

/-- What came of a cue. -/
inductive Answered where
  | ok
  | truth (value : Bool)
  | count (value : Nat)
  | unknown (name : UnknownName)
  | failed (error : ClientError)
  /-- A session could not be opened; how many listeners it has left. -/
  | refused (error : ClientError) (listeners : Nat)
  | connection (connection : Connection)
  | pending
  | ready (result : Except ClientError Reply)
  /-- A stream, with what came through it. -/
  | streamed (result : Option (Except ClientError Reply)) (items : List Delivery)
  | received (received : Received)
  | transaction (transaction : Transaction)
  | identity

/-- The inspection text of a connection; its number is left out. -/
def Connection.inspect (c : Connection) : String :=
  Inspect.record "Connection" [
    ("id", "_"),
    ("disposed", Inspect.option DriverError.inspect c.disposed),
    ("closed", Inspect.bool c.closed)] false

/-- A client with all that goes on, and the names the script has given. -/
structure Stage where
  client : Client
  system : System Rehearsal := { backend := {} }
  connections : List (String × Nat) := []
  tasks : List (String × Nat) := []
  channels : List (String × Nat) := []
  transactions : List (String × Transaction) := []

namespace Stage

/-- The list of names with one more, in place of an older one. -/
def name {α : Type} (names : List (String × α)) (key : String) (x : α) : List (String × α) :=
  (key, x) :: names.filter fun entry => entry.1 ≠ key

/-- The list of names without one. -/
def unname {α : Type} (names : List (String × α)) (key : String) : List (String × α) :=
  names.filter fun entry => entry.1 ≠ key

/-- The stage with the driver told something. -/
def tell (stage : Stage) (f : Rehearsal → Rehearsal) : Stage :=
  { stage with system := { stage.system with backend := f stage.system.backend } }

/-- The stage with warnings, as far as the caller hears them. -/
def warn (stage : Stage) (warnings : List Warning) : Stage :=
  { stage with system := stage.system.warn (stage.client.heard warnings) }

/-- The statement of a source; compiling may give warnings. -/
def compile (stage : Stage) : StatementSource → Except CompileError Statement × Stage
  | .given statement => (.ok statement, stage)
  | .query query => (stage.client.compileQuery query, stage)
  | .schema script position =>
    let report := stage.client.compileSchema script
    (report.result.map fun statements => statements[position]?.getD (.ofSql ""),
      stage.warn report.warnings)

/-- The statement with the caller told when it runs. -/
def announce (announces : Bool) (statement : Statement) : Statement :=
  if announces then
    let data := (statement.context.map Context.data).getD .null
    { statement with context := some { data := data, announces := true } }
  else statement

/-- Begins a task and polls it once; it is given up if it is pending. -/
def pollOnce (stage : Stage) (task : Task) : Option (Except ClientError Reply) × Stage :=
  let (n, system) := stage.system.begin task
  let (result, system) := system.attend Rehearsal.backend n []
  (result, { stage with system })

/-- The task of a statement whose response or outcome is asked for. -/
def responseTask (stage : Stage) (kind : TaskKind) (i : Nat) (statement : Statement) : Task :=
  .execute i statement
    (fun response => match kind with
      | .run => .outcome (stage.client.outcome statement response)
      | _ => .response statement.method response) none

/-- The result of a task that was polled. -/
def polled : Option (Except ClientError Reply) → Answered
  | some result => .ready result
  | none => .pending

/-- The result of a task whose result is shown bare. -/
def bare : Option (Except ClientError Reply) → Answered
  | some (.ok (.valid valid)) => .truth valid
  | some (.ok _) => .ok
  | some (.error e) => .failed e
  | none => .pending

/-- Opens a connection and names it if that went well. -/
def acquire (stage : Stage) (key : String) : Answered × Stage :=
  let i := stage.system.sessionCount
  let (result, stage) := stage.pollOnce (.acquire stage.client.settings none)
  match result with
  | some (.ok _) => (.ok, { stage with connections := name stage.connections key i })
  | some (.error e) => (.refused e (stage.system.connections i).listeners, stage)
  | none => (.pending, stage)

/-- Runs a statement that is not kept. -/
def once (stage : Stage) (kind : TaskKind) (i : Nat) (statement : Statement)
    (dropsReceiver : Bool) : Answered × Stage :=
  match kind with
  | .stream =>
    let (channel, system) := stage.system.openChannel usualCapacity
    let system := if dropsReceiver then system.dropReceiver channel else system
    let (result, stage) := { stage with system }.pollOnce (.stream i statement channel .fresh)
    if dropsReceiver then (polled result, stage)
    else (.streamed result (stage.system.channels channel).waiting, stage)
  | kind =>
    let (result, stage) := stage.pollOnce (stage.responseTask kind i statement)
    (polled result, stage)

/-- Gives the task of a name up. -/
def dropNamed (stage : Stage) (id : String) : Bool × Stage :=
  match stage.tasks.lookup id with
  | some n =>
    (true, { stage with
      system := stage.system.drop Rehearsal.backend n, tasks := unname stage.tasks id })
  | none => (false, stage)

/-- Drops the receiver of a name. -/
def closeNamed (stage : Stage) (id : String) : Bool × Stage :=
  match stage.channels.lookup id with
  | some channel =>
    (true, { stage with
      system := stage.system.dropReceiver channel, channels := unname stage.channels id })
  | none => (false, stage)

/-- Polls a task and keeps it under the name if it is pending. -/
def keep (stage : Stage) (id : String) (n : Nat) : Answered × Stage :=
  let (result, system) := stage.system.poll Rehearsal.backend n
  let stage := { stage with system }
  match result with
  | some result => (.ready result, stage)
  | none =>
    let (_, stage) := stage.dropNamed id
    (.pending, { stage with tasks := name stage.tasks id n })

/-- Runs a statement that is kept. -/
def start (stage : Stage) (id : String) (kind : TaskKind) (i : Nat) (statement : Statement)
    (capacity : Nat) : Answered × Stage :=
  match kind with
  | .stream =>
    let (_, stage) := stage.closeNamed id
    let (channel, system) := stage.system.openChannel capacity
    let (n, system) := system.begin (.stream i statement channel .fresh)
    { stage with system, channels := name stage.channels id channel }.keep id n
  | kind =>
    let (n, system) := stage.system.begin (stage.responseTask kind i statement)
    { stage with system }.keep id n

/-- Carries out an operation of a transaction. -/
def control (stage : Stage) (t : Transaction) (op : TransactionOp) : Answered × Stage :=
  let (result, system) := stage.system.carryOut Rehearsal.backend stage.client t op []
  (bare result, { stage with system })

/-- Does something with the connection of a name. -/
def onConnection (stage : Stage) (key : String) (f : Nat → Answered × Stage) : Answered × Stage :=
  match stage.connections.lookup key with
  | some i => f i
  | none => (.unknown .connection, stage)

/-- Does something with a statement on the connection of a name. -/
def onStatement (stage : Stage) (key : String) (source : StatementSource) (announces : Bool)
    (f : Stage → Nat → Statement → Answered × Stage) : Answered × Stage :=
  stage.onConnection key fun i =>
    match stage.compile source with
    | (.error e, stage) => (.failed (.compile e), stage)
    | (.ok statement, stage) => f stage i (announce announces statement)

/-- Does one cue. -/
def perform (stage : Stage) (cue : Cue) : Answered × Stage :=
  match cue with
  | .respond answer => (.ok, stage.tell fun r => { r with answers := r.answers ++ [answer] })
  | .streamItems items => (.ok, stage.tell fun r => { r with rowLists := r.rowLists ++ [items] })
  | .failConnect e => (.ok, stage.tell fun r => { r with failConnect := some e })
  | .failDestroy e => (.ok, stage.tell fun r => { r with failClose := some e })
  | .failCancel e => (.ok, stage.tell fun r => { r with failCancel := some e })
  | .probe answer => (.ok, stage.tell fun r => { r with probeAnswer := answer })
  | .hold => (.ok, stage.tell fun r => { r with holdsNext := true })
  | .finish queryId =>
    (.truth (stage.system.backend.finish queryId).1, stage.tell fun r => (r.finish queryId).2)
  | .emitError key e => stage.onConnection key fun i =>
    (.count (stage.system.connections i).listeners,
      { stage with system := stage.system.reportError i e })
  | .acquire key => stage.acquire key
  | .state key => stage.onConnection key fun i =>
    (.connection (stage.system.connections i), stage)
  | .validate key => stage.onConnection key fun i =>
    (stage.pollOnce (.validate i false)).map bare fun s => s
  | .destroy key => stage.onConnection key fun i =>
    (stage.pollOnce (.destroy i false)).map bare fun s => s
  | .cancel key => stage.onConnection key fun i =>
    (stage.pollOnce (.cancel i none)).map bare fun s => s
  | .once kind key source announces dropsReceiver =>
    stage.onStatement key source announces fun stage i statement =>
      stage.once kind i statement dropsReceiver
  | .start id kind key source announces capacity =>
    stage.onStatement key source announces fun stage i statement =>
      stage.start id kind i statement capacity
  | .poll id =>
    match stage.tasks.lookup id with
    | none => (.unknown .task, stage)
    | some n =>
      let (result, system) := stage.system.poll Rehearsal.backend n
      (polled result,
        { stage with
          system
          tasks := if result.isSome then unname stage.tasks id else stage.tasks })
  | .drop id => (stage.dropNamed id).map .truth fun s => s
  | .receive id =>
    match stage.channels.lookup id with
    | none => (.unknown .channel, stage)
    | some channel =>
      let (received, system) := stage.system.receive channel
      (.received received, { stage with system })
  | .close id => (stage.closeNamed id).map .truth fun s => s
  | .transaction key connection nested usesSavepoints => stage.onConnection connection fun i =>
    let (t, system) := stage.system.createTransaction i nested
      (usesSavepoints || stage.client.usesSavepoints)
    (.transaction t, { stage with system, transactions := name stage.transactions key t })
  | .control key op =>
    match stage.transactions.lookup key with
    | none => (.unknown .transaction, stage)
    | some t => stage.control t op
  | .identity => (.identity, stage)

/-- The stage with what happened meanwhile forgotten. -/
def forgetHistory (stage : Stage) : Stage :=
  { stage with system := { stage.system with events := [], warnings := [] } }

end Stage

end SnowflakeSql
