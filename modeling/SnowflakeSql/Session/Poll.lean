import SnowflakeSql.Session.System

/-!
# Polling tasks

`System.poll` does one step of a task: it goes on until the task is finished or has to wait for
the driver or for room in a channel.  `System.drop` gives a task up.  In both cases what the
task held is let go: the slot of its connection when its statement ends, and the sender of its
channel.  `System.attend` polls a task to its end, or gives it up.

A statement without text is not run: for a response it gives none, for rows it is an error, and
neither touches the connection.  A stream sends each row it takes from its cursor.  If the
receiver is gone, the stream ends quietly at a row; an error of the cursor ends it in any case.
-/

namespace SnowflakeSql.System

variable {σ : Type} (B : Backend σ)

/-- What polling a task gives: the task with its new stage, or its result. -/
inductive Step where
  | pending (task : Task)
  | ready (result : Except ClientError Reply)

/-- Waits for a session to open. -/
def awaitConnect (settings : Settings) (i : Nat) (s : System σ) : Step × System σ :=
  match B.connect i settings s.backend with
  | (none, b) => (.pending (.acquire settings (some i)), s.setBackend b)
  | (some (.ok _), b) => (.ready (.ok (.connected i)), s.setBackend b)
  | (some (.error e), b) =>
    let s := (s.setBackend b).record i .unlisten
    (.ready (.error (.connection e)),
      s.setConnection i { s.connections i with listeners := 0 })

/-- Opens a session whose errors are heard from the beginning. -/
def pollAcquire (settings : Settings) (connection : Option Nat) (s : System σ) :
    Step × System σ :=
  match connection with
  | some i => awaitConnect B settings i s
  | none =>
    let i := s.sessionCount
    let s := { s with sessionCount := i + 1 }.setConnection i { listeners := 1 }
    awaitConnect B settings i
      (((s.record i (.create settings)).record i .listen).record i .connect)

/-- Waits for the answer of a probed session; a failing probe means no. -/
def awaitProbe (i : Nat) (s : System σ) : Step × System σ :=
  match B.probe i s.backend with
  | (none, b) => (.pending (.validate i true), s.setBackend b)
  | (some (.ok valid), b) => (.ready (.ok (.valid valid)), s.setBackend b)
  | (some (.error _), b) => (.ready (.ok (.valid false)), s.setBackend b)

/-- Asks whether a connection can be used; a dead one is not probed. -/
def pollValidate (i : Nat) (asked : Bool) (s : System σ) : Step × System σ :=
  if asked then awaitProbe B i s
  else if (s.connections i).isDead then (.ready (.ok (.valid false)), s)
  else awaitProbe B i (s.record i .probe)

/-- Waits for a session to close. -/
def awaitClose (i : Nat) (s : System σ) : Step × System σ :=
  match B.close i s.backend with
  | (none, b) => (.pending (.destroy i true), s.setBackend b)
  | (some outcome, b) =>
    let s := (s.setBackend b).record i .unlisten
    (.ready (match outcome with
        | .ok _ => .ok .done
        | .error e => .error (.destroy e)),
      s.setConnection i ((s.connections i).close outcome))

/-- Closes a connection. -/
def pollDestroy (i : Nat) (asked : Bool) (s : System σ) : Step × System σ :=
  awaitClose B i (if asked then s else s.record i .close)

/-- Waits for a statement to be stopped. -/
def awaitCancel (i : Nat) (target : Running) (s : System σ) : Step × System σ :=
  match B.cancel target.execution s.backend with
  | (none, b) => (.pending (.cancel i (some target)), s.setBackend b)
  | (some (.ok _), b) => (.ready (.ok .done), s.setBackend b)
  | (some (.error e), b) => (.ready (.error (.cancel e)), s.setBackend b)

/-- Stops the statement that a connection runs, if it runs one. -/
def pollCancel (i : Nat) (target : Option Running) (s : System σ) : Step × System σ :=
  match target with
  | some target => awaitCancel B i target s
  | none =>
    match (s.connections i).running? with
    | some target => awaitCancel B i target (s.record i (.cancel target))
    | none => (.ready (.ok .done), s)

/-- Waits for the rows of a started statement. -/
def awaitRows (i : Nat) (statement : Statement) (finish : Option Response → Reply)
    (running : Running) (s : System σ) : Step × System σ :=
  match B.rows running.execution s.backend with
  | (none, b) => (.pending (.execute i statement finish (some running)), s.setBackend b)
  | (some (.ok rows), b) =>
    (.ready (.ok (finish (some { rows := rows, statement := some running.info }))),
      (s.setBackend b).releaseSlot i)
  | (some (.error e), b) => (.ready (.error (.execution e)), (s.setBackend b).releaseSlot i)

/-- Starts a statement on a connection that was reserved for it, attaches it, and tells the
caller who wants to know. -/
def startStatement (i : Nat) (statement : Statement) (s : System σ) : Running × System σ :=
  let n := s.executionCount
  let submission := Submission.buffered statement
  let (info, b) := B.execute i n submission s.backend
  let running : Running := ⟨n, info⟩
  let s := ({ s with executionCount := n + 1 }.setBackend b).record i (.execute running submission)
  let s := s.setConnection i ((s.connections i).attach running)
  (running,
    if (statement.context.map Context.announces).getD false then
      s.record i (.announce info (s.connections i).running?)
    else s)

/-- Runs a statement for a response as a whole. -/
def pollExecute (i : Nat) (statement : Statement) (finish : Option Response → Reply)
    (running : Option Running) (s : System σ) : Step × System σ :=
  match running with
  | some running => awaitRows B i statement finish running s
  | none =>
    if statement.isEmpty then (.ready (.ok (finish none)), s)
    else
      match (s.connections i).reserve with
      | .error e => (.ready (.error e), s)
      | .ok c =>
        let (running, s) := startStatement B i statement (s.setConnection i c)
        awaitRows B i statement finish running s

/-- The end of a stream: the slot is free and the sender gone. -/
def endStream (i channel : Nat) (result : Except ClientError Unit) (s : System σ) :
    Step × System σ :=
  (.ready (result.map fun _ => .done), (s.releaseSlot i).dropSender channel)

/-- Sends a delivery and those that follow it, as long as there is room for them. -/
def sendAll (i : Nat) (statement : Statement) (channel cursor : Nat) :
    Nat → Delivery → System σ → Step × System σ
  | room, delivery, s =>
    if (s.channels channel).receiverGone then
      endStream i channel (match delivery with
        | .ok _ => .ok ()
        | .error e => .error (.stream e)) s
    else
      match room with
      | 0 => (.pending (.stream i statement channel (.flowing cursor (some delivery))), s)
      | room + 1 =>
        let s := s.setChannel channel ((s.channels channel).push delivery)
        match delivery with
        | .error e => endStream i channel (.error (.stream e)) s
        | .ok _ =>
          match B.next cursor s.backend with
          | (none, b) =>
            (.pending (.stream i statement channel (.flowing cursor none)), s.setBackend b)
          | (some none, b) => endStream i channel (.ok ()) (s.setBackend b)
          | (some (some delivery), b) =>
            sendAll i statement channel cursor room delivery (s.setBackend b)

/-- Sends what the cursor has, after the delivery that has been waiting for room. -/
def flow (i : Nat) (statement : Statement) (channel cursor : Nat) (held : Option Delivery)
    (s : System σ) : Step × System σ :=
  match held with
  | some delivery =>
    sendAll B i statement channel cursor (s.channels channel).room delivery s
  | none =>
    match B.next cursor s.backend with
    | (none, b) =>
      (.pending (.stream i statement channel (.flowing cursor none)), s.setBackend b)
    | (some none, b) => endStream i channel (.ok ()) (s.setBackend b)
    | (some (some delivery), b) =>
      sendAll B i statement channel cursor (s.channels channel).room delivery (s.setBackend b)

/-- Runs a statement for rows one by one. -/
def pollStream (i : Nat) (statement : Statement) (channel : Nat) (stage : StreamStage)
    (s : System σ) : Step × System σ :=
  match stage with
  | .flowing cursor held => flow B i statement channel cursor held s
  | .fresh =>
    if statement.isEmpty then (.ready (.error .emptyQuery), s.dropSender channel)
    else
      match (s.connections i).reserve with
      | .error e => (.ready (.error e), s.dropSender channel)
      | .ok c =>
        let cursor := s.cursorCount
        let submission := Submission.streaming statement
        let s := { s with cursorCount := cursor + 1 }.setConnection i c
        let s := s.setBackend (B.openCursor i cursor submission s.backend)
        flow B i statement channel cursor none (s.record i (.stream submission))

/-- One step of a task. -/
def pollTask (task : Task) (s : System σ) : Step × System σ :=
  match task with
  | .absent => (.pending .absent, s)
  | .acquire settings connection => pollAcquire B settings connection s
  | .validate i asked => pollValidate B i asked s
  | .destroy i asked => pollDestroy B i asked s
  | .cancel i target => pollCancel B i target s
  | .execute i statement finish running => pollExecute B i statement finish running s
  | .stream i statement channel stage => pollStream B i statement channel stage s

/-- One step of the task of the number: its result, if it is finished by it. -/
def poll (n : Nat) (s : System σ) : Option (Except ClientError Reply) × System σ :=
  match pollTask B (s.tasks n) s with
  | (.pending task, s) => (none, s.setTask n task)
  | (.ready result, s) => (some result, s.setTask n .absent)

/-- Lets go of what a task holds. -/
def dropTask (task : Task) (s : System σ) : System σ :=
  match task with
  | .execute i _ _ (some running) =>
    (s.setBackend (B.abandon running.execution s.backend)).releaseSlot i
  | .stream i _ channel (.flowing _ _) => (s.releaseSlot i).dropSender channel
  | .stream _ _ channel .fresh => s.dropSender channel
  | _ => s

/-- Gives the task of the number up. -/
def drop (n : Nat) (s : System σ) : System σ := (dropTask B (s.tasks n) s).setTask n .absent

/-- Polls the task of the number until it is finished, while the driver changes from one poll to
the next.  When there are no more changes to wait for, the task is given up. -/
def attend (n : Nat) (changes : List (σ → σ)) (s : System σ) :
    Option (Except ClientError Reply) × System σ :=
  match s.poll B n with
  | (some result, s) => (some result, s)
  | (none, s) =>
    match changes with
    | [] => (none, s.drop B n)
    | change :: changes => s.setBackend (change s.backend) |>.attend n changes

/-- What can happen to a system. -/
inductive Action (σ : Type) where
  | begin (task : Task)
  | openChannel (capacity : Nat)
  | poll (task : Nat)
  | drop (task : Nat)
  | receive (channel : Nat)
  | dropReceiver (channel : Nat)
  /-- A session reports an error. -/
  | reportError (connection : Nat) (error : DriverError)
  /-- The driver changes on its own account. -/
  | backend (change : σ → σ)

/-- The system after something has happened to it. -/
def act (s : System σ) : Action σ → System σ
  | .begin task => (s.begin task).2
  | .openChannel capacity => (s.openChannel capacity).2
  | .poll n => (s.poll B n).2
  | .drop n => s.drop B n
  | .receive channel => (s.receive channel).2
  | .dropReceiver channel => s.dropReceiver channel
  | .reportError i e => s.reportError i e
  | .backend change => s.setBackend (change s.backend)

/-- The system after a sequence of happenings. -/
def run (s : System σ) (actions : List (Action σ)) : System σ := actions.foldl (act B) s

end SnowflakeSql.System
