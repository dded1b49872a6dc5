import SnowflakeSql.Proofs.Session.Sending

/-!
# Watching a stream

A `Stream` is watched from before its first poll on, while it is polled, its channel is read and
closed at any point, and anything else happens that does not concern it (`Stream.Apart`).  What
its cursor has to give is `items`; of these the rows up to the first error and that error are
`deliverable`.  `Stream.DeliversOnce` says of a moment that the channel has accepted the beginning
of what is deliverable, that nothing behind it was read, and what the stream has ended with, if it
has.  `Stream.Course` says how far a stream has come: it gives all that
(`Stream.Course.deliversOnce`), and every move but a poll keeps it (`Stream.Course.stands`).
-/

namespace SnowflakeSql

/-- Whether a delivery is an error. -/
def Delivery.isError : Delivery → Bool
  | .ok _ => false
  | .error _ => true

/-- The rows up to the first error, and that error. -/
def deliverable : List Delivery → List Delivery
  | [] => []
  | .ok row :: rest => .ok row :: deliverable rest
  | .error e :: _ => [.error e]

/-- The result of a stream that delivers all that is deliverable. -/
def endResult : List Delivery → Except ClientError Reply
  | [] => .ok .done
  | .ok _ :: rest => endResult rest
  | .error e :: _ => .error (.stream e)

theorem deliverable_rows_append (rows : List Json) (rest : List Delivery) :
    deliverable (rows.map .ok ++ rest) = rows.map .ok ++ deliverable rest := by
  induction rows with
  | nil => rfl
  | cons row rows ih => exact congrArg (Except.ok row :: ·) ih

theorem endResult_rows_append (rows : List Json) (rest : List Delivery) :
    endResult (rows.map .ok ++ rest) = endResult rest := by
  induction rows with
  | nil => rfl
  | cons row rows ih => exact ih

theorem deliverable_rows (rows : List Json) : deliverable (rows.map .ok) = rows.map .ok := by
  simpa [deliverable] using deliverable_rows_append rows []

theorem countP_isError_deliverable_le (items : List Delivery) :
    (deliverable items).countP Delivery.isError ≤ 1 := by
  fun_induction deliverable items with
  | case1 => exact Nat.zero_le 1
  | case2 row rest ih => simpa [Delivery.isError] using ih
  | case3 e rest => simp [Delivery.isError]

/-- Of a delivery that comes after rows at least itself is deliverable. -/
theorem exists_deliverable_rows_append_cons (rows : List Json) (delivery : Delivery)
    (rest : List Delivery) :
    ∃ rest', deliverable (rows.map .ok ++ delivery :: rest) =
      rows.map .ok ++ delivery :: rest' := by
  rw [deliverable_rows_append]
  cases delivery with
  | ok row => exact ⟨_, rfl⟩
  | error e => exact ⟨_, rfl⟩

/-- A stream: its task, what it runs, and the numbers of its channel and its cursor. -/
structure Stream where
  task : Nat
  connection : Nat
  statement : Statement
  channel : Nat
  cursor : Nat

/-- What can happen while a stream is watched. -/
inductive Move (σ : Type) where
  /-- The stream is polled. -/
  | poll
  /-- A delivery is taken off its channel, if there is one. -/
  | receive
  /-- The receiver of its channel goes. -/
  | close
  /-- Something happens that has nothing to do with it. -/
  | elsewhere (action : System.Action σ)

/-- A system, with what has been seen of a stream so far. -/
structure Watched (σ : Type) where
  system : System σ
  /-- What has left the channel: taken off it, or lost with its receiver. -/
  left : List Delivery := []
  /-- What the stream has ended with. -/
  result : Option (Except ClientError Reply) := none

namespace Stream

variable {σ : Type} {B : Backend σ} (stream : Stream)

/-- The task of the stream at a stage. -/
def taskAt (stage : StreamStage) : Task :=
  .stream stream.connection stream.statement stream.channel stage

/-- The driver after it has opened the cursor of the stream. -/
def opened (B : Backend σ) (s : System σ) : σ :=
  B.openCursor stream.connection stream.cursor (Submission.streaming stream.statement) s.backend

/-- What is ahead of the cursor; of one that is not open yet, what would be if it were opened. -/
def ahead (S : B.Supply) (s : System σ) : List Delivery :=
  match s.tasks stream.task with
  | .stream _ _ _ .fresh => S.ahead stream.cursor (stream.opened B s)
  | _ => S.ahead stream.cursor s.backend

/-- The next poll does not find the cursor waiting. -/
def Ready (B : Backend σ) (s : System σ) : Prop :=
  match s.tasks stream.task with
  | .stream _ _ _ .fresh => (B.next stream.cursor (stream.opened B s)).1 ≠ none
  | .stream _ _ _ (.flowing _ none) => (B.next stream.cursor s.backend).1 ≠ none
  | _ => True

/-- A change that has nothing to do with the stream: its task and its channel stay, and so does
what is ahead of its cursor.  Until its first poll nobody takes its connection or its cursor. -/
structure Apart (S : B.Supply) (s s' : System σ) : Prop where
  task : s'.tasks stream.task = s.tasks stream.task
  channel : s'.channels stream.channel = s.channels stream.channel
  ahead : stream.ahead S s' = stream.ahead S s
  slot : s.tasks stream.task = stream.taskAt .fresh →
    s'.slotOf stream.connection = s.slotOf stream.connection
  cursor : s.tasks stream.task = stream.taskAt .fresh → s'.cursorCount = s.cursorCount

/-- The happening that a move is. -/
def action : Move σ → System.Action σ
  | .poll => .poll stream.task
  | .receive => .receive stream.channel
  | .close => .dropReceiver stream.channel
  | .elsewhere action => action

/-- What leaves the channel by a move. -/
def leaving (s : System σ) : Move σ → List Delivery
  | .receive => match (s.channels stream.channel).receive.1 with
    | .item delivery => [delivery]
    | .empty | .closed => []
  | .close => (s.channels stream.channel).waiting
  | .poll | .elsewhere _ => []

/-- What a move ends the stream with. -/
def ending (B : Backend σ) (s : System σ) : Move σ → Option (Except ClientError Reply)
  | .poll => (s.poll B stream.task).1
  | .receive | .close | .elsewhere _ => none

/-- What is seen after one more move. -/
def observe (B : Backend σ) (w : Watched σ) (move : Move σ) : Watched σ where
  system := System.act B w.system (stream.action move)
  left := w.left ++ stream.leaving w.system move
  result := w.result.or (stream.ending B w.system move)

/-- What is seen after the first moves of a schedule. -/
def watch (B : Backend σ) (start : System σ) (moves : Nat → Move σ) : Nat → Watched σ
  | 0 => { system := start }
  | t + 1 => stream.observe B (watch B start moves t) (moves t)

/-- Whatever else happens has nothing to do with the stream. -/
def Allowed (S : B.Supply) (w : Watched σ) : Move σ → Prop
  | .elsewhere action => stream.Apart S w.system (System.act B w.system action)
  | .poll | .receive | .close => True

/-- What the channel has accepted. -/
def accepted (w : Watched σ) : List Delivery :=
  w.left ++ (w.system.channels stream.channel).waiting

/-- The stream delivers once and in order, as far as it has come. -/
structure DeliversOnce (S : B.Supply) (items : List Delivery) (capacity : Nat)
    (w : Watched σ) : Prop where
  /-- The channel has accepted the beginning of what is deliverable, in order. -/
  accepted : stream.accepted w <+: deliverable items
  errorOnce : (stream.accepted w).countP Delivery.isError ≤ 1
  /-- Nothing behind what is deliverable was read. -/
  read : ∃ read, items = read ++ stream.ahead S w.system ∧ read <+: deliverable items
  bounded : (w.system.channels stream.channel).waiting.length ≤ capacity
  /-- With its receiver there the stream ends with all delivered. -/
  stayed : ∀ result, w.result = some result →
    (w.system.channels stream.channel).receiverGone = false →
      stream.accepted w = deliverable items ∧ result = endResult items
  /-- Without its receiver it ends so too, or at the first delivery that was not accepted. -/
  gone : ∀ result, w.result = some result →
    (w.system.channels stream.channel).receiverGone = true →
      stream.accepted w = deliverable items ∧ result = endResult items ∨
      ∃ delivery rest, deliverable items = stream.accepted w ++ delivery :: rest ∧
        result = delivery.lostResult

/-- Again and again the stream is polled without finding its cursor waiting, and its channel is
read or has lost its receiver. -/
structure Fair (B : Backend σ) (start : System σ) (moves : Nat → Move σ) : Prop where
  polled : ∀ t, ∃ u ≥ t, moves u = .poll ∧ stream.Ready B (stream.watch B start moves u).system
  drained : ∀ t, ∃ u ≥ t, moves u = .receive ∨
    ((stream.watch B start moves u).system.channels stream.channel).receiverGone = true

/-! ## How far a stream has come -/

/-- What a stream has ended with, by what was accepted and what is still ahead. -/
inductive Ended (items accepted ahead : List Delivery) (gone : Bool) :
    Except ClientError Reply → Prop
  | exhausted (rows : List Json) : items = rows.map .ok → accepted = rows.map .ok → ahead = [] →
    Ended items accepted ahead gone (.ok .done)
  | failed (rows : List Json) (e : DriverError) : items = rows.map .ok ++ .error e :: ahead →
    accepted = rows.map .ok ++ [.error e] → Ended items accepted ahead gone (.error (.stream e))
  | lost (rows : List Json) (delivery : Delivery) : gone = true →
    items = rows.map .ok ++ delivery :: ahead → accepted = rows.map .ok →
    Ended items accepted ahead gone delivery.lostResult

/-- The stages of a stream: nothing of the items is lost, and only rows are accepted before it
ends. -/
inductive Stage (S : B.Supply) (items : List Delivery) (w : Watched σ) : Prop
  | fresh : w.system.tasks stream.task = stream.taskAt .fresh →
    w.system.slotOf stream.connection = .idle → w.system.cursorCount = stream.cursor →
    items = stream.ahead S w.system → stream.accepted w = [] → w.result = none → Stage S items w
  | flowing (rows : List Json) (held : Option Delivery) :
    w.system.tasks stream.task = stream.taskAt (.flowing stream.cursor held) →
    items = rows.map .ok ++ held.toList ++ stream.ahead S w.system →
    stream.accepted w = rows.map .ok → w.result = none → Stage S items w
  | finished (result : Except ClientError Reply) : w.system.tasks stream.task = .absent →
    w.result = some result →
    Ended items (stream.accepted w) (stream.ahead S w.system)
      (w.system.channels stream.channel).receiverGone result → Stage S items w

/-- A stream at its stage, with a channel that keeps to its capacity. -/
structure Course (S : B.Supply) (items : List Delivery) (capacity : Nat) (w : Watched σ) :
    Prop where
  stage : stream.Stage S items w
  limit : (w.system.channels stream.channel).capacity = capacity
  bounded : (w.system.channels stream.channel).waiting.length ≤ capacity

variable {stream}

theorem ahead_of_fresh {S : B.Supply} {s : System σ}
    (h : s.tasks stream.task = stream.taskAt .fresh) :
    stream.ahead S s = S.ahead stream.cursor (stream.opened B s) := by
  unfold ahead
  rw [h]
  rfl

theorem ahead_of_flowing {S : B.Supply} {s : System σ} {cursor : Nat} {held : Option Delivery}
    (h : s.tasks stream.task = stream.taskAt (.flowing cursor held)) :
    stream.ahead S s = S.ahead stream.cursor s.backend := by
  unfold ahead
  rw [h]
  rfl

theorem ahead_of_absent {S : B.Supply} {s : System σ} (h : s.tasks stream.task = .absent) :
    stream.ahead S s = S.ahead stream.cursor s.backend := by
  unfold ahead
  rw [h]

theorem ahead_congr {S : B.Supply} {s s' : System σ}
    (htask : s'.tasks stream.task = s.tasks stream.task) (hbackend : s'.backend = s.backend) :
    stream.ahead S s' = stream.ahead S s := by
  unfold ahead opened
  rw [htask, hbackend]

/-! ## The guarantees at each stage -/

variable {S : B.Supply} {items : List Delivery} {capacity : Nat} {w w' : Watched σ}

/-- What was read is what was accepted, and perhaps one delivery more. -/
theorem Stage.exists_read (h : stream.Stage S items w) :
    ∃ read, items = read ++ stream.ahead S w.system ∧ read <+: deliverable items ∧
      stream.accepted w <+: read := by
  cases h with
  | fresh _ _ _ hitems haccepted _ =>
    exact ⟨[], hitems, List.nil_prefix, haccepted ▸ List.nil_prefix⟩
  | flowing rows held _ hitems haccepted _ =>
    refine ⟨rows.map .ok ++ held.toList, hitems, ?_, ⟨held.toList, by rw [haccepted]⟩⟩
    rw [hitems, List.append_assoc, deliverable_rows_append]
    refine (List.prefix_append_right_inj _).mpr ?_
    cases held with
    | none => exact List.nil_prefix
    | some delivery => cases delivery <;> exact ⟨_, rfl⟩
  | finished result _ _ hended =>
    cases hended with
    | exhausted rows hitems haccepted hahead =>
      have hall : deliverable items = rows.map .ok := by rw [hitems, deliverable_rows]
      exact ⟨rows.map .ok, by rw [hahead, List.append_nil, hitems], hall ▸ List.prefix_rfl,
        haccepted ▸ List.prefix_rfl⟩
    | failed rows e hitems haccepted =>
      refine ⟨rows.map .ok ++ [.error e], by simp [hitems], ?_, haccepted ▸ List.prefix_rfl⟩
      rw [hitems, deliverable_rows_append]
      exact List.prefix_rfl
    | lost rows delivery _ hitems haccepted =>
      refine ⟨rows.map .ok ++ [delivery], by simp [hitems], ?_, ⟨[delivery], by rw [haccepted]⟩⟩
      obtain ⟨rest, hrest⟩ :=
        exists_deliverable_rows_append_cons rows delivery (stream.ahead S w.system)
      rw [hitems, hrest]
      exact ⟨rest, by simp⟩

/-- How a stream ends. -/
theorem Stage.of_result (h : stream.Stage S items w) {result : Except ClientError Reply}
    (hresult : w.result = some result) :
    stream.accepted w = deliverable items ∧ result = endResult items ∨
      (w.system.channels stream.channel).receiverGone = true ∧
        ∃ delivery rest, deliverable items = stream.accepted w ++ delivery :: rest ∧
          result = delivery.lostResult := by
  cases h with
  | fresh _ _ _ _ _ hnone => cases hnone.symm.trans hresult
  | flowing _ _ _ _ _ hnone => cases hnone.symm.trans hresult
  | finished result' _ hresult' hended =>
    cases hresult'.symm.trans hresult
    cases hended with
    | exhausted rows hitems haccepted _ =>
      refine .inl ⟨?_, ?_⟩
      · rw [haccepted, hitems, deliverable_rows]
      · rw [hitems, ← List.append_nil (rows.map _), endResult_rows_append]
        rfl
    | failed rows e hitems haccepted =>
      refine .inl ⟨?_, ?_⟩
      · rw [haccepted, hitems, deliverable_rows_append]
        rfl
      · rw [hitems, endResult_rows_append]
        rfl
    | lost rows delivery hgone hitems haccepted =>
      obtain ⟨rest, hrest⟩ :=
        exists_deliverable_rows_append_cons rows delivery (stream.ahead S w.system)
      exact .inr ⟨hgone, delivery, rest, by rw [hitems, hrest, haccepted], rfl⟩

theorem Course.deliversOnce (h : stream.Course S items capacity w) :
    stream.DeliversOnce S items capacity w := by
  obtain ⟨read, hitems, hread, haccepted⟩ := h.stage.exists_read
  have hdeliverable := haccepted.trans hread
  refine ⟨hdeliverable, ?_, ⟨read, hitems, hread⟩, h.bounded, fun result hresult hhere => ?_,
    fun result hresult _ => ?_⟩
  · exact Nat.le_trans hdeliverable.sublist.countP_le (countP_isError_deliverable_le items)
  · rcases h.stage.of_result hresult with hall | ⟨hgone, -⟩
    · exact hall
    · exact absurd (hhere.symm.trans hgone) Bool.false_ne_true
  · rcases h.stage.of_result hresult with hall | ⟨-, hlost⟩
    · exact .inl hall
    · exact .inr hlost

/-! ## Moves that do not poll the stream -/

/-- The channel after `left` has left it, and perhaps its receiver or its sender has gone. -/
structure Drained (c c' : Channel) (left : List Delivery) : Prop where
  waiting : c.waiting = left ++ c'.waiting
  capacity : c'.capacity = c.capacity
  gone : c.receiverGone = true → c'.receiverGone = true

variable (stream) in
/-- The stream stays where it is while `left` leaves its channel. -/
structure Stands (S : B.Supply) (s s' : System σ) (left : List Delivery) : Prop where
  task : s'.tasks stream.task = s.tasks stream.task
  ahead : stream.ahead S s' = stream.ahead S s
  drained : Drained (s.channels stream.channel) (s'.channels stream.channel) left
  slot : s.tasks stream.task = stream.taskAt .fresh →
    s'.slotOf stream.connection = s.slotOf stream.connection
  cursor : s.tasks stream.task = stream.taskAt .fresh → s'.cursorCount = s.cursorCount

theorem drained_receive (s : System σ) :
    Drained (s.channels stream.channel) ((s.receive stream.channel).2.channels stream.channel)
      (stream.leaving s .receive) := by
  have hchannel : (s.receive stream.channel).2.channels stream.channel =
      (s.channels stream.channel).receive.2 := System.channels_setChannel _ _ _
  rw [hchannel]
  unfold leaving Channel.receive
  cases hwaiting : (s.channels stream.channel).waiting with
  | nil =>
    refine ⟨?_, rfl, id⟩
    dsimp only
    rw [hwaiting]
    split_ifs <;> rfl
  | cons delivery rest => exact ⟨hwaiting, rfl, id⟩

theorem drained_dropReceiver (s : System σ) :
    Drained (s.channels stream.channel) ((s.dropReceiver stream.channel).channels stream.channel)
      (stream.leaving s .close) := by
  have hchannel : (s.dropReceiver stream.channel).channels stream.channel =
      (s.channels stream.channel).dropReceiver := System.channels_setChannel _ _ _
  rw [hchannel]
  exact ⟨(List.append_nil _).symm, rfl, fun _ => rfl⟩

/-- A move that is no poll lets the stream stay where it is. -/
theorem stands_observe {move : Move σ} (hallowed : stream.Allowed S w move)
    (hmove : move ≠ .poll) :
    stream.Stands S w.system (stream.observe B w move).system
      (stream.leaving w.system move) := by
  cases move with
  | poll => exact absurd rfl hmove
  | receive =>
    exact ⟨rfl, ahead_congr rfl rfl, drained_receive w.system, fun _ => rfl, fun _ => rfl⟩
  | close =>
    exact ⟨rfl, ahead_congr rfl rfl, drained_dropReceiver w.system, fun _ => rfl, fun _ => rfl⟩
  | elsewhere action =>
    have hapart : stream.Apart S w.system (System.act B w.system action) := hallowed
    refine ⟨hapart.task, hapart.ahead, ?_, hapart.slot, hapart.cursor⟩
    have hchannel : (stream.observe B w (.elsewhere action)).system.channels stream.channel =
        w.system.channels stream.channel := hapart.channel
    rw [hchannel]
    exact ⟨rfl, rfl, id⟩

/-- Nothing but what has left its channel is gone while a stream stays where it is. -/
theorem Course.stands (h : stream.Course S items capacity w) (left : List Delivery)
    (hstands : stream.Stands S w.system w'.system left) (hleft : w'.left = w.left ++ left)
    (hresult : w'.result = w.result) : stream.Course S items capacity w' := by
  have haccepted : stream.accepted w' = stream.accepted w := by
    unfold accepted
    rw [hleft, hstands.drained.waiting, List.append_assoc]
  refine ⟨?_, hstands.drained.capacity.trans h.limit, ?_⟩
  · cases h.stage with
    | fresh ht hidle hcursor hitems hnone hres =>
      exact .fresh (hstands.task.trans ht) ((hstands.slot ht).trans hidle)
        ((hstands.cursor ht).trans hcursor) (hitems.trans hstands.ahead.symm)
        (haccepted.trans hnone) (hresult.trans hres)
    | flowing rows held ht hitems hrows hres =>
      exact .flowing rows held (hstands.task.trans ht) (hstands.ahead ▸ hitems)
        (haccepted.trans hrows) (hresult.trans hres)
    | finished result ht hres hended =>
      refine .finished result (hstands.task.trans ht) (hresult.trans hres) ?_
      rw [haccepted, hstands.ahead]
      cases hended with
      | exhausted rows hitems hrows hempty => exact .exhausted rows hitems hrows hempty
      | failed rows e hitems hrows => exact .failed rows e hitems hrows
      | lost rows delivery hg hitems hrows =>
        exact .lost rows delivery (hstands.drained.gone hg) hitems hrows
  · refine Nat.le_trans ?_ h.bounded
    rw [hstands.drained.waiting, List.length_append]
    exact Nat.le_add_left _ _

end Stream

end SnowflakeSql
