import Mathlib.Order.WellFounded
import SnowflakeSql.Proofs.Session.Watching
import SnowflakeSql.Session.Rehearsal

/-!
# Streams deliver once and in order

A poll of a stream that has not ended sends what it has and what is ahead, or finds its cursor
waiting (`Stream.Poll`), and so keeps its course.  What the stream has still to do
(`Stream.work`) gets less by a poll that is able to get ahead, and by no move more: a stream that
is polled and read again and again ends (`Stream.exists_result_of_fair`).
`Stream.deliversOnce_of_fresh` puts both together for every schedule.
-/

namespace SnowflakeSql

namespace Stream

variable {σ : Type} {B : Backend σ} {stream : Stream} {S : B.Supply} {items : List Delivery}
  {capacity : Nat} {w : Watched σ}

/-! ## Polls -/

variable (stream) in
/-- What a stream has still to do: each delivery is to be read and then sent. -/
def work (S : B.Supply) (s : System σ) : Nat :=
  match s.tasks stream.task with
  | .stream _ _ _ .fresh => 2 * (stream.ahead S s).length + 2
  | .stream _ _ _ (.flowing _ held) => 2 * (stream.ahead S s).length + held.toList.length
  | _ => 0

variable (stream) in
/-- What is seen after a poll of the stream that came to `r`. -/
def polledTo (w : Watched σ) (r : System.Step × System σ) : Watched σ where
  system := r.2.setTask stream.task r.1.rest
  left := w.left
  result := r.1.result?

variable (stream) in
/-- What a poll of a stream that has not ended comes to: its cursor keeps it waiting at once, or
it goes on to send what it has and what is ahead. -/
inductive Poll (S : B.Supply) (items : List Delivery) (w : Watched σ) :
    System.Step × System σ → Prop
  | stalled {s' : System σ} (rows : List Json) : ¬ stream.Ready B w.system →
    s'.channels stream.channel = w.system.channels stream.channel →
    items = rows.map .ok ++ S.ahead stream.cursor s'.backend →
    stream.accepted w = rows.map .ok →
    2 * (S.ahead stream.cursor s'.backend).length ≤ stream.work S w.system →
    Poll S items w (.pending (stream.taskAt (.flowing stream.cursor none)), s')
  | sent {r : System.Step × System σ} (rows : List Json) (supply : List Delivery) :
    items = rows.map .ok ++ supply → stream.accepted w = rows.map .ok →
    2 * supply.length ≤ stream.work S w.system + 1 →
    System.Sent S stream.connection stream.statement stream.channel stream.cursor
      (w.system.channels stream.channel) supply r → Poll S items w r

theorem observe_poll (hresult : w.result = none) :
    stream.observe B w .poll =
      stream.polledTo w (System.pollTask B (w.system.tasks stream.task) w.system) := by
  have hleft : w.left ++ stream.leaving w.system .poll = w.left := List.append_nil _
  have hending : w.result.or (stream.ending B w.system .poll) =
      (System.pollTask B (w.system.tasks stream.task) w.system).1.result? := by
    rw [hresult]
    exact System.poll_fst B stream.task w.system
  have hsystem : System.act B w.system (stream.action .poll) =
      (System.pollTask B (w.system.tasks stream.task) w.system).2.setTask stream.task
        (System.pollTask B (w.system.tasks stream.task) w.system).1.rest :=
    System.poll_snd B stream.task w.system
  unfold observe polledTo
  rw [hleft, hending, hsystem]

/-- A poll of a stream that holds nothing, from a state in which its cursor is open. -/
theorem poll_flow {s : System σ} (rows : List Json)
    (hready : stream.Ready B w.system ↔ (B.next stream.cursor s.backend).1 ≠ none)
    (hchannel : s.channels stream.channel = w.system.channels stream.channel)
    (hitems : items = rows.map .ok ++ S.ahead stream.cursor s.backend)
    (haccepted : stream.accepted w = rows.map .ok)
    (hwork : 2 * (S.ahead stream.cursor s.backend).length ≤ stream.work S w.system) :
    stream.Poll S items w (System.flow B stream.connection stream.statement stream.channel
      stream.cursor none s) := by
  by_cases h : (B.next stream.cursor s.backend).1 = none
  · rw [System.flow_of_stalled h]
    have hahead : S.ahead stream.cursor (s.setBackend (B.next stream.cursor s.backend).2).backend =
        S.ahead stream.cursor s.backend := S.waits (Prod.ext h rfl)
    refine .stalled rows (fun hr => hready.mp hr h) hchannel ?_ haccepted ?_
    · rw [hahead, hitems]
    · rw [hahead]
      exact hwork
  · refine .sent rows _ hitems haccepted (Nat.le_succ_of_le hwork) ?_
    rw [← hchannel]
    exact System.sent_flow_of_ready S h

theorem Stage.poll (h : stream.Stage S items w) (hresult : w.result = none)
    (htext : stream.statement.isEmpty = false) :
    stream.Poll S items w (System.pollTask B (w.system.tasks stream.task) w.system) := by
  cases h with
  | fresh ht hidle hcursor hitems haccepted _ =>
    have hpoll : System.pollTask B (w.system.tasks stream.task) w.system = _ :=
      (congrArg (System.pollTask B · w.system) ht).trans
        (System.pollStream_of_idle B stream.channel htext hidle)
    have hopened : (System.cursorOpened B stream.connection stream.statement
        (w.system.reserved stream.connection)).backend = stream.opened B w.system := by
      unfold opened
      rw [← hcursor]
      rfl
    rw [hpoll, hcursor]
    refine poll_flow [] ?_ rfl ?_ haccepted ?_
    · unfold Ready
      rw [ht, hopened]
      rfl
    · rw [hopened, hitems, ahead_of_fresh ht]
      rfl
    · unfold work
      rw [ht, hopened, ahead_of_fresh ht]
      exact Nat.le_add_right _ 2
  | flowing rows held ht hitems haccepted _ =>
    have hpoll : System.pollTask B (w.system.tasks stream.task) w.system =
        System.flow B stream.connection stream.statement stream.channel stream.cursor held
          w.system := congrArg (System.pollTask B · w.system) ht
    rw [ahead_of_flowing ht] at hitems
    rw [hpoll]
    cases held with
    | none =>
      rw [Option.toList_none, List.append_nil] at hitems
      refine poll_flow rows ?_ rfl hitems haccepted ?_
      · unfold Ready
        rw [ht]
        rfl
      · unfold work
        rw [ht, ahead_of_flowing ht]
        exact Nat.le_refl _
    | some delivery =>
      refine .sent rows _ (by simpa using hitems) haccepted ?_
        (System.sent_flow_held S delivery w.system)
      unfold work
      rw [ht, ahead_of_flowing ht]
      exact Nat.le_refl _
  | finished result _ hsome _ => cases hresult.symm.trans hsome

theorem tasks_polledTo (w : Watched σ) (r : System.Step × System σ) :
    (stream.polledTo w r).system.tasks stream.task = r.1.rest := Numbered.put_self _ _ _

theorem accepted_polledTo {r : System.Step × System σ} (sent : List Delivery)
    (h : (r.2.channels stream.channel).waiting =
      (w.system.channels stream.channel).waiting ++ sent) :
    stream.accepted (stream.polledTo w r) = stream.accepted w ++ sent := by
  unfold accepted
  rw [List.append_assoc, ← h]
  rfl

theorem ahead_polledTo_pending (held : Option Delivery) (s : System σ) :
    stream.ahead S (stream.polledTo w
      (.pending (stream.taskAt (.flowing stream.cursor held)), s)).system =
        S.ahead stream.cursor s.backend := ahead_of_flowing (tasks_polledTo w _)

theorem ahead_polledTo_ready (result : Except ClientError Reply) (s : System σ) :
    stream.ahead S (stream.polledTo w (.ready result, s)).system =
      S.ahead stream.cursor s.backend := ahead_of_absent (tasks_polledTo w _)

theorem Poll.stage {r : System.Step × System σ} (h : stream.Poll S items w r) :
    stream.Stage S items (stream.polledTo w r) := by
  cases h with
  | stalled rows _ hchannel hitems haccepted _ =>
    refine .flowing rows none (tasks_polledTo w _) ?_ ?_ rfl
    · rw [ahead_polledTo_pending, Option.toList_none, List.append_nil, hitems]
    · rw [accepted_polledTo [] (by rw [hchannel, List.append_nil]), List.append_nil,
        haccepted]
  | sent rows supply hitems haccepted _ hsent =>
    cases hsent with
    | waiting rows' held _ hchannel hsupply _ _ _ =>
      refine .flowing (rows ++ rows') held (tasks_polledTo w _) ?_ ?_ rfl
      · refine Eq.trans ?_ (congrArg ((rows ++ rows').map .ok ++ held.toList ++ ·)
          (ahead_polledTo_pending held _).symm)
        rw [hitems, hsupply, List.map_append]
        simp only [List.append_assoc]
      · rw [accepted_polledTo (rows'.map .ok) (by rw [hchannel]; rfl), haccepted,
          List.map_append]
    | exhausted rows' hchannel hsupply hempty _ =>
      refine .finished _ (tasks_polledTo w _) rfl (.exhausted (rows ++ rows') ?_ ?_ ?_)
      · rw [hitems, hsupply, List.map_append]
      · rw [accepted_polledTo (rows'.map .ok) (by rw [hchannel]; rfl), haccepted,
          List.map_append]
      · exact (ahead_polledTo_ready _ _).trans hempty
    | failed rows' e hchannel hsupply _ =>
      refine .finished _ (tasks_polledTo w _) rfl (.failed (rows ++ rows') e ?_ ?_)
      · rw [ahead_polledTo_ready, hitems, hsupply, List.map_append, List.append_assoc]
      · rw [accepted_polledTo (rows'.map .ok ++ [.error e]) (by rw [hchannel]; rfl),
          haccepted, List.map_append, List.append_assoc]
    | lost delivery hgone hchannel hsupply =>
      refine .finished _ (tasks_polledTo w _) rfl (.lost rows delivery ?_ ?_ ?_)
      · exact (congrArg Channel.receiverGone hchannel).trans hgone
      · rw [ahead_polledTo_ready, hitems, hsupply]
      · rw [accepted_polledTo [] (by rw [hchannel, List.append_nil]; rfl), haccepted,
          List.append_nil]

/-- A poll leaves no more in the channel than it can hold. -/
theorem Poll.bounded {r : System.Step × System σ} (h : stream.Poll S items w r)
    (hbounded : (w.system.channels stream.channel).waiting.length ≤
      (w.system.channels stream.channel).capacity) :
    (r.2.channels stream.channel).capacity = (w.system.channels stream.channel).capacity ∧
      (r.2.channels stream.channel).waiting.length ≤
        (w.system.channels stream.channel).capacity := by
  cases h with
  | stalled rows _ hchannel _ _ _ =>
    dsimp only
    rw [hchannel]
    exact ⟨rfl, hbounded⟩
  | sent rows supply _ _ _ hsent =>
    obtain ⟨sent, hwaiting, hroom, hcapacity⟩ := hsent.exists_sent
    refine ⟨hcapacity, ?_⟩
    unfold Channel.room at hroom
    rw [hwaiting, List.length_append]
    omega

/-- A stream that has ended is not there to be polled. -/
theorem observe_poll_of_absent (htask : w.system.tasks stream.task = .absent) :
    stream.observe B w .poll =
      { w with system := w.system.setTask stream.task .absent, left := w.left ++ [] } := by
  have hpoll : System.pollTask B (w.system.tasks stream.task) w.system =
      (.pending .absent, w.system) := congrArg (System.pollTask B · w.system) htask
  have hsystem : System.act B w.system (stream.action .poll) =
      w.system.setTask stream.task .absent := by
    refine (System.poll_snd B stream.task w.system).trans ?_
    rw [hpoll]
    rfl
  have hending : stream.ending B w.system .poll = none := by
    refine (System.poll_fst B stream.task w.system).trans ?_
    rw [hpoll]
    rfl
  unfold observe
  rw [hsystem, hending, Option.or_none]
  rfl

theorem Course.poll (h : stream.Course S items capacity w)
    (htext : stream.statement.isEmpty = false) :
    stream.Course S items capacity (stream.observe B w .poll) := by
  by_cases habsent : w.system.tasks stream.task = .absent
  · have hself : (w.system.setTask stream.task .absent).tasks stream.task =
        w.system.tasks stream.task := (Numbered.put_self _ _ _).trans habsent.symm
    rw [observe_poll_of_absent habsent]
    exact h.stands [] ⟨hself, ahead_congr hself rfl, ⟨rfl, rfl, id⟩, fun _ => rfl,
      fun _ => rfl⟩ rfl rfl
  · have hresult : w.result = none := by
      cases h.stage with
      | fresh _ _ _ _ _ hnone => exact hnone
      | flowing _ _ _ _ _ hnone => exact hnone
      | finished _ ht _ _ => exact absurd ht habsent
    have hpoll := h.stage.poll hresult htext
    obtain ⟨hcapacity, hbounded⟩ := hpoll.bounded (h.limit ▸ h.bounded)
    rw [observe_poll hresult]
    exact ⟨hpoll.stage, hcapacity.trans h.limit, h.limit ▸ hbounded⟩

theorem Course.observe (h : stream.Course S items capacity w)
    (htext : stream.statement.isEmpty = false) {move : Move σ}
    (hallowed : stream.Allowed S w move) :
    stream.Course S items capacity (stream.observe B w move) := by
  by_cases hmove : move = .poll
  · exact hmove ▸ h.poll htext
  · refine h.stands _ (stands_observe hallowed hmove) rfl ?_
    cases move with
    | poll => exact absurd rfl hmove
    | receive => exact Option.or_none
    | close => exact Option.or_none
    | elsewhere action => exact Option.or_none

/-! ## Fair schedules -/

/-- The channel has room, or nobody to keep it for. -/
def Able (c : Channel) : Prop := 0 < c.room ∨ c.receiverGone = true

theorem Able.of_drained {c c' : Channel} {left : List Delivery} (h : Able c)
    (hdrained : Drained c c' left) : Able c' := by
  rcases h with hroom | hgone
  · refine .inl ?_
    have hlength := congrArg List.length hdrained.waiting
    rw [List.length_append] at hlength
    unfold Channel.room at hroom ⊢
    rw [hdrained.capacity]
    omega
  · exact .inr (hdrained.gone hgone)

/-- A poll that does not end the stream gets ahead if it is able to. -/
theorem Poll.work_le {r : System.Step × System σ} (h : stream.Poll S items w r)
    (hpending : r.1.result? = none) :
    stream.work S (stream.polledTo w r).system ≤ stream.work S w.system ∧
      (Able (w.system.channels stream.channel) →
        ¬ stream.Ready B w.system ∧ Able (r.2.channels stream.channel) ∨
          stream.work S (stream.polledTo w r).system < stream.work S w.system) := by
  have hwork : ∀ {held : Option Delivery} {s' : System σ},
      stream.work S (stream.polledTo w
        (.pending (stream.taskAt (.flowing stream.cursor held)), s')).system =
          2 * (S.ahead stream.cursor s'.backend).length + held.toList.length := by
    intro held s'
    rw [← ahead_polledTo_pending (S := S) (w := w) held s']
    unfold work
    rw [tasks_polledTo]
    rfl
  cases h with
  | stalled rows hready hchannel _ _ hle =>
    rw [hwork]
    exact ⟨hle, fun hable => .inl ⟨hready, hchannel ▸ hable⟩⟩
  | sent rows supply _ _ hle hsent =>
    cases hsent with
    | waiting rows' held hgone _ hsupply _ hfull hmoved =>
      have hlength := congrArg List.length hsupply
      simp only [List.length_append, List.length_map] at hlength
      unfold taskAt at hwork
      rw [hwork]
      have hheld : held.toList.length ≤ 1 := by cases held <;> simp
      by_cases hrows : rows' = []
      · -- Nothing was sent, so a delivery is held because there is no room.
        have hsome : held.isSome := hmoved.resolve_left (absurd hrows)
        have hlen := hfull hsome
        obtain ⟨delivery, rfl⟩ := Option.isSome_iff_exists.mp hsome
        rw [hrows, List.length_nil] at hlen hlength
        rw [Option.toList_some, List.length_singleton] at hlength ⊢
        refine ⟨by omega, fun hable => absurd hable ?_⟩
        rintro (hroom | hgone')
        · omega
        · exact absurd (hgone.symm.trans hgone') Bool.false_ne_true
      · have hpos := List.length_pos_iff.mpr hrows
        exact ⟨by omega, fun _ => .inr (by omega)⟩
    | exhausted _ _ _ _ _ => cases hpending
    | failed _ _ _ _ _ => cases hpending
    | lost _ _ _ _ => cases hpending

theorem Stands.work_eq {s s' : System σ} {left : List Delivery}
    (h : stream.Stands S s s' left) : stream.work S s' = stream.work S s := by
  unfold work
  rw [h.task, h.ahead]

/-- A move of a stream that goes on does not set it back, and does not take the room away that it
needs to get ahead. -/
theorem work_observe_le (h : stream.Course S items capacity w)
    (htext : stream.statement.isEmpty = false) {move : Move σ}
    (hallowed : stream.Allowed S w move) (hresult : (stream.observe B w move).result = none) :
    stream.work S (stream.observe B w move).system ≤ stream.work S w.system ∧
      (Able (w.system.channels stream.channel) →
        ¬ (move = .poll ∧ stream.Ready B w.system) ∧
            Able ((stream.observe B w move).system.channels stream.channel) ∨
          stream.work S (stream.observe B w move).system < stream.work S w.system) := by
  by_cases hmove : move = .poll
  · subst hmove
    have hnone : w.result = none := (Option.or_eq_none_iff.mp hresult).1
    have hpoll := h.stage.poll hnone htext
    rw [observe_poll hnone] at hresult ⊢
    obtain ⟨hle, hlt⟩ := hpoll.work_le hresult
    exact ⟨hle, fun hable => (hlt hable).imp_left fun ⟨hready, hstill⟩ =>
      ⟨fun hpolled => hready hpolled.2, hstill⟩⟩
  · have hstands := stands_observe hallowed hmove
    exact ⟨Nat.le_of_eq hstands.work_eq, fun hable =>
      .inl ⟨fun hpolled => hmove hpolled.1, hable.of_drained hstands.drained⟩⟩

/-- A channel that was just read has room. -/
theorem room_receive_pos {c : Channel} (hcapacity : 0 < c.capacity)
    (hbounded : c.waiting.length ≤ c.capacity) : 0 < c.receive.2.room := by
  unfold Channel.receive
  cases hwaiting : c.waiting with
  | nil =>
    unfold Channel.room
    dsimp only
    rw [hwaiting]
    exact hcapacity
  | cons delivery rest =>
    rw [hwaiting] at hbounded
    exact Nat.sub_pos_of_lt hbounded

variable {start : System σ} {moves : Nat → Move σ}

/-- A stream that is polled and read again and again ends. -/
theorem exists_result_of_fair (hcapacity : 0 < capacity)
    (htext : stream.statement.isEmpty = false)
    (hcourse : ∀ t, stream.Course S items capacity (stream.watch B start moves t))
    (hallowed : ∀ t, stream.Allowed S (stream.watch B start moves t) (moves t))
    (hfair : stream.Fair B start moves) :
    ∃ t, (stream.watch B start moves t).result.isSome := by
  by_contra hnever
  have hresult : ∀ t, (stream.watch B start moves t).result = none := fun t =>
    Option.not_isSome_iff_eq_none.mp fun h => hnever ⟨t, h⟩
  have hstep := fun t => work_observe_le (hcourse t) htext (hallowed t) (hresult (t + 1))
  -- From `t₀` on the work that is left does not get less any more.
  let left := fun t => stream.work S (stream.watch B start moves t).system
  let t₀ := Function.argmin left
  have hmin : ∀ t, left t₀ ≤ left t := fun t => Nat.le_of_not_lt (Function.not_lt_argmin left t)
  have hle : ∀ t ≥ t₀, left t ≤ left t₀ := fun t ht => by
    induction t, ht using Nat.le_induction with
    | base => exact Nat.le_refl _
    | succ t _ ih => exact Nat.le_trans (hstep t).1 ih
  have hstuck : ∀ t ≥ t₀, ¬ left (t + 1) < left t := fun t ht =>
    Nat.not_lt_of_le (Nat.le_trans (hle t ht) (hmin (t + 1)))
  -- So once there is room, there is room ever after.
  have hkeep : ∀ t ≥ t₀,
      Able ((stream.watch B start moves t).system.channels stream.channel) →
        ¬ (moves t = .poll ∧ stream.Ready B (stream.watch B start moves t).system) ∧
          Able ((stream.watch B start moves (t + 1)).system.channels stream.channel) :=
    fun t ht hable => ((hstep t).2 hable).resolve_right (hstuck t ht)
  obtain ⟨t₁, ht₁, hdrain⟩ := hfair.drained t₀
  have hroom : Able ((stream.watch B start moves (t₁ + 1)).system.channels stream.channel) := by
    rcases hdrain with hreceive | hgone
    · have hcourse₁ := hcourse t₁
      have hlimit := hcourse₁.limit
      have hwatch : stream.watch B start moves (t₁ + 1) =
          stream.observe B (stream.watch B start moves t₁) .receive := by
        rw [← hreceive]
        rfl
      refine .inl ?_
      rw [hwatch]
      refine (room_receive_pos (hlimit ▸ hcapacity) (hlimit ▸ hcourse₁.bounded)).trans_eq ?_
      exact congrArg Channel.room (System.channels_setChannel _ _ _).symm
    · exact (hkeep t₁ ht₁ (.inr hgone)).2
  have hable : ∀ u ≥ t₁ + 1,
      Able ((stream.watch B start moves u).system.channels stream.channel) := fun u hu => by
    induction u, hu using Nat.le_induction with
    | base => exact hroom
    | succ u hu ih => exact (hkeep u (by omega) ih).2
  obtain ⟨u, hu, hpolled⟩ := hfair.polled (t₁ + 1)
  exact (hkeep u (by omega) (hable u hu)).1 hpolled

/-- A stream with something to run on an idle connection, with a new channel. -/
theorem course_of_fresh (htask : start.tasks stream.task = stream.taskAt .fresh)
    (hidle : start.slotOf stream.connection = .idle) (hcursor : start.cursorCount = stream.cursor)
    (hchannel : start.channels stream.channel = { capacity := capacity }) :
    stream.Course S (stream.ahead S start) capacity { system := start } where
  stage := .fresh htask hidle hcursor rfl (congrArg Channel.waiting hchannel) rfl
  limit := congrArg Channel.capacity hchannel
  bounded := by
    dsimp only
    rw [hchannel]
    exact Nat.zero_le _

/-- Whatever the schedule, a stream on an idle connection delivers once and in order; and it ends
if the schedule is fair to it. -/
theorem deliversOnce_of_fresh (S : B.Supply)
    (htask : start.tasks stream.task = stream.taskAt .fresh)
    (htext : stream.statement.isEmpty = false)
    (hidle : start.slotOf stream.connection = .idle) (hcursor : start.cursorCount = stream.cursor)
    (hchannel : start.channels stream.channel = { capacity := capacity })
    (hcapacity : 0 < capacity)
    (hallowed : ∀ t, stream.Allowed S (stream.watch B start moves t) (moves t)) :
    (∀ t, stream.DeliversOnce S (stream.ahead S start) capacity
      (stream.watch B start moves t)) ∧
    (stream.Fair B start moves → ∃ t, (stream.watch B start moves t).result.isSome) := by
  have hcourse : ∀ t, stream.Course S (stream.ahead S start) capacity
      (stream.watch B start moves t) := by
    intro t
    induction t with
    | zero => exact course_of_fresh htask hidle hcursor hchannel
    | succ t ih => exact ih.observe htext (hallowed t)
  exact ⟨fun t => (hcourse t).deliversOnce,
    exists_result_of_fair hcapacity htext hcourse hallowed⟩

/-! ## A stream of the rehearsed driver -/

/-- The rehearsed driver gives the rows it was told, in order. -/
def rehearsedSupply : Rehearsal.backend.Supply where
  ahead cursor r := r.cursors cursor
  waits {cursor b b'} h := by
    have hnext : Rehearsal.next cursor b = (none, b') := h
    unfold Rehearsal.next at hnext
    split at hnext <;> cases hnext
  ends {cursor b b'} h := by
    have hnext : Rehearsal.next cursor b = (some none, b') := h
    unfold Rehearsal.next at hnext
    split at hnext
    · next hempty =>
      cases hnext
      exact ⟨hempty, hempty⟩
    · cases hnext
  gives {cursor b b' delivery} h := by
    have hnext : Rehearsal.next cursor b = (some (some delivery), b') := h
    unfold Rehearsal.next at hnext
    split at hnext
    · cases hnext
    · next first rest hcursor =>
      cases hnext
      rw [hcursor]
      exact congrArg (delivery :: ·) (Numbered.put_self _ _ _).symm

theorem ready_rehearsal (s : System Rehearsal) : stream.Ready Rehearsal.backend s := by
  have hnext : ∀ r, (Rehearsal.backend.next stream.cursor r).1 ≠ none := by
    intro r h
    have hnone : (Rehearsal.next stream.cursor r).1 = none := h
    unfold Rehearsal.next at hnone
    split at hnone <;> cases hnone
  unfold Ready
  split
  · exact hnext _
  · exact hnext _
  · trivial

/-- A row, an error and another row. -/
def brokenRows : List Delivery := [.ok (.int 1), .error { message := "lost" }, .ok (.int 2)]

/-- A stream of the broken rows, on the first connection. -/
def brokenStream : Stream := ⟨1, 0, .ofSql "select 1", 0, 0⟩

/-- The system in which the stream begins, with a channel for one delivery. -/
def brokenStart : System Rehearsal :=
  System.run Rehearsal.backend { backend := { rowLists := [brokenRows] } }
    [.begin (.acquire {} none), .poll 0, .openChannel 1, .begin (brokenStream.taskAt .fresh)]

/-- Polls and receipts in turn. -/
def inTurn (t : Nat) : Move Rehearsal := if t % 2 = 0 then .poll else .receive

theorem fair_inTurn : brokenStream.Fair Rehearsal.backend brokenStart inTurn where
  polled t := ⟨2 * t, by omega, if_pos (Nat.mul_mod_right 2 t), ready_rehearsal _⟩
  drained t := ⟨2 * t + 1, by omega, .inl (if_neg (by omega))⟩

theorem deliversOnce_brokenStream :
    brokenStream.ahead rehearsedSupply brokenStart = brokenRows ∧
      (∀ t, brokenStream.DeliversOnce rehearsedSupply brokenRows 1
        (brokenStream.watch Rehearsal.backend brokenStart inTurn t)) ∧
      ∃ t, (brokenStream.watch Rehearsal.backend brokenStart inTurn t).result.isSome := by
  have hallowed : ∀ t, brokenStream.Allowed rehearsedSupply
      (brokenStream.watch Rehearsal.backend brokenStart inTurn t) (inTurn t) := by
    intro t
    unfold inTurn
    split_ifs <;> trivial
  obtain ⟨hdelivers, hends⟩ :=
    deliversOnce_of_fresh rehearsedSupply rfl (by decide) rfl rfl rfl Nat.one_pos hallowed
  exact ⟨rfl, hdelivers, hends fair_inTurn⟩

end Stream

end SnowflakeSql
