import SnowflakeSql.Proofs.Session.Slot

/-!
# What one poll of a stream sends

`Backend.Supply` says of a driver that every cursor has a list of deliveries ahead of it and
gives them in that order, however often a poll finds the next one not there yet.  A poll of a
stream sends some of what it holds and of what its cursor has ahead, in order, and then waits or
ends (`Sent`): `sent_sendAll` says so of the loop, `sent_flow_held` and `sent_flow_of_ready` of a
poll that has something to send.  Only a poll whose cursor keeps it waiting at once does nothing
(`flow_of_stalled`).
-/

namespace SnowflakeSql

/-- A driver whose cursors give the deliveries that are ahead of them, in order. -/
structure Backend.Supply {σ : Type} (B : Backend σ) where
  /-- What a cursor has still to give. -/
  ahead : (cursor : Nat) → σ → List Delivery
  waits : ∀ {cursor b b'}, B.next cursor b = (none, b') → ahead cursor b' = ahead cursor b
  ends : ∀ {cursor b b'}, B.next cursor b = (some none, b') →
    ahead cursor b = [] ∧ ahead cursor b' = []
  gives : ∀ {cursor b b' delivery}, B.next cursor b = (some (some delivery), b') →
    ahead cursor b = delivery :: ahead cursor b'

/-- The result of a stream that cannot send the delivery any more. -/
def Delivery.lostResult : Delivery → Except ClientError Reply
  | .ok _ => .ok .done
  | .error e => .error (.stream e)

/-- The channel with more deliveries. -/
def Channel.pushAll (channel : Channel) (deliveries : List Delivery) : Channel :=
  { channel with waiting := channel.waiting ++ deliveries }

theorem Channel.pushAll_nil (channel : Channel) : channel.pushAll [] = channel := by
  simp [pushAll]

theorem Channel.pushAll_push (channel : Channel) (delivery : Delivery)
    (deliveries : List Delivery) :
    (channel.push delivery).pushAll deliveries = channel.pushAll (delivery :: deliveries) := by
  simp [pushAll, push]

namespace System

variable {σ : Type} {B : Backend σ} (S : B.Supply)

section

variable (i : Nat) (statement : Statement) (channel cursor : Nat)

/-- What comes of sending `supply` into the channel as it is: some rows go, and then the stream
waits, or has come to the end of the supply, to its error, or to the first delivery that the
receiver is not there for. -/
inductive Sent (c : Channel) (supply : List Delivery) : Step × System σ → Prop
  | waiting {s' : System σ} (rows : List Json) (held : Option Delivery) :
    c.receiverGone = false → s'.channels channel = c.pushAll (rows.map .ok) →
    supply = rows.map .ok ++ held.toList ++ S.ahead cursor s'.backend →
    rows.length ≤ c.room → (held.isSome → rows.length = c.room) → (rows ≠ [] ∨ held.isSome) →
    Sent c supply (.pending (.stream i statement channel (.flowing cursor held)), s')
  | exhausted {s' : System σ} (rows : List Json) :
    s'.channels channel = (c.pushAll (rows.map .ok)).dropSender → supply = rows.map .ok →
    S.ahead cursor s'.backend = [] → rows.length ≤ c.room →
    Sent c supply (.ready (.ok .done), s')
  | failed {s' : System σ} (rows : List Json) (e : DriverError) :
    s'.channels channel = (c.pushAll (rows.map .ok ++ [.error e])).dropSender →
    supply = rows.map .ok ++ .error e :: S.ahead cursor s'.backend → rows.length < c.room →
    Sent c supply (.ready (.error (.stream e)), s')
  | lost {s' : System σ} (delivery : Delivery) :
    c.receiverGone = true → s'.channels channel = c.dropSender →
    supply = delivery :: S.ahead cursor s'.backend →
    Sent c supply (.ready delivery.lostResult, s')

variable {i statement channel cursor}

theorem channels_setChannel (s : System σ) (n : Nat) (c : Channel) :
    (s.setChannel n c).channels n = c := Numbered.put_self _ _ _

theorem channels_endStream (result : Except ClientError Unit) (s : System σ) :
    (endStream i channel result s).2.channels channel = (s.channels channel).dropSender :=
  channels_setChannel _ _ _

/-- A row that was sent first. -/
theorem Sent.cons {c : Channel} {supply : List Delivery} {row : Json} {r : Step × System σ}
    (hgone : c.receiverGone = false) (hroom : 0 < c.room)
    (h : Sent S i statement channel cursor (c.push (.ok row)) supply r) :
    Sent S i statement channel cursor c (.ok row :: supply) r := by
  have hpush := c.room_push (.ok row)
  cases h with
  | waiting rows held _ hchannel hsupply hle hfull _ =>
    refine .waiting (row :: rows) held hgone ?_ ?_ ?_ (fun hheld => ?_)
      (.inl (List.cons_ne_nil row rows))
    · rw [hchannel, Channel.pushAll_push]
      rfl
    · rw [hsupply]
      rfl
    · rw [List.length_cons]
      omega
    · have := hfull hheld
      rw [List.length_cons]
      omega
  | exhausted rows hchannel hsupply hahead hle =>
    refine .exhausted (row :: rows) ?_ ?_ hahead ?_
    · rw [hchannel, Channel.pushAll_push]
      rfl
    · rw [hsupply]
      rfl
    · rw [List.length_cons]
      omega
  | failed rows e hchannel hsupply hlt =>
    refine .failed (row :: rows) e ?_ ?_ ?_
    · rw [hchannel, Channel.pushAll_push]
      rfl
    · rw [hsupply]
      rfl
    · rw [List.length_cons]
      omega
  | lost delivery hlost _ _ =>
    -- The receiver does not go while the stream is polled.
    exact absurd (hgone.symm.trans hlost) Bool.false_ne_true

/-- A poll only adds to the channel, and no more than there is room for. -/
theorem Sent.exists_sent {c : Channel} {supply : List Delivery} {r : Step × System σ}
    (h : Sent S i statement channel cursor c supply r) :
    ∃ sent, (r.2.channels channel).waiting = c.waiting ++ sent ∧ sent.length ≤ c.room ∧
      (r.2.channels channel).capacity = c.capacity := by
  cases h with
  | waiting rows held _ hchannel _ hle _ _ =>
    exact ⟨rows.map .ok, by rw [hchannel]; rfl, by rwa [List.length_map], by rw [hchannel]; rfl⟩
  | exhausted rows hchannel _ _ hle =>
    exact ⟨rows.map .ok, by rw [hchannel]; rfl, by rwa [List.length_map], by rw [hchannel]; rfl⟩
  | failed rows e hchannel _ hlt =>
    refine ⟨rows.map .ok ++ [.error e], by rw [hchannel]; rfl, ?_, by rw [hchannel]; rfl⟩
    rw [List.length_append, List.length_map]
    exact hlt
  | lost delivery _ hchannel _ =>
    exact ⟨[], by rw [hchannel, List.append_nil]; rfl, Nat.zero_le _, by rw [hchannel]; rfl⟩

/-- A stream that has come to the end of its cursor. -/
theorem sent_endStream {c : Channel} {s : System σ} (rows : List Json)
    (hchannel : s.channels channel = c.pushAll (rows.map .ok))
    (hahead : S.ahead cursor s.backend = []) (hroom : rows.length ≤ c.room) :
    Sent S i statement channel cursor c (rows.map .ok) (endStream i channel (.ok ()) s) :=
  .exhausted rows ((channels_endStream (.ok ()) s).trans (congrArg Channel.dropSender hchannel))
    rfl hahead hroom

/-- A stream that finds its receiver gone. -/
theorem sent_endStream_of_gone {s : System σ} (delivery : Delivery)
    (hgone : (s.channels channel).receiverGone = true) :
    Sent S i statement channel cursor (s.channels channel)
      (delivery :: S.ahead cursor s.backend)
      (endStream i channel (match delivery with
        | .ok _ => .ok ()
        | .error e => .error (.stream e)) s) := by
  cases delivery with
  | ok row => exact .lost (.ok row) hgone (channels_endStream (.ok ()) s) rfl
  | error e => exact .lost (.error e) hgone (channels_endStream (.error (.stream e)) s) rfl

/-- The loop sends the delivery and what the cursor has ahead, as far as there is room. -/
theorem sent_sendAll (delivery : Delivery) {s : System σ} {c : Channel}
    (hc : s.channels channel = c) :
    Sent S i statement channel cursor c (delivery :: S.ahead cursor s.backend)
      (sendAll B i statement channel cursor c.room delivery s) := by
  induction hroom : c.room generalizing delivery s c with
  | zero =>
    unfold sendAll
    split_ifs with hgone
    · exact hc ▸ sent_endStream_of_gone S delivery hgone
    · rw [hc, Bool.not_eq_true] at hgone
      exact .waiting [] (some delivery) hgone (hc.trans c.pushAll_nil.symm) rfl (Nat.zero_le _)
        (fun _ => hroom.symm) (.inr rfl)
  | succ room ih =>
    unfold sendAll
    split_ifs with hgone
    · exact hc ▸ sent_endStream_of_gone S delivery hgone
    · rw [hc, Bool.not_eq_true] at hgone
      have hpos : 0 < c.room := hroom ▸ Nat.succ_pos room
      dsimp only
      rw [hc]
      cases delivery with
      | error e =>
        exact .failed [] e ((channels_endStream (.error (.stream e)) _).trans
          (congrArg Channel.dropSender (channels_setChannel _ _ _))) rfl hpos
      | ok row =>
        dsimp only
        split
        · next b hnext =>
          refine .waiting [row] none hgone (channels_setChannel _ _ _) ?_ hpos
            (fun h => nomatch h) (.inl (List.cons_ne_nil row []))
          exact congrArg (Except.ok row :: ·) (S.waits hnext).symm
        · next b hnext =>
          obtain ⟨hbefore, hafter⟩ := S.ends hnext
          have hahead : S.ahead cursor s.backend = [] := hbefore
          rw [hahead]
          exact sent_endStream S [row] (channels_setChannel _ _ _) hafter hpos
        · next next b hnext =>
          have hahead : S.ahead cursor s.backend = next :: S.ahead cursor b := S.gives hnext
          rw [hahead]
          have hpush : (c.push (.ok row)).room = room := by
            rw [Channel.room_push, hroom]
            rfl
          exact (ih next (s := (s.setChannel channel (c.push (.ok row))).setBackend b)
            (channels_setChannel _ _ _) hpush).cons S hgone hpos

/-- A poll of a stream that has a delivery waiting for room. -/
theorem sent_flow_held (delivery : Delivery) (s : System σ) :
    Sent S i statement channel cursor (s.channels channel) (delivery :: S.ahead cursor s.backend)
      (flow B i statement channel cursor (some delivery) s) :=
  sent_sendAll S delivery rfl

/-- A poll whose cursor has not kept it waiting at once. -/
theorem sent_flow_of_ready {s : System σ} (h : (B.next cursor s.backend).1 ≠ none) :
    Sent S i statement channel cursor (s.channels channel) (S.ahead cursor s.backend)
      (flow B i statement channel cursor none s) := by
  unfold flow
  dsimp only
  split
  · next b hnext => exact absurd (congrArg Prod.fst hnext) h
  · next b hnext =>
    obtain ⟨hbefore, hafter⟩ := S.ends hnext
    rw [hbefore]
    exact sent_endStream S [] (Channel.pushAll_nil _).symm hafter (Nat.zero_le _)
  · next delivery b hnext =>
    rw [S.gives hnext]
    exact sent_sendAll S delivery (s := s.setBackend b) rfl

/-- A poll whose cursor keeps it waiting at once. -/
theorem flow_of_stalled {s : System σ} (h : (B.next cursor s.backend).1 = none) :
    flow B i statement channel cursor none s =
      (.pending (.stream i statement channel (.flowing cursor none)),
        s.setBackend (B.next cursor s.backend).2) := by
  unfold flow
  dsimp only
  split
  · next b hnext => rw [hnext]
  · next b hnext => cases (congrArg Prod.fst hnext).symm.trans h
  · next delivery b hnext => cases (congrArg Prod.fst hnext).symm.trans h

end

end System

end SnowflakeSql
