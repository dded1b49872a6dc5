import SnowflakeSql.Proofs.Session.LifeLaw
import SnowflakeSql.Session.Rehearsal

/-!
# The lifecycle of connections

`Chronicle.Lifecycle` says how acquiring a connection ends and whom it leaves listening, what a
connection shows from then on, that one which is dead or closed stays so, and that validating one
that is says no without asking the session.  It follows from the law of lives, and
`lifecycle_of_reachable` proves it of every chronicle.
-/

namespace SnowflakeSql

namespace Chronicle

open SnowflakeSql.System

variable {σ : Type} {B : Backend σ}

/-- How acquiring a connection ends when the driver answers. -/
def acquireResult (i : Nat) : Except DriverError Unit → Except ClientError Reply
  | .ok _ => .ok (.connected i)
  | .error e => .error (.connection e)

/-- What is known of connections at any point of time. -/
structure Lifecycle (B : Backend σ) (c : Chronicle σ) : Prop where
  /-- Acquiring ends as the driver answers; if it fails, nobody is left to listen. -/
  acquires : ∀ n settings connection, c.system.tasks n = .acquire settings connection →
    ∀ i, i = connection.getD c.system.sessionCount →
      (c.system.poll B n).1 =
        (B.connect i settings c.system.backend).1.map (acquireResult i) ∧
      ∀ error, (c.system.poll B n).1 = some (.error error) →
        ((c.system.poll B n).2.connections i).listeners = 0
  /-- Nobody ever listens to a session that could not be opened. -/
  refused : ∀ i, (c.lives i).isRefused = true → (c.system.connections i).listeners = 0
  /-- A connection that was handed out shows the life of its session. -/
  tracks : ∀ i, (c.lives i).isAcquired = true → (c.lives i).Tracks (c.system.connections i)
  /-- Lives only grow, a connection never loses its marker, and a closed one stays closed. -/
  lasts : ∀ c', Later B c c' → ∀ i, (c.lives i).isAcquired = true → c.lives i <+: c'.lives i ∧
    ((c.system.connections i).disposed.isSome = true →
      (c'.system.connections i).disposed.isSome = true) ∧
    ((c.system.connections i).closed = true → (c'.system.connections i).closed = true)
  /-- Validating that begins on a dead connection, one with a marker or a closed one, says no, and
  leaves the driver and everything else alone. -/
  validates : ∀ n i, c.system.tasks n = .validate i false →
    (c.system.connections i).isDead = ((c.lives i).marker.isSome || (c.lives i).isDestroyed) ∧
      ((c.system.connections i).isDead = true →
        c.system.poll B n = (some (.ok (.valid false)), c.system.setTask n .absent))

theorem result?_awaitConnect (settings : Settings) (i : Nat) (s : System σ) :
    (awaitConnect B settings i s).1.result? =
        (B.connect i settings s.backend).1.map (acquireResult i) ∧
      ∀ error, (awaitConnect B settings i s).1.result? = some (.error error) →
        ((awaitConnect B settings i s).2.connections i).listeners = 0 := by
  unfold awaitConnect
  split
  · next hanswer =>
    rw [hanswer]
    exact ⟨rfl, fun _ h => nomatch h⟩
  · next hanswer =>
    rw [hanswer]
    exact ⟨rfl, fun _ h => nomatch h⟩
  · next hanswer =>
    rw [hanswer]
    exact ⟨rfl, fun _ _ => congrArg Connection.listeners (Numbered.put_self _ _ _)⟩

theorem poll_acquire {s : System σ} {n : Nat} {settings : Settings} {connection : Option Nat}
    (htask : s.tasks n = .acquire settings connection) :
    (s.poll B n).1 = (B.connect (connection.getD s.sessionCount) settings s.backend).1.map
        (acquireResult (connection.getD s.sessionCount)) ∧
      ∀ error, (s.poll B n).1 = some (.error error) →
        ((s.poll B n).2.connections (connection.getD s.sessionCount)).listeners = 0 := by
  rw [poll_fst, poll_snd, htask]
  cases connection with
  | some i => exact result?_awaitConnect settings i s
  | none => exact result?_awaitConnect settings s.sessionCount (opened settings s)

theorem Law.tracks {c : Chronicle σ} (law : Law c) {i : Nat}
    (h : (c.lives i).isAcquired = true) : (c.lives i).Tracks (c.system.connections i) := by
  have hshown := law.shown i (law.lt_sessionCount h)
  exact hshown.tracks (hshown.settled h)

theorem lives_act (c : Chronicle σ) (a : Action σ) (i : Nat) :
    (c.act B a).lives i = c.lives i ∨ ∃ m, (c.act B a).lives i = c.lives i ++ [m] := by
  have hlives : (c.act B a).lives = noted c.lives (turn? B c.system a) := rfl
  rw [hlives]
  cases turn? B c.system a with
  | none => exact .inl rfl
  | some turn =>
    by_cases hi : i = turn.1
    · subst hi
      exact .inr ⟨turn.2, Numbered.put_self _ _ _⟩
    · exact .inl (Numbered.put_of_ne _ _ hi)

theorem prefix_of_later {c c' : Chronicle σ} (h : Later B c c') (i : Nat) :
    c.lives i <+: c'.lives i ∧
      ((c.lives i).marker.isSome = true → (c'.lives i).marker.isSome = true) := by
  induction h with
  | refl => exact ⟨List.prefix_rfl, fun h => h⟩
  | @act c' a _ _ ih =>
    rcases lives_act (B := B) c' a i with hsame | ⟨m, hmore⟩
    · rw [hsame]
      exact ih
    · rw [hmore]
      exact ⟨ih.1.trans (List.prefix_append _ _), fun h => Life.marker_isSome_append (ih.2 h) m⟩

theorem Later.reachable {c c' : Chronicle σ} (h : Later B c c') (hc : Reachable B c) :
    Reachable B c' := by
  induction h with
  | refl => exact hc
  | act _ ha ih => exact ih.act ha

theorem lasts_of_later {c c' : Chronicle σ} (hc : Reachable B c) (h : Later B c c') {i : Nat}
    (hi : (c.lives i).isAcquired = true) : c.lives i <+: c'.lives i ∧
      ((c.system.connections i).disposed.isSome = true →
        (c'.system.connections i).disposed.isSome = true) ∧
      ((c.system.connections i).closed = true → (c'.system.connections i).closed = true) := by
  obtain ⟨hgrown, hmarker⟩ := prefix_of_later h i
  obtain ⟨more, hmore⟩ := hgrown
  have hi' : (c'.lives i).isAcquired = true := by
    rw [← hmore, Life.isAcquired_append, hi]
    rfl
  have htracks := (law_of_reachable hc).tracks hi
  have htracks' := (law_of_reachable (h.reachable hc)).tracks hi'
  refine ⟨⟨more, hmore⟩, fun hdisposed => ?_, fun hclosed => ?_⟩
  · rw [htracks'.disposed]
    exact hmarker (htracks.disposed ▸ hdisposed)
  · rw [htracks.closed] at hclosed
    rw [htracks'.closed, ← hmore, Life.isDestroyed_append, hclosed]
    rfl

theorem poll_validate_of_isDead {s : System σ} {n i : Nat} (htask : s.tasks n = .validate i false)
    (hdead : (s.connections i).isDead = true) :
    s.poll B n = (some (.ok (.valid false)), s.setTask n .absent) := by
  have hpoll : pollTask B (s.tasks n) s = (.ready (.ok (.valid false)), s) := by
    rw [htask]
    show pollValidate B i false s = _
    unfold pollValidate
    rw [if_neg Bool.false_ne_true, if_pos hdead]
  refine Prod.ext ?_ ?_
  · rw [poll_fst, hpoll]
    rfl
  · rw [poll_snd, hpoll]
    rfl

/-- Whatever happens and in whatever order, connections live as they should. -/
theorem lifecycle_of_reachable {c : Chronicle σ} (h : Reachable B c) : Lifecycle B c := by
  have law := law_of_reachable h
  exact
    { acquires := fun n settings connection htask i hi => hi ▸ poll_acquire htask
      refused := fun i hi => by
        by_cases hborn : i < c.system.sessionCount
        · exact (law.shown i hborn).silent hi
        · rw [law.unborn i (Nat.le_of_not_lt hborn)] at hi
          cases hi
      tracks := fun i hi => law.tracks hi
      lasts := fun c' hlater i hi => lasts_of_later h hlater hi
      validates := fun n i htask => by
        have htracks := law.tracks (law.given n i (by rw [htask]; rfl))
        refine ⟨?_, poll_validate_of_isDead htask⟩
        unfold Connection.isDead
        rw [htracks.disposed, htracks.closed] }

/-- An error that a session reports. -/
def lostError : DriverError where
  message := "connection lost"

/-- An error that closing a session fails with. -/
def closeError : DriverError where
  message := "session is gone"

/-- A session that reports an error, cannot be closed, and reports the error once more, while
another one cannot be opened. -/
def brokenSession : Chronicle Rehearsal :=
  List.foldl (Chronicle.act Rehearsal.backend)
    { system := { backend := { failClose := some closeError } } }
    [.begin (.acquire {} none), .poll 0, .reportError 0 lostError, .begin (.destroy 0 false),
      .poll 1, .reportError 0 lostError,
      .backend fun r => { r with failConnect := some lostError },
      .begin (.acquire {} none), .poll 2]

theorem lifecycle_brokenSession :
    Reachable Rehearsal.backend brokenSession ∧
      brokenSession.lives 0 =
        [.acquired, .errored lostError, .destroyed (.error closeError), .errored lostError] ∧
      (brokenSession.system.connections 0).disposed = some closeError ∧
      brokenSession.lives 1 = [.refused lostError] ∧
      Lifecycle Rehearsal.backend brokenSession := by
  have hreach : Reachable Rehearsal.backend brokenSession := by
    have hacquired := ((Reachable.start (B := Rehearsal.backend)
      { failClose := some closeError }).act (a := .begin (.acquire {} none))
        ⟨rfl, fun _ h => nomatch h⟩).act (a := .poll 0) trivial
    have hdestroyed := ((hacquired.act (a := .reportError 0 lostError) trivial).act
      (a := .begin (.destroy 0 false)) ⟨rfl, fun _ h => by cases h; rfl⟩).act (a := .poll 1) trivial
    have hlost := (hdestroyed.act (a := .reportError 0 lostError) trivial).act
      (a := .backend fun r => { r with failConnect := some lostError }) trivial
    exact (hlost.act (a := .begin (.acquire {} none)) ⟨rfl, fun _ h => nomatch h⟩).act
      (a := .poll 2) trivial
  have hlife := lifecycle_of_reachable hreach
  exact ⟨hreach, rfl, (hlife.tracks 0 rfl).disposed, rfl, hlife⟩

end Chronicle

end SnowflakeSql
