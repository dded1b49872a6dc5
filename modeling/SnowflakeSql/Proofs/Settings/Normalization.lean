import SnowflakeSql.Proofs.Text.Pieces
import SnowflakeSql.Settings

/-!
# Normalized settings

`Settings.Fills` says what settings become when what is missing in them, that is absent or empty, is
filled in, and what stays as it is.  `Settings.normalize` gives such settings and no others are
(`fills_iff`); to do it once more changes nothing (`normalize_fills`).
-/

namespace SnowflakeSql

open Text

namespace Settings

/-- The setting is absent or empty. -/
def Missing (setting : Option String) : Prop := setting = none ∨ setting = some ""

/-- The setting is the segment that the host has at the position, or absent if the host has none
there or an empty one. -/
def TakenFrom (host : String) (position : Nat) (setting : Option String) : Prop :=
  ∀ segment : String, setting = some segment ↔
    segment ≠ "" ∧ PieceAt '.' host.toList position segment.toList

/-- A setting is filled in from a host: it stays as it is if it is there or the host is not. -/
structure FilledFrom (host : Option String) (position : Nat) (before after : Option String) :
    Prop where
  kept : ¬Missing before → after = before
  hostless : host = none → after = before
  taken : ∀ name, host = some name → Missing before → TakenFrom name position after

/-- The settings are the others with what is missing filled in: the login name of the driver by that
of the caller, account and region by the first two segments of the host. -/
structure Fills (s filled : Settings) : Prop where
  others : filled =
    { s with username := filled.username, account := filled.account, region := filled.region }
  username_kept : ¬Missing s.username → filled.username = s.username
  username_copied : Missing s.username → ¬Missing s.user → filled.username = s.user
  username_left : Missing s.user → filled.username = s.username
  username_missing : Missing filled.username → Missing s.user ∧ Missing s.username
  account : FilledFrom s.host 0 s.account filled.account
  region : FilledFrom s.host 1 s.region filled.region

theorem isMissing_iff {setting : Option String} : isMissing setting = true ↔ Missing setting := by
  unfold Missing isMissing
  cases setting with
  | none => simp
  | some text => simp

theorem isMissing_eq_false_iff {setting : Option String} :
    isMissing setting = false ↔ ¬Missing setting := by
  rw [← isMissing_iff, Bool.not_eq_true]

/-! ## Segments of the host -/

theorem hostSegment?_eq_some_iff {host segment : String} {position : Nat} :
    hostSegment? host position = some segment ↔
      segment ≠ "" ∧ PieceAt '.' host.toList position segment.toList := by
  rw [← getElem?_splitOn_eq_some_iff, Ne, ← String.toList_inj]
  unfold hostSegment?
  cases (splitOn '.' host.toList)[position]? with
  | none => simp
  | some part =>
    cases part with
    | nil => simp
    | cons c cs =>
      dsimp only
      rw [Option.some_inj, Option.some_inj, ← String.toList_inj, String.toList_ofList]
      refine ⟨fun h => ⟨?_, h⟩, And.right⟩
      rw [← h]
      exact List.cons_ne_nil c cs

theorem takenFrom_hostSegment? (host : String) (position : Nat) :
    TakenFrom host position (hostSegment? host position) := fun _ => hostSegment?_eq_some_iff

theorem TakenFrom.unique {host : String} {position : Nat} {setting : Option String}
    (h : TakenFrom host position setting) : setting = hostSegment? host position :=
  Option.ext fun segment => (h segment).trans hostSegment?_eq_some_iff.symm

theorem filledFrom_fromHost (host : Option String) (position : Nat) (setting : Option String) :
    FilledFrom host position setting (fromHost host setting position) := by
  cases host with
  | none => exact ⟨fun _ => rfl, fun _ => rfl, nofun⟩
  | some name =>
    refine ⟨fun hpresent => ?_, nofun, fun _ hname hmissing => ?_⟩
    · show (if isMissing setting then _ else _) = _
      rw [isMissing_eq_false_iff.mpr hpresent]
      rfl
    · cases hname
      show TakenFrom name position (if isMissing setting then _ else _)
      rw [isMissing_iff.mpr hmissing]
      exact takenFrom_hostSegment? name position

theorem FilledFrom.unique {host before after : Option String} {position : Nat}
    (h : FilledFrom host position before after) : after = fromHost host before position := by
  cases host with
  | none => exact h.hostless rfl
  | some name =>
    show after = if isMissing before then _ else _
    split_ifs with hmissing
    · exact (h.taken name rfl (isMissing_iff.mp hmissing)).unique
    · exact h.kept (fun hm => hmissing (isMissing_iff.mpr hm))

theorem fromHost_fromHost (host setting : Option String) (position : Nat) :
    fromHost host (fromHost host setting position) position = fromHost host setting position := by
  cases host with
  | none => rfl
  | some name =>
    unfold fromHost
    dsimp only
    split_ifs <;> rfl

/-! ## All settings -/

theorem username_normalize_of_present {s : Settings} (h : ¬Missing s.username) :
    s.normalize.username = s.username := by
  show (if isMissing s.username && !isMissing s.user then s.user else s.username) = _
  rw [isMissing_eq_false_iff.mpr h]
  rfl

theorem username_normalize_of_missing {s : Settings} (h : Missing s.username)
    (huser : ¬Missing s.user) : s.normalize.username = s.user := by
  show (if isMissing s.username && !isMissing s.user then s.user else s.username) = _
  rw [isMissing_iff.mpr h, isMissing_eq_false_iff.mpr huser]
  rfl

theorem username_normalize_of_user_missing {s : Settings} (h : Missing s.user) :
    s.normalize.username = s.username := by
  show (if isMissing s.username && !isMissing s.user then s.user else s.username) = _
  rw [isMissing_iff.mpr h, Bool.not_true, Bool.and_false]
  rfl

theorem missing_username_normalize {s : Settings} (h : Missing s.normalize.username) :
    Missing s.user ∧ Missing s.username := by
  by_cases hname : Missing s.username
  · refine ⟨?_, hname⟩
    by_contra huser
    rw [username_normalize_of_missing hname huser] at h
    exact huser h
  · rw [username_normalize_of_present hname] at h
    exact absurd h hname

theorem fills_normalize (s : Settings) : Fills s s.normalize where
  others := rfl
  username_kept := username_normalize_of_present
  username_copied := username_normalize_of_missing
  username_left := username_normalize_of_user_missing
  username_missing := missing_username_normalize
  account := filledFrom_fromHost s.host 0 s.account
  region := filledFrom_fromHost s.host 1 s.region

/-- There is one way to fill settings in. -/
theorem fills_iff {s filled : Settings} : Fills s filled ↔ filled = s.normalize := by
  refine ⟨fun h => ?_, fun h => h ▸ fills_normalize s⟩
  have husername : filled.username = s.normalize.username := by
    by_cases hname : Missing s.username
    · by_cases huser : Missing s.user
      · rw [h.username_left huser, username_normalize_of_user_missing huser]
      · rw [h.username_copied hname huser, username_normalize_of_missing hname huser]
    · rw [h.username_kept hname, username_normalize_of_present hname]
  rw [h.others, husername, h.account.unique, h.region.unique]
  rfl

/-- The host stays, so what it gives is the same when it is asked again; a login name that is
missing still is missing for want of another. -/
theorem normalize_normalize (s : Settings) : s.normalize.normalize = s.normalize := by
  have husername : s.normalize.normalize.username = s.normalize.username := by
    by_cases hname : Missing s.normalize.username
    · exact username_normalize_of_user_missing (missing_username_normalize hname).1
    · exact username_normalize_of_present hname
  show { s.normalize with
    username := s.normalize.normalize.username
    account := fromHost s.host (fromHost s.host s.account 0) 0
    region := fromHost s.host (fromHost s.host s.region 1) 1 } = _
  rw [husername, fromHost_fromHost, fromHost_fromHost]
  rfl

/-- Normalizing fills in what is missing and nothing else, and once is as good as twice. -/
theorem normalize_fills (s : Settings) : s.normalize.normalize = s.normalize ∧
    ∀ filled : Settings, Fills s filled ↔ filled = s.normalize :=
  ⟨normalize_normalize s, fun _ => fills_iff⟩

/-- An empty account and the empty first segment of a host leave no account. -/
example : normalize { host := some ".eu.x", account := some "", user := some "" } =
    { host := some ".eu.x", region := some "eu", user := some "" } := by decide

end Settings

end SnowflakeSql
