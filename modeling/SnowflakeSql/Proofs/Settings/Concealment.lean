import SnowflakeSql.Inspect.Client
import SnowflakeSql.Proofs.Inspect.Unambiguous

/-!
# Hidden passwords

The inspection texts of settings, configurations and clients are the same for all passwords.  They
tell what they show and no more (`Settings.shown`, `Config.SameShown`): the texts of two of them are
the same exactly if these are, so of a password it can be seen that it is there
(`Settings.inspect_eq_iff`, `Client.inspect_eq_iff`).  Settings that are the same but for what their
passwords say stay so when they are normalized; `passwords_concealed` says what that means for all
four texts.
-/

namespace SnowflakeSql

open Inspect

namespace Settings

variable {s t : Settings}

/-- What is shown of settings: a password as three stars, and neither the caller's login name nor
authenticator or application. -/
def shown (s : Settings) : Settings :=
  { s with
    password := s.password.map fun _ => "***"
    user := none
    authenticator := none
    application := none }

/-- Both settings have a password, and all else is the same in them. -/
structure SameButPassword (s t : Settings) : Prop where
  present : s.password.isSome = true ∧ t.password.isSome = true
  others : { s with password := t.password } = t

theorem SameButPassword.shown_eq (h : s.SameButPassword t) : s.shown = t.shown := by
  obtain ⟨p, hp⟩ := Option.isSome_iff_exists.mp h.present.1
  obtain ⟨q, hq⟩ := Option.isSome_iff_exists.mp h.present.2
  rw [← h.others]
  unfold shown
  rw [hp, hq]
  rfl

/-- What is filled in does not depend on the password. -/
theorem SameButPassword.normalize (h : s.SameButPassword t) :
    s.normalize.SameButPassword t.normalize where
  present := h.present
  others := by
    have hnormalize : { s with password := t.password }.normalize =
        { s.normalize with password := t.password } := rfl
    rw [h.others] at hnormalize
    exact hnormalize.symm

/-! ## The text of settings -/

/-- The fields that are shown, by name. -/
def shownFields (s : Settings) : List (String × Option String) :=
  [("host", s.host), ("account", s.account), ("region", s.region), ("username", s.username),
    ("password", s.password.map fun _ => "***"), ("database", s.database), ("schema", s.schema),
    ("warehouse", s.warehouse), ("role", s.role)]

theorem shownFields_eq_iff : s.shownFields = t.shownFields ↔ s.shown = t.shown := by
  simp only [shownFields, shown, List.cons.injEq, Prod.mk.injEq, true_and, and_true, mk.injEq]

theorem inspect_eq_record (s : Settings) : s.inspect = record "ConnectionSettings"
    (s.shownFields.map (Prod.map id (Inspect.option Inspect.string))) false := rfl

theorem inspect_append_inj {rest rest' : List Char}
    (h : s.inspect.toList ++ rest = t.inspect.toList ++ rest') : s.shown = t.shown := by
  rw [inspect_eq_record, inspect_eq_record] at h
  have hkeys : s.shownFields.map Prod.fst = t.shownFields.map Prod.fst := rfl
  exact shownFields_eq_iff.mp (record_map_append_inj unambiguous_string.option hkeys h)

/-- Settings have the same text exactly if the same is shown of them. -/
theorem inspect_eq_iff : s.inspect = t.inspect ↔ s.shown = t.shown := by
  refine ⟨fun h => ?_, fun h => ?_⟩
  · have hempty : s.inspect.toList ++ [] = t.inspect.toList ++ [] := by rw [h]
    exact inspect_append_inj hempty
  · rw [inspect_eq_record, inspect_eq_record, shownFields_eq_iff.mpr h]

end Settings

/-! ## The texts of configurations and clients -/

/-- The same is shown of both configurations: of a rule and a naming, whether they are there. -/
structure Config.SameShown (config config' : Config) : Prop where
  settings : config.settings.shown = config'.settings.shown
  rule : config.rule.isSome = config'.rule.isSome
  naming : config.naming.isSome = config'.naming.isSome

theorem Config.inspect_append_inj {config config' : Config} {rest rest' : List Char}
    (h : config.inspect.toList ++ rest = config'.inspect.toList ++ rest') :
    config.SameShown config' := by
  have hsettings : Separate config.settings.inspect config'.settings.inspect := fun _ _ heq =>
    Settings.inspect_eq_iff.mpr (Settings.inspect_append_inj heq)
  have hseparate : List.Forall₂ SeparateFields
      [("connection", config.settings.inspect),
        ("post_process_response", Inspect.bool config.rule.isSome),
        ("wrap_identifier", Inspect.bool config.naming.isSome)]
      [("connection", config'.settings.inspect),
        ("post_process_response", Inspect.bool config'.rule.isSome),
        ("wrap_identifier", Inspect.bool config'.naming.isSome)] :=
    .cons ⟨rfl, hsettings⟩ (.cons ⟨rfl, unambiguous_bool.separate _ _⟩
      (.cons ⟨rfl, unambiguous_bool.separate _ _⟩ .nil))
  have hfields := record_append_inj hseparate h
  simp only [List.cons.injEq, Prod.mk.injEq, true_and, and_true] at hfields
  obtain ⟨hinspect, hrule, hnaming⟩ := hfields
  exact ⟨Settings.inspect_eq_iff.mp hinspect, unambiguous_bool.eq hrule,
    unambiguous_bool.eq hnaming⟩

theorem Config.inspect_eq_iff {config config' : Config} :
    config.inspect = config'.inspect ↔ config.SameShown config' := by
  refine ⟨fun h => ?_, fun h => ?_⟩
  · have hempty : config.inspect.toList ++ [] = config'.inspect.toList ++ [] := by rw [h]
    exact inspect_append_inj hempty
  · unfold inspect
    rw [Settings.inspect_eq_iff.mpr h.settings, h.rule, h.naming]

/-- Clients have the same text exactly if the same is shown of their configurations. -/
theorem Client.inspect_eq_iff {client client' : Client} :
    client.inspect = client'.inspect ↔ client.config.SameShown client'.config := by
  have hconfig : Separate client.config.inspect client'.config.inspect := fun _ _ heq =>
    Config.inspect_eq_iff.mpr (Config.inspect_append_inj heq)
  refine ⟨fun h => ?_, fun h => ?_⟩
  · have hempty : client.inspect.toList ++ [] = client'.inspect.toList ++ [] := by rw [h]
    have hseparate : List.Forall₂ SeparateFields [("config", client.config.inspect)]
        [("config", client'.config.inspect)] := .cons ⟨rfl, hconfig⟩ .nil
    have hfields := record_append_inj hseparate hempty
    simp only [List.cons.injEq, Prod.mk.injEq, true_and, and_true] at hfields
    exact Config.inspect_eq_iff.mp hfields
  · unfold inspect
    rw [Config.inspect_eq_iff.mpr h]

/-- Settings that are the same but for their passwords have the same texts, before and after they
are normalized and within a configuration and a client, whatever the caller's own rules are.  And
no text hides more: two of them are the same only if the same is shown. -/
theorem passwords_concealed :
    (∀ s t : Settings, s.SameButPassword t →
      s.inspect = t.inspect ∧ s.normalize.inspect = t.normalize.inspect ∧
      ∀ (rule : Option Outcome.Rule) (naming : Option Naming) (hearsWarnings : Bool),
        Config.inspect ⟨s, rule, naming, hearsWarnings⟩ =
          Config.inspect ⟨t, rule, naming, hearsWarnings⟩ ∧
        ∀ kind : ClientKind, Client.inspect ⟨kind, ⟨s, rule, naming, hearsWarnings⟩⟩ =
          Client.inspect ⟨kind, ⟨t, rule, naming, hearsWarnings⟩⟩) ∧
    (∀ s t : Settings, s.inspect = t.inspect ↔ s.shown = t.shown) ∧
    ∀ client client' : Client,
      client.inspect = client'.inspect ↔ client.config.SameShown client'.config := by
  refine ⟨fun s t h => ⟨?settings, ?normalized, fun rule naming hearsWarnings => ?built⟩,
    fun _ _ => Settings.inspect_eq_iff, fun _ _ => Client.inspect_eq_iff⟩
  case settings => exact Settings.inspect_eq_iff.mpr h.shown_eq
  case normalized => exact Settings.inspect_eq_iff.mpr h.normalize.shown_eq
  case built =>
    have hshown : Config.SameShown ⟨s, rule, naming, hearsWarnings⟩
        ⟨t, rule, naming, hearsWarnings⟩ := ⟨h.shown_eq, rfl, rfl⟩
    exact ⟨Config.inspect_eq_iff.mpr hshown, fun kind => Client.inspect_eq_iff.mpr hshown⟩

/-- Two passwords beside a host that names an account, and a login name to copy. -/
theorem passwords_concealed_hunters :
    Settings.SameButPassword
      { host := some "xy1.eu", user := some "etl", password := some "hunter2" }
      { host := some "xy1.eu", user := some "etl", password := some "" } ∧
    Settings.inspect { host := some "xy1.eu", user := some "etl", password := some "hunter2" } =
      Settings.inspect { host := some "xy1.eu", user := some "etl", password := some "" } := by
  have hsame : Settings.SameButPassword
      { host := some "xy1.eu", user := some "etl", password := some "hunter2" }
      { host := some "xy1.eu", user := some "etl", password := some "" } := ⟨⟨rfl, rfl⟩, rfl⟩
  exact ⟨hsame, (passwords_concealed.1 _ _ hsame).1⟩

end SnowflakeSql
