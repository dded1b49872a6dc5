import SnowflakeSql.Json.Basic
import SnowflakeSql.Text.Split

/-!
# Connection settings

`Settings` is what a session is opened with; every field may be absent.  `Settings.normalize`
fills in what is missing, that is absent or empty: the name the driver logs in by from the name
the caller gave, and account and region from the first two segments of the host.
`Settings.ofJson?` reads settings from an object, where other fields are ignored, or from an
array of the values in order.
-/

namespace SnowflakeSql

/-- What a session is opened with. -/
structure Settings where
  /-- The host, whose first two segments are account and region. -/
  host : Option String := none
  account : Option String := none
  region : Option String := none
  /-- The login name that the caller gives. -/
  user : Option String := none
  /-- The login name that the driver uses. -/
  username : Option String := none
  password : Option String := none
  database : Option String := none
  schema : Option String := none
  warehouse : Option String := none
  role : Option String := none
  authenticator : Option String := none
  application : Option String := none
  deriving DecidableEq, Repr

namespace Settings

/-- Whether a setting is absent or empty. -/
def isMissing : Option String → Bool
  | some s => s.isEmpty
  | none => true

/-- The segment of a host at the position, if it is there and not empty. -/
def hostSegment? (host : String) (position : Nat) : Option String :=
  match (Text.splitOn '.' host.toList)[position]? with
  | some (c :: cs) => some (String.ofList (c :: cs))
  | _ => none

/-- The setting, or what the host has at the position if it is missing. -/
def fromHost (host setting : Option String) (position : Nat) : Option String :=
  match host with
  | some host => if isMissing setting then hostSegment? host position else setting
  | none => setting

/-- The settings with login name, account and region filled in. -/
def normalize (s : Settings) : Settings :=
  { s with
    username := if isMissing s.username && !isMissing s.user then s.user else s.username
    account := fromHost s.host s.account 0
    region := fromHost s.host s.region 1 }

/-- An absent or null setting, or a string. -/
def readField? : Option Json → Option (Option String)
  | none | some .null => some none
  | some (.str s) => some (some s)
  | some _ => none

/-- The settings of which `field` gives each by position and name. -/
def read? (field : Nat → String → Option Json) : Option Settings := do
  let read := fun position name => readField? (field position name)
  return {
    host := ← read 0 "host"
    account := ← read 1 "account"
    region := ← read 2 "region"
    user := ← read 3 "user"
    username := ← read 4 "username"
    password := ← read 5 "password"
    database := ← read 6 "database"
    schema := ← read 7 "schema"
    warehouse := ← read 8 "warehouse"
    role := ← read 9 "role"
    authenticator := ← read 10 "authenticator"
    application := ← read 11 "application" }

/-- The settings in a document, if every one is a string or null. -/
def ofJson? : Json → Option Settings
  | .obj fields => read? fun _ name => Fields.get? fields name
  | .arr items => if items.length ≤ 12 then read? fun position _ => items[position]? else none
  | _ => none

/-- The settings as an object with all fields, null where there is none. -/
def toJson (s : Settings) : Json :=
  .ofPairs [
    ("host", .ofString? s.host), ("account", .ofString? s.account),
    ("region", .ofString? s.region), ("user", .ofString? s.user),
    ("username", .ofString? s.username), ("password", .ofString? s.password),
    ("database", .ofString? s.database), ("schema", .ofString? s.schema),
    ("warehouse", .ofString? s.warehouse), ("role", .ofString? s.role),
    ("authenticator", .ofString? s.authenticator), ("application", .ofString? s.application)]

example : (normalize { host := some "xy1.eu", user := some "etl" }).username = some "etl" := by
  decide

end Settings

end SnowflakeSql
