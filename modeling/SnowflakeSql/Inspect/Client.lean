import SnowflakeSql.Client
import SnowflakeSql.Inspect.Basic

/-!
# Inspecting clients

The inspection texts of settings, configurations, clients and what belongs to them.  A password
is shown as three stars, so that the texts do not depend on it.
-/

namespace SnowflakeSql

open Inspect

/-- The inspection text of settings; a password is hidden. -/
def Settings.inspect (s : Settings) : String :=
  let text := Inspect.option Inspect.string
  record "ConnectionSettings" [
    ("host", text s.host), ("account", text s.account), ("region", text s.region),
    ("username", text s.username), ("password", text (s.password.map fun _ => "***")),
    ("database", text s.database), ("schema", text s.schema),
    ("warehouse", text s.warehouse), ("role", text s.role)] false

/-- The inspection text of a configuration. -/
def Config.inspect (config : Config) : String :=
  record "SnowflakeConfig" [
    ("connection", config.settings.inspect),
    ("post_process_response", Inspect.bool config.rule.isSome),
    ("wrap_identifier", Inspect.bool config.naming.isSome)] false

/-- The inspection text of a client. -/
def Client.inspect (client : Client) : String :=
  record "SnowflakeClient" [("config", client.config.inspect)] false

/-- The inspection text of the part that spells identifiers. -/
def Config.inspectNaming (config : Config) : String :=
  record "SnowflakeWrapper" [("hook", Inspect.bool config.naming.isSome)] true

/-- The inspection text of the part that describes columns. -/
def Config.inspectBuilder (_ : Config) : String := record "SnowflakeColumnBuilder" [] false

/-- The inspection text of an adaptation. -/
def Adaptation.inspect : Adaptation → String
  | native sql => apply "Native" (Inspect.string sql)
  | substitute sql => apply "Substitute" (Inspect.string sql)
  | notNullable => "NotNullable"
  | ignored warning => apply "Ignored" (Inspect.string warning.message)
  | rejected => "Rejected"

/-- The inspection text of a backend error. -/
def DriverError.inspect (e : DriverError) : String :=
  record "DriverError" [
    ("message", Inspect.string e.message),
    ("code", Inspect.option Inspect.string e.code),
    ("sql_state", Inspect.option Inspect.string e.sqlState)] true

end SnowflakeSql
