import SnowflakeSql.Identifier.Naming
import SnowflakeSql.Query.Compile
import SnowflakeSql.Response.Shape
import SnowflakeSql.Response.Tidy
import SnowflakeSql.Schema
import SnowflakeSql.Settings

/-!
# Clients

A `Config` has the settings of the sessions and the caller's own rules, if there are any.  A
`Client` compiles descriptions, spells identifiers and shapes outcomes by its configuration.
There are two kinds: the client of the dialect, and a general one that compiles and runs
through it but spells identifiers plainly, does not tidy outcomes and has transactions with
savepoints.
-/

namespace SnowflakeSql

/-- What a client is made with. -/
structure Config where
  settings : Settings := {}
  /-- The caller's rule for the last step of shaping. -/
  rule : Option Outcome.Rule := none
  /-- The caller's rule for the segments of identifiers. -/
  naming : Option Naming := none
  /-- Whether warnings go to the caller. -/
  hearsWarnings : Bool := true

/-- The kinds of clients. -/
inductive ClientKind where
  | snowflake
  | generic
  deriving DecidableEq, Repr

/-- A client of the backend. -/
structure Client where
  kind : ClientKind := .snowflake
  config : Config := {}

namespace Client

variable (client : Client)

/-- The settings that sessions are opened with. -/
def settings : Settings := client.config.settings.normalize

/-- How compiled SQL spells identifiers. -/
def compilerNaming : Naming := client.config.naming.getD Naming.folded

/-- How the client itself spells identifiers. -/
def naming : Naming :=
  match client.kind with
  | .snowflake => client.compilerNaming
  | .generic => Naming.plain

/-- The name of the dialect. -/
def dialect : String :=
  match client.kind with
  | .snowflake => dialectName
  | .generic => "generic"

/-- Whether running statements can be cancelled by the engine on its own account. -/
def canCancel : Bool := false

/-- The warnings that the caller gets to hear. -/
def heard (warnings : List Warning) : List Warning :=
  if client.config.hearsWarnings then warnings else []

/-- The statement of a query. -/
def compileQuery (query : Query) : Except CompileError Statement :=
  query.compile client.compilerNaming

/-- The statements of a table change in a schema. -/
def compileTable (schema : Option String) (change : TableChange) : Report (List Statement) :=
  (change.compile client.compilerNaming schema).map (·.map Statement.ofSql)

/-- The statements of a schema script. -/
def compileSchema (script : SchemaScript) : Report (List Statement) :=
  script.compile client.compilerNaming

/-- The last step of shaping. -/
def finish (outcome : Outcome) (context : Option Context) : Outcome :=
  match client.kind with
  | .snowflake => Outcome.finish client.config.rule outcome context
  | .generic => outcome

/-- The outcome of a statement that has been run. -/
def outcome (statement : Statement) (response : Option Response) : Outcome :=
  client.finish (statement.shape response) statement.context

end Client

end SnowflakeSql
