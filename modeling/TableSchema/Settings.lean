import TableSchema.Entries
import TableSchema.Text.Blank
import TableSchema.Text.LowerCase
import TableSchema.Text.Split

/-! # Settings

Settings come from the environment, whose names are matched without regard to case. A variable that
is set counts even if it is empty.
-/

namespace TableSchema

/-- The settings of an installation. -/
structure Settings where
  /-- The origins that may call the service, with commas between them. -/
  corsOrigins : String := "http://localhost:5173"
  /-- The database schema that is looked into unless another one is named. -/
  defaultSchema : String := "public"
  /-- The least severe messages that are logged. -/
  logLevel : String := "INFO"
deriving DecidableEq

namespace Settings

/-- The settings that an environment asks for. -/
def ofEnvironment (environment : Entries String) : Settings :=
  let lowered := Entries.ofList <| environment.map fun (name, value) =>
    (String.ofList (Text.lower name.toList), value)
  let standard : Settings := {}
  { corsOrigins := (lowered.find? "cors_origins").getD standard.corsOrigins
    defaultSchema := (lowered.find? "default_schema").getD standard.defaultSchema
    logLevel := (lowered.find? "log_level").getD standard.logLevel }

/-- The origins that may call the service, without blanks around them and without empty ones. -/
def origins (settings : Settings) : List String :=
  let parts := (Text.splitOn (· == ',') settings.corsOrigins.toList).map Text.trim
  (parts.filter fun part => !part.isEmpty).map String.ofList

end Settings

end TableSchema
