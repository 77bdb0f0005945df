import ConnectionManager.Bus.Names
import ConnectionManager.Logging
import ConnectionManager.Manifest.Search

/-!
Settings of a connection manager. Everything has a default, so a manager can run without a file.
-/

namespace ConnectionManager

structure ManagerConfig where
  name : String := "example"
  /-- What every bus name and object path begins with. -/
  busBase : String := BusNames.defaultBase
  /-- Where the installed manifest is looked for instead of in the data directories. -/
  manifestDirectories : Option (List String) := none
  /-- Seconds that connections get to disconnect when the manager shuts down. -/
  shutdownGrace : Nat := 5
  /-- Seconds without connections after which the manager ends, if it ends by itself at all. -/
  idleTimeout : Option Nat := none
  debug : Bool := false
  jsonLogs : Bool := false
deriving DecidableEq

inductive ConfigProblem
  | managerName (name : String)
  | busBase (base : String)
deriving DecidableEq

def ConfigProblem.message : ConfigProblem → String
  | .managerName name => "configuration error: manager name " ++ Text.quoted name
      ++ " must be a non-empty identifier of letters, digits and underscores"
  | .busBase base => "configuration error: bus base " ++ Text.quoted base ++ " is not a dotted name"

namespace ManagerConfig

/-- Times are kept in whole seconds. -/
def wholeSeconds (milliseconds : Nat) : Nat := milliseconds / 1000

def validate (config : ManagerConfig) : Except ConfigProblem Unit :=
  if !isValidManagerName config.name then .error (.managerName config.name)
  else if !isValidBusName config.busBase then .error (.busBase config.busBase)
  else .ok ()

def manifestSearch (config : ManagerConfig) (environment : Environment) : List String :=
  config.manifestDirectories.getD environment.searchDirectories

def logging (config : ManagerConfig) : LogConfig :=
  let base : LogConfig := if config.debug then .debug else {}
  { base with
    format := if config.jsonLogs then .json else .compact
    target := some config.name }

/-- Where the settings of a manager are kept if nothing else is said. -/
def defaultPath (name : String) (environment : Environment) : String :=
  FilePath.join (FilePath.join (environment.userConfig?.getD ".") "telepathy") (name ++ ".toml")

end ManagerConfig

end ConnectionManager
