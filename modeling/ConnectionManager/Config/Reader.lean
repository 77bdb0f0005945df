import ConnectionManager.Config.Basic
import ConnectionManager.Toml.Reader

/-!
Settings of a connection manager from a TOML document. A document gives some of the settings;
entries that name no setting are passed over.
-/

namespace ConnectionManager

inductive ConfigError
  | unreadable
  | malformed
  | unusable (problem : ConfigProblem)
deriving DecidableEq

namespace Toml.Value

def string? : Value → Option String
  | .string text => some text
  | _ => none

def boolean? : Value → Option Bool
  | .boolean value => some value
  | _ => none

def natural? : Value → Option Nat
  | .integer (.ofNat number) => some number
  | _ => none

def strings? : Value → Option (List String)
  | .array items => items.mapM string?
  | _ => none

end Toml.Value

namespace ManagerConfig

def setting {α : Type} (entries : List (String × Toml.Value)) (key : String)
    (read : Toml.Value → Option α) (default : α) : Option α :=
  match Entries.find? key entries with
  | some value => read value
  | none => some default

def ofToml? (entries : List (String × Toml.Value)) : Option ManagerConfig := do
  let base : ManagerConfig := {}
  let name ← setting entries "name" Toml.Value.string? base.name
  let busBase ← setting entries "bus_base" Toml.Value.string? base.busBase
  let manifestDirectories ← setting entries "manifest_dirs"
    (fun value => value.strings?.map some) base.manifestDirectories
  let shutdownGrace ← setting entries "shutdown_grace_secs" Toml.Value.natural? base.shutdownGrace
  let idleTimeout ← setting entries "idle_timeout_secs"
    (fun value => value.natural?.map some) base.idleTimeout
  let debug ← setting entries "debug" Toml.Value.boolean? base.debug
  let jsonLogs ← setting entries "json_logs" Toml.Value.boolean? base.jsonLogs
  some { name, busBase, manifestDirectories, shutdownGrace, idleTimeout, debug, jsonLogs }

def load (files : FileTree) (path : String) : Except ConfigError ManagerConfig :=
  match files.readText? path with
  | none => .error .unreadable
  | some text =>
      match (Toml.read? text).bind ofToml? with
      | none => .error .malformed
      | some config =>
          match config.validate with
          | .error problem => .error (.unusable problem)
          | .ok () => .ok config

/-- Reads the settings in a file if there is one, and takes the defaults otherwise. -/
def loadOrDefault (name : String) (files : FileTree) (path : String) :
    Except ConfigError ManagerConfig :=
  match files.node? path with
  | some _ => load files path
  | none => .ok { name }

end ManagerConfig

end ConnectionManager
