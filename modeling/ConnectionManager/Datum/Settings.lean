import ConnectionManager.Config.Reader
import ConnectionManager.Datum.Basic
import ConnectionManager.Manifest.Search

/-!
Names on the bus, settings and the environment as data.
-/

namespace ConnectionManager

instance : ToDatum BusNames where
  datum names := .record
    [("bus_name", datum names.busName), ("object_path", datum names.objectPath)]

instance : ToDatum OwnerChange where
  datum change := datum [change.name, change.oldOwner, change.newOwner]

instance : ToDatum ConfigError where
  datum
    | .unreadable => .error "Io" none
    | .malformed => .error "ConfigParse" none
    | .unusable problem => .error "Config" (some problem.message)

namespace Datum

def ofLogConfig (config : LogConfig) (debugged : Option String) : Datum :=
  .record [("level", datum config.level.name), ("format", datum config.format.name),
    ("target", datum config.target), ("location", datum config.showsLocation),
    ("span_events", datum config.showsSpans), ("filter", datum config.filter),
    ("directive", datum (config.directive debugged))]

def ofManagerConfig (config : ManagerConfig) : Datum :=
  .record [("name", datum config.name), ("bus_base", datum config.busBase),
    ("dirs", datum config.manifestDirectories), ("grace", datum config.shutdownGrace),
    ("idle", datum config.idleTimeout), ("debug", datum config.debug),
    ("json_logs", datum config.jsonLogs), ("log", ofLogConfig config.logging none)]

def toLogConfig (data : Datum) : LogConfig :=
  let base : LogConfig := match data.stringAt "base" with
    | "manager" => .manager (data.stringAt "target")
    | "debug" => .debug
    | _ => {}
  { base with
    level := ((data.stringAt? "level").bind LogLevel.ofName?).getD base.level
    format := ((data.stringAt? "format").bind LogFormat.ofName?).getD base.format
    filter := (data.stringAt? "filter").or base.filter }

def toEnvironment (data : Datum) : Environment where
  home := data.stringAt? "HOME"
  dataHome := data.stringAt? "XDG_DATA_HOME"
  dataDirectories := data.stringAt? "XDG_DATA_DIRS"
  configHome := data.stringAt? "XDG_CONFIG_HOME"

def toManagerConfig (data : Datum) : ManagerConfig :=
  let base : ManagerConfig := {}
  { name := (data.stringAt? "name").getD base.name
    busBase := (data.stringAt? "bus_base").getD base.busBase
    manifestDirectories := (data.given? "dirs").map fun dirs => dirs.items.map string
    shutdownGrace :=
      ((data.naturalAt? "grace_ms").map ManagerConfig.wholeSeconds).getD base.shutdownGrace
    idleTimeout := (data.naturalAt? "idle_ms").map ManagerConfig.wholeSeconds
    debug := data.booleanAt "debug"
    jsonLogs := data.booleanAt "json_logs" }

def toFileNode (data : Datum) : FileNode :=
  if data.booleanAt "dir" then .directory
  else match data.stringAt? "hex" with
    | some digits => .file (hexBytes digits.toList)
    | none => .file (Text.utf8 (data.stringAt "text").toList)

end Datum

instance : ToDatum ManagerConfig := ⟨Datum.ofManagerConfig⟩

instance {α : Type} [ToDatum α] : ToDatum (Except ConfigError α) where
  datum
    | .ok value => .ok (datum value)
    | .error error => datum error

end ConnectionManager
