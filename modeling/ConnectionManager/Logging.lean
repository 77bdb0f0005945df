import ConnectionManager.Text.Blank
import ConnectionManager.Text.Split

/-!
Settings of the log and the filter directive that follows from them. An explicit filter counts
alone; otherwise the default level applies to the framework and to the manager, and the targets to
be debugged are appended.
-/

namespace ConnectionManager

inductive LogLevel
  | trace
  | debug
  | info
  | warn
  | error
deriving DecidableEq, Repr

namespace LogLevel

def all : List LogLevel := [.trace, .debug, .info, .warn, .error]

def name : LogLevel → String
  | .trace => "TRACE"
  | .debug => "DEBUG"
  | .info => "INFO"
  | .warn => "WARN"
  | .error => "ERROR"

def ofName? (name : String) : Option LogLevel := all.find? fun level => level.name = name

end LogLevel

inductive LogFormat
  | compact
  | json
deriving DecidableEq, Repr

def LogFormat.name : LogFormat → String
  | .compact => "compact"
  | .json => "json"

def LogFormat.ofName? (name : String) : Option LogFormat :=
  [compact, json].find? fun format => format.name = name

structure LogConfig where
  level : LogLevel := .info
  format : LogFormat := .compact
  target : Option String := none
  showsLocation : Bool := false
  showsSpans : Bool := false
  filter : Option String := none

namespace LogConfig

def manager (target : String) : LogConfig :=
  { format := .json, target := some target, showsLocation := true }

def debug : LogConfig := { level := .debug, showsLocation := true, showsSpans := true }

def frameworkTarget : String := "tpcm"

/-- The targets named in a list with commas. `all` names the framework. -/
def debugTargets (list : String) : List String :=
  (((Text.pieces (· == ',') list.toList).map Text.trim).filter fun target => !target.isEmpty).map
    fun target => if target = "all".toList then frameworkTarget else String.ofList target

def directive (config : LogConfig) (debugged : Option String) : String :=
  match config.filter with
  | some filter => filter
  | none =>
      ",".intercalate (
        (frameworkTarget :: config.target.toList).map (fun target => target ++ "=" ++ config.level.name)
        ++ (debugTargets (debugged.getD "")).map fun target => target ++ "=debug")

end LogConfig

end ConnectionManager
