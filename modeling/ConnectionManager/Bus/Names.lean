import ConnectionManager.Bus.Basic
import ConnectionManager.ObjectPath
import ConnectionManager.Protocol.Name

/-!
Names of managers and connections. A bus name and the object path that goes with it have the same
elements. Names are claimed without waiting: if someone owns the name already, the claim fails.
-/

namespace ConnectionManager

/-- An ASCII letter followed by letters, digits and underscores. -/
def isValidManagerName (name : String) : Bool :=
  match name.toList with
  | first :: rest =>
      first.isAlpha && rest.all fun character => character.isAlphanum || character == '_'
  | [] => false

def isBusElement : List Char → Bool
  | first :: rest =>
      (first.isAlpha || first == '_')
        && rest.all fun character => character.isAlphanum || character == '_' || character == '-'
  | [] => false

def busNameLimit : Nat := 255

/-- Two or more elements with dots between them. -/
def isValidBusName (name : String) : Bool :=
  let elements := Text.pieces (· == '.') name.toList
  name.utf8ByteSize ≤ busNameLimit && 2 ≤ elements.length && elements.all isBusElement

structure BusNames where
  busName : String
  objectPath : ObjectPath
deriving DecidableEq

namespace BusNames

def defaultBase : String := "org.freedesktop.Telepathy"

def basePath (base : String) : String :=
  "/" ++ String.ofList (base.toList.map fun character => if character = '.' then '/' else character)

def checkManager (manager : String) : Outcome Unit :=
  if isValidManagerName manager then .ok ()
  else .error ⟨.invalidArgument,
    Text.quoted manager ++ " is not a valid connection manager name"⟩

def ofElements (base : String) (elements : List String) : Outcome BusNames := do
  let path ← ObjectPath.ofString ("/".intercalate (basePath base :: elements))
  .ok ⟨".".intercalate (base :: elements), path⟩

def ofManager (base manager : String) : Outcome BusNames := do
  checkManager manager
  ofElements base ["ConnectionManager", manager]

def ofConnection (base manager protocol unique : String) : Outcome BusNames :=
  ofElements base ["Connection", manager, Protocol.escapeName protocol, unique]

/-- The names of a connection. One without a unique name gets a number, also when its names turn
out to be unusable. -/
def forConnection (context : Context) (base manager protocol : String) (unique : Option String) :
    Outcome BusNames × Context :=
  match checkManager manager with
  | .error failure => (.error failure, context)
  | .ok () =>
      match unique with
      | some name => (ofConnection base manager protocol (Text.escapeIdentifier name), context)
      | none =>
          let (number, next) := context.nextAnonymous
          (ofConnection base manager protocol s!"_{number}", next)

def claimFailure (busName : String) : NameReply → Option Failure
  | .primaryOwner => none
  | .exists => some ⟨.notAvailable, s!"bus name {busName} is already in use"⟩
  | .alreadyOwner =>
      some ⟨.notAvailable, s!"bus name {busName} is already registered by this process"⟩
  | .inQueue => some ⟨.notAvailable, s!"request for bus name {busName} was unexpectedly queued"⟩

def claim (names : BusNames) (context : Context) : Outcome Unit × Context :=
  if isValidBusName names.busName then
    let (reply, next) := context.requestName names.busName
    match claimFailure names.busName reply with
    | none => (.ok (), next)
    | some failure => (.error failure, next)
  else (.error ⟨.invalidArgument, Text.quoted names.busName ++ " is not a valid bus name"⟩, context)

/-- Gives a claimed name back; a name that was lost meanwhile is none of our business. -/
def release (names : BusNames) (context : Context) : Context :=
  { context with bus := (context.bus.releaseName names.busName).2 }

end BusNames

end ConnectionManager
