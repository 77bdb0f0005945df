import ConnectionManager.Protocol.Parameter

/-!
Checking the parameters that a client supplies against the declared ones. The result holds every
supplied value in its declared type and the default of every parameter left out that has one.
-/

namespace ConnectionManager

namespace Parameter

/-- Registering a new account makes the parameters for registration mandatory in place of the
required ones. -/
def isMandatory (registering : Bool) (parameter : Parameter) : Bool :=
  if registering then parameter.flags.register else parameter.flags.required

/-- What is still to be explained of the supplied values, and what was accepted. -/
structure Progress where
  remaining : Dictionary
  accepted : Dictionary

def checkOne (registering : Bool) (progress : Progress) (parameter : Parameter) :
    Outcome Progress :=
  match progress.remaining.get? parameter.name with
  | some supplied => do
      let value ← parameter.coerce supplied
      .ok ⟨progress.remaining.erase parameter.name, progress.accepted.insert parameter.name value⟩
  | none =>
      if parameter.isMandatory registering then
        .error ⟨.invalidArgument, s!"missing mandatory account parameter {parameter.name}"⟩
      else match parameter.default with
        | some value => .ok ⟨progress.remaining, progress.accepted.insert parameter.name value⟩
        | none => .ok progress

def checkAll (registering : Bool) (progress : Progress) : List Parameter → Outcome Progress
  | [] => .ok progress
  | parameter :: rest => do checkAll registering (← checkOne registering progress parameter) rest

def isRegistering (supplied : Dictionary) : Bool := supplied.bool? "register" = some true

def validate (parameters : List Parameter) (supplied : Dictionary) : Outcome Dictionary := do
  let progress ← checkAll (isRegistering supplied) ⟨supplied, .empty⟩ parameters
  if progress.remaining.isEmpty then .ok progress.accepted
  else .error ⟨.invalidArgument,
    "unknown parameters provided: " ++ " ".intercalate progress.remaining.keys⟩

end Parameter

end ConnectionManager
