import ConnectionManager.Text.Split
import ConnectionManager.Value.Literal

/-!
Connection parameters: a name, flags, a type signature and perhaps a default. As a value a
parameter is a tuple of these four; a parameter without a default carries the zero of its type,
and the flags tell the two cases apart.
-/

namespace ConnectionManager

structure ParameterFlags where
  required : Bool := false
  register : Bool := false
  secret : Bool := false
  hasDefault : Bool := false
  busProperty : Bool := false
deriving DecidableEq, Repr

namespace ParameterFlags

def bits (flags : ParameterFlags) : UInt32 :=
  (if flags.required then 1 else 0) + (if flags.register then 2 else 0)
    + (if flags.secret then 4 else 0) + (if flags.hasDefault then 8 else 0)
    + (if flags.busProperty then 16 else 0)

/-- Unknown bits are dropped. -/
def ofBits (bits : UInt32) : ParameterFlags :=
  ⟨bits &&& 1 != 0, bits &&& 2 != 0, bits &&& 4 != 0, bits &&& 8 != 0, bits &&& 16 != 0⟩

theorem of_bits_bits (flags : ParameterFlags) : ofBits flags.bits = flags := by
  obtain ⟨required, register, secret, hasDefault, busProperty⟩ := flags
  cases required <;> cases register <;> cases secret <;> cases hasDefault <;>
    cases busProperty <;> decide

def union (left right : ParameterFlags) : ParameterFlags :=
  ⟨left.required || right.required, left.register || right.register,
    left.secret || right.secret, left.hasDefault || right.hasDefault,
    left.busProperty || right.busProperty⟩

/-- The words for flags on a parameter line, in the order in which they are written. -/
def tokens : List (String × ParameterFlags) :=
  [("secret", { secret := true }), ("required", { required := true }),
    ("register", { register := true }), ("dbus-property", { busProperty := true })]

def includes (flags part : ParameterFlags) : Bool := flags.union part = flags

end ParameterFlags

structure Parameter where
  name : String
  flags : ParameterFlags
  signature : String
  default : Option Value

namespace Parameter

def ofSignature (name signature : String) : Parameter := ⟨name, {}, signature, none⟩

/-- Adds flags. The flag for a default follows the default and cannot be added. -/
def withFlags (parameter : Parameter) (flags : ParameterFlags) : Parameter :=
  { parameter with flags := parameter.flags.union { flags with hasDefault := false } }

def withDefault (parameter : Parameter) (value : Value) : Parameter :=
  { parameter with
    default := some value
    flags := { parameter.flags with hasDefault := true } }

def isPasswordName (name : String) : Bool :=
  name = "password" || "-password".toList.isSuffixOf name.toList

/-- Passwords are secret whether or not they are declared so. -/
def guardPassword (parameter : Parameter) : Parameter :=
  if isPasswordName parameter.name then
    { parameter with flags := { parameter.flags with secret := true } }
  else parameter

def toValue (parameter : Parameter) : Value :=
  .tuple [.string parameter.name, .uint32 parameter.flags.bits, .string parameter.signature,
    .boxed (parameter.default.getD (Value.zero parameter.signature))]

def unbox : Value → Value
  | .boxed inner => inner
  | value => value

/-- Reads the tuple of a parameter. The default counts only if the flags announce one. -/
def ofValue? (value : Value) : Option Parameter :=
  match value.tuple? with
  | some [name, flags, signature, default] => do
      let flags := ParameterFlags.ofBits (← flags.uint32?)
      let name ← name.string?
      let signature ← signature.string?
      some ⟨name, flags, signature, if flags.hasDefault then some (unbox default) else none⟩
  | _ => none

def words (line : List Char) : List (List Char) :=
  (Text.pieces (· == ' ') line).filter fun word => !word.isEmpty

/-- Flags of the words that are known; the others are passed over. -/
def flagsOfWords (words : List (List Char)) : ParameterFlags :=
  words.foldl (fun flags word =>
    match ParameterFlags.tokens.find? fun token => token.1.toList = word with
    | some (_, flag) => flags.union flag
    | none => flags) {}

/-- Reads a parameter line: the signature, then words for flags. -/
def ofLine? (name : String) (line : List Char) : Option Parameter :=
  match words line with
  | [] => none
  | signature :: flagWords =>
      some ((ofSignature name (String.ofList signature)).withFlags (flagsOfWords flagWords))

def line (parameter : Parameter) : List Char :=
  parameter.signature.toList ++
    (ParameterFlags.tokens.filter fun token => parameter.flags.includes token.2).flatMap
      fun token => ' ' :: token.1.toList

/-- A value as the signature wants it, if it can be had. Integers change width when they fit, and
a signature for any value takes all. -/
def convert? (signature : String) (value : Value) : Option Value :=
  match WordType.ofSignature? signature with
  | some type => value.integer?.bind (Value.ofWord type)
  | none =>
      if signature = "o" then value.path?.map .path
      else if signature = "v" then some value
      else none

def coerce (parameter : Parameter) (value : Value) : Outcome Value :=
  let value := value.unboxed
  if value.signature = parameter.signature then .ok value
  else match convert? parameter.signature value with
    | some converted => .ok converted
    | none => .error ⟨.invalidArgument,
        s!"expected type {parameter.signature} for account parameter {parameter.name}, got "
          ++ value.signature⟩

/-- Equality in which doubles compare as numbers. -/
def same (left right : Parameter) : Bool :=
  left.name == right.name && left.flags == right.flags && left.signature == right.signature
    && match left.default, right.default with
      | none, none => true
      | some leftValue, some rightValue => leftValue.same rightValue
      | _, _ => false

end Parameter

end ConnectionManager
