import ConnectionManager.Handle.Basic
import ConnectionManager.ObjectPath
import ConnectionManager.Text.Bytes

/-!
Data without types of its own, in which values are written down for other programs. A record field
that is missing reads as nothing, and what is of another type reads as empty, so only a value that
has to obey a rule of its own can be refused.
-/

namespace ConnectionManager

inductive Datum
  | nothing
  | truth (value : Bool)
  | number (value : Int)
  /-- A number that is written with a fraction: digits, and how many of them follow the point. -/
  | fraction (digits : Int) (places : Nat)
  | text (content : String)
  | list (items : List Datum)
  | record (fields : List (String × Datum))
  deriving Inhabited

/-- A type whose values can be written down. -/
class ToDatum (α : Type) where
  datum : α → Datum

export ToDatum (datum)

namespace Datum

def field (data : Datum) (key : String) : Datum :=
  match data with
  | .record fields => (fields.lookup key).getD .nothing
  | _ => .nothing

def items : Datum → List Datum
  | .list items => items
  | _ => []

def string? : Datum → Option String
  | .text content => some content
  | _ => none

def boolean? : Datum → Option Bool
  | .truth value => some value
  | _ => none

def natural? : Datum → Option Nat
  | .number (.ofNat whole) => some whole
  | _ => none

def string (data : Datum) : String := data.string?.getD ""

def boolean (data : Datum) : Bool := data.boolean?.getD false

def natural (data : Datum) : Nat := data.natural?.getD 0

def integer : Datum → Int
  | .number whole => whole
  | _ => 0

def given? (data : Datum) (key : String) : Option Datum :=
  match data.field key with
  | .nothing => none
  | value => some value

def stringAt (data : Datum) (key : String) : String := (data.field key).string
def stringAt? (data : Datum) (key : String) : Option String := (data.given? key).map string
def booleanAt (data : Datum) (key : String) : Bool := (data.field key).boolean
def naturalAt (data : Datum) (key : String) : Nat := (data.field key).natural
def naturalAt? (data : Datum) (key : String) : Option Nat := (data.given? key).map natural
def itemsAt (data : Datum) (key : String) : List Datum := (data.field key).items
def stringsAt (data : Datum) (key : String) : List String := (data.itemsAt key).map string
def naturalsAt (data : Datum) (key : String) : List Nat := (data.itemsAt key).map natural

def ok (value : Datum) : Datum := .record [("ok", value)]

def error (name : String) (message : Option String) : Datum :=
  .record (("error", .text name) ::
    match message with
    | some message => [("message", .text message)]
    | none => [])

end Datum

instance : ToDatum Datum := ⟨id⟩
instance : ToDatum Unit := ⟨fun _ => .nothing⟩
instance : ToDatum Bool := ⟨.truth⟩
instance : ToDatum Nat := ⟨fun whole => .number (Int.ofNat whole)⟩
instance : ToDatum Int := ⟨.number⟩
instance : ToDatum String := ⟨.text⟩

instance {α : Type} [ToDatum α] : ToDatum (List α) := ⟨fun values => .list (values.map datum)⟩

instance {α : Type} [ToDatum α] : ToDatum (Option α) where
  datum
    | some value => datum value
    | none => .nothing

instance {α β : Type} [ToDatum α] [ToDatum β] : ToDatum (α × β) :=
  ⟨fun pair => .list [datum pair.1, datum pair.2]⟩

instance : ToDatum ObjectPath := ⟨fun path => .text path.text⟩
instance : ToDatum HandleKind := ⟨fun kind => .text kind.name⟩

instance : ToDatum Failure := ⟨fun failure => .error failure.kind.name (some failure.message)⟩

instance {α : Type} [ToDatum α] : ToDatum (Outcome α) where
  datum
    | .ok value => .ok (datum value)
    | .error failure => datum failure

namespace Datum

def settle : Outcome Datum → Datum
  | .ok answer => answer
  | .error failure => datum failure

def toFailure (data : Datum) : Failure :=
  match data.items with
  | [name, message] => ⟨(FailureKind.ofName? name.string).getD .inconsistent, message.string⟩
  | _ => ⟨.inconsistent, ""⟩

def failureAt? (data : Datum) (key : String) : Option Failure := (data.given? key).map toFailure

def kindAt? (data : Datum) (key : String) : Option HandleKind :=
  (data.stringAt? key).bind HandleKind.ofName?

def kindAt (data : Datum) (key : String) : HandleKind := (data.kindAt? key).getD .none

def hexText (bytes : Text.Bytes) : String := String.ofList (bytes.flatMap Text.hexByte)

def hexBytes : List Char → Text.Bytes
  | high :: low :: rest =>
      let digit (character : Char) : Nat :=
        (Text.hexValue? (UInt8.ofNat character.toNat)).getD 0
      UInt8.ofNat (16 * digit high + digit low) :: hexBytes rest
  | _ => []

def unlessEmpty {α : Type} [ToDatum α] (key : String) (values : List α) : List (String × Datum) :=
  if values.isEmpty then [] else [(key, datum values)]

end Datum

end ConnectionManager
