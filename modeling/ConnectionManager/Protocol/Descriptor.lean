import ConnectionManager.Protocol.Name
import ConnectionManager.Protocol.Parameter

/-!
Descriptions of protocols: what clients may know of a protocol before there is a connection. The
declared names may be empty; readers of a description then get a default made from the protocol
name.
-/

namespace ConnectionManager

/-- The channels that a client may ask for: properties with fixed values, and names of further
properties that it may choose. -/
structure ChannelClass where
  fixed : Dictionary
  allowed : List String

namespace ChannelClass

def empty : ChannelClass := ⟨.empty, []⟩

def toValue (channelClass : ChannelClass) : Value :=
  .tuple [.dictionary channelClass.fixed.entries, .strings channelClass.allowed]

def ofValue? (value : Value) : Option ChannelClass :=
  match value.tuple? with
  | some [fixed, allowed] => do some ⟨← fixed.dictionary?, ← allowed.strings?⟩
  | _ => none

def same (left right : ChannelClass) : Bool :=
  left.fixed.same right.fixed && left.allowed == right.allowed

end ChannelClass

/-- Limits on avatars. Zero stands for no limit. -/
structure AvatarLimits where
  mimeTypes : List String := []
  minimumWidth : UInt32 := 0
  minimumHeight : UInt32 := 0
  recommendedWidth : UInt32 := 0
  recommendedHeight : UInt32 := 0
  maximumWidth : UInt32 := 0
  maximumHeight : UInt32 := 0
  maximumBytes : UInt32 := 0
deriving DecidableEq

namespace AvatarLimits

def isEmpty (limits : AvatarLimits) : Bool := limits = {}

/-- The seven sizes in the order in which they are written. -/
def sizes (limits : AvatarLimits) : List UInt32 :=
  [limits.minimumWidth, limits.minimumHeight, limits.recommendedWidth, limits.recommendedHeight,
    limits.maximumWidth, limits.maximumHeight, limits.maximumBytes]

end AvatarLimits

structure Descriptor where
  name : String
  validName : Protocol.isValidName name = true
  declaredEnglishName : String := ""
  declaredIcon : String := ""
  vcardField : String := ""
  interfaces : List String := []
  connectionInterfaces : List String := []
  parameters : List Parameter := []
  channelClasses : List ChannelClass := []
  avatars : AvatarLimits := {}
  authenticationTypes : List String := []

namespace Descriptor

def ofName (name : String) : Outcome Descriptor :=
  if valid : Protocol.isValidName name = true then .ok { name := name, validName := valid }
  else .error ⟨.invalidArgument, Text.quoted name ++ " is not a valid protocol name"⟩

def addParameter (descriptor : Descriptor) (parameter : Parameter) : Descriptor :=
  { descriptor with parameters := descriptor.parameters ++ [parameter.guardPassword] }

def addChannelClass (descriptor : Descriptor) (channelClass : ChannelClass) : Descriptor :=
  { descriptor with channelClasses := descriptor.channelClasses ++ [channelClass] }

/-- The declared English name, or the protocol name with a capital. -/
def englishName (descriptor : Descriptor) : String :=
  if descriptor.declaredEnglishName ≠ "" then descriptor.declaredEnglishName
  else match descriptor.name.toList with
    | [] => ""
    | first :: rest => String.ofList (first.toUpper :: rest)

def icon (descriptor : Descriptor) : String :=
  if descriptor.declaredIcon = "" then "im-" ++ descriptor.name else descriptor.declaredIcon

def parameter? (descriptor : Descriptor) (name : String) : Option Parameter :=
  descriptor.parameters.find? fun parameter => parameter.name = name

/-- Whether accounts can be registered through the protocol. -/
def canRegister (descriptor : Descriptor) : Bool :=
  descriptor.parameters.any fun parameter => parameter.flags.register

def sameList {α : Type} (same : α → α → Bool) : List α → List α → Bool
  | [], [] => true
  | left :: leftRest, right :: rightRest => same left right && sameList same leftRest rightRest
  | _, _ => false

/-- Equality of everything declared, in which doubles compare as numbers. -/
def same (left right : Descriptor) : Bool :=
  left.name == right.name && left.declaredEnglishName == right.declaredEnglishName
    && left.declaredIcon == right.declaredIcon && left.vcardField == right.vcardField
    && left.interfaces == right.interfaces
    && left.connectionInterfaces == right.connectionInterfaces
    && sameList Parameter.same left.parameters right.parameters
    && sameList ChannelClass.same left.channelClasses right.channelClasses
    && left.avatars == right.avatars && left.authenticationTypes == right.authenticationTypes

end Descriptor

end ConnectionManager
