import ConnectionManager.Datum.Values
import ConnectionManager.Manifest.Writer

/-!
Descriptions of protocols and manifests as data.
-/

namespace ConnectionManager

namespace Datum

def toParameter (data : Datum) : Outcome Parameter := do
  let plain := Parameter.ofSignature (data.stringAt "name") (data.stringAt "signature")
  let flagged := match data.naturalAt? "flags" with
    | some bits => plain.withFlags (ParameterFlags.ofBits (UInt32.ofNat bits))
    | none => plain
  match data.given? "default" with
  | some value => .ok (flagged.withDefault (← value.toValue))
  | none => .ok flagged

def toChannelClass (data : Datum) : Outcome ChannelClass := do
  .ok ⟨← (data.field "fixed").toDictionary, data.stringsAt "allowed"⟩

def toAvatarLimits (data : Datum) : AvatarLimits :=
  let size (key : String) : UInt32 := UInt32.ofNat (data.naturalAt key)
  { mimeTypes := data.stringsAt "mime_types"
    minimumWidth := size "minimum_width"
    minimumHeight := size "minimum_height"
    recommendedWidth := size "recommended_width"
    recommendedHeight := size "recommended_height"
    maximumWidth := size "maximum_width"
    maximumHeight := size "maximum_height"
    maximumBytes := size "maximum_bytes" }

def toDescriptor (data : Datum) : Outcome Descriptor := do
  let named ← Descriptor.ofName (data.stringAt "name")
  let parameters ← (data.itemsAt "params").mapM toParameter
  let classes ← (data.itemsAt "channel_classes").mapM toChannelClass
  let plain := { named with
    declaredEnglishName := data.stringAt "english_name"
    declaredIcon := data.stringAt "icon"
    vcardField := data.stringAt "vcard_field"
    interfaces := data.stringsAt "interfaces"
    connectionInterfaces := data.stringsAt "connection_interfaces"
    authenticationTypes := data.stringsAt "authentication_types"
    avatars := (data.field "avatars").toAvatarLimits }
  .ok (classes.foldl Descriptor.addChannelClass (parameters.foldl Descriptor.addParameter plain))

end Datum

instance : ToDatum UInt32 := ⟨fun number => datum number.toNat⟩

instance : ToDatum Parameter where
  datum parameter := .record [("name", datum parameter.name),
    ("signature", datum parameter.signature), ("flags", datum parameter.flags.bits),
    ("required", datum parameter.flags.required), ("register", datum parameter.flags.register),
    ("secret", datum parameter.flags.secret), ("default", datum parameter.default)]

instance : ToDatum ChannelClass where
  datum channelClass := .record
    [("fixed", datum channelClass.fixed), ("allowed", datum channelClass.allowed)]

instance : ToDatum AvatarLimits where
  datum limits := .record [("mime_types", datum limits.mimeTypes),
    ("minimum_width", datum limits.minimumWidth), ("minimum_height", datum limits.minimumHeight),
    ("recommended_width", datum limits.recommendedWidth),
    ("recommended_height", datum limits.recommendedHeight),
    ("maximum_width", datum limits.maximumWidth), ("maximum_height", datum limits.maximumHeight),
    ("maximum_bytes", datum limits.maximumBytes), ("empty", datum limits.isEmpty)]

instance : ToDatum Descriptor where
  datum descriptor := .record [("name", datum descriptor.name),
    ("english_name", datum descriptor.englishName), ("icon", datum descriptor.icon),
    ("vcard_field", datum descriptor.vcardField), ("interfaces", datum descriptor.interfaces),
    ("connection_interfaces", datum descriptor.connectionInterfaces),
    ("authentication_types", datum descriptor.authenticationTypes),
    ("params", datum descriptor.parameters), ("channel_classes", datum descriptor.channelClasses),
    ("avatars", datum descriptor.avatars),
    ("param_names", datum (descriptor.parameters.map Parameter.name)),
    ("can_register", datum descriptor.canRegister)]

instance : ToDatum ManifestError where
  datum error := match error with
    | .unreadable => .error "Io" none
    | .malformed _ => .error "Syntax" (some error.message)
    | .notFound _ => .error "NotFound" (some error.message)
    | .invalidProtocol .. => .error "Protocol" (some error.message)

instance {α : Type} [ToDatum α] : ToDatum (Except ManifestError α) where
  datum
    | .ok value => .ok (datum value)
    | .error error => datum error

end ConnectionManager
