import ConnectionManager.Protocol.Descriptor

/-!
Descriptions of protocols as properties on the bus. A description is published as a dictionary and
can be rebuilt from it; properties that are missing or of another type read as empty, and malformed
parameters and channel classes are passed over.
-/

namespace ConnectionManager

namespace Property

def interfaceName : String := "org.freedesktop.Telepathy.Protocol"

def avatarInterfaceName : String := interfaceName ++ ".Interface.Avatars"

def ofProtocol (name : String) : String := interfaceName ++ "." ++ name

def ofAvatars (name : String) : String := avatarInterfaceName ++ "." ++ name

def interfaces : String := ofProtocol "Interfaces"
def connectionInterfaces : String := ofProtocol "ConnectionInterfaces"
def parameters : String := ofProtocol "Parameters"
def channelClasses : String := ofProtocol "RequestableChannelClasses"
def vcardField : String := ofProtocol "VCardField"
def englishName : String := ofProtocol "EnglishName"
def icon : String := ofProtocol "Icon"
def authenticationTypes : String := ofProtocol "AuthenticationTypes"
def avatarMimeTypes : String := ofAvatars "SupportedAvatarMIMETypes"
def minimumWidth : String := ofAvatars "MinimumAvatarWidth"
def minimumHeight : String := ofAvatars "MinimumAvatarHeight"
def recommendedWidth : String := ofAvatars "RecommendedAvatarWidth"
def recommendedHeight : String := ofAvatars "RecommendedAvatarHeight"
def maximumWidth : String := ofAvatars "MaximumAvatarWidth"
def maximumHeight : String := ofAvatars "MaximumAvatarHeight"
def maximumBytes : String := ofAvatars "MaximumAvatarBytes"

end Property

namespace Descriptor

/-- The properties that are published for a protocol. -/
def toProperties (descriptor : Descriptor) : Dictionary :=
  .ofPairs [
    (Property.interfaces, .strings descriptor.interfaces),
    (Property.connectionInterfaces, .strings descriptor.connectionInterfaces),
    (Property.parameters, .array (descriptor.parameters.map Parameter.toValue)),
    (Property.channelClasses, .array (descriptor.channelClasses.map ChannelClass.toValue)),
    (Property.vcardField, .string descriptor.vcardField),
    (Property.englishName, .string descriptor.declaredEnglishName),
    (Property.icon, .string descriptor.declaredIcon),
    (Property.authenticationTypes, .strings descriptor.authenticationTypes),
    (Property.avatarMimeTypes, .strings descriptor.avatars.mimeTypes),
    (Property.minimumWidth, .uint32 descriptor.avatars.minimumWidth),
    (Property.minimumHeight, .uint32 descriptor.avatars.minimumHeight),
    (Property.recommendedWidth, .uint32 descriptor.avatars.recommendedWidth),
    (Property.recommendedHeight, .uint32 descriptor.avatars.recommendedHeight),
    (Property.maximumWidth, .uint32 descriptor.avatars.maximumWidth),
    (Property.maximumHeight, .uint32 descriptor.avatars.maximumHeight),
    (Property.maximumBytes, .uint32 descriptor.avatars.maximumBytes)]

def avatarsOfProperties (properties : Dictionary) : AvatarLimits where
  mimeTypes := (properties.strings? Property.avatarMimeTypes).getD []
  minimumWidth := properties.uint32 Property.minimumWidth
  minimumHeight := properties.uint32 Property.minimumHeight
  recommendedWidth := properties.uint32 Property.recommendedWidth
  recommendedHeight := properties.uint32 Property.recommendedHeight
  maximumWidth := properties.uint32 Property.maximumWidth
  maximumHeight := properties.uint32 Property.maximumHeight
  maximumBytes := properties.uint32 Property.maximumBytes

/-- Rebuilds the description of a protocol. Only an invalid protocol name is refused. -/
def ofProperties (name : String) (properties : Dictionary) : Outcome Descriptor := do
  let bare ← ofName name
  let strings (key : String) : List String := (properties.strings? key).getD []
  let string (key : String) : String := (properties.string? key).getD ""
  let items (key : String) : List Value := (properties.array? key).getD []
  .ok { bare with
    declaredEnglishName := string Property.englishName
    declaredIcon := string Property.icon
    vcardField := string Property.vcardField
    interfaces := strings Property.interfaces
    connectionInterfaces := strings Property.connectionInterfaces
    parameters :=
      ((items Property.parameters).filterMap Parameter.ofValue?).map Parameter.guardPassword
    channelClasses := (items Property.channelClasses).filterMap ChannelClass.ofValue?
    avatars := avatarsOfProperties properties
    authenticationTypes := strings Property.authenticationTypes }

end Descriptor

end ConnectionManager
