import ConnectionManager.Proofs.Value.Dictionary
import ConnectionManager.Protocol.Properties

/-!
A description is rebuilt from any dictionary that holds what is published of it. Parameters and
channel classes come back from their values one by one; what is rebuilt has its passwords guarded.
-/

namespace ConnectionManager

variable {properties : Dictionary} {key : String}

theorem Value.uint32_of_uint32 (number : UInt32) : (Value.uint32 number).uint32? = some number := by
  have whole : (Value.uint32 number).integerAs? .uint32 = some (number.toNat : Int) := by
    change (some (number.toNat : Int)).filter _ = _
    simp [Value.uint32_fits]
  simp [uint32?, whole]

/-- The flag for a default says whether there is one. -/
def Parameter.Announced (parameter : Parameter) : Prop :=
  parameter.flags.hasDefault = parameter.default.isSome

theorem Parameter.of_value_to_value {parameter : Parameter} (announced : parameter.Announced) :
    ofValue? parameter.toValue = some parameter := by
  obtain ⟨name, flags, signature, default⟩ := parameter
  change ((Value.uint32 flags.bits).uint32?.bind fun bits => some (Parameter.mk name
    (ParameterFlags.ofBits bits) signature
    (if (ParameterFlags.ofBits bits).hasDefault
      then some (default.getD (Value.zero signature)) else none))) = _
  rw [Value.uint32_of_uint32, Option.bind_some, ParameterFlags.of_bits_bits]
  cases default with
  | none => simp_all [Announced]
  | some value => simp_all [Announced]

theorem ChannelClass.of_value_to_value (channelClass : ChannelClass) :
    ofValue? channelClass.toValue = some channelClass := rfl

namespace Descriptor

variable {descriptor : Descriptor}

/-- What is published of a protocol, in the order of publication. -/
def publication (descriptor : Descriptor) : List (String × Value) := [
  (Property.interfaces, .strings descriptor.interfaces),
  (Property.connectionInterfaces, .strings descriptor.connectionInterfaces),
  (Property.parameters, .array (descriptor.parameters.map Parameter.toValue)),
  (Property.channelClasses, .array (descriptor.channelClasses.map ChannelClass.toValue)),
  (Property.vcardField, .string descriptor.vcardField),
  (Property.englishName, .string descriptor.declaredEnglishName),
  (Property.icon, .string descriptor.declaredIcon),
  (Property.authenticationTypes, .strings descriptor.authenticationTypes),
  (Property.avatarMimeTypes, .strings descriptor.avatars.mimeTypes),
  (Property.minimumWidth, .uint32 descriptor.avatars.minimumWidth),
  (Property.minimumHeight, .uint32 descriptor.avatars.minimumHeight),
  (Property.recommendedWidth, .uint32 descriptor.avatars.recommendedWidth),
  (Property.recommendedHeight, .uint32 descriptor.avatars.recommendedHeight),
  (Property.maximumWidth, .uint32 descriptor.avatars.maximumWidth),
  (Property.maximumHeight, .uint32 descriptor.avatars.maximumHeight),
  (Property.maximumBytes, .uint32 descriptor.avatars.maximumBytes)]

/-- The dictionary holds everything that is published. Further properties do not matter. -/
def Published (descriptor : Descriptor) (properties : Dictionary) : Prop :=
  ∀ pair ∈ descriptor.publication, properties.get? pair.1 = some pair.2

def guarded (descriptor : Descriptor) : Descriptor :=
  { descriptor with parameters := descriptor.parameters.map Parameter.guardPassword }

theorem Published.strings {texts : List String} (published : descriptor.Published properties)
    (member : (key, .strings texts) ∈ descriptor.publication) :
    (properties.strings? key).getD [] = texts := by
  rw [Dictionary.strings?, published _ member]
  rfl

theorem Published.string {text : String} (published : descriptor.Published properties)
    (member : (key, .string text) ∈ descriptor.publication) :
    (properties.string? key).getD "" = text := by
  rw [Dictionary.string?, published _ member]
  rfl

theorem Published.array {items : List Value} (published : descriptor.Published properties)
    (member : (key, .array items) ∈ descriptor.publication) :
    (properties.array? key).getD [] = items := by
  rw [Dictionary.array?, published _ member]
  rfl

theorem Published.size {number : UInt32} (published : descriptor.Published properties)
    (member : (key, .uint32 number) ∈ descriptor.publication) :
    properties.uint32 key = number := by
  rw [Dictionary.uint32, published _ member, Option.bind_some, Value.uint32_of_uint32]
  rfl

theorem Published.avatars (published : descriptor.Published properties) :
    avatarsOfProperties properties = descriptor.avatars := by
  have mimeTypes : (properties.strings? Property.avatarMimeTypes).getD []
      = descriptor.avatars.mimeTypes := published.strings (by simp [publication])
  have minimumWidth : properties.uint32 Property.minimumWidth
      = descriptor.avatars.minimumWidth := published.size (by simp [publication])
  have minimumHeight : properties.uint32 Property.minimumHeight
      = descriptor.avatars.minimumHeight := published.size (by simp [publication])
  have recommendedWidth : properties.uint32 Property.recommendedWidth
      = descriptor.avatars.recommendedWidth := published.size (by simp [publication])
  have recommendedHeight : properties.uint32 Property.recommendedHeight
      = descriptor.avatars.recommendedHeight := published.size (by simp [publication])
  have maximumWidth : properties.uint32 Property.maximumWidth
      = descriptor.avatars.maximumWidth := published.size (by simp [publication])
  have maximumHeight : properties.uint32 Property.maximumHeight
      = descriptor.avatars.maximumHeight := published.size (by simp [publication])
  have maximumBytes : properties.uint32 Property.maximumBytes
      = descriptor.avatars.maximumBytes := published.size (by simp [publication])
  rw [avatarsOfProperties, mimeTypes, minimumWidth, minimumHeight, recommendedWidth,
    recommendedHeight, maximumWidth, maximumHeight, maximumBytes]

theorem Published.parameters (published : descriptor.Published properties)
    (announced : ∀ parameter ∈ descriptor.parameters, parameter.Announced) :
    ((properties.array? Property.parameters).getD []).filterMap Parameter.ofValue?
      = descriptor.parameters := by
  have items : (properties.array? Property.parameters).getD []
      = descriptor.parameters.map Parameter.toValue := published.array (by simp [publication])
  rw [items, List.filterMap_map]
  refine (List.filterMap_congr fun parameter member => ?_).trans List.filterMap_some
  exact Parameter.of_value_to_value (announced parameter member)

theorem Published.channelClasses (published : descriptor.Published properties) :
    ((properties.array? Property.channelClasses).getD []).filterMap ChannelClass.ofValue?
      = descriptor.channelClasses := by
  have items : (properties.array? Property.channelClasses).getD []
      = descriptor.channelClasses.map ChannelClass.toValue := published.array (by simp [publication])
  rw [items, List.filterMap_map]
  refine (List.filterMap_congr fun channelClass _ => ?_).trans List.filterMap_some
  exact ChannelClass.of_value_to_value channelClass

/-- Only the guard of passwords keeps a description from coming back as it was. -/
theorem Published.rebuilt (published : descriptor.Published properties)
    (announced : ∀ parameter ∈ descriptor.parameters, parameter.Announced) :
    ofProperties descriptor.name properties = .ok descriptor.guarded := by
  have bare : ofName descriptor.name
      = .ok { name := descriptor.name, validName := descriptor.validName } :=
    dif_pos descriptor.validName
  have englishName : (properties.string? Property.englishName).getD ""
      = descriptor.declaredEnglishName := published.string (by simp [publication])
  have icon : (properties.string? Property.icon).getD "" = descriptor.declaredIcon :=
    published.string (by simp [publication])
  have vcardField : (properties.string? Property.vcardField).getD "" = descriptor.vcardField :=
    published.string (by simp [publication])
  have interfaces : (properties.strings? Property.interfaces).getD [] = descriptor.interfaces :=
    published.strings (by simp [publication])
  have connectionInterfaces : (properties.strings? Property.connectionInterfaces).getD []
      = descriptor.connectionInterfaces := published.strings (by simp [publication])
  have authenticationTypes : (properties.strings? Property.authenticationTypes).getD []
      = descriptor.authenticationTypes := published.strings (by simp [publication])
  rw [ofProperties, bare]
  dsimp only [Bind.bind, Except.bind]
  rw [englishName, icon, vcardField, interfaces, connectionInterfaces, authenticationTypes,
    published.avatars, published.parameters announced, published.channelClasses]
  rfl

end Descriptor

end ConnectionManager
