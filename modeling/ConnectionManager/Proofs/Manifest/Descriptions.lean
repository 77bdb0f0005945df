import ConnectionManager.Manifest.Reader
import ConnectionManager.Proofs.Protocol.ParameterLine
import ConnectionManager.Proofs.Protocol.Properties

/-!
What the group of a protocol describes. The detour over published properties changes nothing: the
description is made of what is read from the group entry by entry.
-/

namespace ConnectionManager.Manifest

variable {file : KeyFile} {group : KeyFile.Group} {name : String} {parameter : Parameter}

def readAvatars (group : KeyFile.Group) : AvatarLimits where
  mimeTypes := readList group "SupportedAvatarMIMETypes"
  minimumWidth := readSize group "MinimumAvatarWidth"
  minimumHeight := readSize group "MinimumAvatarHeight"
  recommendedWidth := readSize group "RecommendedAvatarWidth"
  recommendedHeight := readSize group "RecommendedAvatarHeight"
  maximumWidth := readSize group "MaximumAvatarWidth"
  maximumHeight := readSize group "MaximumAvatarHeight"
  maximumBytes := readSize group "MaximumAvatarBytes"

/-- The description that is read from a group, before passwords are guarded. -/
def described (file : KeyFile) (group : KeyFile.Group) (name : String)
    (valid : Protocol.isValidName name = true) : Descriptor where
  name := name
  validName := valid
  declaredEnglishName := readString group "EnglishName"
  declaredIcon := readString group "Icon"
  vcardField := readString group "VCardField"
  interfaces := readList group "Interfaces"
  connectionInterfaces := readList group "ConnectionInterfaces"
  parameters := readParameters group
  channelClasses := (readList group classesKey).map (classOfGroup file)
  authenticationTypes := readList group "AuthenticationTypes"
  avatars := readAvatars group

theorem property_names_distinct : (Property.parameters :: listKeys.map Prod.snd
    ++ stringKeys.map Prod.snd ++ sizeKeys.map Prod.snd ++ [Property.channelClasses]).Nodup := by
  decide +kernel

theorem published_described (file : KeyFile) (group : KeyFile.Group)
    (valid : Protocol.isValidName name = true) :
    (described file group name valid).Published (protocolProperties file group) := by
  intro pair member
  refine Dictionary.get_of_pairs property_names_distinct ?_
  revert pair
  simp [Descriptor.publication, described, readAvatars, listKeys, stringKeys, sizeKeys]

theorem read_parameter_cases (read : readParameter? group name = some parameter) :
    ∃ line signature flags, group.get? (parameterHeading ++ name) = some line ∧
      Parameter.words line = signature :: flags ∧
      ∃ plain, plain = (Parameter.ofSignature name (String.ofList signature)).withFlags
          (Parameter.flagsOfWords flags) ∧
        (parameter = plain ∨
          ∃ value, readDefault? group name plain.signature = some value ∧
            parameter = plain.withDefault value) := by
  obtain ⟨line, found, more⟩ := Option.bind_eq_some_iff.1 read
  obtain ⟨plain, cut, chosen⟩ := Option.bind_eq_some_iff.1 more
  obtain ⟨signature, flags, words, same⟩ := Parameter.of_line_cases cut
  refine ⟨line, signature, flags, found, words, plain, same, ?_⟩
  split at chosen
  · rename_i value default
    exact .inr ⟨value, default, (Option.some.inj chosen).symm⟩
  · exact .inl (Option.some.inj chosen).symm

theorem read_parameter_announced (read : readParameter? group name = some parameter) :
    parameter.Announced := by
  obtain ⟨_, _, _, _, _, plain, rfl, rfl | ⟨value, _, rfl⟩⟩ := read_parameter_cases read
  · rfl
  · rfl

theorem read_parameters_announced (group : KeyFile.Group) :
    ∀ parameter ∈ readParameters group, parameter.Announced := by
  intro parameter member
  obtain ⟨name, _, read⟩ := List.mem_filterMap.1 member
  exact read_parameter_announced read

theorem of_protocol_properties (valid : Protocol.isValidName name = true) :
    Descriptor.ofProperties name (protocolProperties file group)
      = .ok (described file group name valid).guarded :=
  (published_described file group valid).rebuilt (read_parameters_announced group)

theorem read_protocol {beginning : List Char}
    (heading : Text.afterPrefix? protocolHeading.toList group.name = some beginning)
    (valid : Protocol.isValidName (String.ofList beginning) = true) :
    readProtocol? file group = some (.ok
      ⟨(described file group (String.ofList beginning) valid).guarded,
        readList group classesKey⟩) := by
  simp [readProtocol?, heading, valid, of_protocol_properties valid]

end ConnectionManager.Manifest
