import ConnectionManager.KeyFile.Writer
import ConnectionManager.Manifest.Reader

/-!
Writing manifests. The group of a protocol is followed by the groups of its channel classes; a
group that several classes share is written once, for the first of them.
-/

namespace ConnectionManager.Manifest

def listEntry (key : String) (items : List String) : List (List Char × List Char) :=
  if items.isEmpty then [] else [(key.toList, KeyFile.joinList (items.map String.toList))]

def stringEntry (key value : String) : List (List Char × List Char) :=
  if value = "" then [] else [(key.toList, KeyFile.escape value.toList)]

def sizeEntries (limits : AvatarLimits) : List (List Char × List Char) :=
  (sizeKeys.zip limits.sizes).filterMap fun ((key, _), size) =>
    if size = 0 then none else some (key.toList, Number.naturalText size.toNat)

def parameterEntries (parameter : Parameter) : List (List Char × List Char) :=
  ((parameterHeading ++ parameter.name).toList, parameter.line)
    :: match parameter.default with
      | some value => [((defaultHeading ++ parameter.name).toList, value.text)]
      | none => []

def protocolGroup (protocol : Section) : KeyFile.Group :=
  let descriptor := protocol.descriptor
  ⟨(protocolHeading ++ descriptor.name).toList,
    listEntry "Interfaces" descriptor.interfaces
    ++ listEntry "ConnectionInterfaces" descriptor.connectionInterfaces
    ++ listEntry classesKey protocol.classGroups
    ++ listEntry "AuthenticationTypes" descriptor.authenticationTypes
    ++ stringEntry "VCardField" descriptor.vcardField
    ++ stringEntry "EnglishName" descriptor.declaredEnglishName
    ++ stringEntry "Icon" descriptor.declaredIcon
    ++ listEntry "SupportedAvatarMIMETypes" descriptor.avatars.mimeTypes
    ++ sizeEntries descriptor.avatars
    ++ descriptor.parameters.flatMap parameterEntries⟩

def classGroup (name : String) (channelClass : ChannelClass) : KeyFile.Group :=
  ⟨name.toList,
    channelClass.fixed.entries.map (fun (property, value) =>
      ((property ++ " " ++ value.signature).toList, value.text))
    ++ listEntry allowedKey channelClass.allowed⟩

/-- The groups of channel classes that are not among the written ones yet, and all written ones. -/
def newClassGroups (written : List String) :
    List (String × ChannelClass) → List KeyFile.Group × List String
  | [] => ([], written)
  | (name, channelClass) :: rest =>
      if written.contains name then newClassGroups written rest
      else
        let (groups, all) := newClassGroups (name :: written) rest
        (classGroup name channelClass :: groups, all)

def protocolGroups (written : List String) : List Section → List KeyFile.Group
  | [] => []
  | protocol :: rest =>
      let (groups, all) := newClassGroups written
        (protocol.classGroups.zip protocol.descriptor.channelClasses)
      protocolGroup protocol :: groups ++ protocolGroups all rest

def toKeyFile (manifest : Manifest) : KeyFile :=
  ⟨(manifest.manager.map fun entries => ⟨managerGroup.toList, entries⟩).toList
    ++ protocolGroups [] manifest.protocols⟩

def text (manifest : Manifest) : List Char := manifest.toKeyFile.text

end ConnectionManager.Manifest
