import ConnectionManager.KeyFile.Reader
import ConnectionManager.Protocol.Descriptor

/-!
Manifests: what a connection manager and its protocols look like to clients that do not start it.
Every channel class of a protocol is described in a group of the file whose name is part of the
manifest.
-/

namespace ConnectionManager

structure Manifest.Section where
  descriptor : Descriptor
  classGroups : List String

structure Manifest where
  manager : Option (List (List Char × List Char))
  protocols : List Manifest.Section

inductive ManifestError
  | unreadable
  | malformed (error : KeyFile.ReadError)
  | notFound (manager : String)
  | invalidProtocol (name : String) (failure : Failure)
deriving DecidableEq

def ManifestError.message : ManifestError → String
  | .unreadable => "failed to read the manifest"
  | .malformed error => s!"line {error.line}: " ++ error.error.message
  | .notFound manager => "no manifest found for connection manager " ++ Text.quoted manager
  | .invalidProtocol name failure => s!"protocol {Text.quoted name}: " ++ failure.display

namespace Manifest

def empty : Manifest := ⟨none, []⟩

def addManagerEntry (manifest : Manifest) (key value : String) : Manifest :=
  { manifest with manager := some (manifest.manager.getD [] ++ [(key.toList, value.toList)]) }

/-- Adds a protocol; the groups of its channel classes get numbered names. -/
def addProtocol (manifest : Manifest) (descriptor : Descriptor) : Manifest :=
  let groups := (List.range descriptor.channelClasses.length).map fun index =>
    s!"{descriptor.name} class {index + 1}"
  { manifest with protocols := manifest.protocols ++ [⟨descriptor, groups⟩] }

def managerEntry? (manifest : Manifest) (key : String) : Option String :=
  (manifest.manager.bind (KeyFile.lastValue? key.toList)).map String.ofList

def descriptors (manifest : Manifest) : List Descriptor :=
  manifest.protocols.map Section.descriptor

def protocol? (manifest : Manifest) (name : String) : Option Descriptor :=
  manifest.descriptors.find? fun descriptor => descriptor.name = name

def Section.same (left right : Section) : Bool :=
  left.descriptor.same right.descriptor && left.classGroups == right.classGroups

def same (left right : Manifest) : Bool :=
  left.manager == right.manager && Descriptor.sameList Section.same left.protocols right.protocols

end Manifest

end ConnectionManager
