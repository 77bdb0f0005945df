import ConnectionManager.Manifest.Basic
import ConnectionManager.Protocol.Properties

/-!
Reading manifests. The group of a protocol is turned into the properties of its description, so a
manifest and the bus describe a protocol in one way. What does not fit is left out: protocols with
an invalid name, parameters without a signature and defaults that do not read back.
-/

namespace ConnectionManager.Manifest

def managerGroup : String := "ConnectionManager"

def protocolHeading : String := "Protocol "

def parameterHeading : String := "param-"

def defaultHeading : String := "default-"

def listKeys : List (String × String) :=
  [("Interfaces", Property.interfaces), ("ConnectionInterfaces", Property.connectionInterfaces),
    ("AuthenticationTypes", Property.authenticationTypes),
    ("SupportedAvatarMIMETypes", Property.avatarMimeTypes)]

def stringKeys : List (String × String) :=
  [("VCardField", Property.vcardField), ("EnglishName", Property.englishName),
    ("Icon", Property.icon)]

def sizeKeys : List (String × String) :=
  [("MinimumAvatarWidth", Property.minimumWidth), ("MinimumAvatarHeight", Property.minimumHeight),
    ("RecommendedAvatarWidth", Property.recommendedWidth),
    ("RecommendedAvatarHeight", Property.recommendedHeight),
    ("MaximumAvatarWidth", Property.maximumWidth), ("MaximumAvatarHeight", Property.maximumHeight),
    ("MaximumAvatarBytes", Property.maximumBytes)]

def classesKey : String := "RequestableChannelClasses"

def allowedKey : String := "allowed"

def distinct : List (List Char) → List (List Char)
  | [] => []
  | name :: rest => name :: (distinct rest).filter fun other => other != name

/-- The names of the parameters of a group, in order of first appearance. -/
def parameterNames (group : KeyFile.Group) : List (List Char) :=
  distinct (group.entries.filterMap fun entry =>
    Text.afterPrefix? parameterHeading.toList entry.1)

def readDefault? (group : KeyFile.Group) (name signature : String) : Option Value :=
  (group.get? (defaultHeading ++ name)).bind (Value.read? signature)

def readParameter? (group : KeyFile.Group) (name : String) : Option Parameter := do
  let parameter ← Parameter.ofLine? name (← group.get? (parameterHeading ++ name))
  match readDefault? group name parameter.signature with
  | some value => some (parameter.withDefault value)
  | none => some parameter

def readParameters (group : KeyFile.Group) : List Parameter :=
  (parameterNames group).filterMap fun name => readParameter? group (String.ofList name)

def readList (group : KeyFile.Group) (key : String) : List String :=
  ((group.get? key).bind Value.readStrings?).getD []

def readString (group : KeyFile.Group) (key : String) : String :=
  ((group.get? key).bind Value.readString?).getD ""

/-- A size; one that does not fit is cut off at the greatest size there is. -/
def readSize (group : KeyFile.Group) (key : String) : UInt32 :=
  match (group.get? key).bind (Number.Word.read? .uint64) with
  | some word => UInt32.ofNat (min word.number.toNat 0xFFFFFFFF)
  | none => 0

/-- A fixed property of a channel class: its key is the property and its signature. -/
def readFixed? (entry : List Char × List Char) : Option (String × Value) := do
  let (property, signature) ← Text.splitOnce ' ' entry.1
  some (String.ofList property, ← Value.read? (String.ofList signature) entry.2)

def readClass (group : KeyFile.Group) : ChannelClass :=
  ⟨.ofPairs (group.entries.filterMap readFixed?), readList group allowedKey⟩

def classOfGroup (file : KeyFile) (name : String) : ChannelClass :=
  match file.group? name.toList with
  | some group => readClass group
  | none => .empty

def protocolProperties (file : KeyFile) (group : KeyFile.Group) : Dictionary :=
  .ofPairs (
    (Property.parameters, .array ((readParameters group).map Parameter.toValue))
    :: listKeys.map (fun (key, property) => (property, .strings (readList group key)))
    ++ stringKeys.map (fun (key, property) => (property, .string (readString group key)))
    ++ sizeKeys.map (fun (key, property) => (property, .uint32 (readSize group key)))
    ++ [(Property.channelClasses, .array ((readList group classesKey).map fun name =>
          (classOfGroup file name).toValue))])

/-- The protocol of a group; `none` for groups that describe something else. -/
def readProtocol? (file : KeyFile) (group : KeyFile.Group) :
    Option (Except ManifestError Section) := do
  let name := String.ofList (← Text.afterPrefix? protocolHeading.toList group.name)
  if Protocol.isValidName name then
    match Descriptor.ofProperties name (protocolProperties file group) with
    | .ok descriptor => some (.ok ⟨descriptor, readList group classesKey⟩)
    | .error failure => some (.error (.invalidProtocol name failure))
  else none

/-- The results up to the first error, or that error. -/
def collect : List (Except ManifestError Section) → Except ManifestError (List Section)
  | [] => .ok []
  | .error error :: _ => .error error
  | .ok protocol :: rest => do .ok (protocol :: (← collect rest))

def ofKeyFile (file : KeyFile) : Except ManifestError Manifest := do
  let protocols ← collect (file.groups.filterMap (readProtocol? file))
  .ok ⟨(file.group? managerGroup.toList).map KeyFile.Group.entries, protocols⟩

def read (text : List Char) : Except ManifestError Manifest :=
  match KeyFile.read text with
  | .error error => .error (.malformed error)
  | .ok file => ofKeyFile file

end ConnectionManager.Manifest
