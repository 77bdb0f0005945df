import ConnectionManager.Manifest.Writer
import ConnectionManager.Proofs.KeyFile.Lookups
import ConnectionManager.Proofs.KeyFile.RoundTrip
import ConnectionManager.Proofs.Manifest.Descriptions
import ConnectionManager.Proofs.Number.Decimal
import ConnectionManager.Proofs.Protocol.ParameterLine
import ConnectionManager.Proofs.Value.Literal

/-!
The groups of a manifest. The group of a protocol and the group of a channel class are legible and
describe what they were written for, if that is legible: white space at the ends of strings can be
escaped, no list ends in an empty string, names fit into keys, and values come back from their
texts.
-/

namespace ConnectionManager

open Text
open KeyFile (Clean CleanList LegibleEntry LegibleGroup lastValue?)

/-- A list of strings that comes back from its written form. -/
def CleanTexts (texts : List String) : Prop := CleanList (texts.map String.toList)

instance (texts : List String) : Decidable (CleanTexts texts) :=
  inferInstanceAs (Decidable (CleanList (texts.map String.toList)))

theorem clean_texts {texts : List String} (each : ∀ text ∈ texts, Clean text.toList)
    (ends : texts.getLast? ≠ some "") : CleanTexts texts := by
  constructor
  · intro item member
    obtain ⟨text, among, rfl⟩ := List.mem_map.1 member
    exact each text among
  · intro empty
    rw [List.getLast?_map] at empty
    obtain ⟨last, found, same⟩ := Option.map_eq_some_iff.1 empty
    exact ends (found.trans (congrArg some (by simpa using same)))

structure Parameter.Legible (parameter : Parameter) : Prop where
  nameEnds : ∀ character, parameter.name.toList.getLast? = some character →
    isBlank character = false
  nameOneLine : '\n' ∉ parameter.name.toList
  noEquals : '=' ∉ parameter.name.toList
  someSignature : parameter.signature ≠ ""
  oneWord : ' ' ∉ parameter.signature.toList
  signatureOneLine : '\n' ∉ parameter.signature.toList
  lineTrimmed : Trimmed parameter.line
  announced : parameter.Announced
  default : ∀ value, parameter.default = some value → value.ComesBack parameter.signature

/-- A property of a channel class with a fixed value. -/
structure LegibleFixed (entry : String × Value) : Prop where
  some_ : entry.1 ≠ ""
  starts : ∀ character, entry.1.toList.head? = some character → isBlank character = false
  noComment : entry.1.toList.head? ≠ some '#'
  noHeader : entry.1.toList.head? ≠ some '['
  oneLine : '\n' ∉ entry.1.toList
  oneWord : ' ' ∉ entry.1.toList
  noEquals : '=' ∉ entry.1.toList
  comesBack : entry.2.ComesBack entry.2.signature

structure ChannelClass.Legible (channelClass : ChannelClass) : Prop where
  ascending : Entries.Ascending channelClass.fixed.entries
  fixed : ∀ entry ∈ channelClass.fixed.entries, LegibleFixed entry
  allowed : CleanTexts channelClass.allowed

structure Descriptor.Legible (descriptor : Descriptor) : Prop where
  interfaces : CleanTexts descriptor.interfaces
  connectionInterfaces : CleanTexts descriptor.connectionInterfaces
  authenticationTypes : CleanTexts descriptor.authenticationTypes
  mimeTypes : CleanTexts descriptor.avatars.mimeTypes
  vcardField : Clean descriptor.vcardField.toList
  englishName : Clean descriptor.declaredEnglishName.toList
  icon : Clean descriptor.declaredIcon.toList
  distinct : (descriptor.parameters.map Parameter.name).Nodup
  parameters : ∀ parameter ∈ descriptor.parameters, parameter.Legible
  guarded : descriptor.guarded = descriptor
  channelClasses : ∀ channelClass ∈ descriptor.channelClasses, channelClass.Legible

namespace Manifest

/-- A name that the group of a channel class can have beside the other groups of a manifest. -/
structure IsClassName (name : String) : Prop where
  some_ : name ≠ ""
  oneLine : '\n' ∉ name.toList
  notManager : name ≠ managerGroup
  notProtocol : ∀ rest, afterPrefix? protocolHeading.toList name.toList = some rest →
    Protocol.isValidName (String.ofList rest) = false

structure Section.Legible (protocol : Section) : Prop where
  descriptor : protocol.descriptor.Legible
  classGroups : CleanTexts protocol.classGroups
  classNames : ∀ name ∈ protocol.classGroups, IsClassName name
  paired : protocol.classGroups.length = protocol.descriptor.channelClasses.length

def Section.classes (protocol : Section) : List (String × ChannelClass) :=
  protocol.classGroups.zip protocol.descriptor.channelClasses

variable {parameter : Parameter} {descriptor : Descriptor} {protocol : Section} {file : KeyFile}
  {texts : List String} {text key name : String} {channelClass : ChannelClass}
  {setting : Option (List Char)} {entry : String × Value}

/-! ### Settings -/

def listSetting (items : List String) : Option (List Char) :=
  if items.isEmpty then none else some (KeyFile.joinList (items.map String.toList))

def stringSetting (text : String) : Option (List Char) :=
  if text = "" then none else some (KeyFile.escape text.toList)

def sizeSetting (size : UInt32) : Option (List Char) :=
  if size = 0 then none else some (Number.naturalText size.toNat)

/-- The entries of a protocol other than its parameters, in the order in which they are written. -/
def Section.settings (protocol : Section) : List (String × Option (List Char)) :=
  let descriptor := protocol.descriptor
  [("Interfaces", listSetting descriptor.interfaces),
    ("ConnectionInterfaces", listSetting descriptor.connectionInterfaces),
    (classesKey, listSetting protocol.classGroups),
    ("AuthenticationTypes", listSetting descriptor.authenticationTypes),
    ("VCardField", stringSetting descriptor.vcardField),
    ("EnglishName", stringSetting descriptor.declaredEnglishName),
    ("Icon", stringSetting descriptor.declaredIcon),
    ("SupportedAvatarMIMETypes", listSetting descriptor.avatars.mimeTypes),
    ("MinimumAvatarWidth", sizeSetting descriptor.avatars.minimumWidth),
    ("MinimumAvatarHeight", sizeSetting descriptor.avatars.minimumHeight),
    ("RecommendedAvatarWidth", sizeSetting descriptor.avatars.recommendedWidth),
    ("RecommendedAvatarHeight", sizeSetting descriptor.avatars.recommendedHeight),
    ("MaximumAvatarWidth", sizeSetting descriptor.avatars.maximumWidth),
    ("MaximumAvatarHeight", sizeSetting descriptor.avatars.maximumHeight),
    ("MaximumAvatarBytes", sizeSetting descriptor.avatars.maximumBytes)]

def settingKeys : List String :=
  ["Interfaces", "ConnectionInterfaces", classesKey, "AuthenticationTypes", "VCardField",
    "EnglishName", "Icon", "SupportedAvatarMIMETypes"] ++ sizeKeys.map Prod.fst

theorem setting_keys (protocol : Section) : protocol.settings.map Prod.fst = settingKeys := rfl

def settingEntry (setting : String × Option (List Char)) : List (List Char × List Char) :=
  (setting.2.map fun value => (setting.1.toList, value)).toList

theorem list_entry_eq (key : String) (items : List String) :
    listEntry key items = settingEntry (key, listSetting items) := by
  unfold listEntry settingEntry listSetting
  split <;> rfl

theorem string_entry_eq (key text : String) :
    stringEntry key text = settingEntry (key, stringSetting text) := by
  unfold stringEntry settingEntry stringSetting
  split <;> rfl

theorem size_entries_eq (limits : AvatarLimits) : sizeEntries limits
    = ((sizeKeys.map Prod.fst).zip (limits.sizes.map sizeSetting)).flatMap settingEntry := by
  unfold sizeEntries
  rw [List.zip_map, List.flatMap_map, List.filterMap_eq_flatMap_toList]
  congr 1
  funext pair
  unfold settingEntry sizeSetting
  dsimp only [Prod.map]
  split <;> rfl

theorem protocol_entries (protocol : Section) : (protocolGroup protocol).entries
    = protocol.settings.flatMap settingEntry
      ++ protocol.descriptor.parameters.flatMap parameterEntries := by
  simp only [protocolGroup, list_entry_eq, string_entry_eq, size_entries_eq]
  simp [Section.settings, sizeKeys, AvatarLimits.sizes]

theorem setting_keys_plain : ∀ key ∈ settingKeys, key ≠ "" ∧
    (∀ character ∈ key.toList, character.isAlpha = true) ∧
    afterPrefix? parameterHeading.toList key.toList = none ∧
    afterPrefix? defaultHeading.toList key.toList = none := by
  decide +kernel

theorem setting_keys_distinct : settingKeys.Nodup := by decide +kernel

theorem mem_setting_keys (member : (key, setting) ∈ protocol.settings) : key ∈ settingKeys :=
  setting_keys protocol ▸ List.mem_map.2 ⟨_, member, rfl⟩

theorem mem_setting_entry {entry : List Char × List Char}
    (member : entry ∈ settingEntry (key, setting)) :
    entry.1 = key.toList ∧ setting = some entry.2 := by
  cases setting with
  | none => cases member
  | some value =>
      rw [List.mem_singleton.1 (show entry ∈ [(key.toList, value)] from member)]
      exact ⟨rfl, rfl⟩

theorem headings_apart (name other : String) :
    (parameterHeading ++ name).toList ≠ (defaultHeading ++ other).toList := by
  rw [String.toList_append, String.toList_append]
  intro same
  exact absurd (congrArg List.head? same) (by simp +decide [parameterHeading, defaultHeading])

theorem mem_protocol_entries {entry : List Char × List Char}
    (member : entry ∈ (protocolGroup protocol).entries) :
    (∃ key setting, (key, setting) ∈ protocol.settings ∧ entry.1 = key.toList ∧
        setting = some entry.2) ∨
      (∃ parameter ∈ protocol.descriptor.parameters,
        entry = ((parameterHeading ++ parameter.name).toList, parameter.line)) ∨
      ∃ parameter ∈ protocol.descriptor.parameters, ∃ value, parameter.default = some value ∧
        entry = ((defaultHeading ++ parameter.name).toList, value.text) := by
  rw [protocol_entries, List.mem_append, List.mem_flatMap, List.mem_flatMap] at member
  rcases member with ⟨⟨key, setting⟩, among, inside⟩ | ⟨parameter, among, inside⟩
  · left
    exact ⟨key, setting, among, mem_setting_entry inside⟩
  · right
    rcases List.mem_cons.1 inside with rfl | later
    · exact .inl ⟨parameter, among, rfl⟩
    · right
      split at later
      · rename_i value chosen
        exact ⟨parameter, among, value, chosen, List.mem_singleton.1 later⟩
      · cases later

theorem get_setting (member : (key, setting) ∈ protocol.settings) :
    (protocolGroup protocol).get? key = setting := by
  obtain ⟨_, _, noParameter, noDefault⟩ := setting_keys_plain key (mem_setting_keys member)
  apply KeyFile.last_value_eq
  · rintro value rfl
    rw [protocol_entries, List.mem_append]
    exact .inl (List.mem_flatMap.2 ⟨_, member, List.mem_singleton.2 rfl⟩)
  · intro entry inside same
    rcases mem_protocol_entries inside with
      ⟨other, found, among, named, rfl⟩ | ⟨parameter, _, rfl⟩ | ⟨parameter, _, value, _, rfl⟩
    · have equal : other = key := String.toList_injective (named.symm.trans same)
      subst equal
      have distinct : (protocol.settings.map Prod.fst).Nodup := setting_keys_distinct
      exact congrArg Prod.snd (List.inj_on_of_nodup_map distinct member among rfl)
    · dsimp only at same
      rw [← same, String.toList_append, after_prefix_append] at noParameter
      cases noParameter
    · dsimp only at same
      rw [← same, String.toList_append, after_prefix_append] at noDefault
      cases noDefault

theorem parameter_unique (distinct : (protocol.descriptor.parameters.map Parameter.name).Nodup)
    {heading : String} {other : Parameter} (member : parameter ∈ protocol.descriptor.parameters)
    (among : other ∈ protocol.descriptor.parameters)
    (same : (heading ++ other.name).toList = (heading ++ parameter.name).toList) :
    other = parameter := by
  rw [String.toList_append, String.toList_append] at same
  have names := String.toList_injective (List.append_cancel_left same)
  exact List.inj_on_of_nodup_map distinct among member names

theorem get_parameter (distinct : (protocol.descriptor.parameters.map Parameter.name).Nodup)
    (member : parameter ∈ protocol.descriptor.parameters) :
    (protocolGroup protocol).get? (parameterHeading ++ parameter.name) = some parameter.line := by
  apply KeyFile.last_value_eq
  · rintro value ⟨⟩
    rw [protocol_entries, List.mem_append]
    exact .inr (List.mem_flatMap.2 ⟨_, member, List.mem_cons_self⟩)
  · intro entry inside same
    rcases mem_protocol_entries inside with
      ⟨key, setting, among, named, _⟩ | ⟨other, among, rfl⟩ | ⟨other, _, value, _, rfl⟩
    · have plain := (setting_keys_plain key (mem_setting_keys among)).2.2.1
      rw [← named, same, String.toList_append, after_prefix_append] at plain
      cases plain
    · rw [parameter_unique distinct member among same]
    · exact absurd same.symm (headings_apart _ _)

theorem get_default (distinct : (protocol.descriptor.parameters.map Parameter.name).Nodup)
    (member : parameter ∈ protocol.descriptor.parameters) :
    (protocolGroup protocol).get? (defaultHeading ++ parameter.name)
      = parameter.default.map Value.text := by
  apply KeyFile.last_value_eq
  · intro text written
    obtain ⟨value, chosen, rfl⟩ := Option.map_eq_some_iff.1 written
    rw [protocol_entries, List.mem_append]
    exact .inr (List.mem_flatMap.2 ⟨_, member, by simp [parameterEntries, chosen]⟩)
  · intro entry inside same
    rcases mem_protocol_entries inside with
      ⟨key, setting, among, named, _⟩ | ⟨other, _, rfl⟩ | ⟨other, among, value, chosen, rfl⟩
    · have plain := (setting_keys_plain key (mem_setting_keys among)).2.2.2
      rw [← named, same, String.toList_append, after_prefix_append] at plain
      cases plain
    · exact absurd same (headings_apart _ _)
    · rw [← parameter_unique distinct member among same, chosen]
      rfl

/-! ### Reading a protocol back -/

theorem read_list_eq {group : KeyFile.Group} (clean : CleanTexts texts)
    (found : group.get? key = listSetting texts) : readList group key = texts := by
  rw [readList, found, listSetting]
  split
  · rename_i nothing
    rw [List.isEmpty_iff.1 nothing]
    rfl
  · rw [Option.bind_some, Value.readStrings?, KeyFile.split_join_list clean]
    simp [Function.comp_def]

theorem read_string_setting (member : (key, stringSetting text) ∈ protocol.settings) :
    readString (protocolGroup protocol) key = text := by
  rw [readString, get_setting member, stringSetting]
  split
  · rename_i nothing
    rw [nothing]
    rfl
  · rw [Option.bind_some, Value.readString?, KeyFile.escape, KeyFile.unescape_escape]
    simp

theorem read_size_setting {size : UInt32} (member : (key, sizeSetting size) ∈ protocol.settings) :
    readSize (protocolGroup protocol) key = size := by
  rw [readSize, get_setting member, sizeSetting]
  by_cases zero : size = 0
  · rw [if_pos zero, zero]
    rfl
  · have fits : Number.WordType.uint64.contains (size.toNat : Int) = true := by
      have bound := size.toNat_lt
      simp [Number.WordType.contains, Number.WordType.lowest, Number.WordType.highest]
      omega
    have read : Number.Word.read? .uint64 (Number.naturalText size.toNat)
        = some ⟨.uint64, size.toNat, fits⟩ := Number.Word.read_text ⟨.uint64, size.toNat, fits⟩
    rw [if_neg zero, Option.bind_some, read]
    have bound : size.toNat ≤ 0xFFFFFFFF := Nat.le_of_lt_succ size.toNat_lt
    simp [Nat.min_eq_left bound]

theorem distinct_eq {names : List (List Char)} (nodup : names.Nodup) : distinct names = names := by
  induction names with
  | nil => rfl
  | cons name rest induction =>
      rw [List.nodup_cons] at nodup
      rw [distinct, induction nodup.2, List.filter_eq_self.2]
      intro other member
      simpa using ne_of_mem_of_not_mem member nodup.1

theorem parameter_entries_names (parameters : List Parameter) :
    (parameters.flatMap parameterEntries).filterMap
        (fun entry => afterPrefix? parameterHeading.toList entry.1)
      = parameters.map fun parameter => parameter.name.toList := by
  have other : ∀ name : String,
      afterPrefix? parameterHeading.toList (defaultHeading.toList ++ name.toList) = none := by
    intro name
    rfl
  induction parameters with
  | nil => rfl
  | cons parameter rest induction =>
      rw [List.flatMap_cons, List.filterMap_append, induction, parameterEntries,
        List.filterMap_cons, String.toList_append, after_prefix_append]
      cases parameter.default with
      | none => rfl
      | some value => simp [other]

theorem parameter_names (distinct : (protocol.descriptor.parameters.map Parameter.name).Nodup) :
    parameterNames (protocolGroup protocol)
      = protocol.descriptor.parameters.map fun parameter => parameter.name.toList := by
  have settings : (protocol.settings.flatMap settingEntry).filterMap
      (fun entry => afterPrefix? parameterHeading.toList entry.1) = [] := by
    apply List.filterMap_eq_nil_iff.2
    intro entry member
    obtain ⟨setting, among, inside⟩ := List.mem_flatMap.1 member
    rw [(mem_setting_entry inside).1]
    exact (setting_keys_plain _ (mem_setting_keys among)).2.2.1
  rw [parameterNames, protocol_entries, List.filterMap_append, settings, parameter_entries_names,
    List.nil_append]
  apply distinct_eq
  change (protocol.descriptor.parameters.map (String.toList ∘ Parameter.name)).Nodup
  rw [← List.map_map]
  exact distinct.map fun _ _ => String.toList_injective

theorem read_parameter (legible : parameter.Legible)
    (distinct : (protocol.descriptor.parameters.map Parameter.name).Nodup)
    (member : parameter ∈ protocol.descriptor.parameters) :
    readParameter? (protocolGroup protocol) parameter.name = some parameter := by
  have plain := Parameter.of_line_line legible.someSignature legible.oneWord
  have default : readDefault? (protocolGroup protocol) parameter.name parameter.signature
      = parameter.default := by
    rw [readDefault?, get_default distinct member]
    cases chosen : parameter.default with
    | none => rfl
    | some value => exact (legible.default value chosen).read_text
  have announced := legible.announced
  rw [readParameter?, get_parameter distinct member]
  change (Parameter.ofLine? parameter.name parameter.line).bind _ = _
  rw [plain, Option.bind_some, show parameter.bare.signature = parameter.signature from rfl, default]
  obtain ⟨name, ⟨required, register, secret, hasDefault, busProperty⟩, signature, chosen⟩ :=
    parameter
  cases chosen with
  | none => simp_all [Parameter.Announced, Parameter.bare]
  | some value => simp_all [Parameter.Announced, Parameter.bare, Parameter.withDefault]

theorem read_parameters (legible : protocol.descriptor.Legible) :
    readParameters (protocolGroup protocol) = protocol.descriptor.parameters := by
  rw [readParameters, parameter_names legible.distinct, List.filterMap_map]
  refine (List.filterMap_congr fun parameter member => ?_).trans List.filterMap_some
  rw [Function.comp_apply, String.ofList_toList]
  exact read_parameter (legible.parameters parameter member) legible.distinct member

/-! ### Channel classes -/

def fixedEntry (entry : String × Value) : List Char × List Char :=
  ((entry.1 ++ " " ++ entry.2.signature).toList, entry.2.text)

theorem fixed_key_eq (entry : String × Value) :
    (fixedEntry entry).1 = entry.1.toList ++ ' ' :: entry.2.signature.toList := by
  simp [fixedEntry]

theorem class_entries (name : String) (channelClass : ChannelClass) :
    (classGroup name channelClass).entries = channelClass.fixed.entries.map fixedEntry
      ++ settingEntry (allowedKey, listSetting channelClass.allowed) := by
  rw [classGroup, list_entry_eq]
  rfl

theorem read_fixed (legible : LegibleFixed entry) : readFixed? (fixedEntry entry) = some entry := by
  rw [readFixed?, fixed_key_eq, split_once_append legible.oneWord]
  change (Value.read? (String.ofList entry.2.signature.toList) entry.2.text).bind _ = _
  rw [String.ofList_toList, legible.comesBack.read_text, String.ofList_toList]
  rfl

theorem read_class (name : String) (legible : channelClass.Legible) :
    readClass (classGroup name channelClass) = channelClass := by
  have fixed : (channelClass.fixed.entries.map fixedEntry).filterMap readFixed?
      = channelClass.fixed.entries := by
    rw [List.filterMap_map]
    refine (List.filterMap_congr fun entry member => ?_).trans List.filterMap_some
    exact read_fixed (legible.fixed entry member)
  have rest : (settingEntry (allowedKey, listSetting channelClass.allowed)).filterMap readFixed?
      = [] := by
    apply List.filterMap_eq_nil_iff.2
    rintro ⟨key, value⟩ member
    obtain ⟨rfl, _⟩ := mem_setting_entry member
    rfl
  have allowed : (classGroup name channelClass).get? allowedKey
      = listSetting channelClass.allowed := by
    apply KeyFile.last_value_eq
    · intro value chosen
      rw [class_entries, List.mem_append, chosen]
      exact .inr (List.mem_singleton.2 rfl)
    · intro entry inside same
      rw [class_entries, List.mem_append] at inside
      rcases inside with property | setting
      · obtain ⟨pair, _, rfl⟩ := List.mem_map.1 property
        have space : ' ' ∈ allowedKey.toList := by
          rw [← same, fixed_key_eq]
          simp
        exact absurd space (by decide)
      · exact (mem_setting_entry setting).2
  rw [readClass, read_list_eq legible.allowed allowed, class_entries, List.filterMap_append, fixed,
    rest, List.append_nil, Dictionary.of_pairs_ascending legible.ascending]

/-! ### A protocol with its channel classes -/

theorem classes_found (paired : protocol.classGroups.length
      = protocol.descriptor.channelClasses.length)
    (found : ∀ pair ∈ protocol.classes, classOfGroup file pair.1 = pair.2) :
    protocol.classGroups.map (classOfGroup file) = protocol.descriptor.channelClasses := by
  calc protocol.classGroups.map (classOfGroup file)
    _ = (protocol.classes.map Prod.fst).map (classOfGroup file) := by
      rw [Section.classes, List.map_fst_zip (le_of_eq paired)]
    _ = protocol.classes.map Prod.snd := by
      rw [List.map_map]
      exact List.map_congr_left found
    _ = protocol.descriptor.channelClasses := by
      rw [Section.classes, List.map_snd_zip (le_of_eq paired.symm)]

theorem read_avatars (clean : CleanTexts protocol.descriptor.avatars.mimeTypes) :
    readAvatars (protocolGroup protocol) = protocol.descriptor.avatars := by
  obtain ⟨⟨name, validName, englishName, icon, vcardField, interfaces, connectionInterfaces,
    parameters, channelClasses, limits, authenticationTypes⟩, classGroups⟩ := protocol
  dsimp only at clean ⊢
  rw [readAvatars, read_list_eq clean (get_setting (by simp [Section.settings]))]
  rw [@read_size_setting _ _ limits.minimumWidth (by simp [Section.settings]),
    @read_size_setting _ _ limits.minimumHeight (by simp [Section.settings]),
    @read_size_setting _ _ limits.recommendedWidth (by simp [Section.settings]),
    @read_size_setting _ _ limits.recommendedHeight (by simp [Section.settings]),
    @read_size_setting _ _ limits.maximumWidth (by simp [Section.settings]),
    @read_size_setting _ _ limits.maximumHeight (by simp [Section.settings]),
    @read_size_setting _ _ limits.maximumBytes (by simp [Section.settings])]

/-- The group of a protocol describes it, in a file that has its channel classes. -/
theorem described_protocol_group (legible : protocol.Legible)
    (found : ∀ pair ∈ protocol.classes, classOfGroup file pair.1 = pair.2) :
    described file (protocolGroup protocol) protocol.descriptor.name protocol.descriptor.validName
      = protocol.descriptor := by
  have lists : ∀ key texts, CleanTexts texts → (key, listSetting texts) ∈ protocol.settings →
      readList (protocolGroup protocol) key = texts :=
    fun key texts clean member => read_list_eq clean (get_setting member)
  have interfaces := lists "Interfaces" _ legible.descriptor.interfaces (by simp [Section.settings])
  have connectionInterfaces := lists "ConnectionInterfaces" _
    legible.descriptor.connectionInterfaces (by simp [Section.settings])
  have authenticationTypes := lists "AuthenticationTypes" _
    legible.descriptor.authenticationTypes (by simp [Section.settings])
  have classGroups := lists classesKey _ legible.classGroups (by simp [Section.settings])
  have strings : ∀ key text, (key, stringSetting text) ∈ protocol.settings →
      readString (protocolGroup protocol) key = text :=
    fun key text member => read_string_setting member
  have englishName := strings "EnglishName" protocol.descriptor.declaredEnglishName
    (by simp [Section.settings])
  have icon := strings "Icon" protocol.descriptor.declaredIcon (by simp [Section.settings])
  have vcardField := strings "VCardField" protocol.descriptor.vcardField
    (by simp [Section.settings])
  rw [described, englishName, icon, vcardField, interfaces, connectionInterfaces,
    authenticationTypes, classGroups, classes_found legible.paired found,
    read_parameters legible.descriptor, read_avatars legible.descriptor.mimeTypes]

theorem read_protocol_group (legible : protocol.Legible)
    (found : ∀ pair ∈ protocol.classes, classOfGroup file pair.1 = pair.2) :
    readProtocol? file (protocolGroup protocol) = some (.ok protocol) := by
  have heading : afterPrefix? protocolHeading.toList (protocolGroup protocol).name
      = some protocol.descriptor.name.toList := by
    rw [protocolGroup, String.toList_append]
    exact after_prefix_append _ _
  have valid : Protocol.isValidName (String.ofList protocol.descriptor.name.toList) = true := by
    rw [String.ofList_toList]
    exact protocol.descriptor.validName
  have classGroups : readList (protocolGroup protocol) classesKey = protocol.classGroups :=
    read_list_eq legible.classGroups (get_setting (by simp [Section.settings]))
  have description := described_protocol_group legible found
  rw [read_protocol heading valid, classGroups]
  simp only [String.ofList_toList, description, legible.descriptor.guarded]

/-! ### What the groups look like -/

/-- A text that can stand as a value. -/
structure PlainValue (value : List Char) : Prop where
  trimmed : Trimmed value
  oneLine : '\n' ∉ value

theorem list_setting_plain (clean : CleanTexts texts) :
    ∀ value, listSetting texts = some value → PlainValue value := by
  intro value written
  unfold listSetting at written
  split at written
  · cases written
  · cases written
    exact ⟨KeyFile.join_list_trimmed clean.each, KeyFile.join_list_one_line _⟩

theorem string_setting_plain (clean : Clean text.toList) :
    ∀ value, stringSetting text = some value → PlainValue value := by
  intro value written
  unfold stringSetting at written
  split at written
  · cases written
  · cases written
    exact ⟨KeyFile.escape_trimmed clean, KeyFile.escape_one_line false true _⟩

theorem size_setting_plain (size : UInt32) :
    ∀ value, sizeSetting size = some value → PlainValue value := by
  intro value written
  unfold sizeSetting at written
  split at written
  · cases written
  · cases written
    have visible : ∀ digit ∈ Number.naturalText size.toNat, isBlank digit = false :=
      fun digit member => Number.digit_visible (Number.natural_text_digits _ digit member)
    exact ⟨trimmed_of_visible visible, one_line_of_visible visible⟩

theorem settings_plain (legible : protocol.Legible) : ∀ setting ∈ protocol.settings,
    ∀ value, setting.2 = some value → PlainValue value := by
  have descriptor := legible.descriptor
  simp only [Section.settings, List.forall_mem_cons]
  exact ⟨list_setting_plain descriptor.interfaces,
    list_setting_plain descriptor.connectionInterfaces,
    list_setting_plain legible.classGroups,
    list_setting_plain descriptor.authenticationTypes,
    string_setting_plain descriptor.vcardField,
    string_setting_plain descriptor.englishName,
    string_setting_plain descriptor.icon,
    list_setting_plain descriptor.mimeTypes,
    size_setting_plain _, size_setting_plain _, size_setting_plain _, size_setting_plain _,
    size_setting_plain _, size_setting_plain _, size_setting_plain _, by simp⟩

theorem word_entry_legible {key value : List Char} (some_ : key ≠ [])
    (letters : ∀ character ∈ key, character.isAlpha = true) (plain : PlainValue value) :
    LegibleEntry (key, value) := by
  have visible : ∀ character ∈ key, isBlank character = false :=
    fun character member => alphanum_visible (by simp [Char.isAlphanum, letters _ member])
  constructor
  · exact trimmed_of_visible visible
  · exact plain.trimmed
  · exact one_line_of_visible visible
  · exact plain.oneLine
  · exact fun inside => absurd (letters _ inside) (by decide)
  · exact some_
  · exact fun first => absurd (letters _ (List.mem_of_head? first)) (by decide)
  · exact fun first => absurd (letters _ (List.mem_of_head? first)) (by decide)

theorem headed_entry_legible {heading name value : List Char} (some_ : heading ≠ [])
    (shows : ∀ character ∈ heading, isBlank character = false ∧ character ≠ '=' ∧
      character ≠ '#' ∧ character ≠ '[')
    (ends : ∀ character, name.getLast? = some character → isBlank character = false)
    (oneLine : '\n' ∉ name) (noEquals : '=' ∉ name) (plain : PlainValue value) :
    LegibleEntry (heading ++ name, value) := by
  have visible : ∀ character ∈ heading, isBlank character = false :=
    fun character member => (shows character member).1
  have first : (heading ++ name).head? = heading.head? := List.head?_append_of_ne_nil _ some_
  constructor
  · constructor
    · intro character found
      exact visible character (List.mem_of_head? (first ▸ found))
    · intro character found
      cases name with
      | nil => exact visible character (List.mem_of_getLast? (by simpa using found))
      | cons next others =>
          rw [List.getLast?_append_of_ne_nil _ (by simp)] at found
          exact ends character found
  · exact plain.trimmed
  · simp [one_line_of_visible visible, oneLine]
  · exact plain.oneLine
  · rw [List.mem_append, not_or]
    exact ⟨fun inside => (shows _ inside).2.1 rfl, noEquals⟩
  · simp [some_]
  · exact fun found => (shows _ (List.mem_of_head? (first ▸ found))).2.2.1 rfl
  · exact fun found => (shows _ (List.mem_of_head? (first ▸ found))).2.2.2 rfl

theorem line_plain (legible : parameter.Legible) : PlainValue parameter.line := by
  refine ⟨legible.lineTrimmed, ?_⟩
  rw [Parameter.line_eq, List.mem_append, not_or]
  refine ⟨legible.signatureOneLine, fun inside => ?_⟩
  obtain ⟨word, among, there⟩ := List.mem_flatMap.1 inside
  have visible := (Parameter.flag_words_letters _ word among).2
  rcases List.mem_cons.1 there with space | later
  · exact absurd space (by decide)
  · exact one_line_of_visible visible later

theorem valid_name_visible (valid : Protocol.isValidName name = true) :
    ∀ character ∈ name.toList, isBlank character = false := by
  have plain : ∀ character : Char, (character.isAlphanum || character == '-') = true →
      isBlank character = false := by
    intro character allowed
    rcases (by simpa using allowed) with word | rfl
    · exact alphanum_visible word
    · decide
  unfold Protocol.isValidName at valid
  split at valid
  · rename_i first rest same
    rw [Bool.and_eq_true, List.all_eq_true] at valid
    intro character member
    rw [same] at member
    rcases List.mem_cons.1 member with rfl | later
    · exact plain _ (by simp [Char.isAlphanum, valid.1])
    · exact plain _ (valid.2 character later)
  · cases valid

theorem protocol_group_legible (legible : protocol.Legible) :
    LegibleGroup (protocolGroup protocol) := by
  constructor
  · rw [protocolGroup, String.toList_append]
    simp [protocolHeading]
  · rw [protocolGroup, String.toList_append, List.mem_append, not_or]
    exact ⟨by decide, one_line_of_visible (valid_name_visible protocol.descriptor.validName)⟩
  · rintro ⟨key, value⟩ member
    rcases mem_protocol_entries member with
      ⟨word, setting, among, rfl, written⟩ | ⟨parameter, among, same⟩ |
      ⟨parameter, among, content, chosen, same⟩
    · obtain ⟨some_, letters, _⟩ := setting_keys_plain word (mem_setting_keys among)
      exact word_entry_legible (by simpa using some_) letters
        (settings_plain legible _ among value written)
    · have plain := legible.descriptor.parameters parameter among
      rw [same, String.toList_append]
      exact headed_entry_legible (by decide) (by decide) plain.nameEnds plain.nameOneLine
        plain.noEquals (line_plain plain)
    · have plain := legible.descriptor.parameters parameter among
      rw [same, String.toList_append]
      exact headed_entry_legible (by decide) (by decide) plain.nameEnds plain.nameOneLine
        plain.noEquals ⟨(plain.default content chosen).trimmed, content.text_one_line⟩

theorem fixed_entry_legible (legible : LegibleFixed entry) : LegibleEntry (fixedEntry entry) := by
  obtain ⟨signatureSome, letters⟩ := (Value.was_read legible.comesBack).signature_word
  have visible : ∀ character ∈ entry.2.signature.toList, isBlank character = false :=
    fun character member => alphanum_visible (by simp [Char.isAlphanum, letters _ member])
  have some_ : entry.1.toList ≠ [] := by simpa using legible.some_
  have first : (fixedEntry entry).1.head? = entry.1.toList.head? := by
    rw [fixed_key_eq, List.head?_append_of_ne_nil _ some_]
  constructor
  · constructor
    · rw [first]
      exact legible.starts
    · intro character last
      rw [fixed_key_eq, List.getLast?_append_of_ne_nil _ (by simp),
        List.getLast?_cons_of_ne_nil signatureSome] at last
      exact visible character (List.mem_of_getLast? last)
  · exact legible.comesBack.trimmed
  · rw [fixed_key_eq]
    simp [legible.oneLine, one_line_of_visible visible]
  · exact entry.2.text_one_line
  · have apart : '=' ∉ entry.2.signature.toList := fun inside =>
      absurd (letters _ inside) (by decide)
    rw [fixed_key_eq]
    simp [legible.noEquals, apart]
  · rw [fixed_key_eq]
    simp
  · rw [first]
    exact legible.noComment
  · rw [first]
    exact legible.noHeader

theorem class_group_legible (suitable : IsClassName name) (legible : channelClass.Legible) :
    LegibleGroup (classGroup name channelClass) := by
  constructor
  · simpa [classGroup] using suitable.some_
  · exact suitable.oneLine
  · rintro ⟨key, value⟩ member
    rw [class_entries, List.mem_append] at member
    rcases member with property | setting
    · obtain ⟨entry, among, same⟩ := List.mem_map.1 property
      exact same ▸ fixed_entry_legible (legible.fixed entry among)
    · obtain ⟨rfl, written⟩ := mem_setting_entry setting
      exact word_entry_legible (by decide) (by decide)
        (list_setting_plain legible.allowed value written)

end Manifest

end ConnectionManager
