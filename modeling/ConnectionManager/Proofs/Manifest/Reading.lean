import ConnectionManager.Proofs.Failure
import ConnectionManager.Proofs.Manifest.Building

/-!
A manifest that was read comes back from its own text, with three exceptions, which are conditions
here: a list whose last item is empty loses that item, a signature that ends in white space loses
it unless words for flags follow, and the names of class groups must be such as no other group of
the file can have.
-/

namespace ConnectionManager

open Text
open KeyFile (Clean LegibleEntry LegibleGroup)

namespace Manifest

variable {text : List Char} {manifest : Manifest} {file : KeyFile} {group : KeyFile.Group}
  {protocol : Section} {parameter : Parameter} {key name : String} {texts : List String}
  {entry : String × Value}

/-- A protocol without the shapes that are lost in writing. -/
structure Section.Presentable (protocol : Section) : Prop where
  interfaces : protocol.descriptor.interfaces.getLast? ≠ some ""
  connectionInterfaces : protocol.descriptor.connectionInterfaces.getLast? ≠ some ""
  authenticationTypes : protocol.descriptor.authenticationTypes.getLast? ≠ some ""
  mimeTypes : protocol.descriptor.avatars.mimeTypes.getLast? ≠ some ""
  classNames : ∀ name ∈ protocol.classGroups, IsClassName name
  lines : ∀ parameter ∈ protocol.descriptor.parameters, Trimmed parameter.line
  defaults : ∀ parameter ∈ protocol.descriptor.parameters, ∀ value,
    parameter.default = some value → value.EndsVisibly
  allowed : ∀ channelClass ∈ protocol.descriptor.channelClasses,
    channelClass.allowed.getLast? ≠ some ""
  fixed : ∀ channelClass ∈ protocol.descriptor.channelClasses,
    ∀ entry ∈ channelClass.fixed.entries, entry.2.EndsVisibly

theorem Section.Legible.presentable (legible : protocol.Legible) : protocol.Presentable := by
  have ends : ∀ texts : List String, CleanTexts texts → texts.getLast? ≠ some "" := by
    intro texts clean empty
    apply clean.ends
    rw [List.getLast?_map, empty]
    rfl
  have descriptor := legible.descriptor
  constructor
  · exact ends _ descriptor.interfaces
  · exact ends _ descriptor.connectionInterfaces
  · exact ends _ descriptor.authenticationTypes
  · exact ends _ descriptor.mimeTypes
  · exact legible.classNames
  · exact fun parameter member => (descriptor.parameters parameter member).lineTrimmed
  · exact fun parameter member value chosen =>
      ((descriptor.parameters parameter member).default value chosen).ends_visibly
  · exact fun channelClass member => ends _ (descriptor.channelClasses channelClass member).allowed
  · exact fun channelClass member entry inside =>
      ((descriptor.channelClasses channelClass member).fixed entry inside).comesBack.ends_visibly

/-! ### What is read from a legible group -/

theorem value_legible {value : List Char} (legible : LegibleGroup group)
    (found : group.get? key = some value) : LegibleEntry (key.toList, value) :=
  legible.entries _ (KeyFile.mem_of_last_value found)

theorem read_list_clean (group : KeyFile.Group) (key : String) :
    ∀ text ∈ readList group key, Clean text.toList := by
  intro text member
  unfold readList at member
  cases read : (group.get? key).bind Value.readStrings? with
  | none =>
      rw [read] at member
      cases member
  | some texts =>
      rw [read] at member
      obtain ⟨raw, _, decoded⟩ := Option.bind_eq_some_iff.1 read
      obtain ⟨items, cut, rfl⟩ := Option.map_eq_some_iff.1 decoded
      obtain ⟨item, among, rfl⟩ := List.mem_map.1 (show text ∈ items.map String.ofList from member)
      rw [String.toList_ofList]
      exact KeyFile.split_list_clean cut item among

theorem read_string_clean (legible : LegibleGroup group) (key : String) :
    Clean (readString group key).toList := by
  unfold readString
  cases read : (group.get? key).bind Value.readString? with
  | none => exact KeyFile.clean_nil
  | some text =>
      obtain ⟨raw, found, decoded⟩ := Option.bind_eq_some_iff.1 read
      obtain ⟨content, unescaped, rfl⟩ := Option.map_eq_some_iff.1 decoded
      rw [Option.getD_some, String.toList_ofList]
      exact KeyFile.unescape_clean (value_legible legible found).trimmedValue unescaped

/-! ### Parameters -/

theorem mem_distinct {names : List (List Char)} {name : List Char} :
    name ∈ distinct names ↔ name ∈ names := by
  induction names with
  | nil => rfl
  | cons first rest induction =>
      by_cases same : name = first <;> simp [distinct, induction, same]

theorem distinct_nodup (names : List (List Char)) : (distinct names).Nodup := by
  induction names with
  | nil => exact List.nodup_nil
  | cons name rest induction =>
      rw [distinct, List.nodup_cons]
      exact ⟨by simp, induction.filter _⟩

theorem read_parameter_name (read : readParameter? group name = some parameter) :
    parameter.name = name := by
  obtain ⟨_, _, _, _, _, plain, rfl, rfl | ⟨value, _, rfl⟩⟩ := read_parameter_cases read
  · rfl
  · rfl

theorem read_parameters_distinct (group : KeyFile.Group) :
    ((readParameters group).map Parameter.name).Nodup := by
  have names : ∀ names : List (List Char), ((names.filterMap fun name =>
      readParameter? group (String.ofList name)).map fun parameter => parameter.name.toList).Sublist
        names := by
    intro names
    induction names with
    | nil => exact List.Sublist.slnil
    | cons name rest induction =>
        cases read : readParameter? group (String.ofList name) with
        | none => simpa [read] using induction.cons name
        | some parameter => simpa [read, read_parameter_name read] using induction
  have distinct := (names (parameterNames group)).nodup (distinct_nodup _)
  rw [← Function.comp_def, ← List.map_map] at distinct
  exact distinct.of_map

theorem parameter_name_fits (legible : LegibleGroup group) {name : List Char}
    (member : name ∈ parameterNames group) :
    (∀ character, name.getLast? = some character → isBlank character = false) ∧
      '\n' ∉ name ∧ '=' ∉ name := by
  obtain ⟨entry, among, found⟩ := List.mem_filterMap.1 (mem_distinct.1 member)
  have key := after_prefix_eq found
  obtain ⟨trimmedKey, _, keyOneLine, _, noEquals, _⟩ := legible.entries entry among
  rw [key] at trimmedKey keyOneLine noEquals
  refine ⟨fun character last => trimmedKey.last character ?_, ?_, ?_⟩
  · rw [List.getLast?_append, last]
    rfl
  · exact fun inside => keyOneLine (List.mem_append_right _ inside)
  · exact fun inside => noEquals (List.mem_append_right _ inside)

theorem word_of_line {line word : List Char} (member : word ∈ Parameter.words line) :
    word ≠ [] ∧ ' ' ∉ word ∧ ∀ character ∈ word, character ∈ line := by
  obtain ⟨among, some_⟩ := List.mem_filter.1 member
  refine ⟨?_, fun inside => ?_, fun character inside => (of_mem_piece among inside).1⟩
  · rintro rfl
    cases some_
  · exact absurd (of_mem_piece among inside).2 (by decide)

theorem read_parameter_default {value : Value} (read : readParameter? group name = some parameter)
    (chosen : parameter.default = some value) :
    ∃ raw, group.get? (defaultHeading ++ name) = some raw ∧
      Value.read? parameter.signature raw = some value := by
  obtain ⟨_, _, _, _, _, plain, rfl, rfl | ⟨content, found, rfl⟩⟩ := read_parameter_cases read
  · cases chosen
  · cases chosen
    exact Option.bind_eq_some_iff.1 found

theorem read_parameter_signature (read : readParameter? group name = some parameter) :
    ∃ raw, group.get? (parameterHeading ++ name) = some raw ∧ parameter.signature ≠ "" ∧
      ' ' ∉ parameter.signature.toList ∧
        ∀ character ∈ parameter.signature.toList, character ∈ raw := by
  obtain ⟨line, signature, flags, found, words, plain, same, made⟩ := read_parameter_cases read
  have written : parameter.signature = String.ofList signature := by
    rcases made with rfl | ⟨value, _, rfl⟩
    · exact congrArg Parameter.signature same
    · exact congrArg Parameter.signature same
  obtain ⟨some_, oneWord, within⟩ := word_of_line (words ▸ List.mem_cons_self)
  rw [written, String.toList_ofList]
  exact ⟨line, found, by simpa using some_, oneWord, within⟩

theorem read_parameter_legible (legible : LegibleGroup group) {name : List Char}
    (member : name ∈ parameterNames group)
    (read : readParameter? group (String.ofList name) = some parameter)
    (line : Trimmed parameter.guardPassword.line)
    (ends : ∀ value, parameter.guardPassword.default = some value → value.EndsVisibly) :
    parameter.guardPassword.Legible := by
  have named : parameter.name.toList = name := by simp [read_parameter_name read]
  obtain ⟨nameEnds, nameOneLine, noEquals⟩ := parameter_name_fits legible member
  obtain ⟨raw, found, some_, oneWord, within⟩ := read_parameter_signature read
  have whole := (value_legible legible found).valueOneLine
  have announced := read_parameter_announced read
  obtain ⟨secret, same⟩ := parameter.guard_password_eq
  rw [same] at line ends ⊢
  constructor
  · exact named ▸ nameEnds
  · exact named ▸ nameOneLine
  · exact named ▸ noEquals
  · exact some_
  · exact oneWord
  · exact fun inside => whole (within _ inside)
  · exact line
  · exact announced
  · intro value chosen
    obtain ⟨content, stood, decoded⟩ := read_parameter_default read chosen
    exact (Value.was_read decoded).comes_back (value_legible legible stood).trimmedValue
      (ends value chosen)

/-! ### Channel classes -/

theorem read_fixed_legible {pair : List Char × List Char} (legible : LegibleEntry pair)
    (read : readFixed? pair = some entry) (ends : entry.2.EndsVisibly) : LegibleFixed entry := by
  obtain ⟨⟨property, signature⟩, cut, more⟩ := Option.bind_eq_some_iff.1 read
  obtain ⟨value, decoded, same⟩ := Option.bind_eq_some_iff.1 more
  cases same
  obtain ⟨key, oneWord⟩ := split_once_eq cut
  have some_ : property ≠ [] := by
    rintro rfl
    exact absurd (legible.trimmedKey.first ' ' (by simp [key])) (by decide)
  have first : pair.1.head? = property.head? := by
    rw [key, List.head?_append_of_ne_nil _ some_]
  have part : ∀ character ∈ property, character ∈ pair.1 := fun character inside => by
    rw [key]
    exact List.mem_append_left _ inside
  constructor
  · simpa using some_
  · simpa [← first] using legible.trimmedKey.first
  · simpa [← first] using legible.noComment
  · simpa [← first] using legible.noHeader
  · simpa using fun inside => legible.keyOneLine (part _ inside)
  · simpa using oneWord
  · simpa using fun inside => legible.noEquals (part _ inside)
  · exact (Value.was_read decoded).own.comes_back legible.trimmedValue ends

theorem read_class_legible (legible : LegibleGroup group)
    (allowed : (readClass group).allowed.getLast? ≠ some "")
    (ends : ∀ entry ∈ (readClass group).fixed.entries, entry.2.EndsVisibly) :
    (readClass group).Legible := by
  constructor
  · exact Dictionary.ascending_of_pairs _
  · intro entry member
    obtain ⟨pair, among, read⟩ := List.mem_filterMap.1 (Dictionary.mem_of_pairs member)
    exact read_fixed_legible (legible.entries pair among) read (ends entry member)
  · exact clean_texts (read_list_clean group allowedKey) allowed

theorem class_of_group_legible (legible : file.Legible) (name : String)
    (allowed : (classOfGroup file name).allowed.getLast? ≠ some "")
    (ends : ∀ entry ∈ (classOfGroup file name).fixed.entries, entry.2.EndsVisibly) :
    (classOfGroup file name).Legible := by
  cases found : file.group? name.toList with
  | some group =>
      simp only [classOfGroup, found] at allowed ends ⊢
      exact read_class_legible (legible.each group (KeyFile.mem_of_group found).1) allowed ends
  | none =>
      simp only [classOfGroup, found]
      exact ⟨.nil, by simp [ChannelClass.empty, Dictionary.empty],
        clean_texts (by simp [ChannelClass.empty]) (by simp [ChannelClass.empty])⟩

/-! ### Protocols -/

theorem read_protocol_cases (read : readProtocol? file group = some (.ok protocol)) :
    ∃ beginning, group.name = protocolHeading.toList ++ beginning ∧
      ∃ valid : Protocol.isValidName (String.ofList beginning) = true,
        protocol = ⟨(described file group (String.ofList beginning) valid).guarded,
          readList group classesKey⟩ := by
  cases heading : afterPrefix? protocolHeading.toList group.name with
  | none => simp [readProtocol?, heading] at read
  | some beginning =>
      refine ⟨beginning, after_prefix_eq heading, ?_⟩
      by_cases valid : Protocol.isValidName (String.ofList beginning) = true
      · rw [read_protocol heading valid] at read
        cases read
        exact ⟨valid, rfl⟩
      · simp [readProtocol?, heading, valid] at read

/-- Presentable protocols that are read are legible. -/
theorem read_protocol_legible (legible : file.Legible) (member : group ∈ file.groups)
    (read : readProtocol? file group = some (.ok protocol)) (presentable : protocol.Presentable) :
    protocol.Legible := by
  obtain ⟨beginning, _, valid, rfl⟩ := read_protocol_cases read
  have legibleGroup := legible.each group member
  have clean := read_list_clean group
  constructor
  · constructor
    · exact clean_texts (clean _) presentable.interfaces
    · exact clean_texts (clean _) presentable.connectionInterfaces
    · exact clean_texts (clean _) presentable.authenticationTypes
    · exact clean_texts (clean _) presentable.mimeTypes
    · exact read_string_clean legibleGroup _
    · exact read_string_clean legibleGroup _
    · exact read_string_clean legibleGroup _
    · change (((readParameters group).map Parameter.guardPassword).map Parameter.name).Nodup
      rw [List.map_map, show Parameter.name ∘ Parameter.guardPassword = Parameter.name from
        funext Parameter.guard_password_name]
      exact read_parameters_distinct group
    · intro parameter among
      have line := presentable.lines parameter among
      have ends := presentable.defaults parameter among
      obtain ⟨before, inside, rfl⟩ := List.mem_map.1 among
      obtain ⟨name, known, found⟩ := List.mem_filterMap.1 inside
      exact read_parameter_legible legibleGroup known found line ends
    · exact Descriptor.guarded_guarded _
    · intro channelClass among
      have allowed := presentable.allowed channelClass among
      have ends := presentable.fixed channelClass among
      obtain ⟨name, _, rfl⟩ := List.mem_map.1 among
      exact class_of_group_legible legible name allowed ends
  · refine clean_texts (clean _) fun empty => ?_
    exact (presentable.classNames "" (List.mem_of_getLast? empty)).some_ rfl
  · exact presentable.classNames
  · exact (List.length_map _).symm

/-! ### Manifests -/

theorem collect_eq {results : List (Except ManifestError Section)} {protocols : List Section}
    (collected : collect results = .ok protocols) : results = protocols.map .ok := by
  induction results generalizing protocols with
  | nil =>
      cases collected
      rfl
  | cons result rest induction =>
      cases result with
      | error error => cases collected
      | ok protocol =>
          obtain ⟨others, later, same⟩ := Outcome.bind_eq_ok.1 collected
          cases same
          rw [induction later]
          rfl

theorem read_protocols_distinct {groups : List KeyFile.Group} {protocols : List Section}
    (distinct : (groups.map KeyFile.Group.name).Nodup)
    (read : groups.filterMap (readProtocol? file) = protocols.map .ok) :
    (protocols.map fun protocol => protocol.descriptor.name).Nodup := by
  have names : ((protocols.map fun protocol => protocol.descriptor.name).map fun name =>
      protocolHeading.toList ++ name.toList).Sublist (groups.map KeyFile.Group.name) := by
    clear distinct
    induction groups generalizing protocols with
    | nil =>
        have nothing : protocols = [] := by simpa using read.symm
        rw [nothing]
        exact List.Sublist.slnil
    | cons group rest induction =>
        cases result : readProtocol? file group with
        | none =>
            rw [List.filterMap_cons, result] at read
            exact (induction read).cons _
        | some outcome =>
            rw [List.filterMap_cons, result] at read
            cases protocols with
            | nil => cases read
            | cons protocol others =>
                rw [List.map_cons, List.cons.injEq] at read
                obtain ⟨rfl, later⟩ := read
                obtain ⟨beginning, heading, valid, rfl⟩ := read_protocol_cases result
                have name : protocolHeading.toList ++ (String.ofList beginning).toList
                    = group.name := by rw [String.toList_ofList, heading]
                have rest := induction later
                simpa [Descriptor.guarded, described, heading] using rest
  exact (names.nodup distinct).of_map

theorem read_classes (read : readProtocol? file group = some (.ok protocol)) :
    ∀ pair ∈ protocol.classes, pair.2 = classOfGroup file pair.1 := by
  obtain ⟨beginning, _, valid, rfl⟩ := read_protocol_cases read
  intro pair member
  change pair ∈ (readList group classesKey).zip ((readList group classesKey).map
    (classOfGroup file)) at member
  rw [← List.map_prod_left_eq_zip] at member
  obtain ⟨name, _, rfl⟩ := List.mem_map.1 member
  rfl

theorem of_key_file_eq (done : ofKeyFile file = .ok manifest) :
    manifest.manager = (file.group? managerGroup.toList).map KeyFile.Group.entries ∧
      file.groups.filterMap (readProtocol? file) = manifest.protocols.map .ok := by
  obtain ⟨protocols, collected, same⟩ := Outcome.bind_eq_ok.1 done
  cases same
  exact ⟨rfl, collect_eq collected⟩

/-- A presentable manifest that was read is legible. -/
theorem of_key_file_legible (legible : file.Legible) (done : ofKeyFile file = .ok manifest)
    (presentable : ∀ protocol ∈ manifest.protocols, protocol.Presentable) : manifest.Legible := by
  obtain ⟨manager, protocols⟩ := of_key_file_eq done
  have origin : ∀ protocol ∈ manifest.protocols, ∃ group ∈ file.groups,
      readProtocol? file group = some (.ok protocol) := by
    intro protocol member
    apply List.mem_filterMap.1
    rw [protocols]
    exact List.mem_map.2 ⟨protocol, member, rfl⟩
  constructor
  · intro entries described
    rw [manager] at described
    obtain ⟨group, found, rfl⟩ := Option.map_eq_some_iff.1 described
    exact (legible.each group (KeyFile.mem_of_group found).1).entries
  · exact read_protocols_distinct legible.distinct protocols
  · intro protocol member
    obtain ⟨group, among, read⟩ := origin protocol member
    exact read_protocol_legible legible among read (presentable protocol member)
  · have described : ∀ pair ∈ manifest.protocols.flatMap Section.classes,
        pair.2 = classOfGroup file pair.1 := by
      intro pair inside
      obtain ⟨protocol, member, among⟩ := List.mem_flatMap.1 inside
      obtain ⟨group, _, read⟩ := origin protocol member
      exact read_classes read pair among
    intro name left right first second
    exact (described _ first).trans (described _ second).symm

/-- A presentable manifest that was read is read again from its text, which is then the text of
what was read again. -/
theorem reprint_keeps (done : read text = .ok manifest)
    (presentable : ∀ protocol ∈ manifest.protocols, protocol.Presentable) :
    ∃ again, read manifest.text = .ok again ∧ again = manifest ∧ again.text = manifest.text := by
  rw [read] at done
  cases understood : KeyFile.read text with
  | error error =>
      rw [understood] at done
      cases done
  | ok file =>
      rw [understood] at done
      have legible := of_key_file_legible (KeyFile.read_legible understood) done presentable
      exact ⟨manifest, legible.read_text, rfl, rfl⟩

/-- The lines of a manifest that was written by hand. -/
def rehearsedLines : List String :=
  ["# relay chat", "[ConnectionManager]", "BusName=cm", "[Protocol irc]", "Interfaces = a,b c",
    "RequestableChannelClasses=irc class 1", "EnglishName = Relay Chat", "",
    "param-port=q required", "default-port=6667", "[irc class 1]", "kind u=1", "allowed=target"]

theorem reprint_keeps_rehearsed :
    read (complete (rehearsedLines.map String.toList)) = .ok rehearsedManifest ∧
      ∃ again, read rehearsedManifest.text = .ok again ∧ again = rehearsedManifest ∧
        again.text = rehearsedManifest.text := by
  have legible : rehearsedManifest.Legible := rehearsed_manifest_built.kept.legible
  have understood : KeyFile.read (complete (rehearsedLines.map String.toList))
      = .ok rehearsedManifest.toKeyFile := by decide +kernel
  have done : read (complete (rehearsedLines.map String.toList)) = .ok rehearsedManifest := by
    rw [read, understood]
    exact legible.of_key_file
  exact ⟨done, reprint_keeps done fun protocol member =>
    (legible.protocols protocol member).presentable⟩

/-- The manifest of a file with nothing in it but the group of one protocol. -/
def ofOneGroup (group : KeyFile.Group) (name : String) (valid : Protocol.isValidName name = true) :
    Manifest :=
  ⟨none, [⟨(described ⟨[group]⟩ group name valid).guarded, readList group classesKey⟩]⟩

theorem read_one_group (understood : KeyFile.read text = .ok ⟨[group]⟩)
    (heading : group.name = (protocolHeading ++ name).toList)
    (valid : Protocol.isValidName name = true) : read text = .ok (ofOneGroup group name valid) := by
  have begins : afterPrefix? protocolHeading.toList group.name = some name.toList := by
    rw [heading, String.toList_append, after_prefix_append]
  have apart : KeyFile.group? ⟨[group]⟩ managerGroup.toList = none := by
    apply KeyFile.group_absent
    intro other member same
    rw [List.mem_singleton.1 member, heading, String.toList_append] at same
    exact absurd (congrArg List.head? same) (by simp +decide [protocolHeading, managerGroup])
  have protocol := @read_protocol ⟨[group]⟩ group _ begins (by rwa [String.ofList_toList])
  rw [read, understood]
  change (collect ([group].filterMap (readProtocol? ⟨[group]⟩))).bind _ = _
  rw [List.filterMap_cons, protocol, apart]
  simp only [String.ofList_toList]
  rfl

def listing (list : String) : Manifest :=
  ofOneGroup ⟨"Protocol x".toList, [("Interfaces".toList, list.toList)]⟩ "x" (by decide)

/-- A list of two interfaces, of which the last is empty, has one when it is read again. -/
theorem trailing_empty_item_lost : ∃ manifest again,
    read "[Protocol x]\nInterfaces = a,,\n".toList = .ok manifest ∧
      read manifest.text = .ok again ∧
      manifest.descriptors.map Descriptor.interfaces = [["a", ""]] ∧
      again.descriptors.map Descriptor.interfaces = [["a"]] ∧ again ≠ manifest := by
  have before : (listing "a,,").descriptors.map Descriptor.interfaces = [["a", ""]] := by
    decide +kernel
  have after : (listing "a,").descriptors.map Descriptor.interfaces = [["a"]] := by
    decide +kernel
  have written : (listing "a,,").text = "[Protocol x]\nInterfaces = a,\n".toList := by
    decide +kernel
  refine ⟨listing "a,,", listing "a,", ?_, ?_, before, after, fun same => ?_⟩
  · exact read_one_group (by decide +kernel) rfl _
  · rw [written]
    exact read_one_group (by decide +kernel) rfl _
  · rw [same, before] at after
    exact absurd after (by decide)

end Manifest

end ConnectionManager
