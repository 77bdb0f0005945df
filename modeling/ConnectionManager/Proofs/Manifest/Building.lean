import ConnectionManager.Proofs.Manifest.RoundTrip
import ConnectionManager.Proofs.Protocol.Building

/-!
A manifest that is built entry by entry and protocol by protocol comes back from its text. The
groups of channel classes get names made of the protocol name, which has no space in it, and a
number, so no two classes share a group and no such group is taken for another.
-/

namespace ConnectionManager

open Text
open KeyFile (Clean LegibleEntry)

/-- A parameter whose name fits into a key and whose signature is a word that shows. -/
structure Parameter.Writable (parameter : Parameter) : Prop where
  nameEnds : ∀ character, parameter.name.toList.getLast? = some character →
    isBlank character = false
  nameOneLine : '\n' ∉ parameter.name.toList
  noEquals : '=' ∉ parameter.name.toList
  someSignature : parameter.signature ≠ ""
  visible : ∀ character ∈ parameter.signature.toList, isBlank character = false
  default : ∀ value, parameter.default = some value → value.ComesBack parameter.signature

/-- A fixed property whose name is a word that fits into a key. -/
structure WritableFixed (entry : String × Value) : Prop where
  some_ : entry.1 ≠ ""
  visible : ∀ character ∈ entry.1.toList, isBlank character = false
  noEquals : '=' ∉ entry.1.toList
  noComment : entry.1.toList.head? ≠ some '#'
  noHeader : entry.1.toList.head? ≠ some '['
  comesBack : entry.2.ComesBack entry.2.signature

structure Descriptor.Writable (descriptor : Descriptor) : Prop where
  interfaces : CleanTexts descriptor.interfaces
  connectionInterfaces : CleanTexts descriptor.connectionInterfaces
  authenticationTypes : CleanTexts descriptor.authenticationTypes
  mimeTypes : CleanTexts descriptor.avatars.mimeTypes
  vcardField : Clean descriptor.vcardField.toList
  englishName : Clean descriptor.declaredEnglishName.toList
  icon : Clean descriptor.declaredIcon.toList
  distinct : (descriptor.parameters.map Parameter.name).Nodup
  parameters : ∀ parameter ∈ descriptor.parameters, parameter.Writable
  allowed : ∀ channelClass ∈ descriptor.channelClasses, CleanTexts channelClass.allowed
  fixed : ∀ channelClass ∈ descriptor.channelClasses, ∀ entry ∈ channelClass.fixed.entries,
    WritableFixed entry

/-! ### Descriptions -/

theorem Parameter.Writable.legible {parameter : Parameter} (writable : parameter.Writable)
    (announced : parameter.Announced) : parameter.Legible := by
  constructor
  · exact writable.nameEnds
  · exact writable.nameOneLine
  · exact writable.noEquals
  · exact writable.someSignature
  · exact fun inside => absurd (writable.visible _ inside) (by decide)
  · exact one_line_of_visible writable.visible
  · exact parameter.line_trimmed writable.someSignature writable.visible
  · exact announced
  · exact writable.default

theorem WritableFixed.legible {entry : String × Value} (writable : WritableFixed entry) :
    LegibleFixed entry := by
  have apart : ∀ blank, isBlank blank = true → blank ∉ entry.1.toList := by
    intro blank shows inside
    rw [writable.visible blank inside] at shows
    cases shows
  constructor
  · exact writable.some_
  · exact fun character first => writable.visible character (List.mem_of_head? first)
  · exact writable.noComment
  · exact writable.noHeader
  · exact apart '\n' (by decide)
  · exact apart ' ' (by decide)
  · exact writable.noEquals
  · exact writable.comesBack

theorem Descriptor.Built.legible {descriptor : Descriptor} (built : descriptor.Built)
    (writable : descriptor.Writable) : descriptor.Legible := by
  have kept := built.kept
  constructor
  · exact writable.interfaces
  · exact writable.connectionInterfaces
  · exact writable.authenticationTypes
  · exact writable.mimeTypes
  · exact writable.vcardField
  · exact writable.englishName
  · exact writable.icon
  · exact writable.distinct
  · exact fun parameter member =>
      (writable.parameters parameter member).legible (kept.announced parameter member)
  · exact kept.guarded_eq
  · intro channelClass member
    constructor
    · exact kept.ascending channelClass member
    · exact fun entry inside => (writable.fixed channelClass member entry inside).legible
    · exact writable.allowed channelClass member

namespace Manifest

variable {manifest : Manifest} {descriptor : Descriptor} {protocol : Section} {name other : String}
  {index number : Nat}

/-! ### Names of class groups -/

def classGroupName (name : String) (index : Nat) : String := s!"{name} class {index + 1}"

theorem class_group_name_eq (name : String) (index : Nat) : (classGroupName name index).toList
    = name.toList ++ ' ' :: ("class ".toList ++ Number.naturalText (index + 1)) := by
  have number : (toString (index + 1)).toList = Number.naturalText (index + 1) := by
    simp [Number.naturalText]
  have written : classGroupName name index = name ++ " class " ++ toString (index + 1) := rfl
  rw [written, String.toList_append, String.toList_append, number]
  simp

theorem no_space (valid : Protocol.isValidName name = true) : ' ' ∉ name.toList :=
  fun inside => absurd (valid_name_visible valid _ inside) (by decide)

theorem split_class_group_name (valid : Protocol.isValidName name = true) (index : Nat) :
    splitOnce ' ' (classGroupName name index).toList
      = some (name.toList, "class ".toList ++ Number.naturalText (index + 1)) := by
  rw [class_group_name_eq, split_once_append (no_space valid)]

theorem class_group_name_injective (valid : Protocol.isValidName name = true)
    (otherValid : Protocol.isValidName other = true)
    (same : classGroupName name index = classGroupName other number) :
    name = other ∧ index = number := by
  have cut := split_class_group_name valid index
  rw [same, split_class_group_name otherValid number, Option.some.injEq, Prod.mk.injEq,
    List.append_cancel_left_eq] at cut
  have numbers := Number.natural_text_injective cut.2
  exact ⟨String.toList_injective cut.1.symm, by omega⟩

theorem class_group_name_suitable (valid : Protocol.isValidName name = true) (index : Nat) :
    IsClassName (classGroupName name index) := by
  have space : ' ' ∈ (classGroupName name index).toList := by
    rw [class_group_name_eq]
    simp
  constructor
  · intro empty
    rw [empty] at space
    cases space
  · rw [class_group_name_eq]
    have digits : '\n' ∉ Number.naturalText (index + 1) := fun inside =>
      absurd (Number.natural_text_digits _ _ inside) (by decide)
    simp [one_line_of_visible (valid_name_visible valid), digits]
  · intro manager
    rw [manager] at space
    exact absurd space (by decide)
  · intro rest found
    have space : protocolHeading.toList ++ rest = "Protocol".toList ++ ' ' :: rest := by
      simp [protocolHeading]
    have heading : splitOnce ' ' (classGroupName name index).toList
        = some ("Protocol".toList, rest) := by
      rw [after_prefix_eq found, space]
      exact split_once_append (by decide)
    rw [split_class_group_name valid, Option.some.injEq, Prod.mk.injEq] at heading
    by_contra accepted
    have visible := valid_name_visible (by simpa using accepted)
    rw [← heading.2, String.toList_ofList] at visible
    exact absurd (visible ' ' (by simp)) (by decide)

theorem class_group_name_clean (valid : Protocol.isValidName name = true) (index : Nat) :
    Clean (classGroupName name index).toList := by
  have some_ : name.toList ≠ [] := by
    intro nothing
    rw [Protocol.isValidName, nothing] at valid
    cases valid
  have digits := Number.natural_text_digits (index + 1)
  apply KeyFile.clean_of_trimmed
  rw [class_group_name_eq]
  constructor
  · intro character first
    rw [List.head?_append_of_ne_nil _ some_] at first
    exact valid_name_visible valid character (List.mem_of_head? first)
  · intro character last
    rw [← List.cons_append, ← List.append_assoc,
      List.getLast?_append_of_ne_nil _ (Number.natural_text_ne_nil _)] at last
    exact Number.digit_visible (digits character (List.mem_of_getLast? last))

/-! ### Manifests -/

/-- Manifests that are built up from nothing, with entries and protocols that can be written. -/
inductive Built : Manifest → Prop
  | empty : Built .empty
  | addManagerEntry {before : Manifest} (built : Built before) {key value : String}
      (plain : LegibleEntry (key.toList, value.toList)) : Built (before.addManagerEntry key value)
  | addProtocol {before : Manifest} (built : Built before) {descriptor : Descriptor}
      (described : descriptor.Built) (writable : descriptor.Writable)
      (fresh : descriptor.name ∉ before.descriptors.map Descriptor.name) :
      Built (before.addProtocol descriptor)

/-- The channel classes of a protocol are numbered. -/
def Section.Numbered (protocol : Section) : Prop :=
  protocol.classGroups = (List.range protocol.descriptor.channelClasses.length).map
    (classGroupName protocol.descriptor.name)

theorem Section.Numbered.class_at (numbered : protocol.Numbered) {channelClass : ChannelClass}
    (member : (name, channelClass) ∈ protocol.classes) : ∃ index,
      name = classGroupName protocol.descriptor.name index ∧
        protocol.descriptor.channelClasses[index]? = some channelClass := by
  obtain ⟨index, found⟩ := List.mem_iff_getElem?.1 member
  rw [Section.classes, List.getElem?_zip_eq_some, numbered] at found
  obtain ⟨named, described⟩ := found
  rw [List.getElem?_map] at named
  obtain ⟨position, counted, rfl⟩ := Option.map_eq_some_iff.1 named
  have same : position = index := by
    obtain ⟨_, same⟩ := List.getElem?_eq_some_iff.1 counted
    simpa using same.symm
  exact ⟨index, by rw [same], described⟩

theorem Section.Numbered.legible (numbered : protocol.Numbered)
    (legible : protocol.descriptor.Legible) : protocol.Legible := by
  have valid := protocol.descriptor.validName
  have generated : ∀ name ∈ protocol.classGroups, ∃ index,
      name = classGroupName protocol.descriptor.name index := by
    intro name member
    rw [numbered] at member
    obtain ⟨index, _, same⟩ := List.mem_map.1 member
    exact ⟨index, same.symm⟩
  have suitable : ∀ name ∈ protocol.classGroups, IsClassName name := by
    intro name member
    obtain ⟨index, rfl⟩ := generated name member
    exact class_group_name_suitable valid index
  constructor
  · exact legible
  · refine clean_texts (fun name member => ?_) fun empty => ?_
    · obtain ⟨index, rfl⟩ := generated name member
      exact class_group_name_clean valid index
    · exact (suitable "" (List.mem_of_getLast? empty)).some_ rfl
  · exact suitable
  · rw [numbered]
    simp

structure Kept (manifest : Manifest) : Prop where
  manager : ∀ entries, manifest.manager = some entries → ∀ entry ∈ entries, LegibleEntry entry
  distinct : (manifest.protocols.map fun protocol => protocol.descriptor.name).Nodup
  described : ∀ protocol ∈ manifest.protocols, protocol.descriptor.Legible
  numbered : ∀ protocol ∈ manifest.protocols, protocol.Numbered

theorem kept_empty : Kept .empty := by
  constructor <;> simp [empty]

theorem Kept.add_manager_entry (kept : manifest.Kept) {key value : String}
    (plain : LegibleEntry (key.toList, value.toList)) :
    (manifest.addManagerEntry key value).Kept := by
  refine ⟨?_, kept.distinct, kept.described, kept.numbered⟩
  rintro entries ⟨⟩ entry member
  rcases List.mem_append.1 member with old | new
  · cases present : manifest.manager with
    | none =>
        rw [present] at old
        cases old
    | some before =>
        rw [present] at old
        exact kept.manager before present entry old
  · rwa [List.mem_singleton.1 new]

theorem Kept.add_protocol (kept : manifest.Kept) (legible : descriptor.Legible)
    (fresh : descriptor.name ∉ manifest.descriptors.map Descriptor.name) :
    (manifest.addProtocol descriptor).Kept := by
  constructor
  · exact kept.manager
  · change ((manifest.protocols ++ [_]).map _).Nodup
    rw [List.map_append, List.nodup_append]
    refine ⟨kept.distinct, by simp, fun first member second last same => fresh ?_⟩
    have named : first = descriptor.name := same.trans (List.mem_singleton.1 last)
    rw [← named, descriptors, List.map_map]
    exact member
  · intro protocol member
    rcases List.mem_append.1 member with old | new
    · exact kept.described protocol old
    · rw [List.mem_singleton.1 new]
      exact legible
  · intro protocol member
    rcases List.mem_append.1 member with old | new
    · exact kept.numbered protocol old
    · rw [List.mem_singleton.1 new]
      rfl

theorem Built.kept (built : manifest.Built) : manifest.Kept := by
  induction built with
  | empty => exact kept_empty
  | addManagerEntry _ plain kept => exact kept.add_manager_entry plain
  | addProtocol _ described writable fresh kept =>
      exact kept.add_protocol (described.legible writable) fresh

theorem Kept.legible (kept : manifest.Kept) : manifest.Legible := by
  constructor
  · exact kept.manager
  · exact kept.distinct
  · exact fun protocol member =>
      (kept.numbered protocol member).legible (kept.described protocol member)
  · intro name left right first second
    obtain ⟨protocol, member, among⟩ := List.mem_flatMap.1 first
    obtain ⟨other, present, inside⟩ := List.mem_flatMap.1 second
    obtain ⟨index, rfl, leftFound⟩ := (kept.numbered protocol member).class_at among
    obtain ⟨number, same, rightFound⟩ := (kept.numbered other present).class_at inside
    obtain ⟨names, rfl⟩ := class_group_name_injective protocol.descriptor.validName
      other.descriptor.validName same
    have protocols : protocol = other := List.inj_on_of_nodup_map kept.distinct member present names
    rw [protocols, rightFound] at leftFound
    exact (Option.some.inj leftFound).symm

/-- A manifest that was built comes back from its text. -/
theorem built_reads_back (built : manifest.Built) : read manifest.text = .ok manifest :=
  built.kept.legible.read_text

/-- A port with a default, as a protocol may declare it. -/
def rehearsedPort : Parameter :=
  ((Parameter.ofSignature "port" "q").withFlags { required := true }).withDefault
    (.integer ⟨.uint16, 6667, by decide⟩)

def rehearsedClass : ChannelClass := ⟨⟨[("kind", .uint32 1)]⟩, ["target"]⟩

def rehearsedProtocol : Descriptor :=
  ((Descriptor.mk "irc" (by decide) "Relay Chat" "" "" ["a", "b c"] [] [] [] {} []).addParameter
    rehearsedPort).addChannelClass rehearsedClass

def rehearsedManifest : Manifest :=
  (empty.addManagerEntry "BusName" "cm").addProtocol rehearsedProtocol

theorem rehearsed_protocol_built : rehearsedProtocol.Built := by
  have named : Descriptor.Built { name := "irc", validName := by decide } := .ofName (by decide)
  have declared := (named.withEnglishName "Relay Chat").withInterfaces ["a", "b c"]
  have port : rehearsedPort.Built :=
    ((Parameter.Built.ofSignature "port" "q").withFlags _).withDefault _
  exact (declared.withParameter port).withChannelClass (List.pairwise_singleton _ _)

theorem rehearsed_protocol_writable : rehearsedProtocol.Writable := by
  have port : rehearsedPort.Writable := by
    constructor
    case nameEnds =>
      rintro character ⟨⟩
      decide
    case default =>
      rintro value ⟨⟩
      exact (Value.WasRead.word ⟨.uint16, 6667, by decide⟩).comes_back trimmed_nil trivial
    all_goals decide +kernel
  have kind : WritableFixed ("kind", .uint32 1) := by
    constructor
    case comesBack => exact (Value.WasRead.word _).comes_back trimmed_nil trivial
    all_goals decide +kernel
  constructor
  case parameters => exact List.forall_mem_singleton.2 port
  case fixed => exact List.forall_mem_singleton.2 (List.forall_mem_singleton.2 kind)
  all_goals decide +kernel

theorem rehearsed_manifest_built : rehearsedManifest.Built := by
  have entered : (empty.addManagerEntry "BusName" "cm").Built :=
    .addManagerEntry .empty (by decide +kernel)
  exact .addProtocol entered rehearsed_protocol_built rehearsed_protocol_writable (by decide)

theorem built_reads_back_rehearsed :
    rehearsedManifest.Built ∧ read rehearsedManifest.text = .ok rehearsedManifest :=
  ⟨rehearsed_manifest_built, built_reads_back rehearsed_manifest_built⟩

end Manifest

end ConnectionManager
