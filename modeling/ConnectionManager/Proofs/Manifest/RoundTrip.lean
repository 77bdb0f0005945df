import ConnectionManager.Proofs.Manifest.Groups

/-!
A legible manifest comes back from its text. Its groups have different names: those of protocols
stand under their heading, those of channel classes do not, and the writer passes over a class
group that it has written. So every group is found again under its name, and the protocols are read
in the order in which they were written.
-/

namespace ConnectionManager

open Text
open KeyFile (LegibleEntry LegibleGroup)

/-- A manifest with nothing in it that its text would not show. -/
structure Manifest.Legible (manifest : Manifest) : Prop where
  manager : ∀ entries, manifest.manager = some entries → ∀ entry ∈ entries, LegibleEntry entry
  distinct : (manifest.protocols.map fun protocol => protocol.descriptor.name).Nodup
  protocols : ∀ protocol ∈ manifest.protocols, protocol.Legible
  shared : ∀ name left right, (name, left) ∈ manifest.protocols.flatMap Section.classes →
    (name, right) ∈ manifest.protocols.flatMap Section.classes → left = right

namespace Manifest

variable {manifest : Manifest} {file : KeyFile} {protocols : List Section} {protocol : Section}
  {written : List String} {pairs : List (String × ChannelClass)} {group : KeyFile.Group}
  {name : String} {channelClass : ChannelClass}

/-! ### Groups of channel classes -/

theorem mem_new_class_groups (member : group ∈ (newClassGroups written pairs).1) :
    ∃ pair ∈ pairs, pair.1 ∉ written ∧ group = classGroup pair.1 pair.2 := by
  induction pairs generalizing written with
  | nil => cases member
  | cons pair rest induction =>
      rw [newClassGroups] at member
      split at member
      · obtain ⟨found, among, fresh, same⟩ := induction member
        exact ⟨found, List.mem_cons_of_mem pair among, fresh, same⟩
      · rename_i fresh
        rcases List.mem_cons.1 member with rfl | later
        · exact ⟨pair, List.mem_cons_self, by simpa using fresh, rfl⟩
        · obtain ⟨found, among, apart, same⟩ := induction later
          rw [List.mem_cons, not_or] at apart
          exact ⟨found, List.mem_cons_of_mem pair among, apart.2, same⟩

theorem new_class_groups_written (member : name ∈ (newClassGroups written pairs).2) :
    name ∈ written ∨ ∃ channelClass, (name, channelClass) ∈ pairs ∧
      classGroup name channelClass ∈ (newClassGroups written pairs).1 := by
  induction pairs generalizing written with
  | nil => exact .inl member
  | cons pair rest induction =>
      rw [newClassGroups] at member ⊢
      split at member
      · rename_i known
        rw [if_pos known]
        refine (induction member).imp id fun ⟨channelClass, among, found⟩ => ?_
        exact ⟨channelClass, List.mem_cons_of_mem pair among, found⟩
      · rename_i fresh
        rw [if_neg fresh]
        rcases induction member with before | ⟨channelClass, among, found⟩
        · rcases List.mem_cons.1 before with rfl | old
          · exact .inr ⟨pair.2, List.mem_cons_self, List.mem_cons_self⟩
          · exact .inl old
        · exact .inr ⟨channelClass, List.mem_cons_of_mem pair among,
            List.mem_cons_of_mem _ found⟩

theorem written_new_class_groups :
    (∀ name ∈ written, name ∈ (newClassGroups written pairs).2) ∧
      ∀ pair ∈ pairs, pair.1 ∈ (newClassGroups written pairs).2 := by
  induction pairs generalizing written with
  | nil => exact ⟨fun _ member => member, by simp⟩
  | cons pair rest induction =>
      rw [newClassGroups]
      split
      · rename_i known
        obtain ⟨kept, more⟩ := @induction written
        refine ⟨kept, fun other member => ?_⟩
        rcases List.mem_cons.1 member with rfl | later
        · exact kept _ (by simpa using known)
        · exact more other later
      · obtain ⟨kept, more⟩ := @induction (pair.1 :: written)
        refine ⟨fun name member => kept name (List.mem_cons_of_mem _ member), fun other member => ?_⟩
        rcases List.mem_cons.1 member with rfl | later
        · exact kept _ List.mem_cons_self
        · exact more other later

theorem new_class_groups_distinct :
    ((newClassGroups written pairs).1.map KeyFile.Group.name).Nodup := by
  induction pairs generalizing written with
  | nil => exact List.nodup_nil
  | cons pair rest induction =>
      rw [newClassGroups]
      split
      · exact induction
      · rw [List.map_cons, List.nodup_cons]
        refine ⟨fun member => ?_, induction⟩
        obtain ⟨group, among, same⟩ := List.mem_map.1 member
        obtain ⟨other, _, apart, rfl⟩ := mem_new_class_groups among
        have names : other.1 = pair.1 := String.toList_injective same
        exact apart (names ▸ List.mem_cons_self)

/-! ### Groups of protocols -/

theorem mem_protocol_groups (member : group ∈ protocolGroups written protocols) :
    (∃ protocol ∈ protocols, group = protocolGroup protocol) ∨
      ∃ protocol ∈ protocols, ∃ pair ∈ protocol.classes, pair.1 ∉ written ∧
        group = classGroup pair.1 pair.2 := by
  induction protocols generalizing written with
  | nil => cases member
  | cons protocol rest induction =>
      rw [protocolGroups] at member
      rcases List.mem_cons.1 member with rfl | later
      · exact .inl ⟨protocol, List.mem_cons_self, rfl⟩
      · rcases List.mem_append.1 later with here | there
        · obtain ⟨pair, among, fresh, same⟩ := mem_new_class_groups here
          exact .inr ⟨protocol, List.mem_cons_self, pair, among, fresh, same⟩
        · rcases induction there with ⟨other, among, same⟩ | ⟨other, among, pair, inside, fresh, same⟩
          · exact .inl ⟨other, List.mem_cons_of_mem protocol among, same⟩
          · refine .inr ⟨other, List.mem_cons_of_mem protocol among, pair, inside, ?_, same⟩
            exact fun old => fresh (written_new_class_groups.1 _ old)

/-- Every class has been written before or is written now. -/
theorem protocol_groups_classes (written : List String)
    (member : (name, channelClass) ∈ protocols.flatMap Section.classes) :
    name ∈ written ∨ ∃ other, (name, other) ∈ protocols.flatMap Section.classes ∧
      classGroup name other ∈ protocolGroups written protocols := by
  induction protocols generalizing written with
  | nil => cases member
  | cons protocol rest induction =>
      have known : name ∈ (newClassGroups written protocol.classes).2 ∨
          (name, channelClass) ∈ rest.flatMap Section.classes := by
        rw [List.flatMap_cons, List.mem_append] at member
        exact member.imp (written_new_class_groups.2 _) id
      have here : name ∈ (newClassGroups written protocol.classes).2 →
          name ∈ written ∨ ∃ other, (name, other) ∈ (protocol :: rest).flatMap Section.classes ∧
            classGroup name other ∈ protocolGroups written (protocol :: rest) := by
        intro counted
        refine (new_class_groups_written counted).imp id fun ⟨other, among, found⟩ => ?_
        refine ⟨other, by simp [among], ?_⟩
        rw [protocolGroups]
        exact List.mem_cons_of_mem _ (List.mem_append_left _ found)
      rcases known with counted | later
      · exact here counted
      · rcases induction _ later with counted | ⟨other, among, found⟩
        · exact here counted
        · refine .inr ⟨other, by rw [List.flatMap_cons]; exact List.mem_append_right _ among, ?_⟩
          rw [protocolGroups]
          exact List.mem_cons_of_mem _ (List.mem_append_right _ found)

theorem class_name_apart (suitable : IsClassName name) (protocol : Section) :
    name.toList ≠ (protocolGroup protocol).name := by
  intro same
  have heading : afterPrefix? protocolHeading.toList name.toList
      = some protocol.descriptor.name.toList := by
    rw [same, protocolGroup, String.toList_append]
    exact after_prefix_append _ _
  have invalid := suitable.notProtocol _ heading
  rw [String.ofList_toList, protocol.descriptor.validName] at invalid
  cases invalid

theorem protocol_group_name_injective {left right : Section}
    (same : (protocolGroup left).name = (protocolGroup right).name) :
    left.descriptor.name = right.descriptor.name := by
  rw [protocolGroup, protocolGroup, String.toList_append, String.toList_append] at same
  exact String.toList_injective (List.append_cancel_left same)

theorem protocol_groups_distinct (written : List String)
    (distinct : (protocols.map fun protocol => protocol.descriptor.name).Nodup)
    (suitable : ∀ protocol ∈ protocols, ∀ pair ∈ protocol.classes, IsClassName pair.1) :
    ((protocolGroups written protocols).map KeyFile.Group.name).Nodup := by
  induction protocols generalizing written with
  | nil => exact List.nodup_nil
  | cons protocol rest induction =>
      rw [List.map_cons, List.nodup_cons] at distinct
      have suitableHere := suitable protocol List.mem_cons_self
      have suitableThere := fun other member =>
        suitable other (List.mem_cons_of_mem protocol member)
      rw [protocolGroups, List.map_append, List.map_cons, List.cons_append, List.nodup_cons,
        List.nodup_append]
      refine ⟨?_, new_class_groups_distinct, induction _ distinct.2 suitableThere, ?_⟩
      · intro member
        rw [List.mem_append] at member
        rcases member with here | there
        · obtain ⟨group, among, same⟩ := List.mem_map.1 here
          obtain ⟨pair, inside, _, rfl⟩ := mem_new_class_groups among
          exact class_name_apart (suitableHere pair inside) protocol same
        · obtain ⟨group, among, same⟩ := List.mem_map.1 there
          rcases mem_protocol_groups among with
            ⟨other, later, rfl⟩ | ⟨other, later, pair, inside, _, rfl⟩
          · apply distinct.1
            rw [← protocol_group_name_injective same]
            exact List.mem_map.2 ⟨other, later, rfl⟩
          · exact class_name_apart (suitableThere other later pair inside) protocol same
      · intro first here second there same
        obtain ⟨group, among, rfl⟩ := List.mem_map.1 here
        obtain ⟨pair, inside, _, rfl⟩ := mem_new_class_groups among
        obtain ⟨group, among, rfl⟩ := List.mem_map.1 there
        rcases mem_protocol_groups among with
          ⟨other, _, rfl⟩ | ⟨other, _, again, _, fresh, rfl⟩
        · exact class_name_apart (suitableHere pair inside) other same
        · have names : again.1 = pair.1 := String.toList_injective same.symm
          exact fresh (names ▸ written_new_class_groups.2 pair inside)

theorem read_class_group (suitable : IsClassName name) :
    readProtocol? file (classGroup name channelClass) = none := by
  rw [readProtocol?]
  cases found : afterPrefix? protocolHeading.toList (classGroup name channelClass).name with
  | none => rfl
  | some rest =>
      have invalid := suitable.notProtocol rest found
      simp [invalid]

theorem read_protocol_groups (written : List String)
    (suitable : ∀ protocol ∈ protocols, ∀ pair ∈ protocol.classes, IsClassName pair.1)
    (read : ∀ protocol ∈ protocols, readProtocol? file (protocolGroup protocol) = some (.ok protocol)) :
    (protocolGroups written protocols).filterMap (readProtocol? file) = protocols.map .ok := by
  induction protocols generalizing written with
  | nil => rfl
  | cons protocol rest induction =>
      have classes : (newClassGroups written protocol.classes).1.filterMap (readProtocol? file)
          = [] := by
        apply List.filterMap_eq_nil_iff.2
        intro group member
        obtain ⟨pair, inside, _, rfl⟩ := mem_new_class_groups member
        exact read_class_group (suitable protocol List.mem_cons_self pair inside)
      have later := induction (newClassGroups written protocol.classes).2
        (fun other member => suitable other (List.mem_cons_of_mem protocol member))
        (fun other member => read other (List.mem_cons_of_mem protocol member))
      rw [protocolGroups, List.filterMap_append, List.filterMap_cons,
        read protocol List.mem_cons_self]
      change _ :: (newClassGroups written protocol.classes).1.filterMap _ ++ _ = _
      rw [classes]
      exact congrArg _ later

theorem collect_ok (protocols : List Section) : collect (protocols.map .ok) = .ok protocols := by
  induction protocols with
  | nil => rfl
  | cons protocol rest induction =>
      rw [List.map_cons, collect, induction]
      rfl

/-! ### The whole manifest -/

theorem Legible.suitable (legible : manifest.Legible) :
    ∀ protocol ∈ manifest.protocols, ∀ pair ∈ protocol.classes, IsClassName pair.1 :=
  fun protocol member _ inside =>
    (legible.protocols protocol member).classNames _ (List.of_mem_zip inside).1

theorem Legible.apart (legible : manifest.Legible) :
    ∀ group ∈ protocolGroups [] manifest.protocols, group.name ≠ managerGroup.toList := by
  intro group member same
  rcases mem_protocol_groups member with
    ⟨protocol, _, rfl⟩ | ⟨protocol, among, pair, inside, _, rfl⟩
  · rw [protocolGroup, String.toList_append] at same
    exact absurd (congrArg List.head? same) (by simp +decide [protocolHeading, managerGroup])
  · exact (legible.suitable protocol among pair inside).notManager (String.toList_injective same)

theorem Legible.group_legible (legible : manifest.Legible) :
    ∀ group ∈ protocolGroups [] manifest.protocols, LegibleGroup group := by
  intro group member
  rcases mem_protocol_groups member with
    ⟨protocol, among, rfl⟩ | ⟨protocol, among, pair, inside, _, rfl⟩
  · exact protocol_group_legible (legible.protocols protocol among)
  · exact class_group_legible (legible.suitable protocol among pair inside)
      ((legible.protocols protocol among).descriptor.channelClasses _ (List.of_mem_zip inside).2)

theorem Legible.key_file (legible : manifest.Legible) : manifest.toKeyFile.Legible := by
  have protocols := protocol_groups_distinct [] legible.distinct legible.suitable
  cases described : manifest.manager with
  | none =>
      rw [toKeyFile, described]
      exact ⟨protocols, legible.group_legible⟩
  | some entries =>
      rw [toKeyFile, described]
      constructor
      · refine List.nodup_cons.2 ⟨fun member => ?_, protocols⟩
        obtain ⟨group, among, same⟩ := List.mem_map.1 member
        exact legible.apart group among same
      · intro group member
        rcases List.mem_cons.1 member with rfl | later
        · exact ⟨show managerGroup.toList ≠ [] by decide, show '\n' ∉ managerGroup.toList by decide,
          legible.manager entries described⟩
        · exact legible.group_legible group later

theorem Legible.manager_found (legible : manifest.Legible) :
    (manifest.toKeyFile.group? managerGroup.toList).map KeyFile.Group.entries
      = manifest.manager := by
  cases described : manifest.manager with
  | none =>
      have absent : manifest.toKeyFile.group? managerGroup.toList = none := by
        apply KeyFile.group_absent
        rw [toKeyFile, described]
        exact legible.apart
      rw [absent]
      rfl
  | some entries =>
      have member : ⟨managerGroup.toList, entries⟩ ∈ manifest.toKeyFile.groups := by
        simp [toKeyFile, described]
      have found := KeyFile.group_of_mem legible.key_file.distinct member
      dsimp only at found
      rw [found]
      rfl

theorem Legible.class_found (legible : manifest.Legible) (member : protocol ∈ manifest.protocols) :
    ∀ pair ∈ protocol.classes, classOfGroup manifest.toKeyFile pair.1 = pair.2 := by
  rintro ⟨name, channelClass⟩ inside
  have among : (name, channelClass) ∈ manifest.protocols.flatMap Section.classes :=
    List.mem_flatMap.2 ⟨protocol, member, inside⟩
  obtain ⟨other, again, written⟩ := (protocol_groups_classes [] among).resolve_left
    List.not_mem_nil
  rw [legible.shared name other channelClass again among] at written
  have present : classGroup name channelClass ∈ manifest.toKeyFile.groups := by
    rw [toKeyFile]
    exact List.mem_append_right _ written
  have found : manifest.toKeyFile.group? name.toList = some (classGroup name channelClass) :=
    KeyFile.group_of_mem legible.key_file.distinct present
  rw [classOfGroup, found]
  exact read_class name ((legible.protocols protocol member).descriptor.channelClasses _
    (List.of_mem_zip inside).2)

theorem Legible.protocols_read (legible : manifest.Legible) :
    manifest.toKeyFile.groups.filterMap (readProtocol? manifest.toKeyFile)
      = manifest.protocols.map .ok := by
  have protocols := read_protocol_groups [] legible.suitable fun protocol member =>
    read_protocol_group (legible.protocols protocol member) (legible.class_found member)
  cases described : manifest.manager with
  | none =>
      have groups : manifest.toKeyFile.groups = protocolGroups [] manifest.protocols := by
        simp [toKeyFile, described]
      rw [groups, protocols]
  | some entries =>
      have groups : manifest.toKeyFile.groups
          = ⟨managerGroup.toList, entries⟩ :: protocolGroups [] manifest.protocols := by
        simp [toKeyFile, described]
      have manager : readProtocol? manifest.toKeyFile ⟨managerGroup.toList, entries⟩ = none := rfl
      rw [groups, List.filterMap_cons, manager, protocols]

theorem Legible.of_key_file (legible : manifest.Legible) :
    ofKeyFile manifest.toKeyFile = .ok manifest := by
  change (collect _).bind _ = _
  rw [legible.protocols_read, collect_ok, legible.manager_found]
  rfl

theorem Legible.read_text (legible : manifest.Legible) : read manifest.text = .ok manifest := by
  rw [read, text, KeyFile.read_text legible.key_file]
  exact legible.of_key_file

end Manifest

end ConnectionManager
