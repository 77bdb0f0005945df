import ConnectionManager.Proofs.Manifest.Reading

/-!
Descriptions come back from the properties that are published for them, however they were made:
call by call, from properties, or from a manifest. Two things that every way of making them keeps
are enough. The flag for a default says whether there is one, and passwords are secret.
-/

namespace ConnectionManager

namespace Parameter

/-- Parameters that can be had: declared call by call, read from a tuple, or taken from a
description, where passwords are secret. -/
inductive Reachable : Parameter → Prop
  | ofSignature (name signature : String) : Reachable (ofSignature name signature)
  | ofValue {value : Value} {parameter : Parameter} (read : ofValue? value = some parameter) :
      Reachable parameter
  | withFlags {before : Parameter} (reachable : Reachable before) (flags : ParameterFlags) :
      Reachable (before.withFlags flags)
  | withDefault {before : Parameter} (reachable : Reachable before) (value : Value) :
      Reachable (before.withDefault value)
  | guardPassword {before : Parameter} (reachable : Reachable before) :
      Reachable before.guardPassword

variable {parameter : Parameter}

theorem of_value_announced {value : Value} (read : ofValue? value = some parameter) :
    parameter.Announced := by
  unfold ofValue? at read
  split at read
  · rename_i name flags signature default _
    obtain ⟨bits, _, read⟩ := Option.bind_eq_some_iff.1 read
    obtain ⟨name, _, read⟩ := Option.bind_eq_some_iff.1 read
    obtain ⟨signature, _, read⟩ := Option.bind_eq_some_iff.1 read
    cases read
    cases marked : (ParameterFlags.ofBits bits).hasDefault <;> simp [Announced, marked]
  · cases read

theorem Reachable.announced (reachable : parameter.Reachable) : parameter.Announced := by
  induction reachable with
  | ofSignature | withDefault => rfl
  | ofValue read => exact of_value_announced read
  | withFlags _ flags announced =>
      simpa [Announced, Parameter.withFlags, ParameterFlags.union] using announced
  | guardPassword _ announced => exact announced.guard

end Parameter

namespace Descriptor

variable {descriptor : Descriptor} {properties : Dictionary} {name : String}

/-- Descriptions that can be had: from a name or from any properties, and from these by further
declarations. -/
inductive Reachable : Descriptor → Prop
  | ofName {name : String} {descriptor : Descriptor} (named : ofName name = .ok descriptor) :
      Reachable descriptor
  | ofProperties {name : String} {properties : Dictionary} {descriptor : Descriptor}
      (read : ofProperties name properties = .ok descriptor) : Reachable descriptor
  | withEnglishName {before : Descriptor} (reachable : Reachable before) (text : String) :
      Reachable { before with declaredEnglishName := text }
  | withIcon {before : Descriptor} (reachable : Reachable before) (text : String) :
      Reachable { before with declaredIcon := text }
  | withVcardField {before : Descriptor} (reachable : Reachable before) (text : String) :
      Reachable { before with vcardField := text }
  | withInterfaces {before : Descriptor} (reachable : Reachable before) (texts : List String) :
      Reachable { before with interfaces := texts }
  | withConnectionInterfaces {before : Descriptor} (reachable : Reachable before)
      (texts : List String) : Reachable { before with connectionInterfaces := texts }
  | withParameter {before : Descriptor} (reachable : Reachable before) {parameter : Parameter}
      (declared : parameter.Reachable) : Reachable (before.addParameter parameter)
  | withChannelClass {before : Descriptor} (reachable : Reachable before)
      (channelClass : ChannelClass) : Reachable (before.addChannelClass channelClass)
  | withAvatars {before : Descriptor} (reachable : Reachable before) (limits : AvatarLimits) :
      Reachable { before with avatars := limits }
  | withAuthenticationTypes {before : Descriptor} (reachable : Reachable before)
      (texts : List String) : Reachable { before with authenticationTypes := texts }

/-! ### What is published -/

theorem publication_names_distinct (descriptor : Descriptor) :
    (descriptor.publication.map Prod.fst).Nodup := by
  have names : [Property.interfaces, Property.connectionInterfaces, Property.parameters,
      Property.channelClasses, Property.vcardField, Property.englishName, Property.icon,
      Property.authenticationTypes, Property.avatarMimeTypes, Property.minimumWidth,
      Property.minimumHeight, Property.recommendedWidth, Property.recommendedHeight,
      Property.maximumWidth, Property.maximumHeight, Property.maximumBytes].Nodup := by
    decide +kernel
  exact names

theorem published_to_properties (descriptor : Descriptor) :
    descriptor.Published descriptor.toProperties :=
  fun _ member => Dictionary.get_of_pairs descriptor.publication_names_distinct member

/-! ### What every way of making a description keeps -/

/-- The two conditions under which a description comes back. -/
structure Declared (descriptor : Descriptor) : Prop where
  announced : ∀ parameter ∈ descriptor.parameters, parameter.Announced
  guarded : ∀ parameter ∈ descriptor.parameters, parameter.guardPassword = parameter

theorem Declared.rebuilt (declared : descriptor.Declared)
    (published : descriptor.Published properties) :
    Descriptor.ofProperties descriptor.name properties = .ok descriptor := by
  have same : descriptor.parameters.map Parameter.guardPassword = descriptor.parameters :=
    (List.map_congr_left declared.guarded).trans (List.map_id _)
  rw [published.rebuilt declared.announced, Descriptor.guarded, same]

theorem declared_of_guarded {parameters : List Parameter}
    (same : descriptor.parameters = parameters.map Parameter.guardPassword)
    (announced : ∀ parameter ∈ parameters, parameter.Announced) : descriptor.Declared := by
  constructor
  · intro parameter member
    rw [same] at member
    obtain ⟨before, among, rfl⟩ := List.mem_map.1 member
    exact (announced before among).guard
  · intro parameter member
    rw [same] at member
    obtain ⟨before, _, rfl⟩ := List.mem_map.1 member
    exact before.guard_password_guarded

theorem declared_of_name (named : ofName name = .ok descriptor) : descriptor.Declared := by
  unfold ofName at named
  split at named
  · cases named
    exact ⟨by simp, by simp⟩
  · cases named

theorem declared_of_properties (read : ofProperties name properties = .ok descriptor) :
    descriptor.Declared := by
  rw [ofProperties] at read
  obtain ⟨bare, _, read⟩ := Outcome.bind_eq_ok.1 read
  cases read
  refine declared_of_guarded rfl fun parameter member => ?_
  obtain ⟨value, _, decoded⟩ := List.mem_filterMap.1 member
  exact Parameter.of_value_announced decoded

theorem Declared.add_parameter {parameter : Parameter} (declared : descriptor.Declared)
    (announced : parameter.Announced) : (descriptor.addParameter parameter).Declared := by
  constructor
  · intro other member
    rcases List.mem_append.1 member with old | new
    · exact declared.announced other old
    · rw [List.mem_singleton.1 new]
      exact announced.guard
  · intro other member
    rcases List.mem_append.1 member with old | new
    · exact declared.guarded other old
    · rw [List.mem_singleton.1 new]
      exact parameter.guard_password_guarded

theorem Reachable.declared (reachable : descriptor.Reachable) : descriptor.Declared := by
  induction reachable with
  | ofName named => exact declared_of_name named
  | ofProperties read => exact declared_of_properties read
  | withParameter _ parameter declared => exact declared.add_parameter parameter.announced
  | withEnglishName _ _ declared | withIcon _ _ declared | withVcardField _ _ declared
  | withInterfaces _ _ declared | withConnectionInterfaces _ _ declared
  | withChannelClass _ _ declared | withAvatars _ _ declared
  | withAuthenticationTypes _ _ declared => exact ⟨declared.announced, declared.guarded⟩

end Descriptor

namespace Manifest

variable {file : KeyFile} {group : KeyFile.Group} {protocol : Section} {manifest : Manifest}
  {text : List Char} {descriptor : Descriptor}

theorem read_protocol_reachable (read : readProtocol? file group = some (.ok protocol)) :
    protocol.descriptor.Reachable := by
  obtain ⟨_, _, valid, rfl⟩ := read_protocol_cases read
  exact .ofProperties (of_protocol_properties valid)

theorem read_descriptors_reachable (done : Manifest.read text = .ok manifest)
    (member : descriptor ∈ manifest.descriptors) : descriptor.Reachable := by
  rw [Manifest.read] at done
  cases understood : KeyFile.read text with
  | error error =>
      rw [understood] at done
      cases done
  | ok file =>
      rw [understood] at done
      obtain ⟨_, protocols⟩ := of_key_file_eq done
      obtain ⟨protocol, among, rfl⟩ := List.mem_map.1 member
      obtain ⟨group, _, read⟩ := List.mem_filterMap.1
        (protocols ▸ List.mem_map.2 ⟨protocol, among, rfl⟩)
      exact read_protocol_reachable read

end Manifest

namespace Descriptor

/-- What is published of a description gives the description back, and what is published of a
protocol of a manifest gives what the manifest says of it. -/
theorem introspection_reproduces :
    (∀ descriptor : Descriptor, descriptor.Reachable →
      ofProperties descriptor.name descriptor.toProperties = .ok descriptor) ∧
    ∀ (text : List Char) (manifest : Manifest), Manifest.read text = .ok manifest →
      ∀ descriptor ∈ manifest.descriptors,
        ofProperties descriptor.name descriptor.toProperties = .ok descriptor := by
  have rebuilt : ∀ descriptor : Descriptor, descriptor.Reachable →
      ofProperties descriptor.name descriptor.toProperties = .ok descriptor :=
    fun descriptor reachable => reachable.declared.rebuilt descriptor.published_to_properties
  refine ⟨rebuilt, fun text manifest done descriptor member => ?_⟩
  exact rebuilt descriptor (Manifest.read_descriptors_reachable done member)

/-- A password whose default is a box, declared for a protocol that is then described anew. -/
def rehearsedSecret : Parameter :=
  ((Parameter.ofSignature "proxy-password" "v").withDefault (.boxed (.string "none"))).withFlags
    { register := true }

theorem introspection_reproduces_rehearsed :
    (∃ descriptor : Descriptor, descriptor.Reachable ∧
      descriptor.parameters.map Parameter.default = [some (.boxed (.string "none"))] ∧
      descriptor.parameters.map (fun parameter => parameter.flags.secret) = [true] ∧
      ofProperties descriptor.name descriptor.toProperties = .ok descriptor) ∧
    Manifest.read Manifest.rehearsedManifest.text = .ok Manifest.rehearsedManifest ∧
      ofProperties "irc" Manifest.rehearsedProtocol.toProperties
        = .ok Manifest.rehearsedProtocol := by
  have bare : ofName "irc" = .ok { name := "irc", validName := by decide } := dif_pos (by decide)
  have secret : rehearsedSecret.Reachable :=
    ((Parameter.Reachable.ofSignature "proxy-password" "v").withDefault _).withFlags _
  have reachable := (Reachable.ofName bare).withParameter secret
  have read := Manifest.rehearsed_manifest_built.kept.legible.read_text
  refine ⟨⟨_, reachable, rfl, by decide, introspection_reproduces.1 _ reachable⟩, read, ?_⟩
  exact introspection_reproduces.2 _ _ read _ List.mem_cons_self

end Descriptor

end ConnectionManager
