import ConnectionManager.Manager.Basic
import ConnectionManager.Proofs.Bus.Elements
import ConnectionManager.Proofs.Manager.Ownership

/-!
When a manager can claim its name. Settings are accepted if the name of the manager and the base are
valid each for itself, but the names that are claimed are made of both, and one of them is a path.
Bases may have hyphens and paths may not, and a base may be so long that nothing can be added to it.
Apart from that, a manager with settings that were accepted gets its name wherever it is free
(`accepted_settings_register`).
-/

namespace ConnectionManager

namespace ObjectPath

theorem text_characters (path : ObjectPath) : ∀ character ∈ path.text.toList,
    character = '/' ∨ PathElement.isCharacter character = true := by
  intro character member
  rcases path.valid with lone | ⟨inner, shape, valid⟩
  · rw [lone] at member
    exact .inl (List.mem_singleton.1 member)
  · rw [shape] at member
    rcases List.mem_cons.1 member with slash | inside
    · exact .inl slash
    · rcases Text.mem_pieces (· == '/') inside with separator | ⟨piece, among, within⟩
      · exact .inl (by simpa using separator)
      · have element := List.all_eq_true.1 valid piece among
        exact .inr (List.all_eq_true.1 (Bool.and_eq_true_iff.1 element).2 character within)

end ObjectPath

namespace BusNames

variable {base manager : String} {elements : List String} {names : BusNames} {context : Context}

theorem of_elements_eq (base : String) (elements : List String) :
    (∃ message, ofElements base elements = .error ⟨.invalidArgument, message⟩) ∨
      ∃ names, ofElements base elements = .ok names ∧
        names.busName = ".".intercalate (base :: elements) ∧
        names.objectPath.text = "/".intercalate (basePath base :: elements) := by
  unfold ofElements
  by_cases accepted : ObjectPath.isValid ("/".intercalate (basePath base :: elements)) = true
  · rw [ObjectPath.of_string_valid accepted]
    exact .inr ⟨_, rfl, rfl, rfl⟩
  · rw [ObjectPath.ofString, ObjectPath.ofString?, dif_neg accepted]
    exact .inl ⟨_, rfl⟩

theorem hyphen_refused (hyphen : '-' ∈ base.toList) (elements : List String) :
    ∃ message, ofElements base elements = .error ⟨.invalidArgument, message⟩ := by
  refine (of_elements_eq base elements).resolve_right ?_
  rintro ⟨names, _, _, text⟩
  have inside : '-' ∈ names.objectPath.text.toList := by
    rw [text, intercalate_text rfl, base_path_text]
    exact List.mem_append_left _ (List.mem_cons_of_mem _ (List.mem_map.2 ⟨'-', hyphen, rfl⟩))
  rcases names.objectPath.text_characters '-' inside with slash | word
  · exact absurd slash (by decide)
  · exact absurd word (by decide)

theorem claim_granted (valid : isValidBusName names.busName = true)
    (immediate : context.arbitration = .immediate)
    (free : context.bus.owners.find? names.busName = none) :
    ∃ next, names.claim context = (.ok (), next) ∧ names.Claimed context next := by
  refine (names.claim_cases context).resolve_left ?_
  rintro ⟨failure, failed⟩
  rw [claim, if_pos valid, Context.requestName, immediate] at failed
  simp only [Bus.requestName, Bus.requestNameFor, free, claimFailure] at failed
  cases failed

theorem claim_invalid (invalid : ¬ isValidBusName names.busName = true) :
    ∃ message, names.claim context = (.error ⟨.invalidArgument, message⟩, context) := by
  rw [claim, if_neg invalid]
  exact ⟨_, rfl⟩

end BusNames

namespace ManagerConfig

variable {config : ManagerConfig}

theorem validate_ok_iff : config.validate = .ok () ↔
    isValidManagerName config.name = true ∧ isValidBusName config.busBase = true := by
  unfold validate
  cases isValidManagerName config.name <;> cases isValidBusName config.busBase <;> simp

def managerBusName (config : ManagerConfig) : String :=
  ".".intercalate [config.busBase, "ConnectionManager", config.name]

/-- The base can begin a path, and leaves enough room for the rest of the bus name. -/
structure Registrable (config : ManagerConfig) : Prop where
  noHyphen : '-' ∉ config.busBase.toList
  short : config.busBase.utf8ByteSize + config.name.utf8ByteSize + 19 ≤ busNameLimit

theorem manager_bus_name_size (config : ManagerConfig) : config.managerBusName.utf8ByteSize
    = config.busBase.utf8ByteSize + config.name.utf8ByteSize + 19 := by
  have between : ".ConnectionManager.".utf8ByteSize = 19 := by decide
  have written : config.managerBusName = config.busBase ++ ".ConnectionManager." ++ config.name := by
    simp [managerBusName, ← String.toList_inj]
  rw [written, String.utf8ByteSize_append, String.utf8ByteSize_append, between]
  omega

/-- Which names settings that were accepted lead to, if they lead to any. -/
theorem names_of_accepted (valid : config.validate = .ok ()) :
    ('-' ∈ config.busBase.toList ∧
      ∃ message, BusNames.ofManager config.busBase config.name = .error ⟨.invalidArgument, message⟩) ∨
    ('-' ∉ config.busBase.toList ∧
      ∃ names, BusNames.ofManager config.busBase config.name = .ok names ∧
        names.busName = config.managerBusName ∧
        (isValidBusName names.busName = true ↔ config.Registrable)) := by
  obtain ⟨validName, validBase⟩ := validate_ok_iff.1 valid
  have checked : BusNames.checkManager config.name = .ok () := if_pos validName
  have formed : BusNames.ofManager config.busBase config.name
      = BusNames.ofElements config.busBase ["ConnectionManager", config.name] := by
    rw [BusNames.ofManager, checked]
    exact pure_bind () _
  rw [formed]
  by_cases hyphen : '-' ∈ config.busBase.toList
  · exact .inl ⟨hyphen, BusNames.hyphen_refused hyphen _⟩
  · right
    have elements : ∀ element ∈ ["ConnectionManager", config.name], IsElement element.toList := by
      simp only [List.forall_mem_cons]
      exact ⟨is_element_cons (.inl rfl) (by decide), manager_name_element validName, by simp⟩
    obtain ⟨names, made, mirrored⟩ := BusNames.of_elements_mirrored validBase hyphen elements
    have called : names.busName = config.managerBusName := by
      rcases BusNames.of_elements_eq config.busBase ["ConnectionManager", config.name] with
        ⟨_, failed⟩ | ⟨other, madeToo, busName, _⟩
      · rw [made] at failed
        cases failed
      · rw [made] at madeToo
        cases madeToo
        exact busName
    refine ⟨hyphen, names, made, called, mirrored.valid.trans ?_⟩
    rw [called, manager_bus_name_size]
    exact ⟨fun short => ⟨hyphen, short⟩, Registrable.short⟩

theorem names_valid_iff (valid : config.validate = .ok ()) :
    (∃ names, BusNames.ofManager config.busBase config.name = .ok names ∧
      isValidBusName names.busName = true) ↔ config.Registrable := by
  rcases names_of_accepted valid with ⟨hyphen, message, refused⟩ | ⟨_, names, made, _, fits⟩
  · rw [refused]
    refine ⟨fun ⟨names, made, _⟩ => ?_, fun registrable => absurd hyphen registrable.noHyphen⟩
    cases made
  · rw [made, ← fits]
    refine ⟨fun ⟨other, same, accepted⟩ => ?_, fun accepted => ⟨names, rfl, accepted⟩⟩
    cases same
    exact accepted

end ManagerConfig

namespace Manager

variable {φ : Type} {config : ManagerConfig} {manager : Manager φ} {context : Context}

theorem register_unnamed (settings : manager.config = config) (unnamed : manager.names = none) :
    manager.register context = match BusNames.ofManager config.busBase config.name with
      | .error failure => ⟨.error failure, manager, context⟩
      | .ok names => match names.claim context with
          | (.error failure, next) => ⟨.error failure, manager, next⟩
          | (.ok (), next) => ⟨.ok names, { manager with names := some names }, next⟩ := by
  rw [register, unnamed, ← settings]
  rfl

theorem register_granted (valid : config.validate = .ok ()) (settings : manager.config = config)
    (unnamed : manager.names = none) (registrable : config.Registrable)
    (immediate : context.arbitration = .immediate)
    (free : context.bus.owners.find? config.managerBusName = none) :
    ∃ names next, manager.register context = ⟨.ok names, { manager with names := some names }, next⟩ ∧
      names.busName = config.managerBusName ∧ names.Claimed context next := by
  rcases ManagerConfig.names_of_accepted valid with ⟨hyphen, _⟩ | ⟨_, names, made, called, fits⟩
  · exact absurd hyphen registrable.noHyphen
  · obtain ⟨next, claimed, taken⟩ :=
      BusNames.claim_granted (fits.2 registrable) immediate (called ▸ free)
    refine ⟨names, next, ?_, called, taken⟩
    rw [register_unnamed settings unnamed, made]
    dsimp only
    rw [claimed]

theorem register_impossible (valid : config.validate = .ok ()) (settings : manager.config = config)
    (unnamed : manager.names = none) (unusable : ¬ config.Registrable) : ∃ message,
      manager.register context = ⟨.error ⟨.invalidArgument, message⟩, manager, context⟩ := by
  rw [register_unnamed settings unnamed]
  rcases ManagerConfig.names_of_accepted valid with
    ⟨_, message, refused⟩ | ⟨_, names, made, _, fits⟩
  · rw [refused]
    exact ⟨message, rfl⟩
  · obtain ⟨message, refused⟩ :=
      @BusNames.claim_invalid names context fun accepted => unusable (fits.1 accepted)
    rw [made]
    dsimp only
    rw [refused]
    exact ⟨message, rfl⟩

/-- Settings that were accepted lead to a valid bus name exactly if the base has no hyphen and leaves
enough room. Then a manager that has no name yet gets it from a bus that decides at once and on which
it is free; otherwise the registration is refused, and nothing has changed. -/
theorem accepted_settings_register (valid : config.validate = .ok ()) :
    ((∃ names, BusNames.ofManager config.busBase config.name = .ok names ∧
      isValidBusName names.busName = true) ↔ config.Registrable) ∧
    ∀ (manager : Manager φ) (context : Context), manager.config = config → manager.names = none →
      (config.Registrable → context.arbitration = .immediate →
        context.bus.owners.find? config.managerBusName = none →
        ∃ names next,
          manager.register context = ⟨.ok names, { manager with names := some names }, next⟩ ∧
          names.busName = config.managerBusName ∧ names.Claimed context next) ∧
      (¬ config.Registrable → ∃ message,
        manager.register context = ⟨.error ⟨.invalidArgument, message⟩, manager, context⟩) :=
  ⟨ManagerConfig.names_valid_iff valid, fun _ _ settings unnamed =>
    ⟨register_granted valid settings unnamed, register_impossible valid settings unnamed⟩⟩

theorem accepted_settings_register_rehearsed : ({} : ManagerConfig).validate = .ok () ∧
    ({} : ManagerConfig).Registrable ∧
    ∃ names next, ({ config := {} } : Manager Empty).register .start
        = ⟨.ok names, { config := {}, names := some names }, next⟩ ∧
      names.Claimed .start next := by
  have valid : ({} : ManagerConfig).validate = .ok () := by decide +kernel
  have registrable : ({} : ManagerConfig).Registrable := ⟨by decide, by decide +kernel⟩
  obtain ⟨done, _⟩ := (accepted_settings_register valid).2 ({ config := {} } : Manager Empty) .start
    rfl rfl
  obtain ⟨names, next, registered, _, claimed⟩ := done registrable rfl rfl
  exact ⟨valid, registrable, names, next, registered, claimed⟩

/-- A base with a hyphen is a valid bus name and is accepted, but there is no path below it. -/
theorem hyphenated_base_accepted :
    ({ busBase := "org.my-company" } : ManagerConfig).validate = .ok () ∧
    Context.start.bus.owners.find? "org.my-company.ConnectionManager.example" = none ∧
    BusNames.ofManager "org.my-company" "example" = .error ⟨.invalidArgument,
      "\"/org/my-company/ConnectionManager/example\" is not a valid object path"⟩ ∧
    (({ config := { busBase := "org.my-company" } } : Manager Empty).register .start).answer
      = .error ⟨.invalidArgument,
        "\"/org/my-company/ConnectionManager/example\" is not a valid object path"⟩ := by
  decide +kernel

end Manager

end ConnectionManager
