import ConnectionManager.Proofs.Protocol.Properties

/-!
Descriptions that are built call by call. However a parameter is built, its flag for a default says
whether it has one, and however a description is built, passwords in it are secret.
-/

namespace ConnectionManager

namespace Parameter

/-- Parameters that are built up from a name and a signature. -/
inductive Built : Parameter → Prop
  | ofSignature (name signature : String) : Built (ofSignature name signature)
  | withFlags {before : Parameter} (built : Built before) (flags : ParameterFlags) :
      Built (before.withFlags flags)
  | withDefault {before : Parameter} (built : Built before) (value : Value) :
      Built (before.withDefault value)

variable {parameter : Parameter}

theorem guard_password_eq (parameter : Parameter) : ∃ secret, parameter.guardPassword
    = { parameter with flags := { parameter.flags with secret := secret } } := by
  unfold guardPassword
  split
  · exact ⟨true, rfl⟩
  · exact ⟨parameter.flags.secret, rfl⟩

theorem guard_password_name (parameter : Parameter) :
    parameter.guardPassword.name = parameter.name := by
  obtain ⟨secret, same⟩ := guard_password_eq parameter
  rw [same]

theorem guard_password_guarded (parameter : Parameter) :
    parameter.guardPassword.guardPassword = parameter.guardPassword := by
  by_cases password : isPasswordName parameter.name = true <;> simp [guardPassword, password]

theorem Announced.guard (announced : parameter.Announced) : parameter.guardPassword.Announced := by
  obtain ⟨secret, same⟩ := guard_password_eq parameter
  rw [same]
  exact announced

theorem Built.announced (built : parameter.Built) : parameter.Announced := by
  induction built with
  | ofSignature | withDefault => rfl
  | withFlags _ flags announced =>
      simpa [Announced, Parameter.withFlags, ParameterFlags.union] using announced

end Parameter

namespace Descriptor

/-- Descriptions that are built up from a name. The dictionary of a channel class is in order of
its names. -/
inductive Built : Descriptor → Prop
  | ofName {name : String} (validName : Protocol.isValidName name = true) :
      Built { name := name, validName := validName }
  | withEnglishName {before : Descriptor} (built : Built before) (text : String) :
      Built { before with declaredEnglishName := text }
  | withIcon {before : Descriptor} (built : Built before) (text : String) :
      Built { before with declaredIcon := text }
  | withVcardField {before : Descriptor} (built : Built before) (text : String) :
      Built { before with vcardField := text }
  | withInterfaces {before : Descriptor} (built : Built before) (texts : List String) :
      Built { before with interfaces := texts }
  | withConnectionInterfaces {before : Descriptor} (built : Built before) (texts : List String) :
      Built { before with connectionInterfaces := texts }
  | withParameter {before : Descriptor} (built : Built before) {parameter : Parameter}
      (made : parameter.Built) : Built (before.addParameter parameter)
  | withChannelClass {before : Descriptor} (built : Built before) {channelClass : ChannelClass}
      (ascending : Entries.Ascending channelClass.fixed.entries) :
      Built (before.addChannelClass channelClass)
  | withAvatars {before : Descriptor} (built : Built before) (limits : AvatarLimits) :
      Built { before with avatars := limits }
  | withAuthenticationTypes {before : Descriptor} (built : Built before) (texts : List String) :
      Built { before with authenticationTypes := texts }

variable {descriptor : Descriptor}

theorem guarded_guarded (descriptor : Descriptor) :
    descriptor.guarded.guarded = descriptor.guarded := by
  rw [guarded, guarded, List.map_map]
  congr 1
  exact List.map_congr_left fun parameter _ => parameter.guard_password_guarded

structure Kept (descriptor : Descriptor) : Prop where
  announced : ∀ parameter ∈ descriptor.parameters, parameter.Announced
  guarded : ∀ parameter ∈ descriptor.parameters, parameter.guardPassword = parameter
  ascending : ∀ channelClass ∈ descriptor.channelClasses,
    Entries.Ascending channelClass.fixed.entries

theorem Kept.guarded_eq (kept : descriptor.Kept) : descriptor.guarded = descriptor := by
  have same : descriptor.parameters.map Parameter.guardPassword = descriptor.parameters :=
    (List.map_congr_left kept.guarded).trans (List.map_id _)
  rw [Descriptor.guarded, same]

theorem Kept.add_parameter {parameter : Parameter} (kept : descriptor.Kept)
    (announced : parameter.Announced) : (descriptor.addParameter parameter).Kept := by
  constructor
  · intro other member
    rcases List.mem_append.1 member with old | new
    · exact kept.announced other old
    · rw [List.mem_singleton.1 new]
      exact announced.guard
  · intro other member
    rcases List.mem_append.1 member with old | new
    · exact kept.guarded other old
    · rw [List.mem_singleton.1 new]
      exact parameter.guard_password_guarded
  · exact kept.ascending

theorem Kept.add_channel_class {channelClass : ChannelClass} (kept : descriptor.Kept)
    (ascending : Entries.Ascending channelClass.fixed.entries) :
    (descriptor.addChannelClass channelClass).Kept := by
  refine ⟨kept.announced, kept.guarded, fun other member => ?_⟩
  rcases List.mem_append.1 member with old | new
  · exact kept.ascending other old
  · rwa [List.mem_singleton.1 new]

theorem Built.kept (built : descriptor.Built) : descriptor.Kept := by
  induction built with
  | ofName => exact ⟨by simp, by simp, by simp⟩
  | withParameter _ made kept => exact kept.add_parameter made.announced
  | withChannelClass _ ascending kept => exact kept.add_channel_class ascending
  | withEnglishName _ _ kept | withIcon _ _ kept | withVcardField _ _ kept
  | withInterfaces _ _ kept | withConnectionInterfaces _ _ kept | withAvatars _ _ kept
  | withAuthenticationTypes _ _ kept => exact ⟨kept.announced, kept.guarded, kept.ascending⟩

end Descriptor

end ConnectionManager
