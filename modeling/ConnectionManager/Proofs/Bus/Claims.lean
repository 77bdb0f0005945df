import ConnectionManager.Bus.Names

/-!
Claims on names of the bus. A claim takes only a name that nobody owns, a release takes only its own
name from this process (`find_release`), and nothing that anybody else owns changes hands.
-/

namespace ConnectionManager

namespace Context

def Owns (context : Context) (name : String) : Prop :=
  context.bus.owners.find? name = some context.bus.ownName

instance (context : Context) (name : String) : Decidable (context.Owns name) :=
  inferInstanceAs (Decidable (context.bus.owners.find? name = some context.bus.ownName))

/-- The bus gives a name that this process does not own to somebody else or to nobody. -/
theorem name_owner_ne {context : Context} {name : String} (unowned : ¬ context.Owns name)
    (different : name ≠ context.bus.ownName) :
    context.bus.nameOwner? name ≠ some context.bus.ownName := by
  intro owner
  unfold Bus.nameOwner? at owner
  split at owner
  · exact different (Option.some.inj owner)
  · exact unowned owner

end Context

namespace BusNames

variable {names : BusNames} {context next : Context} {name : String}

/-- A claim that succeeds takes a name that nobody owned, and nothing else. -/
structure Claimed (names : BusNames) (context next : Context) : Prop where
  unowned : context.bus.owners.find? names.busName = none
  owned : next.Owns names.busName
  others : ∀ name, context.Owns name → next.Owns name

theorem claim_cases (names : BusNames) (context : Context) :
    (∃ failure, names.claim context = (.error failure, context)) ∨
      ∃ next, names.claim context = (.ok (), next) ∧ names.Claimed context next := by
  obtain ⟨bus, anonymous, arbitration⟩ := context
  unfold claim
  split
  · cases arbitration with
    | queueing => exact .inl ⟨_, rfl⟩
    | immediate =>
        cases owner : bus.owners.find? names.busName with
        | some other =>
            simp only [Context.requestName, Bus.requestName, Bus.requestNameFor, owner]
            by_cases own : other = bus.ownName <;> simp [own, claimFailure]
        | none =>
            right
            simp only [Context.requestName, Bus.requestName, Bus.requestNameFor, owner, claimFailure]
            refine ⟨_, rfl, owner, ?_, fun name owned => ?_⟩
            · simp [Context.Owns, Bus.announce, Catalog.find_insert]
            · unfold Context.Owns at owned ⊢
              simp only [Bus.announce, Catalog.find_insert]
              split
              · rfl
              · exact owned
  · exact .inl ⟨_, rfl⟩

theorem for_connection_counts (context : Context) (base manager protocol : String)
    (unique : Option String) :
    (forConnection context base manager protocol unique).2 = context ∨
      (forConnection context base manager protocol unique).2 = context.nextAnonymous.2 := by
  unfold forConnection
  split
  · exact .inl rfl
  · split
    · exact .inl rfl
    · exact .inr rfl

theorem find_release (names : BusNames) (context : Context) (name : String) :
    (names.release context).bus.owners.find? name
      = if name = names.busName ∧ context.Owns names.busName then none
        else context.bus.owners.find? name := by
  unfold release
  simp only [Bus.releaseName]
  by_cases owned : context.bus.owners.find? names.busName = some context.bus.ownName
  · simp [owned, Context.Owns, Bus.dropName, Bus.announce, Catalog.find_erase]
  · simp [owned, Context.Owns]

theorem release_clients (names : BusNames) (context : Context) :
    (names.release context).bus.ownName = context.bus.ownName ∧
      (names.release context).bus.clients = context.bus.clients := by
  unfold release
  simp only [Bus.releaseName]
  split <;> exact ⟨rfl, rfl⟩

theorem release_unowned (names : BusNames) (context : Context) :
    ¬ (names.release context).Owns names.busName := by
  rw [Context.Owns, find_release, (names.release_clients context).1]
  split
  · exact nofun
  · rename_i other
    exact fun owned => other ⟨rfl, owned⟩

theorem release_owns (other : name ≠ names.busName) (owned : context.Owns name) :
    (names.release context).Owns name := by
  rw [Context.Owns, find_release, (names.release_clients context).1, if_neg fun both => other both.1]
  exact owned

theorem release_name_owner (other : name ≠ names.busName) :
    (names.release context).bus.nameOwner? name = context.bus.nameOwner? name := by
  have kept := names.find_release context name
  rw [if_neg fun both => other both.1] at kept
  rw [Bus.nameOwner?, Bus.nameOwner?, kept, (names.release_clients context).2]

end BusNames

end ConnectionManager
