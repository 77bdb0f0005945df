import ConnectionManager.Proofs.Connection.Bookkeeping
import ConnectionManager.Proofs.Roster.Balance

/-!
The books of a roster. What its views claim on contacts it has taken, whatever it is told and asked
for, so a roster gives back only references of its own.
-/

namespace ConnectionManager

namespace Repository

theorem intern_usable {repository next : Repository} {id : String} {handle : Handle}
    (done : repository.intern id = .ok (handle, next)) :
    next.isUsable = repository.isUsable := by
  cases intern_by_form done with
  | dynamic outcome => exact congrArg (! ·) (DynamicRepository.intern_invalid outcome)
  | guarded refused outcome => exact congrArg (! ·) (DynamicRepository.intern_invalid outcome)
  | fixed kept => rw [kept.1]

theorem dealings_reckoning (owned : Handle → Nat) (start : Repository) :
    Reckoning fun repository claims =>
      ∃ left, Dealings owned start left repository ∧ ∀ key, claims key ≤ left key where
  taken := by
    rintro repository next handle claims done ⟨left, dealings, enough⟩
    exact ⟨_, dealings.next (.referenced done) (add_reference_taken done).usable,
      fun key => Nat.add_le_add_right (enough key) _⟩
  interned := by
    rintro repository next id handle claims done ⟨left, dealings, enough⟩
    exact ⟨_, dealings.next (.interned done) (intern_usable done),
      fun key => Nat.add_le_add_right (enough key) _⟩
  returned := by
    rintro repository next handle claims done ⟨left, dealings, enough⟩
    have took : 0 < left handle := by
      have claimed := enough handle
      simp only [single, if_pos] at claimed
      omega
    exact ⟨_, dealings.next (.dropped (fun _ => took) done) (drop_reference_returned done).usable,
      fun key => Nat.le_sub_of_add_le (enough key)⟩
  refused := by
    rintro repository handle claims failure _ ⟨left, dealings, enough⟩
    exact ⟨left, dealings, fun key => Nat.le_of_add_right_le (enough key)⟩

end Repository

namespace Roster

variable {β : Type} {roster : Roster β} {owned : Handle → Nat}

/-- A roster owns the references that its views claim, and perhaps more; before its arrival it has no
views. -/
structure Owns (roster : Roster β) (owned : Handle → Nat) : Prop where
  unopened : roster.phase = .waiting → roster.Unopened
  enough : ∀ key, roster.claims key ≤ owned key

theorem new_owns (backend : β) : ({ backend } : Roster β).Owns fun _ => 0 := by
  have unopened : ({ backend } : Roster β).Unopened := ⟨fun _ => rfl, fun _ => rfl⟩
  exact ⟨fun _ => unopened, fun key => Nat.le_of_eq (unopened.claims key)⟩

theorem Owns.conserved {repositories : Repositories} {next : RosterCall β} (owns : roster.Owns owned)
    (conserving : RosterCall.Conserving { roster, repositories } next)
    (unopened : next.roster.phase = .waiting → next.roster.Unopened) (apart : Handle → Nat) :
    ∃ left, next.roster.Owns left ∧
      Repository.Dealings (fun key => owned key + apart key) repositories.contacts
        (fun key => left key + apart key) next.repositories.contacts := by
  obtain ⟨left, dealings, enough⟩ := conserving.contacts
    (Repository.dealings_reckoning (fun key => owned key + apart key) repositories.contacts) apart
    ⟨_, .refl _ _, fun key => Nat.add_le_add_right (owns.enough key) _⟩
  have claimed : ∀ key, next.roster.claims key + apart key ≤ left key := enough
  have apartLeft : (fun key => left key - apart key + apart key) = left :=
    funext fun key => Nat.sub_add_cancel (Nat.le_of_add_left_le (claimed key))
  refine ⟨fun key => left key - apart key,
    ⟨unopened, fun key => Nat.le_sub_of_add_le (claimed key)⟩, ?_⟩
  rw [apartLeft]
  exact dealings

variable [RosterBackend β]

theorem Owns.request (owns : roster.Owns owned) (request : ChannelRequest) (token : Token)
    (surroundings : Surroundings) (repositories : Repositories) :
    (ChannelFactory.request roster request token surroundings repositories).Orderly Owns
      repositories.contacts owned (fun _ => 0) (fun _ => 0) :=
  owns.conserved (RosterCall.request_conserving surroundings { roster, repositories } request token)
    (RosterBooks.request_unopened surroundings _ request token owns.unopened) fun _ => 0

theorem Owns.hook (owns : roster.Owns owned) (moment : FactoryHook) (surroundings : Surroundings)
    (repositories : Repositories) :
    (ChannelFactory.hook roster moment surroundings repositories).Orderly Owns
      repositories.contacts owned (fun _ => 0) (fun _ => 0) := by
  cases moment with
  | connecting => exact ⟨owned, owns, .refl _ _⟩
  | connected => exact ⟨owned, owns, .refl _ _⟩
  | disconnected => exact ⟨owned, ⟨nofun, owns.enough⟩, .refl _ _⟩
  | closeAll =>
      have closed := RosterCall.close_all_closed ({ roster, repositories } : RosterCall β)
      exact owns.conserved closed.toConserving (fun _ => closed.unopened) fun _ => 0

/-- The books of a connection whose factories are rosters. -/
def books : Bookkeeping (Roster β) where
  owns := Owns
  request _ _ owns := owns.request
  hook _ _ owns := owns.hook

theorem visit_orderly {use : RosterUse β} {factory : Roster β}
    {result : FactoryCall (Roster β) Unit} {surroundings : Surroundings}
    {repositories : Repositories}
    (called : Lodging.own.visit use factory surroundings repositories = some result)
    (owns : factory.Owns owned) (apart : Handle → Nat) :
    result.Orderly Owns repositories.contacts owned apart apart := by
  cases called
  exact owns.conserved
    (RosterCall.perform_conserving surroundings { roster := factory, repositories } use owns.unopened)
    (RosterBooks.use_unopened surroundings _ use owns.unopened) apart

end Roster

end ConnectionManager
