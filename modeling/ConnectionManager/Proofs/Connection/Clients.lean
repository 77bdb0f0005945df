import ConnectionManager.Proofs.Connection.Repositories
import ConnectionManager.Proofs.Handle.Clients

/-!
Clients of one connection. Handles are held, released and requested for one client at a time, and
clients leave one at a time; no other client notices (`clients_undisturbed`).
-/

namespace ConnectionManager.Connection

variable {φ : Type} {connection before after : Connection φ} {kind : HandleKind}
  {client other : String}

theorem Moves.honest (moves : Moves before after) (sound : before.repositories.Sound)
    (honest : before.repositories.Honest) : after.repositories.Honest := by
  let property (repositories : Repositories) := repositories.Sound ∧ repositories.Honest
  have steps : ∀ {repositories next : Repositories}, repositories.Step next →
      property repositories → property next :=
    fun step kept => ⟨step.sound kept.1, step.honest kept.1 kept.2⟩
  have ends : ∀ repositories : Repositories, property repositories.invalidateAll :=
    fun _ => ⟨Repositories.invalidate_all_sound, Repositories.invalidate_all_honest⟩
  exact (moves.keeps steps ends ⟨sound, honest⟩).2

/-- A batch for one client, on whatever repository and with whatever outcome. -/
theorem on_repository_undisturbed {α : Type} {batch : Repository → Repository.Batch α}
    (sound : connection.repositories.Sound) (honest : connection.repositories.Honest)
    (apart : other ≠ client)
    (steps : ∀ repository : Repository, repository.StepsFor client (batch repository).repository) :
    connection.repositories.Undisturbed other
      (connection.onRepository kind batch).2.repositories := by
  unfold onRepository
  split
  · exact Repositories.undisturbed_self honest other
  · exact Repositories.undisturbed_self honest other
  · rename_i repository _ found
    have spared := (steps repository).undisturbed (sound kind repository found)
      (honest kind repository found) apart
    exact Repositories.undisturbed_set honest found spared.1

theorem vanished_undisturbed (sound : connection.repositories.Sound)
    (honest : connection.repositories.Honest) (apart : other ≠ client) :
    connection.repositories.Undisturbed other (connection.clientVanished client).repositories := by
  unfold clientVanished
  split
  · exact Repositories.undisturbed_self honest other
  · exact Repositories.undisturbed_vanished sound honest apart

variable [ChannelFactory φ] {tokens : List Token}

/-- On every connection that a run leads to, whatever one client does with handles of any kind, with
success or without, and also when it leaves: every hold of another client is as before, and every
handle that the other client holds is valid and stands for what it stood for. -/
theorem clients_undisturbed (works : FactoriesWork Repositories.Step φ)
    {start connection : Connection φ} (sound : start.repositories.Sound)
    (honest : start.repositories.Honest) (calls : Calls Repositories.Step tokens start connection)
    {client other : String} (apart : other ≠ client) :
    (∀ kind handles, connection.repositories.Undisturbed other
      (connection.holdHandles kind handles client).2.repositories) ∧
    (∀ kind handles, connection.repositories.Undisturbed other
      (connection.releaseHandles kind handles client).2.repositories) ∧
    (∀ kind ids, connection.repositories.Undisturbed other
      (connection.requestHandles kind ids client).2.repositories) ∧
    connection.repositories.Undisturbed other (connection.clientVanished client).repositories := by
  have moves := calls_moves works calls
  have reached := Moves.sound moves sound
  have stillHonest := moves.honest sound honest
  refine ⟨fun kind handles => ?_, fun kind handles => ?_, fun kind ids => ?_, ?_⟩
  · exact on_repository_undisturbed reached stillHonest apart fun repository =>
      repository.hold_all_for client handles
  · exact on_repository_undisturbed reached stillHonest apart fun repository =>
      repository.release_all_for kind client handles
  · exact on_repository_undisturbed reached stillHonest apart fun repository =>
      repository.request_all_for client ids
  · exact vanished_undisturbed reached stillHonest apart

/-- A client asks for the handle that another client has and leaves at once. -/
theorem clients_undisturbed_rehearsed :
    ∃ shared left : Connection Postponer, Calls Repositories.Step [] rehearsed shared ∧
      shared = (rehearsedContact.requestHandles .contact ["bob"] ":1.3").2 ∧
      left = shared.clientVanished ":1.3" ∧
      shared.repositories.contacts.holds 2 ":1.2" = 1 ∧
      left.repositories.contacts.holds 2 ":1.3" = 0 ∧
      left.repositories.contacts.holds 2 ":1.2" = 1 ∧
      left.repositories.contacts.inspect 2 = .ok "bob" := by
  obtain ⟨shared, left, given, gone, held, let_go, named⟩ :
      ∃ shared left : Connection Postponer,
        shared = (rehearsedContact.requestHandles .contact ["bob"] ":1.3").2 ∧
        left = shared.clientVanished ":1.3" ∧ shared.repositories.contacts.holds 2 ":1.2" = 1 ∧
        left.repositories.contacts.holds 2 ":1.3" = 0 ∧
        shared.repositories.contacts.inspect 2 = .ok "bob" :=
    ⟨_, _, rfl, rfl, rfl, rfl, rfl⟩
  have calls : Calls Repositories.Step [] rehearsed shared := by
    rw [given]
    exact .next rehearsed_contact_calls
      (.requestHandles rehearsedContact .start .contact ["bob"] ":1.3")
  have apart : ":1.2" ≠ ":1.3" := by decide
  have spared := (clients_undisturbed postponer_works Repositories.standard_sound
    Repositories.standard_honest calls apart).2.2.2
  obtain ⟨next, found, spared⟩ := spared .contact shared.repositories.contacts rfl
  rw [← gone] at found
  cases found
  have still := (spared.holds 2).trans held
  obtain ⟨_, id, before, after⟩ := spared.kept 2 (by rw [still]; exact Nat.one_pos)
  rw [named] at before
  cases before
  exact ⟨shared, left, calls, given, gone, held, let_go, still, after⟩

end ConnectionManager.Connection
