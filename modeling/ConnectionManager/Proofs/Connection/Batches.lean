import ConnectionManager.Proofs.Connection.Repositories
import ConnectionManager.Proofs.Handle.Batches

/-!
Batches of handles that clients ask for through a connection. One that fails leaves the connection
as it was; one that succeeds changes one repository, and in it the shares of one client
(`batches_atomic`).
-/

namespace ConnectionManager.Connection

variable {φ : Type} {connection : Connection φ} {kind : HandleKind} {repository : Repository}

/-- A call that failed left the connection as it was; one that succeeded changed the repository of
one kind, and did there what it should. -/
def Atomic {α : Type} (connection : Connection φ) (kind : HandleKind)
    (result : Outcome α × Connection φ) (done : α → Repository → Prop) : Prop :=
  match result.1 with
  | .error _ => result.2 = connection
  | .ok value => ∃ next,
      result.2 = { connection with repositories := connection.repositories.set kind next } ∧
        result.2.repositories.get kind = .ok next ∧ done value next

theorem on_repository_atomic {α : Type} {batch : Repository → Repository.Batch α}
    {done : α → Repository → Prop} (found : connection.repositories.get kind = .ok repository)
    (atomic : (batch repository).Atomic repository done) :
    connection.Atomic kind (connection.onRepository kind batch) done := by
  unfold onRepository
  rw [found]
  split
  · rfl
  · contradiction
  · rename_i known
    cases known
    cases result : batch repository with
    | mk outcome next =>
    rw [result] at atomic
    cases outcome with
    | error failure =>
        have same : next = repository := atomic
        rw [same]
        change { connection with repositories := connection.repositories.set kind repository }
          = connection
        rw [Repositories.set_get found]
    | ok value => exact ⟨next, rfl, Repositories.get_set found, atomic⟩

variable [ChannelFactory φ] {tokens : List Token}

/-- On every connection that a run leads to, holding, releasing and requesting handles succeed or
fail as a whole. After a success the client has one share more, or one less, for every occurrence of
a handle; all other holds and all internal references are as before, and a handle that was valid is
valid as long as any of them keeps it alive. -/
theorem batches_atomic (works : FactoriesWork Repositories.Step φ) {start connection : Connection φ}
    (sound : start.repositories.Sound) (calls : Calls Repositories.Step tokens start connection)
    {kind : HandleKind} {repository : Repository}
    (found : connection.repositories.get kind = .ok repository) (plain : repository.Plain)
    (client : String) :
    (∀ handles, connection.Atomic kind (connection.holdHandles kind handles client) fun _ next =>
      repository.Lasting next ∧ ∀ handle keeper, next.share handle keeper
        = repository.share handle keeper + occurrences handles (.client client) handle keeper) ∧
    (∀ handles, connection.Atomic kind (connection.releaseHandles kind handles client) fun _ next =>
      repository.Lasting next ∧ ∀ handle keeper, repository.share handle keeper
        = next.share handle keeper + occurrences handles (.client client) handle keeper) ∧
    ∀ ids, connection.Atomic kind (connection.requestHandles kind ids client) fun handles next =>
      repository.Lasting next ∧ ∀ handle keeper, next.share handle keeper
        = repository.share handle keeper + occurrences handles (.client client) handle keeper := by
  have reached : repository.Sound := (calls_moves works calls).sound sound kind repository found
  refine ⟨?_, ?_, ?_⟩
  · intro handles
    exact on_repository_atomic found (reached.hold_all plain client handles)
  · intro handles
    exact on_repository_atomic found (reached.release_all plain kind client handles)
  · intro ids
    exact on_repository_atomic found (reached.request_all plain client ids)

/-- A client asks for three groups, of which the last has no name, and for one group twice. -/
theorem batches_atomic_rehearsed :
    ∃ groups, rehearsedUp.repositories.get .group = .ok groups ∧ groups.Plain ∧
      (∃ failure, (rehearsedUp.requestHandles .group ["friends", "family", ""] ":1.2")
        = (.error failure, rehearsedUp)) ∧
      ∃ next : Repository, (rehearsedUp.requestHandles .group ["friends", "friends"] ":1.2").1 = .ok [1, 1] ∧
        next.share 1 (.client ":1.2") = groups.share 1 (.client ":1.2") + 2 := by
  obtain ⟨groups, found, plain⟩ : ∃ groups, rehearsedUp.repositories.get .group = .ok groups ∧
      groups.Plain := ⟨_, rfl, trivial⟩
  obtain ⟨_, _, requests⟩ := batches_atomic postponer_works
    Repositories.standard_sound rehearsed_up_calls found plain ":1.2"
  have unnamed : (rehearsedUp.requestHandles .group ["friends", "family", ""] ":1.2").1
      = .error HandleFailure.emptyIdentifier := rfl
  have twice : (rehearsedUp.requestHandles .group ["friends", "friends"] ":1.2").1
      = .ok [1, 1] := rfl
  have undone := requests ["friends", "family", ""]
  rw [Atomic, unnamed] at undone
  have given := requests ["friends", "friends"]
  rw [Atomic, twice] at given
  obtain ⟨next, _, _, _, shares⟩ := given
  exact ⟨groups, found, plain, ⟨_, Prod.ext unnamed undone⟩, next, twice, shares 1 (.client ":1.2")⟩

end ConnectionManager.Connection
