import ConnectionManager.Proofs.Connection.Easing
import ConnectionManager.Proofs.Handle.Dealings

/-!
Books on the references that the factories of a connection take on contacts. As long as they and the
protocol code give back only what they took, a reference that the connection keeps besides stays
counted through all that is done for channels and for clients (`Bookkeeping.Bears`).
-/

namespace ConnectionManager

open Repository (Dealings Secured)

/-- A call in which references are given back only if the factory had taken them or its caller had
`lent` them; some may be handed over to the caller. -/
def FactoryCall.Orderly {φ α : Type} (call : FactoryCall φ α) (owns : φ → (Handle → Nat) → Prop)
    (contacts : Repository) (owned lent handed : Handle → Nat) : Prop :=
  ∃ left, owns call.factory left ∧
    Dealings (fun key => owned key + lent key) contacts (fun key => left key + handed key)
      call.repositories.contacts

/-- Books on what each factory has taken and not given back. No factory gives back anything else. -/
structure Bookkeeping (φ : Type) [ChannelFactory φ] where
  owns : φ → (Handle → Nat) → Prop
  request : ∀ factory owned, owns factory owned →
    ∀ (request : ChannelRequest) token surroundings repositories,
      (ChannelFactory.request factory request token surroundings repositories).Orderly owns
        repositories.contacts owned (fun _ => 0) (fun _ => 0)
  hook : ∀ factory owned, owns factory owned →
    ∀ (moment : FactoryHook) surroundings repositories,
      (ChannelFactory.hook factory moment surroundings repositories).Orderly owns
        repositories.contacts owned (fun _ => 0) (fun _ => 0)

namespace Bookkeeping

variable {φ : Type} [ChannelFactory φ] {books : Bookkeeping φ}

/-- What factories own together. -/
inductive Owning (books : Bookkeeping φ) : List φ → (Handle → Nat) → Prop
  | nil : Owning books [] fun _ => 0
  | cons {factory : φ} {factories : List φ} {owned total : Handle → Nat}
      (own : books.owns factory owned) (rest : Owning books factories total) :
      Owning books (factory :: factories) fun key => owned key + total key

theorem Owning.at {factories : List φ} {total : Handle → Nat} {index : Nat} {factory : φ}
    (owning : books.Owning factories total) (present : factories[index]? = some factory) :
    ∃ owned rest : Handle → Nat, books.owns factory owned ∧
      (total = fun key => rest key + owned key) ∧
      ∀ changed left, books.owns changed left →
        books.Owning (factories.set index changed) fun key => rest key + left key := by
  induction owning generalizing index with
  | nil => cases present
  | @cons first factories owned total own others induction =>
      cases index with
      | zero =>
          cases present
          refine ⟨owned, total, own, funext fun key => Nat.add_comm _ _, ?_⟩
          intro changed left owns
          have arranged : (fun key => left key + total key) = fun key => total key + left key :=
            funext fun key => Nat.add_comm _ _
          exact arranged ▸ Owning.cons owns others
      | succ index =>
          obtain ⟨mine, rest, owns, rfl, change⟩ := induction present
          refine ⟨mine, fun key => owned key + rest key, owns, ?_, ?_⟩
          · exact funext fun key => (Nat.add_assoc _ _ _).symm
          · intro changed left owns
            have arranged : (fun key => owned key + (rest key + left key))
                = fun key => owned key + rest key + left key :=
              funext fun key => (Nat.add_assoc _ _ _).symm
            exact arranged ▸ Owning.cons own (change changed left owns)

variable {own outside apart lent handed : Handle → Nat} {id : String}
  {normalize : String → Outcome String} {connection before after : Connection φ}

/-- Contacts count the references that the factories own, those that protocol code has `outside`,
and besides them the connection's `own`, whose handles stand for an identifier. -/
def Bears (books : Bookkeeping φ) (own : Handle → Nat) (id : String)
    (normalize : String → Outcome String) (outside : Handle → Nat) (connection : Connection φ) :
    Prop :=
  ∃ total, books.Owning connection.factories total ∧
    Secured own id normalize connection.repositories.contacts fun key => total key + outside key

theorem Bears.eased (before after : Connection φ) (eased : Connection.Eased before after)
    (bears : books.Bears own id normalize outside before) :
    books.Bears own id normalize outside after := by
  obtain ⟨pending, acts, _, rfl⟩ := eased
  exact bears

theorem Bears.taking {α : Type} {call : FactoryCall φ α} {index : Nat} {factory : φ}
    (bears : books.Bears own id normalize (fun key => apart key + lent key) connection)
    (present : connection.factories[index]? = some factory)
    (orderly : ∀ owned, books.owns factory owned →
      call.Orderly books.owns connection.repositories.contacts owned lent handed) :
    books.Bears own id normalize (fun key => apart key + handed key)
      (connection.taking index call) := by
  obtain ⟨total, owning, secured⟩ := bears
  obtain ⟨owned, rest, owns, rfl, change⟩ := owning.at present
  obtain ⟨left, keeps, dealings⟩ := orderly owned owns
  refine ⟨fun key => rest key + left key, change call.factory left keeps, ?_⟩
  have arranged : Secured own id normalize connection.repositories.contacts
      fun key => (rest key + apart key) + (owned key + lent key) := by
    simpa only [Nat.add_add_add_comm] using secured
  have dealt := arranged.dealings dealings
  change Secured own id normalize call.repositories.contacts _
  simpa only [Nat.add_add_add_comm] using dealt

theorem Bears.hook_all (bears : books.Bears own id normalize outside connection)
    (moment : FactoryHook) : books.Bears own id normalize outside (connection.hookAll moment) := by
  refine Connection.hook_all_kept Bears.eased ?_ connection bears
  intro connection index factory present bears
  exact bears.taking present fun owned owns =>
    books.hook factory owned owns moment connection.surroundings connection.repositories

theorem Bears.change_status (bears : books.Bears own id normalize outside connection)
    (status : ConnectionStatus) (reason : StatusReason) :
    books.Bears own id normalize outside (connection.changeStatus status reason) := by
  have announced : books.Bears own id normalize outside
      (({ connection with status, reason }).announceEvent (.statusChanged status.visible reason)) :=
    bears
  unfold Connection.changeStatus
  dsimp only
  split
  · exact announced.hook_all _
  · exact announced

theorem Bears.request_channel {request : ChannelRequest} {sender : String} {token : Token}
    (bears : books.Bears own id normalize outside before)
    (done : before.requestChannel request sender = .ok (token, after)) :
    books.Bears own id normalize outside after := by
  obtain ⟨_, _, _, rfl⟩ := Connection.request_channel_eq_ok done
  refine Connection.ask_factories_kept Bears.eased ?_ _ none _ bears
  intro connection index factory present bears
  exact bears.taking present fun owned owns =>
    books.request factory owned owns request _ connection.surroundings connection.repositories

theorem Bears.with_factory {α : Type} {index : Nat} {answer : α}
    {call : φ → Surroundings → Repositories → Option (FactoryCall φ α)}
    (bears : books.Bears own id normalize lent before)
    (done : before.withFactory index call = some (answer, after))
    (orderly : ∀ factory result, before.factories[index]? = some factory →
      call factory before.surroundings before.repositories = some result →
        ∀ owned, books.owns factory owned →
          result.Orderly books.owns before.repositories.contacts owned lent handed) :
    books.Bears own id normalize handed after := by
  obtain ⟨factory, result, present, called, rfl⟩ := Connection.with_factory_taken done
  have recorded : books.Bears own id normalize (fun key => 0 + lent key)
      (before.record (.called index)) := by
    simp only [Nat.zero_add]
    exact bears
  have taken := recorded.taking present (orderly factory result present called)
  simp only [Nat.zero_add] at taken
  exact taken.eased _ _ (Connection.apply_call_eased _ index result)

/-! ### Clients and protocol code -/

theorem Bears.work (bears : books.Bears own id normalize lent connection)
    {repositories : Repositories}
    (dealings : Dealings lent connection.repositories.contacts handed repositories.contacts) :
    books.Bears own id normalize handed { connection with repositories } := by
  obtain ⟨total, owning, secured⟩ := bears
  exact ⟨total, owning, secured.dealings dealings⟩

theorem Bears.on_repository {α : Type} {kind : HandleKind}
    {batch : Repository → Repository.Batch α}
    (bears : books.Bears own id normalize outside connection)
    (harmless : ∀ {repository : Repository} {claims : Handle → Nat},
      Secured own id normalize repository claims →
        Secured own id normalize (batch repository).repository claims) :
    books.Bears own id normalize outside (connection.onRepository kind batch).2 := by
  obtain ⟨total, owning, secured⟩ := bears
  unfold Connection.onRepository
  split
  · exact ⟨total, owning, secured⟩
  · exact ⟨total, owning, secured⟩
  · rename_i repository _ found
    refine ⟨total, owning, ?_⟩
    rcases Repositories.get_eq_ok.1 found with ⟨rfl, rfl⟩ | ⟨other, _⟩
    · exact harmless secured
    · dsimp only
      rw [Repositories.set_other_contacts other]
      exact secured

theorem Bears.hold_handles (bears : books.Bears own id normalize outside connection)
    (kind : HandleKind) (handles : List Handle) (client : String) :
    books.Bears own id normalize outside (connection.holdHandles kind handles client).2 := by
  refine bears.on_repository fun {repository _} secured => ?_
  refine secured.batch (repository.hold_all_steps client handles) ?_
  refine (secured.sound.hold_all secured.plain client handles).mono ?_
  rintro _ next ⟨lasting, shares⟩
  exact ⟨lasting, fun handle => shares handle .service⟩

theorem Bears.release_handles (bears : books.Bears own id normalize outside connection)
    (kind : HandleKind) (handles : List Handle) (client : String) :
    books.Bears own id normalize outside (connection.releaseHandles kind handles client).2 := by
  refine bears.on_repository fun {repository _} secured => ?_
  refine secured.batch (repository.release_all_steps kind client handles) ?_
  refine (secured.sound.release_all secured.plain kind client handles).mono ?_
  rintro _ next ⟨lasting, shares⟩
  exact ⟨lasting, fun handle => (shares handle .service).symm⟩

theorem Bears.request_handles (bears : books.Bears own id normalize outside connection)
    (kind : HandleKind) (ids : List String) (client : String) :
    books.Bears own id normalize outside (connection.requestHandles kind ids client).2 := by
  refine bears.on_repository fun {repository _} secured => ?_
  refine secured.batch (repository.request_all_steps client ids) ?_
  refine (secured.sound.request_all secured.plain client ids).mono ?_
  rintro _ next ⟨lasting, shares⟩
  exact ⟨lasting, fun handle => shares handle .service⟩

theorem Bears.client_vanished (bears : books.Bears own id normalize outside connection)
    (client : String) : books.Bears own id normalize outside (connection.clientVanished client) := by
  unfold Connection.clientVanished
  split
  · exact bears
  · obtain ⟨total, owning, secured⟩ := bears
    have gone : Dealings outside connection.repositories.contacts outside
        (connection.repositories.contacts.clientVanished client) :=
      .next (.refl _ _) (.vanished _ _ client)
        ((Repository.Step.vanished _ client).usable_eq secured.sound)
    exact ⟨total, owning, secured.dealings gone⟩

end Bookkeeping

end ConnectionManager
