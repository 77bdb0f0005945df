import ConnectionManager.Proofs.Roster.Balance
import ConnectionManager.Proofs.Roster.Runs

/-!
All that can be done to a roster, one deed at a time. A roster waits, is received and is gone, in
this order and never back. What every deed keeps is kept by a roster among the factories of a
connection, whatever the connection and the other factories do (`Lodged`).
-/

namespace ConnectionManager

/-- What can be done to a roster: by protocol code and by clients, by a request for a channel, and
at a moment in the life of the connection. -/
inductive RosterDeed (β : Type)
  | use (use : RosterUse β)
  | request (request : ChannelRequest) (token : Token)
  | hook (hook : FactoryHook)

namespace RosterCall

variable {β : Type} [RosterBackend β] {surroundings : Surroundings} {call : RosterCall β}

/-- The call in which a roster is told of a moment in the life of its connection. -/
def meet (call : RosterCall β) : FactoryHook → RosterCall β
  | .connecting | .connected => call
  | .disconnected => { call with roster := { call.roster with phase := .gone } }
  | .closeAll => call.closeAll

def enact (surroundings : Surroundings) (call : RosterCall β) : RosterDeed β → RosterCall β
  | .use use => call.perform surroundings use
  | .request request token => (call.request surroundings request token).2
  | .hook hook => call.meet hook

theorem list_received_phase (waiting : call.roster.phase = .waiting) :
    (call.listReceived surroundings).roster.phase = .received := by
  obtain ⟨filled, grown, _, _, openings, _, phase, _⟩ :=
    list_received_chain surroundings call waiting
  exact (Openings.moves openings).frame.1.trans phase

/-- Only the arrival makes a waiting roster a received one, and only the end of the connection makes
it a roster that is gone. -/
theorem enact_phase (surroundings : Surroundings) (call : RosterCall β) (deed : RosterDeed β) :
    (call.enact surroundings deed).roster.phase = call.roster.phase ∨
      (call.roster.phase = .waiting ∧ (call.enact surroundings deed).roster.phase = .received) ∨
      (call.enact surroundings deed).roster.phase = .gone := by
  cases deed with
  | use use =>
      rcases call.perform_cases surroundings use with
        ⟨waiting, same⟩ | ⟨backend, same⟩ | ⟨_, moves⟩
      · exact .inr (.inl ⟨waiting, by rw [enact, same, list_received_phase waiting]⟩)
      · exact .inl (by rw [enact, same]; rfl)
      · exact .inl moves.frame.1
  | request request token =>
      left
      rcases call.request_cases surroundings request token with
        ⟨same, _⟩ | ⟨same, _⟩ | ⟨refusal, same, _⟩
      · rw [enact, same]
        rfl
      · have answered : Openings surroundings call (call.answer surroundings request).2 :=
          call.answer_openings request
        rw [enact, same]
        exact (Openings.moves answered).frame.1
      · rw [enact, same]
  | hook hook =>
      cases hook with
      | connecting => exact .inl rfl
      | connected => exact .inl rfl
      | disconnected => exact .inr (.inr rfl)
      | closeAll => exact .inl call.close_all_closed.phase

end RosterCall

namespace Roster

variable {β : Type} [RosterBackend β]

/-- No deed brings it to an end. -/
def Lasting (kept : Roster β → Prop) : Prop :=
  ∀ (surroundings : Surroundings) (call : RosterCall β) (deed : RosterDeed β),
    kept call.roster → kept (call.enact surroundings deed).roster

theorem lasting_true : Lasting fun _ : Roster β => True := fun _ _ _ _ => trivial

theorem lasting_gone : Lasting fun roster : Roster β => roster.phase = .gone := by
  intro surroundings call deed gone
  rcases call.enact_phase surroundings deed with same | ⟨waiting, _⟩ | ended
  · exact same.trans gone
  · rw [gone] at waiting
    cases waiting
  · exact ended

theorem lasting_arrived : Lasting fun roster : Roster β => roster.phase ≠ .waiting := by
  intro surroundings call deed arrived
  rcases call.enact_phase surroundings deed with same | ⟨waiting, _⟩ | ended
  · rwa [same]
  · exact absurd waiting arrived
  · rw [ended]
    decide

theorem hook_enacts (roster : Roster β) (hook : FactoryHook) (surroundings : Surroundings)
    (repositories : Repositories) :
    (ChannelFactory.hook roster hook surroundings repositories).factory
      = (({ roster, repositories } : RosterCall β).enact surroundings (.hook hook)).roster := by
  cases hook <;> rfl

end Roster

namespace Lodging

variable {β φ : Type} [RosterBackend β] [ChannelFactory φ]

/-- The call in which something is done to a roster, if the factory is one. -/
def attend (lodging : Lodging β φ) (deed : RosterDeed β) (factory : φ) (surroundings : Surroundings)
    (repositories : Repositories) : Option (FactoryCall φ Unit) :=
  (lodging.find factory).map fun roster =>
    (roster.run repositories fun call => ((), call.enact surroundings deed)).wrap lodging.lodge

end Lodging

namespace Connection

variable {β φ : Type} [RosterBackend β] [ChannelFactory φ] {lodging : Lodging β φ} {place : Nat}
  {kept : Roster β → Prop} {connection after : Connection φ}

theorem Lodged.hooking (lasting : Roster.Lasting kept) {hook : FactoryHook} {index : Nat}
    {factory : φ} (lodged : Lodged lodging place kept connection)
    (present : connection.factories[index]? = some factory) :
    Lodged lodging place kept (connection.taking index
      (ChannelFactory.hook factory hook connection.surroundings connection.repositories)) := by
  by_cases here : index = place
  · subst here
    obtain ⟨roster, known, fits⟩ := lodged
    rw [known] at present
    cases present
    refine lodged_taking known ?_ (lasting connection.surroundings
      { roster, repositories := connection.repositories } (.hook hook) fits)
    rw [lodging.hook, ← Roster.hook_enacts]
    rfl
  · exact lodged.taking_other here _

theorem Lodged.hook_all (lasting : Roster.Lasting kept) (hook : FactoryHook)
    (lodged : Lodged lodging place kept connection) :
    Lodged lodging place kept (connection.hookAll hook) :=
  hook_all_kept Lodged.eased (fun _ _ _ present lodged => lodged.hooking lasting present)
    connection lodged

theorem Lodged.change_status (lasting : Roster.Lasting kept) (status : ConnectionStatus)
    (reason : StatusReason) (lodged : Lodged lodging place kept connection) :
    Lodged lodging place kept (connection.changeStatus status reason) := by
  have announced : Lodged lodging place kept (({ connection with status, reason }).announceEvent
      (.statusChanged status.visible reason)) := lodged.of_factories rfl
  unfold changeStatus
  cases hookOf? status with
  | none => exact announced
  | some hook => exact announced.hook_all lasting hook

theorem Lodged.request (lasting : Roster.Lasting kept) {request : ChannelRequest} {sender : String}
    {token : Token} (done : connection.requestChannel request sender = .ok (token, after))
    (lodged : Lodged lodging place kept connection) : Lodged lodging place kept after := by
  obtain ⟨_, _, _, same⟩ := request_channel_eq_ok done
  have accepted : Lodged lodging place kept (connection.accepting request sender) :=
    lodged.of_factories rfl
  rw [same]
  refine ask_factories_kept Lodged.eased ?_ _ none _ accepted
  intro current index factory present lodged
  by_cases here : index = place
  · subst here
    obtain ⟨roster, known, fits⟩ := lodged
    rw [known] at present
    cases present
    refine lodged_taking known ?_ (lasting current.surroundings
      { roster, repositories := current.repositories } (.request request connection.nextToken) fits)
    rw [lodging.request]
    rfl
  · exact lodged.taking_other here _

theorem Lodged.attend (lasting : Roster.Lasting kept) {deed : RosterDeed β}
    (done : connection.withFactory place (lodging.attend deed) = some ((), after))
    (lodged : Lodged lodging place kept connection) : Lodged lodging place kept after := by
  obtain ⟨factory, result, present, called, same⟩ := with_factory_taken done
  obtain ⟨roster, known, fits⟩ := lodged
  rw [known] at present
  cases present
  unfold Lodging.attend at called
  rw [lodging.found] at called
  cases called
  rw [same]
  refine Lodged.eased _ _ (apply_call_eased _ place _) ?_
  have recorded : (connection.record (.called place)).factories[place]?
      = some (lodging.lodge roster) := known
  exact lodged_taking recorded rfl (lasting connection.surroundings
    { roster, repositories := connection.repositories } deed fits)

theorem Lodged.other {α : Type} {index : Nat} {answer : α}
    {call : φ → Surroundings → Repositories → Option (FactoryCall φ α)} (elsewhere : index ≠ place)
    (done : connection.withFactory index call = some (answer, after))
    (lodged : Lodged lodging place kept connection) : Lodged lodging place kept after := by
  obtain ⟨factory, result, _, _, same⟩ := with_factory_taken done
  have recorded : Lodged lodging place kept (connection.record (.called index)) :=
    lodged.of_factories rfl
  rw [same]
  exact Lodged.eased _ _ (apply_call_eased _ index _) (recorded.taking_other elsewhere result)

end Connection

end ConnectionManager
