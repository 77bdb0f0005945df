import ConnectionManager.Connection.Handles
import ConnectionManager.Proofs.Connection.Service
import ConnectionManager.Proofs.Handle.Repositories

/-!
Runs of a connection. Every call that runs to completion is a chain of few phases; what every phase
keeps is kept by every run (`calls_phases`). The bus may change between two calls, so each call has
its own states of it.
-/

namespace ConnectionManager.Connection

variable {φ : Type} {Work : Repositories → Repositories → Prop}

def accepting (connection : Connection φ) (request : ChannelRequest) (sender : String) :
    Connection φ :=
  { connection with
    nextToken := connection.nextToken + 1
    queue := connection.queue.enqueue
      ⟨connection.nextToken, request, sender, connection.nextToken⟩ }

/-- A connection that was built and not used yet. -/
def Fresh (connection : Connection φ) : Prop :=
  ∃ plan transport factories context,
    (build plan transport factories context).1 = .ok connection

variable [ChannelFactory φ]

def attempting (connection : Connection φ) : Connection φ :=
  (connection.changeStatus .connecting .requested).record .transportConnecting

/-- What comes of telling a connection to connect. Nothing does unless it is new; otherwise it waits
for the transport, is given up, or is up. -/
inductive Attempt (before : Connection φ) (context : Context) : Run φ (Outcome Unit) → Prop
  | again (answer : Outcome Unit) (old : before.status ≠ .new) :
      Attempt before context ⟨some answer, before, context⟩
  | waiting (fresh : before.status = .new) :
      Attempt before context ⟨none, before.attempting, context⟩
  | abandoned (fresh : before.status = .new) (reason : StatusReason) (failure : Failure) :
      Attempt before context (before.attempting.abandon context reason failure)
  | established {selfId : String} {handle : Handle} {contacts : Repository}
      (fresh : before.status = .new) (reached : before.transport.connecting = some (.ok selfId))
      (interned : before.attempting.repositories.contacts.intern selfId = .ok (handle, contacts)) :
      Attempt before context ⟨some (.ok ()),
        ({ before.attempting with
          repositories := { before.attempting.repositories with contacts }
          selfHandle := handle }).changeStatus .connected .requested, context⟩

theorem connect_attempt (before : Connection φ) (context : Context) :
    Attempt before context (before.connect context) := by
  unfold connect
  cases status : before.status with
  | connecting | connected | disconnected => exact .again _ (by simp [status])
  | new =>
      cases reached : before.transport.connecting with
      | none => exact .waiting status
      | some outcome =>
          cases outcome with
          | error failure => exact .abandoned status _ failure
          | ok selfId =>
              change Attempt before context (before.attempting.establish context selfId)
              unfold establish
              split
              · exact .abandoned status _ _
              · rename_i handle contacts interned
                exact .established status reached interned

/-- Preparing does to a connection what connecting does to it. Only the answer is another one. -/
theorem prepare_as_connect (before : Connection φ) (context : Context) :
    (before.prepare context).connection = (before.connect context).connection ∧
      (before.prepare context).context = (before.connect context).context ∧
      (before.prepare context).result.isSome = (before.connect context).result.isSome := by
  unfold prepare
  have attempt := before.connect_attempt context
  by_cases fresh : before.status = .new
  · rw [if_pos fresh]
    dsimp only
    split
    · rename_i connected
      exact ⟨rfl, rfl, by rw [connected]; rfl⟩
    · exact ⟨rfl, rfl, rfl⟩
  · rw [if_neg fresh]
    generalize before.connect context = run at attempt ⊢
    cases attempt with
    | again answer old => exact ⟨rfl, rfl, rfl⟩
    | waiting new | abandoned new reason failure | established new => exact absurd new fresh

/-- A call that runs to completion, between two states of the bus, with the tokens of the channel
requests that it accepted. A call that fails or only looks changes nothing. -/
inductive Call (Work : Repositories → Repositories → Prop) :
    Connection φ → Context → List Token → Connection φ → Context → Prop
  | refused (before : Connection φ) (context : Context) : Call Work before context [] before context
  | addInterfaces {before after : Connection φ} (context : Context) (added : List String)
      (done : before.addInterfaces added = .ok after) : Call Work before context [] after context
  | register {before after : Connection φ} (context : Context)
      (done : (before.register context).1 = .ok after) :
      Call Work before context [] after (before.register context).2
  | connect (before : Connection φ) (context : Context)
      (completed : (before.connect context).result.isSome = true) :
      Call Work before context [] (before.connect context).connection
        (before.connect context).context
  | prepare (before : Connection φ) (context : Context)
      (completed : (before.prepare context).result.isSome = true) :
      Call Work before context [] (before.prepare context).connection
        (before.prepare context).context
  | disconnect (before : Connection φ) (context : Context)
      (completed : (before.disconnect context).result.isSome = true) :
      Call Work before context [] (before.disconnect context).connection
        (before.disconnect context).context
  | lose (before : Connection φ) (context : Context) (failure : Failure)
      (completed : (before.lose context failure).result.isSome = true) :
      Call Work before context [] (before.lose context failure).connection
        (before.lose context failure).context
  | requestChannel {before after : Connection φ} {token : Token} (context : Context)
      (request : ChannelRequest) (sender : String)
      (done : before.requestChannel request sender = .ok (token, after)) :
      Call Work before context [token] after context
  | withFactory {α : Type} {before after : Connection φ} {answer : α} (context : Context)
      (index : Nat) (call : φ → Surroundings → Repositories → Option (FactoryCall φ α))
      (worked : ∀ factory result, call factory before.surroundings before.repositories
        = some result → Relation.ReflTransGen Work before.repositories result.repositories)
      (done : before.withFactory index call = some (answer, after)) :
      Call Work before context [] after context
  | holdHandles (before : Connection φ) (context : Context) (kind : HandleKind)
      (handles : List Handle) (client : String) :
      Call Work before context [] (before.holdHandles kind handles client).2 context
  | releaseHandles (before : Connection φ) (context : Context) (kind : HandleKind)
      (handles : List Handle) (client : String) :
      Call Work before context [] (before.releaseHandles kind handles client).2 context
  | requestHandles (before : Connection φ) (context : Context) (kind : HandleKind)
      (ids : List String) (client : String) :
      Call Work before context [] (before.requestHandles kind ids client).2 context
  | clientVanished (before : Connection φ) (context : Context) (client : String) :
      Call Work before context [] (before.clientVanished client) context
  | work (before : Connection φ) (context : Context) (repositories : Repositories)
      (worked : Relation.ReflTransGen Work before.repositories repositories) :
      Call Work before context [] { before with repositories } context

/-- A run from one state of a connection to another, with the tokens accepted on the way. -/
inductive Calls (Work : Repositories → Repositories → Prop) :
    List Token → Connection φ → Connection φ → Prop
  | refl (connection : Connection φ) : Calls Work [] connection connection
  | next {tokens more : List Token} {before middle after : Connection φ} {context next : Context}
      (calls : Calls Work tokens before middle) (call : Call Work middle context more after next) :
      Calls Work (tokens ++ more) before after

/-- The phases that the calls of a connection consist of. -/
inductive Phase (Work : Repositories → Repositories → Prop) :
    List Token → Connection φ → Connection φ → Prop
  | serve {before after : Connection φ} (serves : Serves Work [] before after) :
      Phase Work [] before after
  | aside (before : Connection φ) (interfaces : List String) (registered : Bool)
      (repositories : Repositories)
      (worked : Relation.ReflTransGen Work before.repositories repositories)
      (ended : before.status = .disconnected → registered = before.registered) :
      Phase Work [] before { before with interfaces, registered, repositories }
  | accept (before : Connection φ) (request : ChannelRequest) (sender : String)
      (connected : before.status = .connected)
      (allowed : before.checkTarget request = .ok ()) :
      Phase Work [before.nextToken] before (before.accepting request sender)
  | attempt (before : Connection φ) (fresh : before.status = .new) :
      Phase Work [] before before.attempting
  | establish (before : Connection φ) (selfHandle : Handle) (repositories : Repositories)
      (connecting : before.status = .connecting)
      (worked : Relation.ReflTransGen Work before.repositories repositories) :
      Phase Work [] before
        (({ before with repositories, selfHandle }).changeStatus .connected .requested)
  | shutdown (before : Connection φ) (context : Context) (reason : StatusReason)
      (usable : before.status ≠ .disconnected)
      (completed : (before.shutdown context reason).result.isSome = true) :
      Phase Work [] before (before.shutdown context reason).connection

inductive Phases (Work : Repositories → Repositories → Prop) :
    List Token → Connection φ → Connection φ → Prop
  | refl (connection : Connection φ) : Phases Work [] connection connection
  | next {tokens more : List Token} {before middle after : Connection φ}
      (phases : Phases Work tokens before middle) (phase : Phase Work more middle after) :
      Phases Work (tokens ++ more) before after

theorem Phases.trans {tokens more : List Token} {before middle after : Connection φ}
    (first : Phases Work tokens before middle) (second : Phases Work more middle after) :
    Phases Work (tokens ++ more) before after := by
  induction second with
  | refl => simpa using first
  | next phases phase induction =>
      rw [← List.append_assoc]
      exact (induction first).next phase

theorem Phase.phases {tokens : List Token} {before after : Connection φ}
    (phase : Phase Work tokens before after) : Phases Work tokens before after :=
  (Phases.refl before).next phase

theorem repositories_phases (before : Connection φ) {repositories : Repositories}
    (worked : Relation.ReflTransGen Work before.repositories repositories) :
    Phases Work [] before { before with repositories } :=
  (Phase.aside before before.interfaces before.registered repositories worked fun _ => rfl).phases

theorem shutdown_phases (before : Connection φ) (context : Context) (reason : StatusReason)
    (completed : (before.shutdown context reason).result.isSome = true) :
    Phases Work [] before (before.shutdown context reason).connection := by
  by_cases ended : before.status = .disconnected
  · have same : before.shutdown context reason = ⟨some (), before, context⟩ := if_pos ended
    rw [same]
    exact .refl before
  · exact (Phase.shutdown before context reason ended completed).phases

theorem abandon_phases (before : Connection φ) (context : Context) (reason : StatusReason)
    (failure : Failure) (completed : (before.abandon context reason failure).result.isSome = true) :
    Phases Work [] before (before.abandon context reason failure).connection := by
  apply before.shutdown_phases context reason
  unfold abandon at completed
  simpa using completed

theorem on_repository_phases (own : ∀ before after, Repositories.Step before after →
      Work before after) {α : Type} (before : Connection φ) (kind : HandleKind)
    (batch : Repository → Repository.Batch α)
    (steps : ∀ repository : Repository, repository.Steps (batch repository).repository) :
    Phases Work [] before (before.onRepository kind batch).2 := by
  unfold onRepository
  split
  · exact .refl before
  · exact .refl before
  · rename_i repository _ found
    have worked := Repositories.steps_on found (steps repository)
    exact before.repositories_phases (Relation.ReflTransGen.mono own _ _ worked)

theorem attempting_status (works : FactoriesWork Work φ) (before : Connection φ) :
    before.attempting.status = .connecting := by
  have told := hook_all_serves works
    (({ before with status := .connecting, reason := .requested }).announceEvent
      (.statusChanged .connecting .requested)) .connecting
  exact told.served.status

theorem connect_phases (works : FactoriesWork Work φ)
    (own : ∀ before after, Repositories.Step before after → Work before after)
    (before : Connection φ) (context : Context)
    (completed : (before.connect context).result.isSome = true) :
    Phases Work [] before (before.connect context).connection := by
  have attempt := before.connect_attempt context
  generalize before.connect context = run at attempt completed ⊢
  cases attempt with
  | again answer old => exact .refl before
  | waiting fresh => cases completed
  | abandoned fresh reason failure =>
      exact (Phase.attempt before fresh).phases.trans
        (before.attempting.abandon_phases context reason failure completed)
  | @established _ handle contacts fresh _ interned =>
      have found : before.attempting.repositories.get .contact
          = .ok before.attempting.repositories.contacts := rfl
      have worked : Repositories.Step before.attempting.repositories
          { before.attempting.repositories with contacts } := .on found (.interned interned)
      exact (Phase.attempt before fresh).phases.next (.establish before.attempting handle
        { before.attempting.repositories with contacts } (attempting_status works before)
        (.single (own _ _ worked)))

theorem prepare_phases (works : FactoriesWork Work φ)
    (own : ∀ before after, Repositories.Step before after → Work before after)
    (before : Connection φ) (context : Context)
    (completed : (before.prepare context).result.isSome = true) :
    Phases Work [] before (before.prepare context).connection := by
  obtain ⟨same, _, answers⟩ := before.prepare_as_connect context
  rw [answers] at completed
  rw [same]
  exact before.connect_phases works own context completed

theorem request_channel_eq_ok {before after : Connection φ} {token : Token}
    {request : ChannelRequest} {sender : String}
    (done : before.requestChannel request sender = .ok (token, after)) :
    token = before.nextToken ∧ before.status = .connected ∧ before.checkTarget request = .ok () ∧
      after = askFactories request before.nextToken (List.range before.factories.length) none
        (before.accepting request sender) := by
  obtain ⟨⟨⟩, required, done⟩ := Outcome.bind_eq_ok.1 done
  obtain ⟨⟨⟩, allowed, done⟩ := Outcome.bind_eq_ok.1 done
  cases done
  refine ⟨rfl, ?_, allowed, rfl⟩
  by_contra other
  rw [requireConnected, if_neg other] at required
  cases required

theorem request_channel_serves (works : FactoriesWork Work φ) {before after : Connection φ}
    {token : Token} {request : ChannelRequest} {sender : String}
    (done : before.requestChannel request sender = .ok (token, after)) :
    Serves Work [] (before.accepting request sender) after := by
  obtain ⟨_, connected, _, same⟩ := request_channel_eq_ok done
  have usable : (before.accepting request sender).status ≠ .disconnected := by
    have kept : (before.accepting request sender).status = before.status := rfl
    rw [kept, connected]
    decide
  rw [same]
  exact ask_factories_serves works request before.nextToken _ none _ usable

theorem request_phases (works : FactoriesWork Work φ) {before after : Connection φ} {token : Token}
    {request : ChannelRequest} {sender : String}
    (done : before.requestChannel request sender = .ok (token, after)) :
    Phases Work [token] before after := by
  obtain ⟨given, connected, allowed, _⟩ := request_channel_eq_ok done
  have accepted : Phase Work [before.nextToken] before (before.accepting request sender) :=
    .accept before request sender connected allowed
  rw [given]
  exact accepted.phases.next (.serve (request_channel_serves works done))

theorem call_phases (works : FactoriesWork Work φ)
    (own : ∀ before after, Repositories.Step before after → Work before after)
    {tokens : List Token} {before after : Connection φ} {context next : Context}
    (call : Call Work before context tokens after next) : Phases Work tokens before after := by
  cases call with
  | refused => exact .refl before
  | addInterfaces _ added done =>
      unfold addInterfaces at done
      split at done
      · cases done
        exact (Phase.aside before _ before.registered before.repositories .refl fun _ => rfl).phases
      · cases done
  | register _ done =>
      unfold register at done
      split at done
      · cases done
      · rename_i usable
        split at done
        · cases done
        · obtain ⟨_, _, same⟩ := Outcome.map_eq_ok.1 done
          cases same
          exact (Phase.aside before before.interfaces true before.repositories .refl
            fun ended => absurd ended usable).phases
  | connect _ context completed => exact before.connect_phases works own context completed
  | prepare _ context completed => exact before.prepare_phases works own context completed
  | disconnect _ context completed => exact before.shutdown_phases context _ completed
  | lose _ context failure completed => exact before.shutdown_phases context _ completed
  | requestChannel _ request sender done => exact request_phases works done
  | withFactory _ index call worked done =>
      exact (Phase.serve (with_factory_serves worked done)).phases
  | holdHandles _ _ kind handles client =>
      exact before.on_repository_phases own kind _ fun repository =>
        repository.hold_all_steps client handles
  | releaseHandles _ _ kind handles client =>
      exact before.on_repository_phases own kind _ fun repository =>
        repository.release_all_steps kind client handles
  | requestHandles _ _ kind ids client =>
      exact before.on_repository_phases own kind _ fun repository =>
        repository.request_all_steps client ids
  | clientVanished _ _ client =>
      unfold clientVanished
      split
      · exact .refl before
      · exact before.repositories_phases (.single (own _ _ (.vanished before.repositories client)))
  | work _ _ repositories worked => exact before.repositories_phases worked

theorem calls_phases (works : FactoriesWork Work φ)
    (own : ∀ before after, Repositories.Step before after → Work before after)
    {tokens : List Token} {before after : Connection φ} (calls : Calls Work tokens before after) :
    Phases Work tokens before after := by
  induction calls with
  | refl => exact .refl _
  | next calls call induction => exact induction.trans (call_phases works own call)

structure Postponer where

instance : ChannelFactory Postponer where
  request factory _ _ _ repositories := .idle factory repositories .queued
  channels _ := []
  hook factory _ _ repositories := .idle factory repositories ()

theorem postponer_works : FactoriesWork Work Postponer where
  request := fun _ _ _ _ _ => .refl
  hook := fun _ _ _ _ => .refl

def rehearsed : Connection Postponer :=
  ((build { manager := "example", protocol := "example" }
    { uniqueName := some "me", connecting := some (.ok "me@example.com") } [⟨⟩]
    .start).1.toOption).get (by decide)

theorem rehearsed_fresh : Fresh rehearsed :=
  ⟨{ manager := "example", protocol := "example" },
    { uniqueName := some "me", connecting := some (.ok "me@example.com") }, [⟨⟩], .start, rfl⟩

def rehearsedUp : Connection Postponer := (rehearsed.connect .start).connection

theorem rehearsed_up_calls : Calls Work [] rehearsed rehearsedUp :=
  .next (.refl rehearsed) (.connect rehearsed .start rfl)

/-- A client has a handle for bob. -/
def rehearsedContact : Connection Postponer :=
  (rehearsedUp.requestHandles .contact ["bob"] ":1.2").2

theorem rehearsed_contact_calls : Calls Repositories.Step [] rehearsed rehearsedContact :=
  .next rehearsed_up_calls (.requestHandles rehearsedUp .start .contact ["bob"] ":1.2")

end ConnectionManager.Connection
