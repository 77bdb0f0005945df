import ConnectionManager.Proofs.Bus.Claims
import ConnectionManager.Proofs.Connection.Calls
import ConnectionManager.Proofs.Handle.Endings

/-!
The shutdown of a connection, whoever asked for it and from whatever state. Its record is known up
to the channels that the factories report as closed while they are told. What it leaves behind refuses
every use of a handle, and the bus gives the name of the connection to this process no more (`Ended`).
-/

namespace ConnectionManager.Connection

variable {φ : Type} {Work : Repositories → Repositories → Prop}

structure Hooking (hook : FactoryHook) (factories : Nat) (acts : List Act) : Prop where
  hooks : hooksOf acts = (List.range factories).map fun index => (index, hook)
  others : ∀ act ∈ acts, act.IsQuiet ∨ ∃ index, act = .hooked index hook

/-- The record of a shutdown, with what was recorded while the factories were told of it and while
they closed their channels. -/
def farewell (before : Connection φ) (reason : StatusReason) (told closed : List Act) : List Act :=
  [.announced (.statusChanged .disconnected reason)]
    ++ (before.queue.pending.map fun request => .replied request.reply (.error cancelled))
    ++ (if before.status = .new then [] else told ++ closed ++ [.transportDisconnecting])
    ++ (if Handle.isNone before.selfHandle then [] else [.selfHandleReleased before.selfHandle])
    ++ [.repositoriesInvalidated]
    ++ (if before.registered then [.nameReleased before.names.busName] else [])
    ++ [.announced .shutdownFinished]

/-- A connection that a shutdown has ended, and the bus after it. The end is announced last, by a
connection that has lost its self handle, its repositories and its name. -/
structure Ended (before : Connection φ) (context : Context) (reason : StatusReason)
    (after : Connection φ) (next : Context) : Prop where
  status : after.status = .disconnected
  queue : after.queue.pending = []
  selfHandle : after.selfHandle = Handle.none
  registered : after.registered = false
  finished : after.finished = true
  nextToken : after.nextToken = before.nextToken
  unusable : after.repositories.Unusable
  released : before.registered = true → ¬ next.Owns before.names.busName ∧
    (before.names.busName ≠ next.bus.ownName →
      next.bus.nameOwner? before.names.busName ≠ some next.bus.ownName)
  elsewhere : ∀ name, (before.registered = true → name ≠ before.names.busName) →
    next.bus.nameOwner? name = context.bus.nameOwner? name
  last : ∃ closing : Connection φ, closing.selfHandle = Handle.none ∧
    closing.repositories.Unusable ∧ closing.registered = false ∧
      after = closing.announceEvent .shutdownFinished
  recorded : ∃ told closed, (before.status ≠ .new →
      Hooking .disconnected before.factories.length told ∧
        Hooking .closeAll before.factories.length closed) ∧
    after.acts.entries = before.acts.entries ++ before.farewell reason told closed

section Discard

variable {connection : Connection φ} {context : Context} {name : String}

theorem discard_unowned (registered : connection.registered = true) :
    ¬ (connection.discard context).Owns connection.names.busName := by
  rw [discard, if_pos registered]
  exact connection.names.release_unowned context

theorem discard_elsewhere (other : name ≠ connection.names.busName) :
    (connection.discard context).bus.owners.find? name = context.bus.owners.find? name := by
  unfold discard
  split
  · rw [BusNames.find_release, if_neg fun both => other both.1]
  · rfl

theorem discard_name_owner (other : connection.registered = true → name ≠ connection.names.busName) :
    (connection.discard context).bus.nameOwner? name = context.bus.nameOwner? name := by
  unfold discard
  split
  · rename_i registered
    exact BusNames.release_name_owner (other registered)
  · rfl

theorem discard_context (connection : Connection φ) (context : Context) :
    connection.discard context = { context with bus := (connection.discard context).bus } := by
  unfold discard
  split <;> rfl

end Discard

def silenced (before : Connection φ) (reason : StatusReason) : Connection φ :=
  (({ before with status := .disconnected, reason }).announceEvent
    (.statusChanged .disconnected reason)).cancelQueued

theorem silenced_eq (before : Connection φ) (reason : StatusReason) :
    before.silenced reason = { before with
      status := .disconnected
      reason
      queue := ⟨[]⟩
      acts := { before.acts with
        entries := before.acts.entries ++ [.announced (.statusChanged .disconnected reason)]
          ++ before.queue.pending.map fun request =>
            .replied request.reply (.error cancelled) } } :=
  reply_eq { before with
    status := .disconnected
    reason
    queue := ⟨[]⟩
    acts := before.acts.emit (.announced (.statusChanged .disconnected reason)) }
    (.error cancelled) before.queue.pending

theorem silenced_frame (before : Connection φ) (reason : StatusReason) :
    let silenced := before.silenced reason
    silenced.status = .disconnected ∧ silenced.queue.pending = [] ∧
      silenced.nextToken = before.nextToken ∧ silenced.selfHandle = before.selfHandle ∧
      silenced.registered = before.registered ∧ silenced.names = before.names ∧
      silenced.factories = before.factories := by
  rw [silenced_eq]
  exact ⟨rfl, rfl, rfl, rfl, rfl, rfl, rfl⟩

/-- Once the connection is disconnected and its queue is empty, serving it records only quiet acts
and the hooks that were called. -/
theorem Served.hooking {factories : Nat} {hook : FactoryHook} {before after : Connection φ}
    (served : Served ((List.range factories).map fun index => (index, hook)) before after)
    (ended : before.status = .disconnected) (answered : before.queue.pending = []) :
    ∃ added, after.acts.entries = before.acts.entries ++ added ∧ Hooking hook factories added := by
  obtain ⟨added, entries, hooks, allowed⟩ := served.recorded
  refine ⟨added, entries, hooks, ?_⟩
  intro act member
  cases allowed act member with
  | quiet quiet => exact .inl quiet
  | hooked index called =>
      right
      have present : (index, called) ∈ hooksOf added := List.mem_filterMap.2 ⟨_, member, rfl⟩
      rw [hooks] at present
      obtain ⟨_, _, same⟩ := List.mem_map.1 present
      cases same
      exact ⟨index, rfl⟩
  | announced channel suppressed usable => exact absurd ended usable
  | replied number outcome waiting => exact absurd answered waiting

theorem release_self_released (connection : Connection φ) :
    let released := connection.releaseSelf
    released.status = connection.status ∧ released.queue = connection.queue ∧
      released.nextToken = connection.nextToken ∧ released.registered = connection.registered ∧
      released.names = connection.names ∧ released.selfHandle = Handle.none ∧
      released.acts.entries = connection.acts.entries
        ++ if Handle.isNone connection.selfHandle then []
          else [.selfHandleReleased connection.selfHandle] := by
  unfold releaseSelf
  by_cases none : Handle.isNone connection.selfHandle
  · rw [if_pos none, if_pos none, List.append_nil]
    exact ⟨rfl, rfl, rfl, rfl, rfl, beq_iff_eq.1 none, rfl⟩
  · rw [if_neg none, if_neg none]
    exact ⟨rfl, rfl, rfl, rfl, rfl, rfl, rfl⟩

/-- When the end is announced, nothing is left to be given back. -/
theorem end_shutdown_last (connection : Connection φ) (context : Context) :
    ∃ closing : Connection φ, closing.selfHandle = Handle.none ∧
      closing.repositories.Unusable ∧ closing.registered = false ∧
        (connection.endShutdown context).1 = closing.announceEvent .shutdownFinished := by
  have selfHandle : connection.releaseSelf.selfHandle = Handle.none :=
    connection.release_self_released.2.2.2.2.2.1
  have unusable : connection.releaseSelf.invalidateRepositories.repositories.Unusable :=
    Repositories.invalidate_all_unusable
  refine ⟨{ (connection.releaseSelf.invalidateRepositories.releaseName context).1 with
    finished := true }, ?_, ?_, ?_, rfl⟩ <;> dsimp only <;> unfold releaseName <;> split
  · exact selfHandle
  · exact selfHandle
  · exact unusable
  · exact unusable
  · rfl
  · rename_i unclaimed
    exact Bool.eq_false_iff.2 unclaimed

theorem end_shutdown_ended (connection : Connection φ) (context : Context) :
    let ended := connection.endShutdown context
    ended.1.status = connection.status ∧ ended.1.queue = connection.queue ∧
      ended.1.nextToken = connection.nextToken ∧ ended.1.finished = true ∧
      ended.2 = connection.discard context ∧
      ended.1.acts.entries = connection.acts.entries
        ++ (if Handle.isNone connection.selfHandle then []
          else [.selfHandleReleased connection.selfHandle])
        ++ [.repositoriesInvalidated]
        ++ (if connection.registered then [.nameReleased connection.names.busName] else [])
        ++ [.announced .shutdownFinished] := by
  obtain ⟨status, queue, nextToken, registered, names, selfHandle, entries⟩ :=
    connection.release_self_released
  have claimed : connection.releaseSelf.invalidateRepositories.registered
      = connection.registered := registered
  have invalidated : connection.releaseSelf.invalidateRepositories.acts.entries
      = connection.releaseSelf.acts.entries ++ [.repositoriesInvalidated] := rfl
  unfold endShutdown releaseName discard
  rw [claimed, ← entries, ← invalidated]
  by_cases named : connection.registered = true
  · rw [if_pos named, if_pos named, if_pos named, ← names]
    exact ⟨status, queue, nextToken, rfl, rfl, rfl⟩
  · rw [if_neg named, if_neg named, if_neg named, List.append_nil]
    exact ⟨status, queue, nextToken, rfl, rfl, rfl⟩

variable [ChannelFactory φ]

/-- The first part of a shutdown: the factories hear of it when no request is queued any more. -/
theorem begin_shutdown_begun (works : FactoriesWork Work φ) (before : Connection φ)
    (reason : StatusReason) :
    let begun := before.beginShutdown reason
    begun.status = .disconnected ∧ begun.queue.pending = [] ∧
      begun.nextToken = before.nextToken ∧ begun.selfHandle = before.selfHandle ∧
      begun.registered = before.registered ∧ begun.names = before.names ∧
      ∃ told closed, (before.status ≠ .new →
          Hooking .disconnected before.factories.length told ∧
            Hooking .closeAll before.factories.length closed) ∧
        begun.acts.entries = before.acts.entries
          ++ [.announced (.statusChanged .disconnected reason)]
          ++ (before.queue.pending.map fun request => .replied request.reply (.error cancelled))
          ++ (if before.status = .new then [] else told ++ closed ++ [.transportDisconnecting]) := by
  by_cases fresh : before.status = .new
  · have same : before.beginShutdown reason = before.silenced reason := if_pos fresh
    rw [same, silenced_eq]
    refine ⟨rfl, rfl, rfl, rfl, rfl, rfl, [], [], fun left => absurd fresh left, ?_⟩
    rw [if_pos fresh, List.append_nil]
  · have same : before.beginShutdown reason
        = (((before.silenced reason).hookAll .disconnected).hookAll .closeAll).record
          .transportDisconnecting := if_neg fresh
    obtain ⟨status, answered, token, self, claimed, names, factories⟩ :=
      before.silenced_frame reason
    have first := (hook_all_serves works (before.silenced reason) .disconnected).served
    have second := (hook_all_serves works ((before.silenced reason).hookAll .disconnected)
      .closeAll).served
    have empty : ((before.silenced reason).hookAll .disconnected).queue.pending = [] := by
      have kept := first.queue
      rw [answered] at kept
      exact List.sublist_nil.1 kept
    rw [first.factories, factories] at second
    rw [factories] at first
    obtain ⟨told, toldEntries, toldHooks⟩ := first.hooking status answered
    obtain ⟨closed, closedEntries, closedHooks⟩ :=
      second.hooking (first.status.trans status) empty
    have frame := first.trans second
    rw [same]
    -- What the factories did is known from `frame`; it must not be unfolded any more.
    generalize ((before.silenced reason).hookAll .disconnected).hookAll .closeAll = ending
      at frame closedEntries ⊢
    refine ⟨frame.status.trans status, ?_, frame.nextToken.trans token,
      frame.selfHandle.trans self, frame.registered.trans claimed, frame.names.trans names,
      told, closed, fun _ => ⟨toldHooks, closedHooks⟩, ?_⟩
    · have kept := frame.queue
      rw [answered] at kept
      exact List.sublist_nil.1 kept
    · have entries : ∀ connection : Connection φ,
          (connection.record .transportDisconnecting).acts.entries
            = connection.acts.entries ++ [.transportDisconnecting] := fun _ => rfl
      have begun : (before.silenced reason).acts.entries = before.acts.entries
          ++ [.announced (.statusChanged .disconnected reason)]
          ++ before.queue.pending.map fun request =>
            .replied request.reply (.error cancelled) := by rw [silenced_eq]
      rw [if_neg fresh, entries, closedEntries, toldEntries, begun]
      simp only [List.append_assoc]

theorem shutdown_eq (before : Connection φ) (context : Context) (reason : StatusReason)
    (usable : before.status ≠ .disconnected)
    (completed : (before.shutdown context reason).result.isSome = true) :
    before.shutdown context reason =
      ⟨some (), ((before.beginShutdown reason).endShutdown context).1,
        ((before.beginShutdown reason).endShutdown context).2⟩ := by
  unfold shutdown at completed ⊢
  rw [if_neg usable] at completed ⊢
  dsimp only at completed ⊢
  split at completed
  · cases completed
  · rename_i leaves
    rw [if_neg leaves]

theorem shutdown_ended (works : FactoriesWork Work φ) (before : Connection φ) (context : Context)
    (reason : StatusReason) (usable : before.status ≠ .disconnected)
    (completed : (before.shutdown context reason).result.isSome = true) :
    Ended before context reason (before.shutdown context reason).connection
      (before.shutdown context reason).context := by
  obtain ⟨status, answered, token, self, claimed, names, told, closed, hooked, begun⟩ :=
    begin_shutdown_begun works before reason
  obtain ⟨endStatus, endQueue, endToken, finished, bus, ended⟩ :=
    (before.beginShutdown reason).end_shutdown_ended context
  obtain ⟨closing, closingSelf, unusable, unnamed, same⟩ :=
    (before.beginShutdown reason).end_shutdown_last context
  have left : ((before.beginShutdown reason).endShutdown context).2 = before.discard context := by
    rw [bus, discard, discard, claimed, names]
  rw [shutdown_eq before context reason usable completed]
  exact {
    status := endStatus.trans status
    queue := by rw [endQueue, answered]
    selfHandle := same ▸ closingSelf
    registered := same ▸ unnamed
    finished
    nextToken := endToken.trans token
    unusable := same ▸ unusable
    released := by
      intro registered
      rw [left]
      have unowned : ¬ (before.discard context).Owns before.names.busName :=
        discard_unowned registered
      exact ⟨unowned, Context.name_owner_ne unowned⟩
    elsewhere := by
      intro name other
      rw [left]
      exact discard_name_owner other
    last := ⟨closing, closingSelf, unusable, unnamed, same⟩
    recorded := by
      refine ⟨told, closed, hooked, ?_⟩
      dsimp only
      rw [ended, begun, self, claimed, names]
      simp only [farewell, List.append_assoc] }

theorem shutdown_disconnected (works : FactoriesWork Work φ) (before : Connection φ)
    (context : Context) (reason : StatusReason) :
    (before.shutdown context reason).connection.status = .disconnected := by
  obtain ⟨begun, _⟩ := begin_shutdown_begun works before reason
  obtain ⟨ended, _⟩ := (before.beginShutdown reason).end_shutdown_ended context
  unfold shutdown
  split
  · rename_i already
    exact already
  · dsimp only
    split
    · exact begun
    · exact ended.trans begun

end ConnectionManager.Connection
