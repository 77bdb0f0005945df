import ConnectionManager.Proofs.Connection.Lifecycle
import ConnectionManager.Proofs.Connection.Repositories

/-!
The whole course of a connection. A run stays alive until one shutdown ends it; what came before,
the shutdown itself and the little that can still come after it are the three parts of its record.
-/

namespace ConnectionManager

inductive ConnectionEvent.IsClosing : ConnectionEvent → Prop
  | closed (path : ObjectPath) : IsClosing (.channelClosed path)

namespace Connection

variable {φ : Type} {Work : Repositories → Repositories → Prop} {tokens : List Token}
  {before after connection moment : Connection φ} {context next : Context}
  {reason : StatusReason} {told closed later : List Act}

/-- The moment at which a connection was disconnected, and what was recorded around it. -/
structure Parted (moment connection : Connection φ) (reason : StatusReason)
    (told closed later : List Act) : Prop where
  toldHooks : moment.status ≠ .new → Hooking .disconnected moment.factories.length told
  closedHooks : moment.status ≠ .new → Hooking .closeAll moment.factories.length closed
  recorded : connection.acts.entries
    = moment.acts.entries ++ moment.farewell reason told closed ++ later
  quiet : ∀ act ∈ later, act.IsQuiet
  status : connection.status = .disconnected
  queue : connection.queue.pending = []
  selfHandle : connection.selfHandle = Handle.none
  registered : connection.registered = false
  finished : connection.finished = true

theorem Served.parted {moment : Connection φ} {reason : StatusReason}
    {told closed later : List Act} (served : Served [] before after)
    (parted : Parted moment before reason told closed later) :
    ∃ more, Parted moment after reason told closed (later ++ more) := by
  have none : Served ((List.range 0).map fun index => (index, FactoryHook.closeAll)) before after :=
    served
  obtain ⟨added, recorded, hooking⟩ := none.hooking parted.status parted.queue
  have empty := served.queue
  rw [parted.queue] at empty
  refine ⟨added, {
    toldHooks := parted.toldHooks
    closedHooks := parted.closedHooks
    recorded := by rw [recorded, parted.recorded, List.append_assoc]
    quiet := ?_
    status := served.status.trans parted.status
    queue := List.sublist_nil.1 empty
    selfHandle := served.selfHandle.trans parted.selfHandle
    registered := served.registered.trans parted.registered
    finished := served.finished.trans parted.finished }⟩
  intro act member
  rcases List.mem_append.1 member with earlier | new
  · exact parted.quiet act earlier
  · rcases hooking.others act new with quiet | ⟨index, same⟩
    · exact quiet
    · have called : (index, FactoryHook.closeAll) ∈ hooksOf added :=
        List.mem_filterMap.2 ⟨act, new, by rw [same]; rfl⟩
      rw [hooking.hooks] at called
      cases called

theorem Ended.parted (ended : Ended before context reason after next) :
    ∃ told closed, Parted before after reason told closed [] := by
  obtain ⟨told, closed, hooked, recorded⟩ := ended.recorded
  exact ⟨told, closed, {
    toldHooks := fun left => (hooked left).1
    closedHooks := fun left => (hooked left).2
    recorded := by rw [recorded, List.append_nil]
    quiet := fun act member => absurd member List.not_mem_nil
    status := ended.status
    queue := ended.queue
    selfHandle := ended.selfHandle
    registered := ended.registered
    finished := ended.finished }⟩

theorem closings {acts : List Act}
    (quiet : ∀ act ∈ acts, act.IsQuiet ∨ ∃ index hook, act = .hooked index hook) :
    ∀ event ∈ acts.filterMap Act.event?, event.IsClosing := by
  intro event member
  obtain ⟨act, present, announced⟩ := List.mem_filterMap.1 member
  rcases quiet act present with silent | ⟨index, hook, same⟩
  · cases silent with
    | closed path =>
        cases announced
        exact .closed path
    | _ => cases announced
  · rw [same] at announced
    cases announced

theorem Hooking.closings {hook : FactoryHook} {factories : Nat} {acts : List Act}
    (hooking : Hooking hook factories acts) :
    ∀ event ∈ acts.filterMap Act.event?, event.IsClosing := by
  apply Connection.closings
  intro act member
  rcases hooking.others act member with quiet | ⟨index, same⟩
  · exact .inl quiet
  · exact .inr ⟨index, hook, same⟩

theorem farewell_events (before : Connection φ) (reason : StatusReason) (told closed : List Act) :
    (before.farewell reason told closed).filterMap Act.event?
      = .statusChanged .disconnected reason
        :: (if before.status = .new then []
          else told ++ closed ++ [.transportDisconnecting]).filterMap Act.event?
        ++ [.shutdownFinished] := by
  unfold farewell
  have answers : (before.queue.pending.map fun request =>
      Act.replied request.reply (.error cancelled)).filterMap Act.event? = [] :=
    unseen_replies (fun _ => rfl) before.queue.pending
  simp only [List.filterMap_append, answers]
  cases Handle.isNone before.selfHandle <;> cases before.registered <;>
    simp [Act.event?, List.filterMap_cons]

/-- The events of a connection that was disconnected, up to channels reported as closed. -/
theorem Parted.events (parted : Parted moment connection reason told closed later) :
    ∃ during after, (∀ event ∈ during ++ after, event.IsClosing) ∧
      connection.events = moment.events ++ (.statusChanged .disconnected reason :: during)
        ++ .shutdownFinished :: after := by
  refine ⟨(if moment.status = .new then []
    else told ++ closed ++ [.transportDisconnecting]).filterMap Act.event?,
    later.filterMap Act.event?, ?_, ?_⟩
  rotate_left
  · have recorded := parted.recorded
    rw [List.append_assoc] at recorded
    rw [events_append recorded, List.filterMap_append, farewell_events]
    simp only [List.append_assoc, List.cons_append, List.nil_append]
  · intro event member
    rcases List.mem_append.1 member with early | late
    · split at early
      · cases early
      · rename_i left
        rw [List.filterMap_append, List.filterMap_append] at early
        rcases List.mem_append.1 early with hooks | last
        · rcases List.mem_append.1 hooks with first | second
          · exact (parted.toldHooks left).closings event first
          · exact (parted.closedHooks left).closings event second
        · cases last
    · apply closings _ event late
      intro act present
      exact .inl (parted.quiet act present)

theorem Parted.statuses (parted : Parted moment connection reason told closed later) :
    connection.statuses = moment.statuses ++ [.disconnected] := by
  obtain ⟨during, after, closing, events⟩ := parted.events
  have silent : ∀ part : List ConnectionEvent, (∀ event ∈ part, event.IsClosing) →
      part.filterMap ConnectionEvent.status? = [] := by
    intro part closing
    apply List.filterMap_eq_nil_iff.2
    intro event member
    cases closing event member
    rfl
  have first := silent during fun event member => closing event (List.mem_append_left _ member)
  have second := silent after fun event member => closing event (List.mem_append_right _ member)
  unfold Connection.statuses
  rw [events, List.filterMap_append, List.filterMap_append, List.filterMap_cons, List.filterMap_cons,
    first, second]
  exact List.append_nil _

variable [ChannelFactory φ]

theorem Phase.parted (phase : Phase Work tokens before after)
    (parted : Parted moment before reason told closed later) :
    ∃ more, Parted moment after reason told closed (later ++ more) := by
  cases phase with
  | serve serves => exact serves.served.parted parted
  | aside _ interfaces registered repositories worked ended =>
      have same := ended parted.status
      refine ⟨[], ?_⟩
      rw [List.append_nil]
      exact { parted with registered := same.trans parted.registered }
  | accept _ request sender connected allowed =>
      rw [parted.status] at connected
      cases connected
  | attempt _ fresh =>
      rw [parted.status] at fresh
      cases fresh
  | establish _ selfHandle repositories connecting worked =>
      rw [parted.status] at connecting
      cases connecting
  | shutdown _ context reason usable completed => exact absurd parted.status usable

/-- Only a shutdown disconnects. -/
theorem Phase.ends (works : FactoriesWork Work φ) (phase : Phase Work tokens before after)
    (usable : before.status ≠ .disconnected) (gone : after.status = .disconnected) :
    ∃ context reason, after = (before.shutdown context reason).connection ∧
      (before.shutdown context reason).result.isSome = true := by
  cases phase with
  | serve serves => exact absurd (serves.served.status.symm.trans gone) usable
  | aside _ interfaces registered repositories worked ended => exact absurd gone usable
  | accept _ request sender connected allowed => exact absurd gone usable
  | attempt _ fresh =>
      rw [attempting_status works before] at gone
      cases gone
  | establish _ selfHandle repositories connecting worked =>
      have told := @change_status_served φ Work _ works { before with repositories, selfHandle }
        .connected .connected .requested rfl
      rw [told.status] at gone
      cases gone
  | shutdown _ context reason alive completed =>
      exact ⟨context, reason, rfl, completed⟩

/-- A run that was disconnected at one of its moments, by a shutdown that ran to completion. What
the shutdown brings about does not depend on the bus that it meets. -/
structure Gone (Work : Repositories → Repositories → Prop) (start moment connection : Connection φ)
    (context : Context) (reason : StatusReason) : Prop where
  reached : ∃ tokens, Phases Work tokens start moment
  alive : Alive moment
  completed : (moment.shutdown context reason).result.isSome = true
  ended : ∀ bus, (moment.shutdown bus reason).result.isSome = true →
    Ended moment bus reason (moment.shutdown bus reason).connection
      (moment.shutdown bus reason).context
  rest : ∃ tokens, Phases Work tokens (moment.shutdown context reason).connection connection
  parted : ∃ told closed later, Parted moment connection reason told closed later

theorem Phases.course (works : FactoriesWork Work φ) (fresh : Fresh before)
    (phases : Phases Work tokens before after) :
    Alive after ∨ ∃ moment context reason, Gone Work before moment after context reason := by
  -- Only a phase that starts alive can end the run; after that every phase adds to the end of it.
  induction phases with
  | refl => exact .inl fresh.alive
  | @next _ _ before middle after phases phase induction =>
      rcases induction fresh with alive | ⟨moment, context, reason, gone⟩
      · by_cases ended : after.status = .disconnected
        · obtain ⟨context, reason, same, completed⟩ := phase.ends works alive.usable ended
          have ends := fun bus => shutdown_ended works middle bus reason alive.usable
          obtain ⟨told, closed, parted⟩ := (ends context completed).parted
          rw [← same] at parted
          exact .inr ⟨middle, context, reason, {
            reached := ⟨_, phases⟩
            alive
            completed
            ended := ends
            rest := by
              rw [← same]
              exact ⟨_, .refl after⟩
            parted := ⟨told, closed, [], parted⟩ }⟩
        · exact .inl (phase.alive works alive ended)
      · obtain ⟨told, closed, later, parted⟩ := gone.parted
        obtain ⟨more, still⟩ := phase.parted parted
        obtain ⟨_, rest⟩ := gone.rest
        exact .inr ⟨moment, context, reason, { gone with
          rest := ⟨_, rest.next phase⟩
          parted := ⟨told, closed, later ++ more, still⟩ }⟩

/-- A connection that is disconnected has repositories that can be used no more, if factories and
protocol code use the repositories through their operations only. -/
theorem Phases.unusable (works : FactoriesWork Repositories.Step φ) (fresh : Fresh before)
    (phases : Phases Repositories.Step tokens before after) (gone : after.status = .disconnected) :
    after.repositories.Unusable := by
  induction phases with
  | refl => exact absurd gone fresh.alive.usable
  | @next _ _ before middle after phases phase induction =>
      by_cases disconnected : middle.status = .disconnected
      · exact (phase.moves works).unusable (induction fresh disconnected)
      · obtain ⟨context, reason, same, completed⟩ := phase.ends works disconnected gone
        rw [same]
        exact (shutdown_ended works middle context reason disconnected completed).unusable

end Connection

end ConnectionManager
