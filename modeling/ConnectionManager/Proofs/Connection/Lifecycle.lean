import ConnectionManager.Proofs.Connection.Replies

/-!
The way up of a connection: as long as it is not disconnected, the statuses announced are those that
lead to its status, and nothing was done that belongs to a shutdown.
-/

namespace ConnectionManager

def Act.event? : Act → Option ConnectionEvent
  | .announced event => some event
  | _ => none

def ConnectionEvent.status? : ConnectionEvent → Option ConnectionStatus
  | .statusChanged status _ => some status
  | _ => none

/-- An act of a shutdown and of nothing else. -/
inductive Act.IsParting : Act → Prop
  | told (factory : Nat) : IsParting (.hooked factory .disconnected)
  | closed (factory : Nat) : IsParting (.hooked factory .closeAll)
  | transport : IsParting .transportDisconnecting
  | self (handle : Handle) : IsParting (.selfHandleReleased handle)
  | repositories : IsParting .repositoriesInvalidated
  | name (busName : String) : IsParting (.nameReleased busName)
  | disconnected (reason : StatusReason) :
      IsParting (.announced (.statusChanged .disconnected reason))
  | finished : IsParting (.announced .shutdownFinished)

namespace Connection

variable {φ : Type} {Work : Repositories → Repositories → Prop}

def statuses (connection : Connection φ) : List ConnectionStatus :=
  connection.events.filterMap ConnectionEvent.status?

theorem events_eq (connection : Connection φ) :
    connection.events = connection.acts.entries.filterMap Act.event? := rfl

theorem events_append {before after : Connection φ} {added : List Act}
    (recorded : after.acts.entries = before.acts.entries ++ added) :
    after.events = before.events ++ added.filterMap Act.event? := by
  rw [events_eq, events_eq, recorded, List.filterMap_append]

theorem statuses_append {before after : Connection φ} {added : List Act}
    (recorded : after.acts.entries = before.acts.entries ++ added) :
    after.statuses = before.statuses
      ++ (added.filterMap Act.event?).filterMap ConnectionEvent.status? := by
  rw [statuses, events_append recorded, List.filterMap_append]
  rfl

/-- A connection that was not ended; the statuses announced are those of the way up. -/
structure Alive (connection : Connection φ) : Prop where
  usable : connection.status ≠ .disconnected
  unfinished : connection.finished = false
  untouched : ∀ act ∈ connection.acts.entries, ¬ act.IsParting
  rising : (connection.status = .new ∧ connection.statuses = []) ∨
    (connection.status = .connecting ∧ connection.statuses = [.connecting]) ∨
    (connection.status = .connected ∧ connection.statuses = [.connecting, .connected])

variable {tokens : List Token} {before after connection : Connection φ}

theorem Serving.silent {act : Act} (serving : connection.Serving act) :
    act.event?.bind ConnectionEvent.status? = none := by
  cases serving with
  | quiet quiet => cases quiet <;> rfl
  | _ => rfl

theorem Served.statuses {hooks : List (Nat × FactoryHook)} (served : Served hooks before after) :
    after.statuses = before.statuses := by
  obtain ⟨added, recorded, _, allowed⟩ := served.recorded
  have none : (added.filterMap Act.event?).filterMap ConnectionEvent.status? = [] := by
    rw [List.filterMap_filterMap]
    apply List.filterMap_eq_nil_iff.2
    intro act member
    exact (allowed act member).silent
  rw [statuses_append recorded, none, List.append_nil]

/-- Serving a connection, with no hooks but those of the way up, ends nothing. -/
theorem Served.untouched {hooks : List (Nat × FactoryHook)} (served : Served hooks before after)
    (rising : ∀ pair ∈ hooks, pair.2 = .connecting ∨ pair.2 = .connected)
    (untouched : ∀ act ∈ before.acts.entries, ¬ act.IsParting) :
    ∀ act ∈ after.acts.entries, ¬ act.IsParting := by
  obtain ⟨added, recorded, called, allowed⟩ := served.recorded
  intro act member parting
  rw [recorded] at member
  rcases List.mem_append.1 member with earlier | new
  · exact untouched act earlier parting
  · cases allowed act new with
    | quiet quiet => cases quiet <;> cases parting
    | hooked index hook =>
        have present : (index, hook) ∈ hooks := by
          rw [← called]
          exact List.mem_filterMap.2 ⟨_, new, rfl⟩
        rcases rising _ present with same | same
        · cases same
          cases parting
        · cases same
          cases parting
    | announced channel suppressed usable => cases parting
    | replied number outcome waiting => cases parting

theorem Served.alive {hooks : List (Nat × FactoryHook)} (served : Served hooks before after)
    (rising : ∀ pair ∈ hooks, pair.2 = .connecting ∨ pair.2 = .connected) (alive : Alive before) :
    Alive after where
  usable := served.status ▸ alive.usable
  unfinished := served.finished.trans alive.unfinished
  untouched := served.untouched rising alive.untouched
  rising := by
    rw [served.status, served.statuses]
    exact alive.rising

theorem Fresh.alive (fresh : Fresh connection) : Alive connection := by
  obtain ⟨plan, transport, factories, context, built⟩ := fresh
  obtain ⟨names, _, same⟩ := Outcome.map_eq_ok.1 built
  subst same
  exact {
    usable := fun disconnected => by cases disconnected
    unfinished := rfl
    untouched := fun act member => absurd member List.not_mem_nil
    rising := .inl ⟨rfl, rfl⟩ }

theorem Alive.statuses_new (alive : Alive connection) (fresh : connection.status = .new) :
    connection.statuses = [] := by
  rcases alive.rising with ⟨_, none⟩ | ⟨other, _⟩ | ⟨other, _⟩
  · exact none
  · rw [fresh] at other
    cases other
  · rw [fresh] at other
    cases other

theorem Alive.statuses_connecting (alive : Alive connection)
    (connecting : connection.status = .connecting) : connection.statuses = [.connecting] := by
  rcases alive.rising with ⟨other, _⟩ | ⟨_, one⟩ | ⟨other, _⟩
  · rw [connecting] at other
    cases other
  · exact one
  · rw [connecting] at other
    cases other

theorem Alive.record (alive : Alive connection) {act : Act} (kept : ¬ act.IsParting)
    (silent : act.event? = none) : Alive (connection.record act) := by
  have recorded : (connection.record act).acts.entries = connection.acts.entries ++ [act] := rfl
  have seen : (connection.record act).statuses = connection.statuses := by
    rw [statuses_append recorded, List.filterMap_cons, silent]
    exact List.append_nil _
  exact {
    usable := alive.usable
    unfinished := alive.unfinished
    untouched := by
      intro other member
      rw [recorded] at member
      rcases List.mem_append.1 member with earlier | last
      · exact alive.untouched other earlier
      · rw [List.mem_singleton.1 last]
        exact kept
    rising := by
      rw [seen]
      exact alive.rising }

variable [ChannelFactory φ]

/-- A status on the way up is announced, then the factories are told of it. -/
theorem change_status_alive (works : FactoriesWork Work φ) (before : Connection φ)
    {status : ConnectionStatus} {hook : FactoryHook} (reason : StatusReason) (alive : Alive before)
    (rising : (status = .connecting ∧ hook = .connecting ∧ before.statuses = []) ∨
      (status = .connected ∧ hook = .connected ∧ before.statuses = [.connecting])) :
    Alive (before.changeStatus status reason) := by
  have told : hookOf? status = some hook := by
    rcases rising with ⟨now, called, _⟩ | ⟨now, called, _⟩ <;> rw [now, called] <;> rfl
  have usable : status ≠ .disconnected := by
    rcases rising with ⟨now, _⟩ | ⟨now, _⟩ <;> rw [now] <;> decide
  have quiet : ¬ (Act.announced (.statusChanged status.visible reason)).IsParting := by
    intro parting
    rcases rising with ⟨now, _⟩ | ⟨now, _⟩ <;> rw [now] at parting <;> cases parting
  let announced := ({ before with status, reason }).announceEvent
    (.statusChanged status.visible reason)
  have recorded : announced.acts.entries = before.acts.entries
      ++ [.announced (.statusChanged status.visible reason)] := rfl
  have served : Served _ announced (before.changeStatus status reason) :=
    change_status_served works before reason told
  have seen : (before.changeStatus status reason).statuses = before.statuses ++ [status.visible] := by
    rw [served.statuses, statuses_append recorded]
    rfl
  have untouched : ∀ act ∈ announced.acts.entries, ¬ act.IsParting := by
    intro act member
    rw [recorded] at member
    rcases List.mem_append.1 member with earlier | last
    · exact alive.untouched act earlier
    · rw [List.mem_singleton.1 last]
      exact quiet
  exact {
    usable := by
      rw [served.status]
      exact usable
    unfinished := served.finished.trans alive.unfinished
    untouched := by
      apply served.untouched ?_ untouched
      intro pair member
      obtain ⟨index, _, same⟩ := List.mem_map.1 member
      subst same
      rcases rising with ⟨_, called, _⟩ | ⟨_, called, _⟩
      · exact .inl called
      · exact .inr called
    rising := by
      rw [seen, served.status]
      rcases rising with ⟨now, _, none⟩ | ⟨now, _, one⟩
      · exact .inr (.inl ⟨now, by rw [none, now]; rfl⟩)
      · exact .inr (.inr ⟨now, by rw [one, now]; rfl⟩) }

theorem Phase.alive (works : FactoriesWork Work φ) (phase : Phase Work tokens before after)
    (alive : Alive before) (usable : after.status ≠ .disconnected) : Alive after := by
  cases phase with
  | serve serves =>
      exact serves.served.alive (fun pair member => absurd member List.not_mem_nil) alive
  | aside interfaces registered repositories worked ended => exact { alive with }
  | accept request sender connected allowed => exact { alive with }
  | attempt _ fresh =>
      have told : Alive (before.changeStatus .connecting .requested) :=
        change_status_alive works before .requested alive
          (.inl ⟨rfl, rfl, alive.statuses_new fresh⟩)
      have kept : ¬ Act.transportConnecting.IsParting := fun parting => by cases parting
      exact told.record kept rfl
  | establish _ selfHandle repositories connecting worked =>
      have known : Alive { before with repositories, selfHandle } := { alive with }
      have first : { before with repositories, selfHandle }.statuses = [.connecting] :=
        alive.statuses_connecting connecting
      exact change_status_alive works _ .requested known (.inr ⟨rfl, rfl, first⟩)
  | shutdown _ context reason alive completed =>
      exact absurd (shutdown_ended works before context reason alive completed).status usable

end Connection

end ConnectionManager
