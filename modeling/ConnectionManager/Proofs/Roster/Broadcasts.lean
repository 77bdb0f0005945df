import ConnectionManager.Proofs.Connection.Lifecycle
import ConnectionManager.Proofs.Roster.Runs

/-!
What a connection tells of the channels of a roster that is its only factory. Every opening of a
channel is announced, and every closing; but a channel that a request created under another handle
than the request names is announced once more, because the announcement did not answer the request.
-/

namespace ConnectionManager

def ConnectionEvent.opens (path : ObjectPath) : ConnectionEvent → Bool
  | .newChannel channel _ => channel.path = path
  | _ => false

def ConnectionEvent.closes (path : ObjectPath) : ConnectionEvent → Bool
  | .channelClosed closed => closed = path
  | _ => false

/-- The path of a channel that was created under another handle than the one asked for. -/
def RequestAnswer.echo (request : ChannelRequest) : RequestAnswer → List ObjectPath
  | .created channel => if channel.handle = request.handle then [] else [channel.path]
  | _ => []

namespace RosterCall

variable {β : Type} [RosterBackend β] {surroundings : Surroundings} {call next : RosterCall β}
  {channel : Channel}

theorem answer_group_created {name : String}
    (done : call.answerGroup surroundings name = (.created channel, next)) :
    channel.channelType = contactListType ∧ channel.kind = .group ∧
      next.reports = call.reports ++ [.newChannel channel none] := by
  have answering := answer_group_answering surroundings call name
  rw [done] at answering
  cases answering
  exact ⟨rfl, rfl, rfl⟩

theorem request_created {request : ChannelRequest} {token : Token}
    (done : call.request surroundings request token = (.created channel, next)) :
    channel.channelType = request.channelType ∧ channel.kind = request.kind ∧
      channel.kind = .group ∧ next.reports = call.reports ++ [.newChannel channel none] := by
  rcases call.request_cases surroundings request token with
    ⟨same, _⟩ | ⟨same, _, sort⟩ | ⟨refusal, same, _, other⟩
  · rw [same] at done
    cases done
  · rw [same] at done
    unfold answer at done
    split at done
    · split at done
      · cases done
      · split at done <;> cases done
    · rename_i kind
      split at done
      · cases done
      · split at done
        · cases done
        · obtain ⟨made, group, reports⟩ := answer_group_created done
          exact ⟨made.trans sort.symm, group.trans kind.symm, group, reports⟩
    all_goals cases done
  · rw [same] at done
    cases done
    exact absurd rfl (other channel)

theorem request_balanced (surroundings : Surroundings) (call : RosterCall β)
    (request : ChannelRequest) (token : Token) (silent : call.reports = []) :
    Balanced call.roster.paths (call.request surroundings request token).2 := by
  have even : Balanced call.roster.paths call := by
    intro path
    rw [silent]
    rfl
  rcases call.request_cases surroundings request token with
    ⟨same, _⟩ | ⟨same, _⟩ | ⟨refusal, same, _⟩
  · rw [same]
    exact even
  · have answered : Openings surroundings call _ := call.answer_openings request
    rw [same]
    exact (Openings.moves answered).balanced even
  · rw [same]
    exact even

theorem perform_balanced (surroundings : Surroundings) (call : RosterCall β) (use : RosterUse β)
    (unopened : call.roster.phase = .waiting → call.roster.Unopened) (silent : call.reports = []) :
    Balanced call.roster.paths (call.perform surroundings use) := by
  have even : Balanced call.roster.paths call := by
    intro path
    rw [silent]
    rfl
  rcases call.perform_cases surroundings use with ⟨waiting, same⟩ | ⟨backend, same⟩ | ⟨_, moves⟩
  · rw [same, (unopened waiting).paths]
    exact (list_received_balanced surroundings call waiting (unopened waiting) silent).1
  · rw [same]
    exact even
  · exact moves.balanced even

end RosterCall

namespace Connection

section Events

variable {φ : Type}

/-- The announcements of channels at a path exceed those of closings by the channels there and by
the channels announced once more. -/
def Tallied (repeated paths : List ObjectPath) (connection : Connection φ) : Prop :=
  ∀ path, connection.events.countP (ConnectionEvent.opens path)
    = connection.events.countP (ConnectionEvent.closes path) + paths.count path + repeated.count path

variable {repeated paths : List ObjectPath} {connection : Connection φ}

theorem Tallied.same {after : Connection φ} (tallied : Tallied repeated paths connection)
    (same : after.events = connection.events) : Tallied repeated paths after := by
  intro path
  rw [same]
  exact tallied path

theorem Tallied.record (tallied : Tallied repeated paths connection) {act : Act}
    (silent : ∀ event, act.event? = some event → ∀ path,
      event.opens path = false ∧ event.closes path = false) :
    Tallied repeated paths (connection.record act) := by
  intro path
  have even := tallied path
  rw [record_events]
  cases seen : act.event? with
  | none => simpa using even
  | some event =>
      obtain ⟨opens, closes⟩ := silent event seen path
      rw [Option.toList_some, List.countP_append, List.countP_append, List.countP_singleton,
        List.countP_singleton, opens, closes]
      exact even

theorem Tallied.announced (tallied : Tallied repeated paths connection) (channel : Channel)
    (token : Option Token) :
    Tallied (repeated ++ [channel.path]) paths (connection.announceChannel channel token) := by
  intro path
  have even := tallied path
  obtain ⟨suppressed, events⟩ := connection.announce_channel_events channel token
  have closes : List.countP (ConnectionEvent.closes path)
      [ConnectionEvent.newChannel channel suppressed] = 0 := rfl
  have opens : List.countP (ConnectionEvent.opens path) [ConnectionEvent.newChannel channel suppressed]
      = [channel.path].count path := by
    by_cases same : channel.path = path <;> simp [ConnectionEvent.opens, same]
  rw [events, List.countP_append, List.countP_append, List.count_append, opens, closes]
  omega

theorem apply_reports_events (path : ObjectPath) (reports : List Report)
    (connection : Connection φ) (usable : connection.status ≠ .disconnected) :
    (reports.foldl applyReport connection).events.countP (ConnectionEvent.opens path)
        = connection.events.countP (ConnectionEvent.opens path) + timesOpened reports path ∧
      (reports.foldl applyReport connection).events.countP (ConnectionEvent.closes path)
        = connection.events.countP (ConnectionEvent.closes path) + timesClosed reports path := by
  induction reports generalizing connection with
  | nil => exact ⟨rfl, rfl⟩
  | cons report rest induction =>
      have status := (connection.apply_report_eased report).status
      obtain ⟨opens, closes⟩ := induction (connection.applyReport report) (status ▸ usable)
      have first : (connection.applyReport report).events.countP (ConnectionEvent.opens path)
            = connection.events.countP (ConnectionEvent.opens path) + timesOpened [report] path ∧
          (connection.applyReport report).events.countP (ConnectionEvent.closes path)
            = connection.events.countP (ConnectionEvent.closes path) + timesClosed [report] path := by
        cases report with
        | newChannel channel token =>
            have announced : connection.applyReport (.newChannel channel token)
                = connection.announceChannel channel token := if_neg usable
            obtain ⟨suppressed, events⟩ := connection.announce_channel_events channel token
            rw [announced, events, List.countP_append, List.countP_append]
            exact ⟨rfl, rfl⟩
        | channelError channel failure token =>
            have answered : connection.applyReport (.channelError channel failure token)
                = connection.answerMatching channel token (.error failure) := rfl
            rw [answered, answer_matching_events]
            exact ⟨rfl, rfl⟩
        | channelClosed closed =>
            have told : connection.applyReport (.channelClosed closed)
                = connection.record (.announced (.channelClosed closed)) := rfl
            rw [told, record_events, List.countP_append, List.countP_append]
            exact ⟨rfl, rfl⟩
      rw [List.foldl_cons, ← List.singleton_append, times_opened_append, times_closed_append,
        opens, closes, first.1, first.2, Nat.add_assoc, Nat.add_assoc]
      exact ⟨rfl, rfl⟩

end Events

variable {β : Type} [RosterBackend β] {connection before after : Connection (Roster β)}
  {roster : Roster β} {repeated : List ObjectPath}

/-- The paths of channels that a request creates and that have another handle than it names. -/
def echoes (moment : Connection (Roster β)) (request : ChannelRequest) : List ObjectPath :=
  moment.factories.flatMap fun roster =>
    (ChannelFactory.request roster request moment.nextToken moment.surroundings
      moment.repositories).answer.echo request

omit [RosterBackend β] in
theorem apply_call_tallied {α : Type} {call : RosterCall β} {result : FactoryCall (Roster β) α}
    (only : connection.factories = [roster]) (usable : connection.status ≠ .disconnected)
    (tallied : Tallied repeated roster.paths connection)
    (balanced : RosterCall.Balanced roster.paths call) (factory : result.factory = call.roster)
    (reports : result.reports = call.reports) :
    (connection.applyCall 0 result).factories = [call.roster] ∧
      Tallied repeated call.roster.paths (connection.applyCall 0 result) := by
  constructor
  · rw [(connection.apply_call_eased 0 result).factories, taking]
    dsimp only
    rw [only, factory]
    rfl
  · intro path
    have even := balanced path
    have earlier := tallied path
    obtain ⟨opens, closes⟩ := apply_reports_events path result.reports (connection.taking 0 result)
      usable
    have applied : connection.applyCall 0 result
        = result.reports.foldl applyReport (connection.taking 0 result) := rfl
    have before : (connection.taking 0 result).events = connection.events := rfl
    rw [applied, opens, closes, before, reports]
    omega

theorem hook_all_single (only : connection.factories = [roster]) {hook : FactoryHook}
    (rising : hook = .connecting ∨ hook = .connected) :
    connection.hookAll hook = connection.record (.hooked 0 hook) := by
  cases connection
  dsimp only at only
  subst only
  rcases rising with same | same <;> subst same <;> rfl

theorem change_status_tallied {status : ConnectionStatus} {hook : FactoryHook}
    (told : hookOf? status = some hook) (rising : hook = .connecting ∨ hook = .connected)
    (reason : StatusReason) (only : connection.factories = [roster])
    (tallied : Tallied repeated roster.paths connection) :
    (connection.changeStatus status reason).factories = [roster] ∧
      Tallied repeated roster.paths (connection.changeStatus status reason) := by
  have changed : Tallied repeated roster.paths { connection with status, reason } :=
    tallied.same rfl
  have announced : Tallied repeated roster.paths (({ connection with status, reason }).announceEvent
      (.statusChanged status.visible reason)) := by
    apply changed.record
    intro event seen path
    cases seen
    exact ⟨rfl, rfl⟩
  have still : (({ connection with status, reason }).announceEvent
      (.statusChanged status.visible reason)).factories = [roster] := only
  unfold changeStatus
  rw [told]
  dsimp only
  rw [hook_all_single still rising]
  refine ⟨only, announced.record ?_⟩
  intro event seen
  cases seen

omit [RosterBackend β] in
/-- A channel made for a request and reported to nobody in particular leaves the request in the
queue exactly if it has another handle. -/
theorem contains_after_created {channel : Channel} {request : ChannelRequest} {sender : String}
    (fresh : ∀ waiting ∈ connection.queue.pending, waiting.token ≠ connection.nextToken)
    (usable : connection.status ≠ .disconnected)
    (sort : channel.channelType = request.channelType) (kind : channel.kind = request.kind)
    (group : channel.kind = .group) (current : Connection (Roster β))
    (queue : current.queue = (connection.accepting request sender).queue)
    (status : current.status = connection.status) :
    (([.newChannel channel none] : List Report).foldl applyReport current).queue.contains
        connection.nextToken = true ↔ channel.handle ≠ request.handle := by
  have announced : ([.newChannel channel none] : List Report).foldl applyReport current
      = current.announceChannel channel none := if_neg (status ▸ usable)
  obtain ⟨suppressed, same⟩ := current.announce_channel_eq channel none
  have left : (current.announceChannel channel none).queue.pending
      = current.queue.pending.filter (! RequestQueue.isAnswered channel none ·) := by
    rw [same, answer_matching_eq, reply_eq]
    rfl
  have pending : current.queue.pending = connection.queue.pending
      ++ [⟨connection.nextToken, request, sender, connection.nextToken⟩] := by
    rw [queue]
    rfl
  have others : connection.queue.pending.any (fun waiting =>
      (! RequestQueue.isAnswered channel none waiting) && waiting.token = connection.nextToken)
        = false := by
    apply List.any_eq_false.2
    intro waiting member
    simp [fresh waiting member]
  rw [announced, RequestQueue.contains, left, List.any_filter, pending, List.any_append, others]
  simp [RequestQueue.isAnswered, Channel.satisfies, sort, ← kind, group]

theorem Accounted.fresh_token {tokens : List Token} {φ : Type} {connection : Connection φ}
    (accounted : Accounted tokens connection) :
    ∀ waiting ∈ connection.queue.pending, waiting.token ≠ connection.nextToken := by
  intro waiting member same
  have ticket : waiting.reply ∈ connection.tickets :=
    List.mem_append_left _ (List.mem_map_of_mem member)
  have given := accounted.tickets.subset ticket
  rw [accounted.numbered waiting member, same, accounted.counted, List.mem_range'_1] at given
  have positive := accounted.positive
  omega

/-- The only factory is asked. A channel that it creates is announced if the request still waits
after that; otherwise the answer shows in no event. -/
theorem ask_single (connection : Connection (Roster β)) (request : ChannelRequest) (token : Token)
    (only : connection.factories = [roster]) :
    let given := ChannelFactory.request roster request token connection.surroundings
      connection.repositories
    let applied := (connection.record (.asked 0 token)).applyCall 0 given
    let after := askFactories request token [0] none connection
    (∃ channel, given.answer = .created channel ∧ applied.queue.contains token = true ∧
        after = applied.announceChannel channel (some token)) ∨
      ((∀ channel, given.answer = .created channel → ¬ applied.queue.contains token = true) ∧
        Eased applied after ∧ after.events = applied.events) := by
  intro given applied after
  have found : connection.factories[0]? = some roster := by
    rw [only]
    rfl
  have walk : after = askFactories request token [0] none connection := rfl
  unfold askFactories at walk
  rw [found] at walk
  have called : ChannelFactory.request roster request token connection.surroundings
      connection.repositories = given := rfl
  dsimp only at walk
  rw [called] at walk
  obtain ⟨answer, answered⟩ : ∃ answer, given.answer = answer := ⟨_, rfl⟩
  have quiet : (∀ channel, answer ≠ .created channel) → Eased applied after ∧
      after.events = applied.events →
        (∀ channel, given.answer = .created channel → ¬ applied.queue.contains token = true) ∧
          Eased applied after ∧ after.events = applied.events :=
    fun other settled =>
      ⟨fun channel created => absurd (answered.symm.trans created) (other channel), settled⟩
  rw [answered] at walk
  cases answer with
  | created channel =>
      by_cases waits : applied.queue.contains token = true
      · exact .inl ⟨channel, answered, waits, walk.trans (if_pos waits)⟩
      · have left : after = applied := walk.trans (if_neg waits)
        rw [left]
        exact .inr ⟨fun _ _ => waits, .refl _, rfl⟩
  | existing channel =>
      refine .inr (quiet (fun _ same => by cases same) ?_)
      rw [walk]
      exact ⟨answer_matching_eased _ _ _ _, answer_matching_events _ _ _ _⟩
  | queued =>
      refine .inr (quiet (fun _ same => by cases same) ?_)
      rw [walk]
      exact ⟨.refl _, rfl⟩
  | _ =>
      refine .inr (quiet (fun _ same => by cases same) ?_)
      rw [walk]
      exact ⟨answer_token_eased _ _ _, answer_token_events _ _ _⟩

theorem waits_after_created {tokens : List Token} {channel : Channel} {request : ChannelRequest}
    (accounted : Accounted tokens connection) (usable : connection.status ≠ .disconnected)
    (sender : String)
    (answered : (ChannelFactory.request roster request connection.nextToken connection.surroundings
      connection.repositories).answer = .created channel) :
    (((connection.accepting request sender).record (.asked 0 connection.nextToken)).applyCall 0
      (ChannelFactory.request roster request connection.nextToken connection.surroundings
        connection.repositories)).queue.contains connection.nextToken = true ↔
      channel.handle ≠ request.handle := by
  let call : RosterCall β := { roster, repositories := connection.repositories }
  let given := ChannelFactory.request roster request connection.nextToken connection.surroundings
    connection.repositories
  let asked := (connection.accepting request sender).record (.asked 0 connection.nextToken)
  have pair : call.request connection.surroundings request connection.nextToken
      = (.created channel, (call.request connection.surroundings request connection.nextToken).2) :=
    Prod.ext answered rfl
  obtain ⟨sort, kind, group, reports⟩ := RosterCall.request_created pair
  have told : given.reports = [.newChannel channel none] := reports
  have applied : asked.applyCall 0 given = ([.newChannel channel none] : List Report).foldl
      applyReport (asked.taking 0 given) := by
    rw [← told]
    rfl
  change (asked.applyCall 0 given).queue.contains connection.nextToken = true ↔ _
  rw [applied]
  exact contains_after_created accounted.fresh_token usable sort kind group _ rfl rfl

/-- A request leaves the tally even, but for a channel that it has announced once more. -/
theorem request_tallied {tokens : List Token} {token : Token} {request : ChannelRequest}
    {sender : String} (accounted : Accounted tokens before) (only : before.factories = [roster])
    (tallied : Tallied repeated roster.paths before)
    (done : before.requestChannel request sender = .ok (token, after)) :
    ∃ next, after.factories = [next] ∧
      Tallied (repeated ++ before.echoes request) next.paths after := by
  obtain ⟨_, connected, _, same⟩ := request_channel_eq_ok done
  let call : RosterCall β := { roster, repositories := before.repositories }
  let next := (call.request before.surroundings request before.nextToken).2
  let given := ChannelFactory.request roster request before.nextToken before.surroundings
    before.repositories
  let asked := (before.accepting request sender).record (.asked 0 before.nextToken)
  have usable : before.status ≠ .disconnected := by
    rw [connected]
    decide
  have askedTallied : Tallied repeated roster.paths asked := by
    have accepted : Tallied repeated roster.paths (before.accepting request sender) :=
      tallied.same rfl
    apply accepted.record
    intro event seen
    cases seen
  have askedOnly : asked.factories = [roster] := only
  have balanced : RosterCall.Balanced roster.paths next :=
    RosterCall.request_balanced before.surroundings call request before.nextToken rfl
  obtain ⟨kept, even⟩ : (asked.applyCall 0 given).factories = [next.roster] ∧
      Tallied repeated next.roster.paths (asked.applyCall 0 given) :=
    apply_call_tallied askedOnly usable askedTallied balanced rfl rfl
  have echo : before.echoes request = given.answer.echo request := by
    unfold echoes
    rw [only, List.flatMap_singleton]
  have walk : after = askFactories request before.nextToken [0] none
      (before.accepting request sender) := by
    rw [same, only]
    rfl
  have created : ∀ channel, given.answer = .created channel →
      ((asked.applyCall 0 given).queue.contains before.nextToken = true ↔
        channel.handle ≠ request.handle) :=
    fun channel => waits_after_created accounted usable sender
  refine ⟨next.roster, ?_⟩
  rw [echo]
  rcases ask_single (before.accepting request sender) request before.nextToken only with
    ⟨channel, answered, waits, announced⟩ | ⟨silent, eased, events⟩
  · have again : after = (asked.applyCall 0 given).announceChannel channel
        (some before.nextToken) := walk.trans announced
    have repeats : given.answer = .created channel := answered
    have other : channel.handle ≠ request.handle := (created channel repeats).1 waits
    rw [repeats, again, RequestAnswer.echo, if_neg other]
    exact ⟨(announce_channel_eased _ channel _).factories.trans kept, even.announced channel _⟩
  · have settled : Eased (asked.applyCall 0 given) after := walk ▸ eased
    have shown : after.events = (asked.applyCall 0 given).events := walk ▸ events
    have none : given.answer.echo request = [] := by
      unfold RequestAnswer.echo
      split
      · rename_i channel answered
        have same : channel.handle = request.handle := by
          by_contra other
          exact silent channel answered ((created channel answered).2 other)
        rw [if_pos same]
      · rfl
    rw [none, List.append_nil]
    exact ⟨settled.factories.trans kept, even.same shown⟩

variable {made : List (Connection (Roster β) × ChannelRequest)}

/-- The paths announced once more in a run. -/
def repetitions (made : List (Connection (Roster β) × ChannelRequest)) : List ObjectPath :=
  made.flatMap fun entry => entry.1.echoes entry.2

theorem RosterStep.tallied {tokens : List Token} (step : RosterStep Lodging.own 0 made before after)
    (usable : after.status ≠ .disconnected) (accounted : Accounted tokens before)
    (only : before.factories = [roster]) (kept : roster.Kept before.surroundings [])
    (tallied : Tallied repeated roster.paths before) :
    ∃ next, after.factories = [next] ∧ Tallied (repeated ++ repetitions made) next.paths after := by
  have open_ : before.status ≠ .disconnected :=
    fun gone => usable ((step.phases Roster.works).disconnected gone)
  cases step with
  | aside _ interfaces registered repositories worked ended =>
      refine ⟨roster, only, ?_⟩
      rw [repetitions, List.flatMap_nil, List.append_nil]
      exact tallied.same rfl
  | connect _ context usable =>
      refine ⟨roster, ?_⟩
      rw [repetitions, List.flatMap_nil, List.append_nil]
      obtain ⟨still, asked⟩ : (before.changeStatus .connecting .requested).factories = [roster] ∧
          Tallied repeated roster.paths (before.changeStatus .connecting .requested) :=
        change_status_tallied rfl (.inl rfl) .requested only tallied
      have attempted : Tallied repeated roster.paths before.attempting := by
        apply asked.record
        intro event seen
        cases seen
      rcases before.connect_cases Roster.works context usable with
        same | ⟨_, same | ⟨handle, contacts, _, same⟩⟩
      · rw [same]
        exact ⟨only, tallied⟩
      · rw [same]
        exact ⟨still, attempted⟩
      · let known : Connection (Roster β) := { before.attempting with
          repositories := { before.attempting.repositories with contacts }
          selfHandle := handle }
        have known_only : known.factories = [roster] := still
        have known_tallied : Tallied repeated roster.paths known := attempted.same rfl
        rw [same]
        exact change_status_tallied rfl (.inr rfl) .requested known_only known_tallied
  | request request sender done =>
      rw [repetitions, List.flatMap_singleton]
      exact request_tallied accounted only tallied done
  | use use done =>
      obtain ⟨factory, result, present, called, same⟩ := with_factory_taken done
      rw [only] at present
      cases present
      cases called
      let call : RosterCall β := { roster, repositories := before.repositories }
      have balanced : RosterCall.Balanced roster.paths (call.perform before.surroundings use) :=
        RosterCall.perform_balanced before.surroundings call use kept.unopened rfl
      have recorded : Tallied repeated roster.paths (before.record (.called 0)) := by
        apply tallied.record
        intro event seen
        cases seen
      have recorded_only : (before.record (.called 0)).factories = [roster] := only
      refine ⟨(call.perform before.surroundings use).roster, ?_⟩
      rw [same, repetitions, List.flatMap_nil, List.append_nil]
      exact apply_call_tallied recorded_only open_ recorded balanced rfl rfl
  | other index elsewhere call worked done =>
      obtain ⟨factory, result, present, _, _⟩ := with_factory_taken done
      rw [only] at present
      obtain ⟨bound, _⟩ := List.getElem?_eq_some_iff.1 present
      exact absurd (Nat.lt_one_iff.1 bound) elsewhere

theorem RosterRun.tallied {start : Connection (Roster β)} {backend : β} (fresh : Fresh start)
    (only : start.factories = [{ backend }]) (run : RosterRun Lodging.own 0 made start connection)
    (usable : connection.status ≠ .disconnected) :
    ∃ roster, connection.factories = [roster] ∧ roster.Kept connection.surroundings [] ∧
      Tallied (repetitions made) roster.paths connection := by
  have begun : Standing Lodging.own 0 [] start :=
    ⟨{ backend }, by rw [only]; rfl, Roster.new_kept _ backend⟩
  induction run with
  | refl =>
      refine ⟨{ backend }, only, Roster.new_kept _ backend, ?_⟩
      obtain ⟨plan, transport, factories, context, built⟩ := fresh
      obtain ⟨names, _, same⟩ := Outcome.map_eq_ok.1 built
      subst same
      exact fun path => rfl
  | next run step induction =>
      have open_ : _ ≠ ConnectionStatus.disconnected :=
        fun gone => usable ((step.phases Roster.works).disconnected gone)
      obtain ⟨roster, alone, kept, tallied⟩ := induction fresh only open_ begun
      have accounted := (run.phases Roster.works).accounted Roster.works fresh.accounted
      obtain ⟨next, after_alone, after_tallied⟩ := step.tallied usable accounted alone kept tallied
      obtain ⟨standing, present, after_kept⟩ :=
        (run.next step).standing Roster.works usable begun
      rw [after_alone] at present
      cases present
      rw [repetitions, List.flatMap_append]
      exact ⟨_, after_alone, after_kept, after_tallied⟩

/-- As long as a connection whose only factory is a roster is not ended, every path was announced
as often as it was announced closed, and once more if a channel is open there, and once more for
every request that created a channel there under another handle than the request named. -/
theorem channel_broadcasts {start : Connection (Roster β)} {backend : β} (fresh : Fresh start)
    (only : start.factories = [{ backend }]) (run : RosterRun Lodging.own 0 made start connection)
    (usable : connection.status ≠ .disconnected) (path : ObjectPath) :
    connection.events.countP (ConnectionEvent.opens path)
      = connection.events.countP (ConnectionEvent.closes path)
        + (if path ∈ connection.openChannels.map Channel.path then 1 else 0)
        + (repetitions made).count path := by
  obtain ⟨roster, alone, kept, tallied⟩ := run.tallied fresh only usable
  have channels : connection.openChannels.map Channel.path = roster.paths := by
    unfold openChannels
    rw [alone, List.flatMap_singleton]
    rfl
  rw [channels, tallied path]
  congr 2
  by_cases member : path ∈ roster.paths
  · rw [if_pos member, List.count_eq_one_of_mem kept.shaped.paths_nodup member]
  · rw [if_neg member, List.count_eq_zero_of_not_mem member]

def rehearsedArrival : Connection (Roster Rehearsal.StandInBackend) :=
  ((rehearsedRosterUp.withFactory 0 (Lodging.own.visit .listReceived)).map Prod.snd).getD
    rehearsedRosterUp

theorem rehearsed_arrival_run : RosterRun Lodging.own 0 [] rehearsedRoster rehearsedArrival :=
  .next rehearsed_roster_up_run (.use .listReceived rfl)

def subscribePath : ObjectPath :=
  ((listPath rehearsedRoster.names.objectPath .subscribe).toOption).get (by decide +kernel)

/-- Where the group friends has its channel. -/
def friendsPath : ObjectPath :=
  ((rehearsedRoster.surroundings.channelPath [RosterCall.groupElement, "friends"]).toOption).get
    (by decide +kernel)

theorem channel_broadcasts_rehearsed :
    Fresh rehearsedRoster ∧ rehearsedRoster.factories = [{ backend := smallLetters }] ∧
      RosterRun Lodging.own 0 [] rehearsedRoster rehearsedArrival ∧
      rehearsedArrival.status ≠ .disconnected ∧
      rehearsedArrival.events.countP (ConnectionEvent.opens subscribePath) = 1 := by
  have only : rehearsedRoster.factories = [{ backend := smallLetters }] := rfl
  have usable : rehearsedArrival.status ≠ .disconnected :=
    fun gone => ConnectionStatus.noConfusion gone
  have told := channel_broadcasts rehearsed_roster_fresh only rehearsed_arrival_run usable
    subscribePath
  have seen : rehearsedArrival.events.countP (ConnectionEvent.closes subscribePath) = 0 ∧
      subscribePath ∈ rehearsedArrival.openChannels.map Channel.path := by
    decide +kernel
  obtain ⟨closed, member⟩ := seen
  rw [closed, if_pos member] at told
  exact ⟨rehearsed_roster_fresh, only, rehearsed_arrival_run, usable, told⟩

def rehearsedHolding : Connection (Roster Rehearsal.StandInBackend) :=
  (rehearsedArrival.requestHandles .group ["Friends"] ":1.50").2

theorem rehearsed_holding_run : RosterRun Lodging.own 0 [] rehearsedRoster rehearsedHolding :=
  rehearsed_arrival_run.next (on_repository_step rehearsedArrival .group _ fun repository =>
    repository.request_all_steps ":1.50" ["Friends"])

def rehearsedEcho : Connection (Roster Rehearsal.StandInBackend) :=
  ((rehearsedHolding.requestChannel groupRequest ":1.50").toOption.map Prod.snd).getD
    rehearsedHolding

/-- The channel of a group that a client asked for under another name than the backend's is open
once and announced twice. -/
theorem group_announced_twice :
    ∃ made : List (Connection (Roster Rehearsal.StandInBackend) × ChannelRequest),
      Fresh rehearsedRoster ∧ rehearsedRoster.factories = [{ backend := smallLetters }] ∧
        RosterRun Lodging.own 0 made rehearsedRoster rehearsedEcho ∧
        rehearsedEcho.status = .connected ∧
        (rehearsedEcho.openChannels.map Channel.path).count friendsPath = 1 ∧
        rehearsedEcho.events.countP (ConnectionEvent.opens friendsPath) = 2 ∧
        rehearsedEcho.events.countP (ConnectionEvent.closes friendsPath) = 0 := by
  have done : rehearsedHolding.requestChannel groupRequest ":1.50" = .ok (1, rehearsedEcho) := rfl
  exact ⟨_, rehearsed_roster_fresh, rfl,
    rehearsed_holding_run.next (.request groupRequest ":1.50" done), by decide +kernel⟩

end Connection

end ConnectionManager
