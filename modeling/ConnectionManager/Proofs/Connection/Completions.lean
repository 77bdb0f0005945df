import ConnectionManager.Proofs.Connection.Outcomes

/-!
What completes a request. A success is told while a connection acts on a channel that a factory speaks
of: the factory has reported it, or answers a request with it. The channel takes the request out of
the queue in the same move (`Speaks.taken`), and nothing else tells a success (`speaks_of_told`).
-/

namespace ConnectionManager.Connection

variable {φ : Type} {Work : Repositories → Repositories → Prop}
  {before after start connection moment next : Connection φ} {number index : Nat} {path : ObjectPath}
  {channel : Channel} {made : Option Token}

structure Tells (number : Nat) (path : ObjectPath) (before after : Connection φ) : Prop where
  untold : (number, .ok path) ∉ before.replies
  told : (number, .ok path) ∈ after.replies

/-- A channel with a path takes the request with a number out of the queue. -/
def Takes (connection : Connection φ) (channel : Channel) (made : Option Token) (number : Nat)
    (path : ObjectPath) : Prop :=
  channel.path = path ∧
    ∃ request ∈ (connection.queue.takeMatching channel made).1, request.reply = number

/-! ### Moves that tell a success -/

theorem mem_reply {outcome : Outcome ObjectPath} {requests : List PendingRequest}
    (told : (number, .ok path) ∈ (connection.reply outcome requests).replies) :
    (number, .ok path) ∈ connection.replies ∨
      (outcome = .ok path ∧ ∃ request ∈ requests, request.reply = number) := by
  rw [replies_reply] at told
  rcases List.mem_append.1 told with earlier | sent
  · exact .inl earlier
  · obtain ⟨request, present, same⟩ := List.mem_map.1 sent
    cases same
    exact .inr ⟨rfl, request, present, rfl⟩

theorem Tells.answer_matching {outcome : Outcome ObjectPath}
    (tells : Tells number path connection (connection.answerMatching channel made outcome)) :
    outcome = .ok path ∧
      ∃ request ∈ (connection.queue.takeMatching channel made).1, request.reply = number := by
  rcases mem_reply tells.told with earlier | sent
  · exact absurd earlier tells.untold
  · exact sent

theorem Tells.announce_channel
    (tells : Tells number path connection (connection.announceChannel channel made)) :
    connection.Takes channel made number path := by
  obtain ⟨suppressed, same⟩ := connection.announce_channel_eq channel made
  have untouched : (connection.announceEvent (.newChannel channel suppressed)).replies
      = connection.replies := by simp [replies, announceEvent, record, Journal.emit]
  rw [same] at tells
  obtain ⟨outcome, taken⟩ := Tells.answer_matching ⟨untouched ▸ tells.untold, tells.told⟩
  exact ⟨Except.ok.inj outcome, taken⟩

theorem answer_token_tells {token : Token} {failure : Failure} :
    ¬ Tells number path connection (connection.answerToken token (.error failure)) := by
  intro tells
  have told := tells.told
  unfold answerToken at told
  split at told
  · rcases mem_reply told with earlier | ⟨other, _⟩
    · exact tells.untold earlier
    · cases other
  · exact tells.untold told

theorem Tells.report {report : Report}
    (tells : Tells number path connection (connection.applyReport report)) :
    ∃ channel made, report = .newChannel channel made ∧
      connection.Takes channel made number path := by
  cases report with
  | newChannel channel made =>
      refine ⟨channel, made, rfl, ?_⟩
      change Tells number path connection (if connection.status = .disconnected then connection
        else connection.announceChannel channel made) at tells
      by_cases ended : connection.status = .disconnected
      · rw [if_pos ended] at tells
        exact absurd tells.told tells.untold
      · rw [if_neg ended] at tells
        exact tells.announce_channel
  | channelError channel failure made =>
      cases (Tells.answer_matching tells).1
  | channelClosed path =>
      have untouched : (connection.announceEvent (.channelClosed path)).replies
          = connection.replies := by simp [replies, announceEvent, record, Journal.emit]
      exact absurd (untouched ▸ tells.told) tells.untold

theorem Tells.conclude {token : Token} {answers : List RequestAnswer}
    (tells : Tells number path connection (connection.conclude token answers)) :
    ∃ channel, (answers.getLast? = some (.existing channel) ∨
        answers.getLast? = some (.created channel)) ∧
      connection.Takes channel (some token) number path := by
  unfold Connection.conclude at tells
  split at tells
  · rename_i channel last
    obtain ⟨outcome, taken⟩ := tells.answer_matching
    exact ⟨channel, .inl last, Except.ok.inj outcome, taken⟩
  · rename_i channel last
    split at tells
    · exact ⟨channel, .inr last, tells.announce_channel⟩
    · exact absurd tells.told tells.untold
  · exact absurd tells answer_token_tells
  · exact absurd tells.told tells.untold
  · exact absurd tells answer_token_tells

theorem Tells.split {reports : List Report}
    (tells : Tells number path start (reports.foldl applyReport start)) :
    ∃ early report late, reports = early ++ report :: late ∧
      Tells number path (early.foldl applyReport start)
        ((early.foldl applyReport start).applyReport report) := by
  induction reports generalizing start with
  | nil => exact absurd tells.told tells.untold
  | cons report rest induction =>
      by_cases told : (number, .ok path) ∈ (start.applyReport report).replies
      · exact ⟨[], report, rest, rfl, tells.untold, told⟩
      · obtain ⟨early, later, late, split, first⟩ := induction ⟨told, tells.told⟩
        exact ⟨report :: early, later, late, by rw [split]; rfl, first⟩

/-! ### What factories speak of -/

/-- A connection takes a factory call over. It has acted on some of the reports that the call has left,
and acts on that of a new channel next. -/
inductive Reported {α : Type} (start : Connection φ) (index : Nat) (call : FactoryCall φ α) :
    Connection φ → Channel → Option Token → Connection φ → Prop
  | report {early late : List Report} {channel : Channel} {made : Option Token}
      (left : call.reports = early ++ .newChannel channel made :: late) :
      Reported start index call (start.applyCall index { call with reports := early }) channel made
        ((start.applyCall index { call with reports := early }).applyReport
          (.newChannel channel made))

/-- On the walk over the factories for a request, a factory that is asked has reported a channel, or
the last one answers with a channel. Such a channel was made for the request, or was there already. -/
inductive Spoken [ChannelFactory φ] (before : Connection φ) (request : ChannelRequest)
    (sender : String) : Connection φ → Channel → Option Token → Connection φ → Prop
  | reported {answers : List RequestAnswer} {walked : Connection φ} {factory : φ}
      {moment : Connection φ} {channel : Channel} {made : Option Token} {next : Connection φ}
      (asked : Asked request before.nextToken (before.accepting request sender) answers walked)
      (refused : ∀ answer ∈ answers, answer.IsRefusal)
      (present : walked.factories[answers.length]? = some factory)
      (reported : Reported (walked.record (.asked answers.length before.nextToken)) answers.length
        (ChannelFactory.request factory request before.nextToken walked.surroundings
          walked.repositories) moment channel made next) :
      Spoken before request sender moment channel made next
  | answered {answers : List RequestAnswer} {walked : Connection φ} {channel : Channel}
      (asked : Asked request before.nextToken (before.accepting request sender) answers walked)
      (last : answers.getLast? = some (.existing channel) ∨
        answers.getLast? = some (.created channel)) :
      Spoken before request sender walked channel (some before.nextToken)
        (walked.conclude before.nextToken answers)

/-- On a run from an accepted request on, a connection acts on a channel that a factory speaks of: on
the walk for this very request, on the walk for a later one, or when somebody has called the factory.
`made` is the token of the request for which the channel was made, if the factory says so. -/
inductive Speaks [ChannelFactory φ] (Work : Repositories → Repositories → Prop)
    (asked : Connection φ) (request : ChannelRequest) (sender : String) (accepted : Connection φ) :
    Connection φ → Connection φ → Channel → Option Token → Connection φ → Prop
  | own {more : List Token} {later moment : Connection φ} {channel : Channel} {made : Option Token}
      {next : Connection φ} (spoken : Spoken asked request sender moment channel made next)
      (rest : Calls Work more accepted later) :
      Speaks Work asked request sender accepted later moment channel made next
  | other {tokens more : List Token} {before after later : Connection φ} {other : ChannelRequest}
      {client : String} {token : Token} {moment : Connection φ} {channel : Channel}
      {made : Option Token} {next : Connection φ} (run : Calls Work tokens accepted before)
      (done : before.requestChannel other client = .ok (token, after))
      (spoken : Spoken before other client moment channel made next)
      (rest : Calls Work more after later) :
      Speaks Work asked request sender accepted later moment channel made next
  | called {α : Type} {tokens more : List Token} {before later : Connection φ} {index : Nat}
      {factory : φ} {call : φ → Surroundings → Repositories → Option (FactoryCall φ α)}
      {result : FactoryCall φ α} {moment : Connection φ} {channel : Channel} {made : Option Token}
      {next : Connection φ} (run : Calls Work tokens accepted before)
      (present : before.factories[index]? = some factory)
      (outcome : call factory before.surroundings before.repositories = some result)
      (reported : Reported (before.record (.called index)) index result moment channel made next)
      (rest : Calls Work more ((before.record (.called index)).applyCall index result) later) :
      Speaks Work asked request sender accepted later moment channel made next

theorem reported_of_tells {α : Type} {call : FactoryCall φ α}
    (tells : Tells number path start (start.applyCall index call)) :
    ∃ moment channel made next, Reported start index call moment channel made next ∧
      Tells number path moment next := by
  have taking : Tells number path
      { start with factories := start.factories.set index call.factory,
                   repositories := call.repositories }
      (start.applyCall index call) := ⟨tells.untold, tells.told⟩
  obtain ⟨early, report, late, left, first⟩ := taking.split
  obtain ⟨channel, made, rfl, _⟩ := first.report
  exact ⟨_, channel, made, _, .report left, first⟩

theorem Reported.taken {α : Type} {call : FactoryCall φ α}
    (reported : Reported start index call moment channel made next)
    (tells : Tells number path moment next) : moment.Takes channel made number path := by
  cases reported with
  | report left =>
      obtain ⟨_, _, same, taken⟩ := tells.report
      cases same
      exact taken

theorem record_replies {act : Act} (silent : ∀ number outcome, act ≠ .replied number outcome) :
    (connection.record act).replies = connection.replies := by
  unfold replies record Journal.emit
  rw [List.filterMap_append]
  cases act with
  | replied number outcome => exact absurd rfl (silent number outcome)
  | _ => exact List.append_nil _

section Walk

variable [ChannelFactory φ] {request : ChannelRequest} {sender : String} {token : Token}
  {answers : List RequestAnswer} {walked : Connection φ}

theorem Spoken.taken (spoken : Spoken before request sender moment channel made next)
    (tells : Tells number path moment next) : moment.Takes channel made number path := by
  cases spoken with
  | reported asked refused present reported => exact reported.taken tells
  | answered asked last =>
      obtain ⟨_, again, taken⟩ := tells.conclude
      rcases last with last | last <;> rw [last] at again <;> rcases again with same | same <;>
        cases same <;> exact taken

theorem Asked.spoken
    (asked : Asked request before.nextToken (before.accepting request sender) answers walked)
    (tells : Tells number path (before.accepting request sender) walked) :
    ∃ moment channel made next, Spoken before request sender moment channel made next ∧
      Tells number path moment next := by
  induction asked with
  | start => exact absurd tells.told tells.untold
  | @ask answers connection factory asked refused present induction =>
      by_cases told : (number, .ok path) ∈ connection.replies
      · exact induction ⟨tells.untold, told⟩
      · have untold : (number, .ok path)
            ∉ (connection.record (.asked answers.length before.nextToken)).replies := by
          rwa [record_replies fun _ _ same => by cases same]
        obtain ⟨moment, channel, made, next, reported, first⟩ :=
          reported_of_tells ⟨untold, tells.told⟩
        exact ⟨moment, channel, made, next, .reported asked refused present reported, first⟩

theorem spoken_of_tells (done : before.requestChannel request sender = .ok (token, after))
    (tells : Tells number path before after) :
    ∃ moment channel made next, Spoken before request sender moment channel made next ∧
      Tells number path moment next := by
  obtain ⟨given, _⟩ := request_channel_eq_ok done
  rw [given] at done
  obtain ⟨answers, walked, asked, _, settled⟩ := request_channel_asked done
  by_cases told : (number, .ok path) ∈ walked.replies
  · exact asked.spoken ⟨tells.untold, told⟩
  · have concluding : Tells number path walked (walked.conclude before.nextToken answers) :=
      ⟨told, settled ▸ tells.told⟩
    obtain ⟨channel, last, _⟩ := concluding.conclude
    exact ⟨_, channel, _, _, .answered asked last, concluding⟩

end Walk

/-! ### Calls that tell a success -/

theorem Hooking.no_reply {hook : FactoryHook} {factories : Nat} {acts : List Act}
    {outcome : Outcome ObjectPath} (hooking : Hooking hook factories acts) :
    .replied number outcome ∉ acts := by
  intro member
  have answered : number ∈ acts.filterMap Act.answered? := List.mem_filterMap.2 ⟨_, member, rfl⟩
  rw [hooking.unanswered] at answered
  cases answered

theorem Ended.no_success {context next : Context} {reason : StatusReason}
    (ended : Ended before context reason after next) : ¬ Tells number path before after := by
  rintro ⟨untold, told⟩
  obtain ⟨first, second, hooked, entries⟩ := ended.recorded
  rw [mem_replies] at untold told
  rw [entries] at told
  rcases List.mem_append.1 told with earlier | parting
  · exact untold earlier
  · simp only [farewell, List.mem_append] at parting
    rcases parting with (((((changed | failed) | left) | released) | invalidated) | named) | finished
    · cases List.mem_singleton.1 changed
    · cases (mem_replied failed).1
    · split at left
      · cases left
      · rename_i started
        rcases List.mem_append.1 left with hooks | last
        · rcases List.mem_append.1 hooks with early | late
          · exact (hooked started).1.no_reply early
          · exact (hooked started).2.no_reply late
        · cases List.mem_singleton.1 last
    · split at released
      · cases released
      · cases List.mem_singleton.1 released
    · cases List.mem_singleton.1 invalidated
    · split at named
      · cases List.mem_singleton.1 named
      · cases named
    · cases List.mem_singleton.1 finished

theorem not_tells_of_acts (same : after.acts = before.acts) : ¬ Tells number path before after := by
  rintro ⟨untold, told⟩
  unfold replies at told
  rw [same] at told
  exact untold told

theorem on_repository_acts {α : Type} (connection : Connection φ) (kind : HandleKind)
    (batch : Repository → Repository.Batch α) :
    (connection.onRepository kind batch).2.acts = connection.acts := by
  unfold onRepository
  split <;> rfl

section Calls

variable [ChannelFactory φ] {context : Context} {tokens : List Token}

theorem shutdown_no_success (works : FactoriesWork Work φ) {reason : StatusReason}
    (completed : (before.shutdown context reason).result.isSome = true) :
    ¬ Tells number path before (before.shutdown context reason).connection := by
  by_cases ended : before.status = .disconnected
  · have same : before.shutdown context reason = ⟨some (), before, context⟩ := if_pos ended
    rw [same]
    exact not_tells_of_acts rfl
  · exact (shutdown_ended works before context reason ended completed).no_success

theorem connect_no_success (started : before.status ≠ .new) :
    ¬ Tells number path before (before.connect context).connection := by
  have attempt := before.connect_attempt context
  generalize before.connect context = run at attempt ⊢
  cases attempt with
  | again answer old => exact not_tells_of_acts rfl
  | waiting fresh | abandoned fresh reason failure | established fresh => exact absurd fresh started

/-- Only a request for a channel and a call of a factory can tell a success. -/
theorem Call.speaks (works : FactoriesWork Work φ) {asked accepted : Connection φ}
    {request : ChannelRequest} {sender : String} {earlier : List Token} {bus : Context}
    (run : Calls Work earlier accepted before) (started : before.status ≠ .new)
    (call : Call Work before context tokens after bus) (tells : Tells number path before after) :
    ∃ moment channel made next,
      Speaks Work asked request sender accepted after moment channel made next ∧
        Tells number path moment next := by
  cases call with
  | refused => exact absurd tells.told tells.untold
  | addInterfaces _ added done =>
      unfold Connection.addInterfaces at done
      split at done
      · cases done
        exact absurd tells (not_tells_of_acts rfl)
      · cases done
  | register _ done =>
      unfold Connection.register at done
      split at done
      · cases done
      · split at done
        · cases done
        · obtain ⟨_, _, rfl⟩ := Outcome.map_eq_ok.1 done
          exact absurd tells (not_tells_of_acts rfl)
  | connect _ context completed => exact absurd tells (connect_no_success started)
  | prepare _ context completed =>
      rw [(before.prepare_as_connect context).1] at tells
      exact absurd tells (connect_no_success started)
  | disconnect _ context completed => exact absurd tells (shutdown_no_success works completed)
  | lose _ context failure completed => exact absurd tells (shutdown_no_success works completed)
  | requestChannel _ other client done =>
      obtain ⟨moment, channel, made, next, spoken, first⟩ := spoken_of_tells done tells
      exact ⟨moment, channel, made, next, .other run done spoken (.refl after), first⟩
  | withFactory _ index call worked done =>
      obtain ⟨_, _, present, outcome, rfl⟩ := with_factory_taken done
      have untold : (number, .ok path) ∉ (before.record (.called index)).replies := by
        rw [record_replies fun _ _ same => by cases same]
        exact tells.untold
      obtain ⟨moment, channel, made, next, reported, first⟩ :=
        reported_of_tells ⟨untold, tells.told⟩
      exact ⟨moment, channel, made, next, .called run present outcome reported (.refl _), first⟩
  | holdHandles | releaseHandles | requestHandles =>
      exact absurd tells (not_tells_of_acts (on_repository_acts ..))
  | clientVanished _ _ client =>
      unfold Connection.clientVanished at tells
      split at tells <;> exact absurd tells (not_tells_of_acts rfl)
  | work _ _ repositories worked => exact absurd tells (not_tells_of_acts rfl)

end Calls

/-! ### The request that waits -/

/-- What is known of an accepted request in every later state. -/
structure Traced (request : PendingRequest) (connection : Connection φ) : Prop where
  status : connection.status = .connected ∨ connection.status = .disconnected
  given : request.reply < connection.nextToken
  own : ∀ waiting ∈ connection.queue.pending, waiting.reply = request.reply → waiting = request

variable {request : PendingRequest} {tokens : List Token} {hooks : List (Nat × FactoryHook)}

theorem Accounted.unused (accounted : Accounted tokens before) :
    before.nextToken ∉ before.tickets := by
  intro member
  have given := accounted.tickets.subset member
  rw [accounted.counted, List.mem_range'_1] at given
  have bound : ∀ next : Nat, 1 ≤ next → ¬ next < 1 + (next - 1) := by omega
  exact bound _ accounted.positive given.2

theorem Accounted.traced (accounted : Accounted tokens before) (asked : ChannelRequest)
    (sender : String) (connected : before.status = .connected) :
    Traced ⟨before.nextToken, asked, sender, before.nextToken⟩ (before.accepting asked sender) where
  status := .inl connected
  given := Nat.lt_succ_self _
  own := by
    intro waiting member same
    rcases List.mem_append.1 member with earlier | last
    · have ticket : waiting.reply ∈ before.tickets :=
        List.mem_append_left _ (List.mem_map_of_mem earlier)
      rw [same] at ticket
      exact absurd ticket accounted.unused
    · exact List.mem_singleton.1 last

theorem Traced.started (traced : Traced request connection) : connection.status ≠ .new := by
  rcases traced.status with connected | disconnected
  · rw [connected]
    decide
  · rw [disconnected]
    decide

theorem Traced.served (traced : Traced request before) (served : Served hooks before after) :
    Traced request after where
  status := by
    rw [served.status]
    exact traced.status
  given := served.nextToken ▸ traced.given
  own := fun waiting member => traced.own waiting (served.queue.subset member)

theorem Traced.accepting (traced : Traced request before) (asked : ChannelRequest)
    (sender : String) : Traced request (before.accepting asked sender) where
  status := traced.status
  given := Nat.lt_succ_of_lt traced.given
  own := by
    intro waiting member same
    rcases List.mem_append.1 member with earlier | last
    · exact traced.own waiting earlier same
    · rw [List.mem_singleton.1 last] at same
      exact absurd same.symm (Nat.ne_of_lt traced.given)

/-- The only request with its number is the one that was accepted. -/
theorem Traced.takes (traced : Traced request moment)
    (takes : moment.Takes channel made request.reply path) :
    channel.path = path ∧ request ∈ (moment.queue.takeMatching channel made).1 := by
  obtain ⟨named, waiting, taken, same⟩ := takes
  have queued : waiting ∈ moment.queue.pending := by
    unfold RequestQueue.takeMatching at taken
    rw [List.partition_eq_filter_filter] at taken
    exact (List.mem_filter.1 taken).1
  rw [traced.own waiting queued same] at taken
  exact ⟨named, taken⟩

variable [ChannelFactory φ]

/-- A request is accepted by a connected connection, which is never on its way up again. -/
theorem Phase.traced (works : FactoriesWork Work φ) (phase : Phase Work tokens before after)
    (traced : Traced request before) : Traced request after := by
  cases phase with
  | serve serves => exact traced.served serves.served
  | aside _ interfaces registered repositories worked ended => exact { traced with }
  | accept _ asked sender connected allowed => exact traced.accepting asked sender
  | attempt _ fresh => exact absurd fresh traced.started
  | establish _ selfHandle repositories connecting worked =>
      rcases traced.status with up | ended
      · cases connecting.symm.trans up
      · cases connecting.symm.trans ended
  | shutdown _ context reason usable completed =>
      have ended := shutdown_ended works before context reason usable completed
      exact {
        status := .inr ended.status
        given := by
          rw [ended.nextToken]
          exact traced.given
        own := by
          rw [ended.queue]
          exact fun waiting member => absurd member List.not_mem_nil }

theorem Phases.traced (works : FactoriesWork Work φ) (phases : Phases Work tokens before after)
    (traced : Traced request before) : Traced request after := by
  induction phases with
  | refl => exact traced
  | next phases phase induction => exact phase.traced works (induction traced)

/-! ### The moment of a success -/

omit [ChannelFactory φ] in
theorem Reported.served {α : Type} {call : FactoryCall φ α}
    (reported : Reported start index call moment channel made next) : Served [] start moment := by
  cases reported with
  | @report early late channel made left =>
      have serves : Serves AnyWork [] start (start.applyCall index { call with reports := early }) :=
        apply_call_serves start index _ (.single trivial)
      exact serves.served

theorem Spoken.served {asked : ChannelRequest} {sender : String}
    (spoken : Spoken before asked sender moment channel made next) :
    Served [] (before.accepting asked sender) moment := by
  cases spoken with
  | @reported answers walked _ _ _ _ _ walk refused present reported =>
      have noted := served_record walked (.asked answers.length before.nextToken)
        (.quiet (.asked _ _)) rfl
      exact (walk.served.trans noted).trans reported.served
  | answered walk last => exact walk.served

section Speaks

variable {asked accepted later : Connection φ} {wanted : ChannelRequest} {sender : String}

theorem Speaks.extend {context bus : Context}
    (speaks : Speaks Work asked wanted sender accepted before moment channel made next)
    (call : Call Work before context tokens after bus) :
    Speaks Work asked wanted sender accepted after moment channel made next := by
  cases speaks with
  | own spoken rest => exact .own spoken (rest.next call)
  | other run done spoken rest => exact .other run done spoken (rest.next call)
  | called run present outcome reported rest =>
      exact .called run present outcome reported (rest.next call)

theorem Speaks.taken
    (speaks : Speaks Work asked wanted sender accepted later moment channel made next)
    (tells : Tells number path moment next) : moment.Takes channel made number path := by
  cases speaks with
  | own spoken rest => exact spoken.taken tells
  | other run done spoken rest => exact spoken.taken tells
  | called run present outcome reported rest => exact reported.taken tells

theorem Speaks.traced (works : FactoriesWork Work φ)
    (own : ∀ before after, Repositories.Step before after → Work before after)
    (waits : Traced request (asked.accepting wanted sender)) (traced : Traced request accepted)
    (speaks : Speaks Work asked wanted sender accepted later moment channel made next) :
    Traced request moment := by
  cases speaks with
  | own spoken rest => exact waits.served spoken.served
  | @other _ _ before _ _ wish client _ _ _ _ _ run done spoken rest =>
      have reached := (calls_phases works own run).traced works traced
      exact (reached.accepting wish client).served spoken.served
  | @called _ _ _ before _ index _ _ _ _ _ _ _ run present outcome reported rest =>
      have reached := (calls_phases works own run).traced works traced
      have noted := served_record before (.called index) (.quiet (.called _)) rfl
      exact reached.served (noted.trans reported.served)

/-- A success that an accepted request is told is told when a factory speaks of a channel. -/
theorem speaks_of_told (works : FactoriesWork Work φ)
    (own : ∀ before after, Repositories.Step before after → Work before after)
    (done : asked.requestChannel wanted sender = .ok (request.reply, accepted))
    (untold : (request.reply, .ok path) ∉ asked.replies) (traced : Traced request accepted)
    (run : Calls Work tokens accepted after) (told : (request.reply, .ok path) ∈ after.replies) :
    ∃ moment channel made next,
      Speaks Work asked wanted sender accepted after moment channel made next ∧
        Tells request.reply path moment next := by
  induction run with
  | refl =>
      obtain ⟨moment, channel, made, next, spoken, tells⟩ := spoken_of_tells done ⟨untold, told⟩
      exact ⟨moment, channel, made, next, .own spoken (.refl _), tells⟩
  | @next _ _ _ middle _ _ _ calls call induction =>
      by_cases earlier : (request.reply, .ok path) ∈ middle.replies
      · obtain ⟨moment, channel, made, next, speaks, tells⟩ := induction done traced earlier
        exact ⟨moment, channel, made, next, speaks.extend call, tells⟩
      · have reached := (calls_phases works own calls).traced works traced
        exact call.speaks works calls reached.started ⟨earlier, told⟩

end Speaks

end ConnectionManager.Connection
