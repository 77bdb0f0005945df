import ConnectionManager.Proofs.Connection.Asking

/-!
What becomes of requests for channels, in every run. Each is decided by the answers of the factories
that were asked, or by a report before that. A success is told after the announcement of its channel,
or it is about a channel that a factory had already. Requests that one channel answers are answered
in the order in which they came, and the others keep theirs.
-/

namespace ConnectionManager.Connection

open RequestAnswer (verdict)

variable {φ : Type} [ChannelFactory φ] {Work : Repositories → Repositories → Prop}
  {start before after connection walked : Connection φ} {tokens more : List Token} {token : Token}
  {request : ChannelRequest} {sender : String} {answers : List RequestAnswer}

/-! ### A request -/

/-- A request leads over a walk to what its answers conclude. -/
theorem request_channel_asked
    (done : connection.requestChannel request sender = .ok (token, after)) :
    ∃ answers walked,
      Asked request connection.nextToken (connection.accepting request sender) answers walked ∧
      (answers.length = connection.factories.length ∨
        ∃ answer, answers.getLast? = some answer ∧ ¬ answer.IsRefusal) ∧
      after = walked.conclude connection.nextToken answers := by
  obtain ⟨_, _, _, same⟩ := request_channel_eq_ok done
  obtain ⟨answers, walked, asked, complete, settled⟩ := ask_factories_eq
    (@Asked.start _ _ request connection.nextToken (connection.accepting request sender))
    nofun (show (none : Option RequestAnswer).getD .notImplemented = _ from rfl)
    connection.factories.length (Nat.zero_add _)
  refine ⟨answers, walked, asked, complete, ?_⟩
  rw [same, List.range_eq_range']
  exact settled

theorem request_channel_accepted (connected : connection.status = .connected)
    (allowed : connection.checkTarget request = .ok ()) (sender : String) :
    ∃ after, connection.requestChannel request sender = .ok (connection.nextToken, after) := by
  refine ⟨askFactories request connection.nextToken (List.range connection.factories.length) none
    (connection.accepting request sender), ?_⟩
  rw [requestChannel, requireConnected, if_pos connected, allowed]
  rfl

theorem Accounted.request_outcome (accounted : Accounted tokens connection)
    (connected : connection.status = .connected)
    (asked : Asked request connection.nextToken (connection.accepting request sender) answers walked) :
    (walked.conclude connection.nextToken answers).outcome? connection.nextToken
      = (walked.outcome? connection.nextToken).or (verdict answers) := by
  have accepted := accounted.accepting request sender connected
  have member : connection.nextToken ∈ tokens ++ [connection.nextToken] :=
    List.mem_append_right _ (List.mem_singleton_self _)
  exact conclude_outcome ((accepted.served asked.served).tracked member) answers

/-! ### The order of the queue -/

def Ordered (connection : Connection φ) : Prop :=
  (connection.queue.pending.map PendingRequest.token).Pairwise (· < ·)

omit [ChannelFactory φ] in
theorem Ordered.fewer (ordered : before.Ordered)
    (kept : after.queue.pending.Sublist before.queue.pending) : after.Ordered :=
  ordered.sublist (kept.map PendingRequest.token)

omit [ChannelFactory φ] in
theorem Accounted.below (accounted : Accounted tokens connection) :
    ∀ request ∈ connection.queue.pending, request.token < connection.nextToken := by
  intro request member
  have ticket : request.reply ∈ connection.tickets :=
    List.mem_append_left _ (List.mem_map_of_mem member)
  have given := accounted.tickets.subset ticket
  rw [accounted.counted, List.mem_range'_1, accounted.numbered request member] at given
  have positive := accounted.positive
  have bound : ∀ next token : Nat, 1 ≤ next → token < 1 + (next - 1) → token < next := by omega
  exact bound _ _ positive given.2

theorem Phase.ordered (phase : Phase AnyWork more before after)
    (accounted : Accounted tokens before) (ordered : before.Ordered) : after.Ordered := by
  cases phase with
  | serve serves => exact ordered.fewer serves.served.queue
  | aside => exact ordered
  | accept _ request sender connected allowed =>
      have tokens : (before.accepting request sender).queue.pending.map PendingRequest.token
          = before.queue.pending.map PendingRequest.token ++ [before.nextToken] := List.map_append
      rw [Ordered, tokens, List.pairwise_append]
      refine ⟨ordered, List.pairwise_singleton _ _, fun early member last same => ?_⟩
      obtain ⟨waiting, among, rfl⟩ := List.mem_map.1 member
      rw [List.mem_singleton.1 same]
      exact accounted.below waiting among
  | attempt fresh =>
      have told := change_status_served any_work before .requested
        (show hookOf? .connecting = some _ from rfl)
      exact ordered.fewer told.queue
  | establish _ selfHandle repositories connecting worked =>
      have told := change_status_served any_work { before with repositories, selfHandle } .requested
        (show hookOf? .connected = some _ from rfl)
      exact ordered.fewer told.queue
  | shutdown _ context reason usable completed =>
      have ended := shutdown_ended any_work before context reason usable completed
      rw [Ordered, ended.queue]
      exact List.Pairwise.nil

theorem Phases.ordered (fresh : Fresh start) (phases : Phases AnyWork tokens start connection) :
    connection.Ordered := by
  induction phases with
  | refl =>
      have accounted := fresh.accounted
      obtain ⟨plan, transport, factories, context, built⟩ := fresh
      obtain ⟨names, _, rfl⟩ := Outcome.map_eq_ok.1 built
      exact List.Pairwise.nil
  | next phases phase ordered =>
      have accounted := phases.accounted any_work fresh.accounted
      exact phase.ordered accounted (ordered fresh)

/-! ### Successes -/

theorem Asked.heralds (asked : Asked request token start answers walked) : Heralds start walked := by
  induction asked with
  | start => exact .refl start
  | ask asked _ _ induction =>
      exact (induction.trans (record_heralds _ (.asked _ _) nofun)).trans (apply_call_heralds _ _ _)

omit [ChannelFactory φ] in
theorem conclude_heralds (connection : Connection φ) (token : Token)
    (other : ∀ channel, answers.getLast? ≠ some (.existing channel)) :
    Heralds connection (connection.conclude token answers) := by
  unfold conclude
  split
  · rename_i channel last
    exact absurd last (other channel)
  · split
    · exact announce_channel_heralds ..
    · exact .refl connection
  · exact fail_token_heralds ..
  · exact .refl connection
  · exact fail_token_heralds ..

/-- A success that a request led to when a factory had the channel already. -/
structure Recalled (start moment after : Connection φ) (number : Nat) (path : ObjectPath) : Prop where
  reached : ∃ tokens, Calls AnyWork tokens start moment
  requested : ∃ request sender,
    moment.requestChannel request sender = .ok (moment.nextToken, after) ∧
    ∃ answers walked channel,
      Asked request moment.nextToken (moment.accepting request sender)
        (answers ++ [.existing channel]) walked ∧
      channel.path = path ∧
      after = walked.answerMatching channel (some moment.nextToken) (.ok path) ∧
      after.events = walked.events ∧
      ∃ waiting ∈ walked.queue.pending,
        RequestQueue.isAnswered channel (some moment.nextToken) waiting = true ∧
          waiting.reply = number

/-- A success is explained by an announcement before it, or a factory had the channel already. -/
def Explained (start connection : Connection φ) : Prop :=
  ∀ (index number : Nat) (path : ObjectPath),
    connection.acts.entries[index]? = some (Act.replied number (.ok path)) →
      AnnouncedBefore connection.acts.entries index path ∨
      ∃ moment settled more, Recalled start moment settled number path ∧
        Calls AnyWork more settled connection

theorem Explained.later {context next : Context} (explained : Explained start before)
    (call : Call AnyWork before context more after next) {acts : List Act}
    (entries : after.acts.entries = before.acts.entries ++ acts)
    (told : ∀ (index number : Nat) (path : ObjectPath),
      acts[index]? = some (Act.replied number (.ok path)) → AnnouncedBefore acts index path ∨
        ∃ moment, Recalled start moment after number path) : Explained start after := by
  intro index number path shown
  rw [entries] at shown ⊢
  by_cases early : index < before.acts.entries.length
  · rw [List.getElem?_append_left early] at shown
    rcases explained index number path shown with announced | ⟨moment, settled, _, recalled, calls⟩
    · exact .inl (announced.append (Nat.le_of_lt early))
    · exact .inr ⟨moment, settled, _, recalled, calls.next call⟩
  · have late : before.acts.entries.length ≤ index := Nat.le_of_not_lt early
    rw [List.getElem?_append_right late] at shown
    rcases told _ number path shown with announced | ⟨moment, recalled⟩
    · rw [← Nat.add_sub_cancel' late]
      exact .inl announced.prepend
    · exact .inr ⟨moment, after, [], recalled, .refl after⟩

theorem request_told (calls : Calls AnyWork tokens start before)
    (done : before.requestChannel request sender = .ok (before.nextToken, after)) :
    ∃ acts, after.acts.entries = before.acts.entries ++ acts ∧
      ∀ (index number : Nat) (path : ObjectPath),
        acts[index]? = some (Act.replied number (.ok path)) → AnnouncedBefore acts index path ∨
          ∃ moment, Recalled start moment after number path := by
  obtain ⟨answers, walked, asked, _, settled⟩ := request_channel_asked done
  obtain ⟨added, entries, heralded⟩ := asked.heralds
  have walkedEntries : walked.acts.entries = before.acts.entries ++ added := entries
  -- Only a channel that exists already brings successes without an announcement.
  by_cases known : ∃ channel, answers.getLast? = some (.existing channel)
  · obtain ⟨channel, last⟩ := known
    obtain ⟨others, rfl⟩ := List.getLast?_eq_some_iff.1 last
    have answered : after = walked.answerMatching channel (some before.nextToken)
        (.ok channel.path) := by
      rw [settled, conclude, last]
    have afterwards := answered
    rw [answer_matching_eq, reply_eq] at afterwards
    refine ⟨added ++ (walked.queue.pending.filter
      (RequestQueue.isAnswered channel (some before.nextToken))).map
        fun request => .replied request.reply (.ok channel.path), ?_, ?_⟩
    · rw [afterwards]
      dsimp only
      rw [walkedEntries, List.append_assoc]
    · intro index number path told
      by_cases early : index < added.length
      · rw [List.getElem?_append_left early] at told
        exact .inl ((heralded index number path told).append (Nat.le_of_lt early))
      · rw [List.getElem?_append_right (Nat.le_of_not_lt early)] at told
        obtain ⟨same, waiting, among, number⟩ := mem_replied (List.mem_of_getElem? told)
        cases same
        obtain ⟨member, meant⟩ := List.mem_filter.1 among
        have silent : after.events = walked.events := by
          rw [answered, answer_matching_events]
        exact .inr ⟨before, ⟨_, calls⟩, request, sender, done, others, walked, channel, asked, rfl,
          answered, silent, waiting, member, meant, number⟩
  · have told := asked.heralds.trans (conclude_heralds walked before.nextToken
      fun channel last => known ⟨channel, last⟩)
    obtain ⟨acts, same, all⟩ := told
    refine ⟨acts, by rw [settled]; exact same, fun index number path shown => .inl ?_⟩
    exact all index number path shown

theorem Calls.explained (fresh : Fresh start) (calls : Calls AnyWork tokens start connection) :
    Explained start connection := by
  induction calls with
  | refl =>
      obtain ⟨plan, transport, factories, context, built⟩ := fresh
      obtain ⟨names, _, rfl⟩ := Outcome.map_eq_ok.1 built
      exact nofun
  | next calls call explained =>
      rcases call_heralds call with ⟨acts, entries, heralded⟩ | ⟨request, sender, token, done⟩
      · refine (explained fresh).later call entries fun index number path told => .inl ?_
        exact heralded index number path told
      · obtain ⟨rfl, _⟩ := request_channel_eq_ok done
        obtain ⟨acts, entries, told⟩ := request_told calls done
        exact (explained fresh).later call entries told

/-! ### The whole account -/

/-- What becomes of an accepted request: the factories asked and their answers, the connection after
the last of their reports, and what the requester is told at once. -/
structure Answered (connection : Connection φ) (request : ChannelRequest) (sender : String)
    (after : Connection φ) (answers : List RequestAnswer) (walked : Connection φ) : Prop where
  asked : Asked request connection.nextToken (connection.accepting request sender) answers walked
  complete : answers.length = connection.factories.length ∨
    ∃ answer, answers.getLast? = some answer ∧ ¬ answer.IsRefusal
  inquiries : after.inquiries = connection.inquiries
    ++ (List.range answers.length).map fun index => (index, connection.nextToken)
  told : after.outcome? connection.nextToken
    = (walked.outcome? connection.nextToken).or (verdict answers)
  waits : after.outcome? connection.nextToken = none →
    after.waiting connection.nextToken = 1
  silent : ∀ channel, answers.getLast? = some (.existing channel) → after.events = walked.events

/-- Whatever channel answers requests, it answers them in the order in which they came, after its
announcement if it has one; the others keep their order. -/
structure InTurn (connection : Connection φ) : Prop where
  ordered : connection.Ordered
  matching : ∀ (channel : Channel) (made : Option Token) (outcome : Outcome ObjectPath),
    (connection.answerMatching channel made outcome).acts.entries = connection.acts.entries
      ++ (connection.queue.pending.filter (RequestQueue.isAnswered channel made)).map
        (fun request => .replied request.reply outcome) ∧
    (connection.answerMatching channel made outcome).queue.pending
      = connection.queue.pending.filter fun request => ! RequestQueue.isAnswered channel made request
  announcing : ∀ (channel : Channel) (made : Option Token), ∃ suppressed,
    (connection.announceChannel channel made).acts.entries = connection.acts.entries
      ++ .announced (.newChannel channel suppressed)
        :: (connection.queue.pending.filter (RequestQueue.isAnswered channel made)).map
          (fun request => .replied request.reply (.ok channel.path)) ∧
    (connection.announceChannel channel made).queue.pending
      = connection.queue.pending.filter fun request => ! RequestQueue.isAnswered channel made request

omit [ChannelFactory φ] in
theorem Ordered.in_turn (ordered : connection.Ordered) : connection.InTurn where
  ordered := ordered
  matching := by
    intro channel made outcome
    rw [answer_matching_eq, reply_eq]
    exact ⟨rfl, rfl⟩
  announcing := by
    intro channel made
    obtain ⟨suppressed, same⟩ := connection.announce_channel_eq channel made
    rw [same, answer_matching_eq, reply_eq]
    exact ⟨suppressed, List.append_assoc _ _ _, rfl⟩

/-- A request is answered as its walk says. -/
theorem Accounted.request_answered (accounted : Accounted tokens connection)
    (connected : connection.status = .connected)
    (done : connection.requestChannel request sender = .ok (connection.nextToken, after)) :
    ∃ answers walked, Answered connection request sender after answers walked := by
  obtain ⟨answers, walked, asked, complete, settled⟩ := request_channel_asked done
  have later : Accounted (tokens ++ [connection.nextToken]) after :=
    (accounted.accepting request sender connected).served
      (request_channel_serves any_work done).served
  have given : connection.nextToken ∈ tokens ++ [connection.nextToken] :=
    List.mem_append_right _ (List.mem_singleton_self _)
  refine ⟨answers, walked, ?_⟩
  exact {
    asked, complete
    inquiries := by
      rw [settled, conclude_inquiries, asked.inquiries]
      rfl
    told := by
      rw [settled]
      exact accounted.request_outcome connected asked
    waits := fun nothing => by
      have count := later.count connection.nextToken
      rwa [untold nothing, List.count_eq_one_of_mem later.nodup given, Nat.add_zero] at count
    silent := fun channel last => by
      rw [settled, conclude, last, answer_matching_events] }

/-- Requests for channels, at every moment of every run. -/
theorem channel_requests_answered (fresh : Fresh start)
    (calls : Calls AnyWork tokens start connection) :
    (∀ request sender, connection.status = .connected →
      connection.checkTarget request = .ok () →
        ∃ after answers walked,
          connection.requestChannel request sender = .ok (connection.nextToken, after) ∧
          Answered connection request sender after answers walked ∧
          Phases AnyWork (tokens ++ [connection.nextToken]) start walked) ∧
      Explained start connection ∧
      ∀ more moment, Phases AnyWork more start moment → moment.InTurn := by
  have phases := any_phases calls
  refine ⟨fun request sender connected allowed => ?_, calls.explained fresh, fun more moment led =>
    (led.ordered fresh).in_turn⟩
  obtain ⟨after, done⟩ := request_channel_accepted connected allowed sender
  obtain ⟨answers, walked, answered⟩ :=
    (phases.accounted any_work fresh.accounted).request_answered connected done
  have accepted : Phases AnyWork _ start (connection.accepting request sender) :=
    phases.next (.accept connection request sender connected allowed)
  refine ⟨after, answers, walked, done, answered, ?_⟩
  have asked := accepted.trans (Phase.serve answered.asked.serves).phases
  rwa [List.append_nil] at asked

theorem channel_requests_answered_rehearsed :
    Fresh rehearsed ∧ Calls AnyWork [] rehearsed rehearsedUp ∧
      rehearsedUp.status = .connected ∧
      rehearsedUp.checkTarget ⟨"text", .none, 0, false⟩ = .ok () ∧
      ∃ after answers walked,
        rehearsedUp.requestChannel ⟨"text", .none, 0, false⟩ ":1.2" = .ok (1, after) ∧
        Answered rehearsedUp ⟨"text", .none, 0, false⟩ ":1.2" after answers walked := by
  have calls : Calls AnyWork [] rehearsed rehearsedUp := rehearsed_up_calls
  obtain ⟨after, answers, walked, done, answered, _⟩ :=
    (channel_requests_answered rehearsed_fresh calls).1 ⟨"text", .none, 0, false⟩ ":1.2" rfl rfl
  exact ⟨rehearsed_fresh, calls, rfl, rfl, after, answers, walked, done, answered⟩

end ConnectionManager.Connection
