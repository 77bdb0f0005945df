import ConnectionManager.Proofs.Connection.Heralds

/-!
The walk over the factories for one request. They are asked in turn until one does not refuse, and
their answers say what the requester is told (`RequestAnswer.verdict`), unless a report that was
acted on meanwhile has told it something before.
-/

namespace ConnectionManager

namespace RequestAnswer

variable {answers : List RequestAnswer} {declined : RequestAnswer}

def IsRefusal (answer : RequestAnswer) : Prop := answer.refusalRank.isSome = true

def strongestOf (answers : List RequestAnswer) : RequestAnswer :=
  if .invalidHandle ∈ answers then .invalidHandle
  else if .notAvailable ∈ answers then .notAvailable
  else .notImplemented

/-- What the requester is told when the factories have given these answers in turn; `none` if it
goes on waiting. -/
def verdict (answers : List RequestAnswer) : Option (Outcome ObjectPath) :=
  match answers.getLast? with
  | some (.existing channel) => some (.ok channel.path)
  | some (.created channel) => some (.ok channel.path)
  | some (.failed failure) => some (.error failure)
  | some .queued => none
  | _ => some (.error (strongestOf answers).failure)

theorem strongest_of_concat (refusal : declined.IsRefusal) :
    strongestOf (answers ++ [declined])
      = if (strongestOf answers).refusalRank.getD 0 < declined.refusalRank.getD 0 then declined
        else strongestOf answers := by
  by_cases invalid : invalidHandle ∈ answers <;> by_cases unavailable : notAvailable ∈ answers <;>
    cases declined <;> simp_all [strongestOf, refusalRank, IsRefusal]

theorem stronger_eq {best : Option RequestAnswer} (refusal : declined.IsRefusal)
    (strongest : best.getD .notImplemented = strongestOf answers) :
    stronger best declined = strongestOf (answers ++ [declined]) := by
  rw [strongest_of_concat refusal, ← strongest]
  cases best with
  | some earlier => rfl
  | none => cases declined <;> first | rfl | cases refusal

end RequestAnswer

namespace Connection

open RequestAnswer (strongestOf verdict stronger stronger_eq)

variable {φ : Type}

/-! ### The walk over the factories -/

section Walk

variable [ChannelFactory φ]

/-- The first factories have been asked in turn, with these answers, and all of them but the last
one refused. -/
inductive Asked (request : ChannelRequest) (token : Token) (start : Connection φ) :
    List RequestAnswer → Connection φ → Prop
  | start : Asked request token start [] start
  | ask {answers : List RequestAnswer} {connection : Connection φ} {factory : φ}
      (asked : Asked request token start answers connection)
      (refused : ∀ answer ∈ answers, answer.IsRefusal)
      (present : connection.factories[answers.length]? = some factory) :
      Asked request token start
        (answers ++ [(ChannelFactory.request factory request token connection.surroundings
          connection.repositories).answer])
        ((connection.record (.asked answers.length token)).applyCall answers.length
          (ChannelFactory.request factory request token connection.surroundings
            connection.repositories))

omit [ChannelFactory φ] in
def conclude (connection : Connection φ) (token : Token) (answers : List RequestAnswer) :
    Connection φ :=
  match answers.getLast? with
  | some (.existing channel) =>
      connection.answerMatching channel (some token) (.ok channel.path)
  | some (.created channel) =>
      if connection.queue.contains token then connection.announceChannel channel (some token)
      else connection
  | some (.failed failure) => connection.answerToken token (.error failure)
  | some .queued => connection
  | _ => connection.answerToken token (.error (strongestOf answers).failure)

variable {request : ChannelRequest} {token : Token} {start connection : Connection φ}
  {answers : List RequestAnswer} {refusal : Option RequestAnswer}

omit [ChannelFactory φ] in
theorem conclude_refused (refused : ∀ answer ∈ answers, answer.IsRefusal) :
    connection.conclude token answers
      = connection.answerToken token (.error (strongestOf answers).failure) := by
  unfold conclude
  cases last : answers.getLast? with
  | none => rfl
  | some answer =>
      have refusal := refused answer (List.mem_of_getLast? last)
      cases answer <;> first | rfl | cases refusal

theorem Asked.serves (asked : Asked request token start answers connection) :
    Serves AnyWork [] start connection := by
  induction asked with
  | start => exact .refl start
  | @ask answers connection factory asked refused present serves =>
      have recorded : Serves AnyWork [] connection
          (connection.record (.asked answers.length token)) :=
        (Service.note connection (.asked answers.length token) (.asked _ _)).serves
      have called := recorded.trans (apply_call_serves _ answers.length _
        (any_work.request factory request token connection.surroundings connection.repositories))
      exact serves.trans called

theorem Asked.served (asked : Asked request token start answers connection) :
    Served [] start connection :=
  asked.serves.served

/-- The factories from some place on are asked up to the first that does not refuse. -/
theorem ask_factories_eq (asked : Asked request token start answers connection)
    (refused : ∀ answer ∈ answers, answer.IsRefusal)
    (strongest : refusal.getD .notImplemented = strongestOf answers) (remaining : Nat)
    (left : answers.length + remaining = connection.factories.length) :
    ∃ given walked, Asked request token start given walked ∧
      (given.length = connection.factories.length ∨
        ∃ answer, given.getLast? = some answer ∧ ¬ answer.IsRefusal) ∧
      askFactories request token (List.range' answers.length remaining) refusal connection
        = walked.conclude token given := by
  induction remaining generalizing answers connection refusal with
  | zero =>
      refine ⟨answers, connection, asked, .inl left, ?_⟩
      rw [conclude_refused refused, ← strongest]
      rfl
  | succ remaining induction =>
      have below : answers.length < connection.factories.length := by omega
      have present := List.getElem?_eq_getElem below
      have further := asked.ask refused present
      have same := further.served.factories.trans asked.served.factories.symm
      rw [List.range'_succ]
      unfold askFactories
      rw [present]
      dsimp only
      generalize answered : (ChannelFactory.request connection.factories[answers.length] request
        token connection.surroundings connection.repositories).answer = answer at further ⊢
      have settled : ∀ answer : RequestAnswer, (answers ++ [answer]).getLast? = some answer :=
        fun answer => List.getLast?_concat
      -- Only a refusal leads on to the next factory.
      by_cases declined : answer.IsRefusal
      · have more : ∀ other ∈ answers ++ [answer], other.IsRefusal := by
          intro other member
          rcases List.mem_append.1 member with early | last
          · exact refused other early
          · rwa [List.mem_singleton.1 last]
        have best : (some (stronger refusal answer)).getD .notImplemented
            = strongestOf (answers ++ [answer]) := stronger_eq declined strongest
        have length : (answers ++ [answer]).length = answers.length + 1 := List.length_append
        obtain ⟨given, walked, walk, complete, rest⟩ := induction further more best
          (by rw [same, length]; omega)
        rw [length] at rest
        rw [same] at complete
        refine ⟨given, walked, walk, complete, ?_⟩
        rw [← rest]
        cases answer <;> first | rfl | cases declined
      · refine ⟨_, _, further, .inr ⟨answer, settled answer, declined⟩, ?_⟩
        unfold conclude
        rw [settled]
        cases answer <;> first | rfl | exact absurd rfl declined

end Walk

/-! ### What the requester is told -/

section Told

variable {connection : Connection φ} {token : Token} {tokens : List Token}
  {outcome : Outcome ObjectPath} {answers : List RequestAnswer}

def outcome? (connection : Connection φ) (token : Token) : Option (Outcome ObjectPath) :=
  (connection.replies.find? fun reply => reply.1 = token).map Prod.snd

/-- A request of which nothing was told yet waits under its token. -/
structure Tracked (connection : Connection φ) (token : Token) : Prop where
  numbered : ∀ request ∈ connection.queue.pending, request.reply = request.token
  waits : connection.outcome? token = none →
    ∃ request ∈ connection.queue.pending, request.token = token

theorem untold (nothing : connection.outcome? token = none) : connection.answers token = 0 := by
  rw [outcome?, Option.map_eq_none_iff, List.find?_eq_none] at nothing
  exact List.countP_eq_zero.2 nothing

theorem Accounted.tracked (accounted : Accounted tokens connection) (given : token ∈ tokens) :
    connection.Tracked token := by
  refine ⟨accounted.numbered, fun nothing => ?_⟩
  have count := accounted.count token
  rw [List.count_eq_one_of_mem accounted.nodup given, untold nothing, Nat.add_zero, waiting] at count
  obtain ⟨request, member, named⟩ := List.countP_pos_iff.1 (by rw [count]; exact Nat.one_pos)
  exact ⟨request, member, by simpa using named⟩

theorem replies_reply (connection : Connection φ) (outcome : Outcome ObjectPath)
    (requests : List PendingRequest) : (connection.reply outcome requests).replies
      = connection.replies ++ requests.map fun request => (request.reply, outcome) := by
  rw [replies, reply_eq, replies, List.filterMap_append, List.filterMap_map]
  congr 1
  exact congrFun (List.filterMap_eq_map (f := fun request : PendingRequest =>
    (request.reply, outcome))) requests

theorem reply_outcome (connection : Connection φ) (outcome : Outcome ObjectPath)
    {requests : List PendingRequest}
    (meant : connection.outcome? token = none → ∃ request ∈ requests, request.reply = token) :
    (connection.reply outcome requests).outcome? token
      = (connection.outcome? token).or (some outcome) := by
  rw [outcome?, replies_reply, List.find?_append, List.find?_map, outcome?]
  cases told : connection.replies.find? fun reply => reply.1 = token with
  | some reply => rfl
  | none =>
      obtain ⟨request, member, named⟩ := meant (by rw [outcome?, told]; rfl)
      have found : (requests.find? fun request => request.reply = token).isSome = true :=
        List.find?_isSome.2 ⟨request, member, by simpa using named⟩
      obtain ⟨first, same⟩ := Option.isSome_iff_exists.1 found
      have composed : ((fun reply : Nat × Outcome ObjectPath => decide (reply.1 = token)) ∘
          fun request : PendingRequest => (request.reply, outcome))
            = fun request => decide (request.reply = token) := rfl
      rw [composed, same]
      rfl

theorem answer_matching_outcome (tracked : connection.Tracked token) (channel : Channel)
    (outcome : Outcome ObjectPath) :
    (connection.answerMatching channel (some token) outcome).outcome? token
      = (connection.outcome? token).or (some outcome) := by
  rw [answer_matching_eq]
  refine reply_outcome { connection with queue := _ } outcome fun nothing => ?_
  obtain ⟨request, member, named⟩ := tracked.waits nothing
  refine ⟨request, List.mem_filter.2 ⟨member, ?_⟩, (tracked.numbered request member).trans named⟩
  simp [RequestQueue.isAnswered, named]

theorem announce_channel_outcome (tracked : connection.Tracked token) (channel : Channel) :
    (connection.announceChannel channel (some token)).outcome? token
      = (connection.outcome? token).or (some (.ok channel.path)) := by
  obtain ⟨suppressed, same⟩ := connection.announce_channel_eq channel (some token)
  have untouched : (connection.announceEvent (.newChannel channel suppressed)).replies
      = connection.replies := by simp [replies, announceEvent, record, Journal.emit]
  have alike : (connection.announceEvent (.newChannel channel suppressed)).outcome? token
      = connection.outcome? token := by rw [outcome?, untouched, outcome?]
  have still : (connection.announceEvent (.newChannel channel suppressed)).Tracked token :=
    ⟨tracked.numbered, fun nothing => tracked.waits (alike ▸ nothing)⟩
  rw [same, answer_matching_outcome still, alike]

theorem answer_token_outcome (tracked : connection.Tracked token) (outcome : Outcome ObjectPath) :
    (connection.answerToken token outcome).outcome? token
      = (connection.outcome? token).or (some outcome) := by
  unfold answerToken
  split
  · rename_i request queue taken
    obtain ⟨found, present, same⟩ := Option.map_eq_some_iff.1 taken
    obtain ⟨rfl, rfl⟩ := Prod.mk.inj same
    refine reply_outcome { connection with queue := _ } outcome fun _ => ?_
    have named : found.token = token := by simpa using List.find?_some present
    have number := tracked.numbered found (List.mem_of_find?_eq_some present)
    exact ⟨found, List.mem_singleton_self found, number.trans named⟩
  · rename_i absent
    cases told : connection.outcome? token with
    | some outcome => rfl
    | none =>
        obtain ⟨request, member, named⟩ := tracked.waits told
        rw [RequestQueue.take, Option.map_eq_none_iff, List.find?_eq_none] at absent
        exact absurd (by simpa using named) (absent request member)

/-- The answers decide unless something was told before. -/
theorem conclude_outcome (tracked : connection.Tracked token) (answers : List RequestAnswer) :
    (connection.conclude token answers).outcome? token
      = (connection.outcome? token).or (verdict answers) := by
  have refusal := fun failure => answer_token_outcome tracked (.error failure)
  unfold conclude verdict
  cases answers.getLast? with
  | none => exact refusal _
  | some answer =>
      cases answer with
      | existing channel => exact answer_matching_outcome tracked channel _
      | failed failure => exact refusal failure
      | queued => exact Option.or_none.symm
      | notImplemented | notAvailable | invalidHandle => exact refusal _
      | created channel =>
          dsimp only
          split
          · exact announce_channel_outcome tracked channel
          · rename_i answered
            cases told : connection.outcome? token with
            | some outcome => rfl
            | none =>
                obtain ⟨request, member, named⟩ := tracked.waits told
                refine absurd (List.any_eq_true.2 ⟨request, member, ?_⟩) answered
                simpa using named

end Told

/-! ### Who was asked -/

section Inquiries

variable {before after connection : Connection φ}

def inquiries (connection : Connection φ) : List (Nat × Token) :=
  connection.acts.entries.filterMap fun
    | .asked factory token => some (factory, token)
    | _ => none

theorem reply_inquiries (connection : Connection φ) (outcome : Outcome ObjectPath)
    (requests : List PendingRequest) :
    (connection.reply outcome requests).inquiries = connection.inquiries := by
  rw [inquiries, reply_eq, List.filterMap_append, unseen_replies fun _ => rfl, List.append_nil]
  rfl

theorem announce_event_inquiries (connection : Connection φ) (event : ConnectionEvent) :
    (connection.announceEvent event).inquiries = connection.inquiries := by
  simp [inquiries, announceEvent, record, Journal.emit]

theorem answer_matching_inquiries (connection : Connection φ) (channel : Channel)
    (token : Option Token) (outcome : Outcome ObjectPath) :
    (connection.answerMatching channel token outcome).inquiries = connection.inquiries :=
  reply_inquiries _ outcome _

theorem announce_channel_inquiries (connection : Connection φ) (channel : Channel)
    (token : Option Token) :
    (connection.announceChannel channel token).inquiries = connection.inquiries := by
  obtain ⟨suppressed, same⟩ := connection.announce_channel_eq channel token
  rw [same, answer_matching_inquiries, announce_event_inquiries]

theorem answer_token_inquiries (connection : Connection φ) (token : Token)
    (outcome : Outcome ObjectPath) :
    (connection.answerToken token outcome).inquiries = connection.inquiries := by
  unfold answerToken
  split
  · exact reply_inquiries _ outcome _
  · rfl

theorem apply_call_inquiries {α : Type} (connection : Connection φ) (index : Nat)
    (call : FactoryCall φ α) :
    (connection.applyCall index call).inquiries = connection.inquiries := by
  have reported : ∀ (reports : List Report) (connection : Connection φ),
      (reports.foldl applyReport connection).inquiries = connection.inquiries := by
    intro reports
    induction reports with
    | nil => exact fun _ => rfl
    | cons report rest induction =>
        intro connection
        rw [List.foldl_cons, induction]
        cases report with
        | newChannel channel token =>
            unfold applyReport
            dsimp only
            split
            · rfl
            · exact connection.announce_channel_inquiries channel token
        | channelError channel failure token =>
            exact connection.answer_matching_inquiries channel token _
        | channelClosed path => exact connection.announce_event_inquiries _
  exact reported call.reports _

theorem conclude_inquiries (connection : Connection φ) (token : Token)
    (answers : List RequestAnswer) :
    (connection.conclude token answers).inquiries = connection.inquiries := by
  unfold conclude
  split
  · exact answer_matching_inquiries ..
  · split
    · exact announce_channel_inquiries ..
    · rfl
  · exact answer_token_inquiries ..
  · rfl
  · exact answer_token_inquiries ..

variable [ChannelFactory φ] {request : ChannelRequest} {token : Token} {start : Connection φ}
  {answers : List RequestAnswer}

theorem Asked.inquiries (asked : Asked request token start answers connection) :
    connection.inquiries
      = start.inquiries ++ (List.range answers.length).map fun index => (index, token) := by
  induction asked with
  | start => simp
  | @ask answers connection factory asked refused present induction =>
      have recorded : (connection.record (.asked answers.length token)).inquiries
          = connection.inquiries ++ [(answers.length, token)] := by
        simp [Connection.inquiries, record, Journal.emit]
      rw [apply_call_inquiries, recorded, induction, List.length_append, List.length_singleton,
        List.range_succ, List.map_append, List.append_assoc]
      rfl

end Inquiries

end Connection

end ConnectionManager
