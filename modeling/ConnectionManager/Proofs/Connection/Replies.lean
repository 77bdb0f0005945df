import ConnectionManager.Proofs.Connection.Shutdown
import Mathlib.Data.List.Nodup

/-!
Every accepted request is answered once. The tickets of a connection are the tokens it gave out:
each is in the queue or among the replies, and a phase moves it from one place to the other or
leaves it where it is.
-/

namespace ConnectionManager.Connection

variable {φ : Type} {Work : Repositories → Repositories → Prop}

def waiting (connection : Connection φ) (token : Token) : Nat :=
  connection.queue.pending.countP fun request => request.token = token

def answers (connection : Connection φ) (token : Token) : Nat :=
  connection.replies.countP fun reply => reply.1 = token

/-- The tickets of a connection are the tokens that it gave out, and nobody waits at its end. -/
structure Accounted (tokens : List Token) (connection : Connection φ) : Prop where
  positive : 1 ≤ connection.nextToken
  counted : tokens = List.range' 1 (connection.nextToken - 1)
  tickets : connection.tickets.Perm tokens
  numbered : ∀ request ∈ connection.queue.pending, request.reply = request.token
  closed : connection.status = .disconnected → connection.queue.pending = []

variable {tokens : List Token} {before after connection : Connection φ}

theorem Accounted.transfer (accounted : Accounted tokens before)
    (token : after.nextToken = before.nextToken) (tickets : after.tickets.Perm before.tickets)
    (kept : after.queue.pending.Sublist before.queue.pending)
    (closed : after.status = .disconnected → after.queue.pending = []) :
    Accounted tokens after where
  positive := token ▸ accounted.positive
  counted := token ▸ accounted.counted
  tickets := tickets.trans accounted.tickets
  numbered := fun request member => accounted.numbered request (kept.subset member)
  closed := closed

theorem Accounted.served {hooks : List (Nat × FactoryHook)} (accounted : Accounted tokens before)
    (served : Served hooks before after) : Accounted tokens after := by
  apply accounted.transfer served.nextToken served.tickets served.queue
  intro disconnected
  have empty := served.queue
  rw [accounted.closed (served.status.symm.trans disconnected)] at empty
  exact List.sublist_nil.1 empty

theorem Accounted.announced (accounted : Accounted tokens before) (status : ConnectionStatus)
    (reason : StatusReason) (rising : status ≠ .disconnected) :
    Accounted tokens (({ before with status, reason }).announceEvent
      (.statusChanged status.visible reason)) := by
  refine accounted.transfer rfl ?_ (.refl _) fun disconnected => absurd disconnected rising
  rw [announceEvent, tickets_record _ rfl]
  exact .refl _

theorem Accounted.accepting (accounted : Accounted tokens before) (request : ChannelRequest)
    (sender : String) (connected : before.status = .connected) :
    Accounted (tokens ++ [before.nextToken]) (before.accepting request sender) where
  positive := Nat.succ_le_succ (Nat.zero_le _)
  counted := by
    have shift : ∀ next : Nat, 1 ≤ next → next + 1 - 1 = next - 1 + 1 ∧ 1 + (next - 1) = next := by
      intro next positive
      omega
    obtain ⟨count, last⟩ := shift before.nextToken accounted.positive
    have given : (before.accepting request sender).nextToken - 1 = before.nextToken - 1 + 1 := count
    rw [given, List.range'_1_concat, last]
    exact congrArg (· ++ [before.nextToken]) accounted.counted
  tickets := by
    have grown : (before.accepting request sender).tickets.Perm
        (before.tickets ++ [before.nextToken]) := by
      simp only [Connection.tickets, Connection.accepting, RequestQueue.enqueue, List.map_append,
        List.map_cons, List.map_nil, List.append_assoc]
      exact (List.perm_append_comm).append_left _
    exact grown.trans (accounted.tickets.append_right _)
  numbered := by
    intro waiting member
    rcases List.mem_append.1 member with earlier | last
    · exact accounted.numbered waiting earlier
    · rw [List.mem_singleton.1 last]
  closed := by
    intro disconnected
    have same : before.status = .disconnected := disconnected
    rw [connected] at same
    cases same

theorem Hooking.unanswered {hook : FactoryHook} {factories : Nat} {acts : List Act}
    (hooking : Hooking hook factories acts) : acts.filterMap Act.answered? = [] := by
  apply List.filterMap_eq_nil_iff.2
  intro act member
  rcases hooking.others act member with quiet | ⟨index, same⟩
  · exact quiet.unanswered
  · rw [same]
    rfl

theorem Ended.tickets {context next : Context} {reason : StatusReason}
    (ended : Ended before context reason after next) : after.tickets.Perm before.tickets := by
  obtain ⟨told, closed, hooked, entries⟩ := ended.recorded
  have answers : (before.farewell reason told closed).filterMap Act.answered?
      = before.queue.pending.map PendingRequest.reply := by
    have parting : (if before.status = .new then []
        else told ++ closed ++ [.transportDisconnecting]).filterMap Act.answered? = [] := by
      split
      · rfl
      · rename_i left
        rw [List.filterMap_append, List.filterMap_append, (hooked left).1.unanswered,
          (hooked left).2.unanswered]
        rfl
    unfold farewell
    simp only [List.filterMap_append, answered_replies, parting]
    cases Handle.isNone before.selfHandle <;> cases before.registered <;>
      simp [Act.answered?, List.filterMap_cons]
  unfold Connection.tickets
  rw [ended.queue, entries, List.filterMap_append, answers, List.map_nil, List.nil_append]
  exact List.perm_append_comm

/-- A token that was given out is in one place, and no other token is anywhere. -/
theorem Accounted.count (accounted : Accounted tokens connection) (token : Token) :
    connection.waiting token + connection.answers token = tokens.count token := by
  have queued : (connection.queue.pending.map PendingRequest.reply).count token
      = connection.waiting token := by
    rw [List.count, List.countP_map]
    apply List.countP_congr
    intro request member
    simp [accounted.numbered request member]
  have sent : (connection.acts.entries.filterMap Act.answered?).count token
      = connection.answers token := by
    rw [replied_numbers, List.count, List.countP_map]
    apply List.countP_congr
    intro reply _
    simp
  rw [← accounted.tickets.count_eq token, Connection.tickets, List.count_append, queued, sent]

theorem Accounted.nodup (accounted : Accounted tokens connection) : tokens.Nodup := by
  rw [accounted.counted]
  exact List.nodup_range'

theorem Fresh.accounted (fresh : Fresh connection) : Accounted [] connection := by
  obtain ⟨plan, transport, factories, context, built⟩ := fresh
  obtain ⟨names, _, same⟩ := Outcome.map_eq_ok.1 built
  subst same
  exact {
    positive := Nat.le_refl 1
    counted := rfl
    tickets := .refl _
    numbered := fun request member => absurd member List.not_mem_nil
    closed := fun _ => rfl }

variable [ChannelFactory φ]

theorem change_status_served (works : FactoriesWork Work φ) (before : Connection φ)
    {status : ConnectionStatus} {hook : FactoryHook} (reason : StatusReason)
    (told : hookOf? status = some hook) :
    Served ((List.range before.factories.length).map fun index => (index, hook))
      (({ before with status, reason }).announceEvent (.statusChanged status.visible reason))
      (before.changeStatus status reason) := by
  let announced := ({ before with status, reason }).announceEvent
    (.statusChanged status.visible reason)
  have same : before.changeStatus status reason = announced.hookAll hook := by
    unfold changeStatus
    rw [told]
  rw [same]
  exact (hook_all_serves works announced hook).served

theorem Phase.accounted (works : FactoriesWork Work φ) {more : List Token}
    (phase : Phase Work more before after) (accounted : Accounted tokens before) :
    Accounted (tokens ++ more) after := by
  cases phase with
  | serve serves =>
      rw [List.append_nil]
      exact accounted.served serves.served
  | aside interfaces registered repositories worked ended =>
      rw [List.append_nil]
      exact accounted.transfer rfl (.refl _) (.refl _) accounted.closed
  | accept _ request sender connected allowed => exact accounted.accepting request sender connected
  | attempt fresh =>
      rw [List.append_nil]
      have rising := accounted.announced .connecting .requested (by decide)
      have told := rising.served (change_status_served works before .requested rfl)
      refine told.transfer rfl ?_ (.refl _) told.closed
      rw [attempting, tickets_record _ rfl]
  | establish _ selfHandle repositories connecting worked =>
      rw [List.append_nil]
      have known : Accounted tokens { before with repositories, selfHandle } :=
        accounted.transfer rfl (.refl _) (.refl _) accounted.closed
      have rising := known.announced .connected .requested (by decide)
      exact rising.served (change_status_served works _ .requested rfl)
  | shutdown _ context reason usable completed =>
      rw [List.append_nil]
      have ended := shutdown_ended works before context reason usable completed
      refine accounted.transfer ended.nextToken ended.tickets ?_ fun _ => ended.queue
      rw [ended.queue]
      exact List.nil_sublist _

theorem Phases.accounted (works : FactoriesWork Work φ) {more : List Token}
    (phases : Phases Work more before after) (accounted : Accounted tokens before) :
    Accounted (tokens ++ more) after := by
  induction phases with
  | refl => rwa [List.append_nil]
  | next phases phase induction =>
      rw [← List.append_assoc]
      exact phase.accounted works (induction accounted)

theorem Phase.disconnected (phase : Phase Work tokens before after)
    (gone : before.status = .disconnected) : after.status = .disconnected := by
  cases phase with
  | serve serves => exact serves.served.status.trans gone
  | aside interfaces registered repositories worked ended => exact gone
  | accept _ request sender connected allowed =>
      rw [gone] at connected
      cases connected
  | attempt _ fresh =>
      rw [gone] at fresh
      cases fresh
  | establish _ selfHandle repositories connecting worked =>
      rw [gone] at connecting
      cases connecting
  | shutdown _ context reason usable completed => exact absurd gone usable

theorem Phases.disconnected (phases : Phases Work tokens before after)
    (gone : before.status = .disconnected) : after.status = .disconnected := by
  induction phases with
  | refl => exact gone
  | next phases phase induction => exact phase.disconnected (induction gone)

/-- The factories and the protocol may do anything with the repositories. -/
def AnyWork (_ _ : Repositories) : Prop := True

theorem any_work : FactoriesWork AnyWork φ where
  request := fun _ _ _ _ _ => .single trivial
  hook := fun _ _ _ _ => .single trivial

theorem any_phases (calls : Calls AnyWork tokens before after) : Phases AnyWork tokens before after :=
  calls_phases any_work (fun _ _ _ => trivial) calls

/-- At every moment of every run, a token that was given out either waits in the queue, once and
unanswered, or was answered once; no token is given out twice; and a disconnected connection has
nobody waiting, now or later. -/
theorem one_reply_per_request {start : Connection φ} (fresh : Fresh start)
    (calls : Calls AnyWork tokens start connection) :
    tokens.Nodup ∧
      (∀ token ∈ tokens, (connection.waiting token = 1 ∧ connection.answers token = 0) ∨
        (connection.waiting token = 0 ∧ connection.answers token = 1)) ∧
      (∀ token, token ∉ tokens → connection.waiting token = 0 ∧ connection.answers token = 0) ∧
      (connection.status = .disconnected → ∀ more later, Calls AnyWork more connection later →
        later.status = .disconnected ∧ later.queue.pending = []) := by
  have accounted : Accounted tokens connection :=
    (any_phases calls).accounted any_work fresh.accounted
  have unique := accounted.nodup
  refine ⟨unique, ?_, ?_, ?_⟩
  · intro token member
    have once := accounted.count token
    rw [List.count_eq_one_of_mem unique member] at once
    omega
  · intro token absent
    have never := accounted.count token
    rw [List.count_eq_zero_of_not_mem absent] at never
    omega
  · intro gone more later lived
    have phases := any_phases lived
    have still := phases.disconnected gone
    exact ⟨still, (phases.accounted any_work accounted).closed still⟩

theorem one_reply_per_request_rehearsed :
    ∃ connection : Connection Postponer, Fresh rehearsed ∧
      Calls AnyWork [1] rehearsed connection ∧
        connection.waiting 1 = 1 ∧ connection.answers 1 = 0 := by
  obtain ⟨accepted, done, queued⟩ : ∃ accepted, rehearsedUp.requestChannel
      ⟨"text", .none, 0, false⟩ ":1.2" = .ok (1, accepted) ∧ accepted.waiting 1 = 1 :=
    ⟨_, rfl, rfl⟩
  have calls : Calls AnyWork [1] rehearsed accepted :=
    .next rehearsed_up_calls (.requestChannel .start _ _ done)
  have waits := (one_reply_per_request rehearsed_fresh calls).2.1 1 (by decide)
  refine ⟨accepted, rehearsed_fresh, calls, waits.resolve_right ?_⟩
  rw [queued]
  exact fun other => absurd other.1 (by decide)

end ConnectionManager.Connection
