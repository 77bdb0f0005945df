import ConnectionManager.Connection.Lifecycle
import Mathlib.Logic.Relation

/-!
What a connection does for its factories, as a chain of small moves. Every answer to a request is
given by one of three moves and leaves the queue in the same move, so the numbers under which
requesters wait and the numbers of the replies sent are together always the same (`Served`).
-/

namespace ConnectionManager

/-- An act that neither answers a request nor announces a channel or a status. -/
inductive Act.IsQuiet : Act → Prop
  | asked (factory : Nat) (token : Token) : IsQuiet (.asked factory token)
  | called (factory : Nat) : IsQuiet (.called factory)
  | closed (path : ObjectPath) : IsQuiet (.announced (.channelClosed path))

def Act.hook? : Act → Option (Nat × FactoryHook)
  | .hooked factory hook => some (factory, hook)
  | _ => none

def Act.answered? : Act → Option Nat
  | .replied reply _ => some reply
  | _ => none

def hooksOf (acts : List Act) : List (Nat × FactoryHook) := acts.filterMap Act.hook?

theorem Act.IsQuiet.unanswered {act : Act} (quiet : act.IsQuiet) : act.answered? = none := by
  cases quiet <;> rfl

theorem Act.IsQuiet.unhooked {act : Act} (quiet : act.IsQuiet) : hooksOf [act] = [] := by
  cases quiet <;> rfl

namespace Connection

variable {φ : Type} {Work : Repositories → Repositories → Prop}

/-- One move of a connection that serves its factories; factories and protocol code change the
repositories as `Work` allows. -/
inductive Service (Work : Repositories → Repositories → Prop) :
    Connection φ → Connection φ → Prop
  | work (connection : Connection φ) (repositories : Repositories)
      (worked : Work connection.repositories repositories) :
      Service Work connection { connection with repositories }
  | keep (connection : Connection φ) (index : Nat) (factory : φ) :
      Service Work connection
        { connection with factories := connection.factories.set index factory }
  | note (connection : Connection φ) (act : Act) (quiet : act.IsQuiet) :
      Service Work connection (connection.record act)
  | announce (connection : Connection φ) (channel : Channel) (token : Option Token)
      (usable : connection.status ≠ .disconnected) :
      Service Work connection (connection.announceChannel channel token)
  | answer (connection : Connection φ) (channel : Channel) (token : Option Token)
      (outcome : Outcome ObjectPath) (own : ∀ path, outcome = .ok path → channel.path = path) :
      Service Work connection (connection.answerMatching channel token outcome)
  | settle (connection : Connection φ) (token : Token) (failure : Failure) :
      Service Work connection (connection.answerToken token (.error failure))

/-- A chain of moves, with the hooks that were called on the way. -/
inductive Serves (Work : Repositories → Repositories → Prop) :
    List (Nat × FactoryHook) → Connection φ → Connection φ → Prop
  | refl (connection : Connection φ) : Serves Work [] connection connection
  | next {hooks : List (Nat × FactoryHook)} {before middle after : Connection φ}
      (served : Serves Work hooks before middle) (move : Service Work middle after) :
      Serves Work hooks before after
  | hook {hooks : List (Nat × FactoryHook)} {before middle : Connection φ} (index : Nat)
      (hook : FactoryHook) (served : Serves Work hooks before middle) :
      Serves Work (hooks ++ [(index, hook)]) before (middle.record (.hooked index hook))

theorem Serves.trans {hooks more : List (Nat × FactoryHook)} {before middle after : Connection φ}
    (first : Serves Work hooks before middle) (second : Serves Work more middle after) :
    Serves Work (hooks ++ more) before after := by
  induction second with
  | refl => simpa using first
  | next served move induction => exact (induction first).next move
  | hook index hook served induction =>
      rw [← List.append_assoc]
      exact (induction first).hook index hook

theorem Service.serves {before after : Connection φ} (move : Service Work before after) :
    Serves Work [] before after := (Serves.refl before).next move

/-- Every number under which a requester waits or was answered. -/
def tickets (connection : Connection φ) : List Nat :=
  connection.queue.pending.map PendingRequest.reply
    ++ connection.acts.entries.filterMap Act.answered?

theorem tickets_record (connection : Connection φ) {act : Act} (silent : act.answered? = none) :
    (connection.record act).tickets = connection.tickets := by
  simp [tickets, record, Journal.emit, silent]

theorem replied_numbers (connection : Connection φ) :
    connection.acts.entries.filterMap Act.answered? = connection.replies.map Prod.fst := by
  unfold replies
  rw [List.map_filterMap]
  congr 1
  funext act
  cases act <;> rfl

theorem reply_eq (connection : Connection φ) (outcome : Outcome ObjectPath)
    (requests : List PendingRequest) :
    connection.reply outcome requests = { connection with
      acts := { connection.acts with
        entries := connection.acts.entries
          ++ requests.map fun request => .replied request.reply outcome } } := by
  induction requests generalizing connection with
  | nil => simp [reply]
  | cons request rest induction =>
      have first : connection.reply outcome (request :: rest)
          = (connection.record (.replied request.reply outcome)).reply outcome rest := rfl
      rw [first, induction]
      simp [record, Journal.emit]

theorem mem_replies {connection : Connection φ} {number : Nat} {outcome : Outcome ObjectPath} :
    (number, outcome) ∈ connection.replies ↔ .replied number outcome ∈ connection.acts.entries := by
  unfold replies
  rw [List.mem_filterMap]
  constructor
  · rintro ⟨act, present, shown⟩
    cases act with
    | replied other result =>
        cases shown
        exact present
    | _ => cases shown
  · intro present
    exact ⟨_, present, rfl⟩

theorem mem_replied {requests : List PendingRequest} {outcome sent : Outcome ObjectPath}
    {number : Nat} (member : .replied number sent ∈
      requests.map fun request => Act.replied request.reply outcome) :
    sent = outcome ∧ ∃ request ∈ requests, request.reply = number := by
  obtain ⟨request, present, same⟩ := List.mem_map.1 member
  cases same
  exact ⟨rfl, request, present, rfl⟩

theorem answered_replies (requests : List PendingRequest) (outcome : Outcome ObjectPath) :
    (requests.map fun request => Act.replied request.reply outcome).filterMap Act.answered?
      = requests.map PendingRequest.reply := by
  induction requests with
  | nil => rfl
  | cons request rest induction =>
      rw [List.map_cons, List.map_cons, ← induction]
      rfl

theorem unseen_replies {β : Type} {view : Act → Option β} {outcome : Outcome ObjectPath}
    (unseen : ∀ number, view (.replied number outcome) = none) (requests : List PendingRequest) :
    (requests.map fun request => Act.replied request.reply outcome).filterMap view = [] := by
  apply List.filterMap_eq_nil_iff.2
  intro act member
  obtain ⟨request, _, same⟩ := List.mem_map.1 member
  rw [← same]
  exact unseen request.reply

/-- An act that serving a connection can record; only what waits can be answered, and no channel
is announced after the disconnection. -/
inductive Serving (connection : Connection φ) : Act → Prop
  | quiet {act : Act} (quiet : act.IsQuiet) : Serving connection act
  | hooked (factory : Nat) (hook : FactoryHook) : Serving connection (.hooked factory hook)
  | announced (channel : Channel) (suppressed : Bool) (usable : connection.status ≠ .disconnected) :
      Serving connection (.announced (.newChannel channel suppressed))
  | replied (number : Nat) (outcome : Outcome ObjectPath)
      (waiting : connection.queue.pending ≠ []) : Serving connection (.replied number outcome)

/-- What serving the factories leaves alone, and what it can have recorded. -/
structure Served (hooks : List (Nat × FactoryHook)) (before after : Connection φ) : Prop where
  names : after.names = before.names
  transport : after.transport = before.transport
  status : after.status = before.status
  selfHandle : after.selfHandle = before.selfHandle
  registered : after.registered = before.registered
  nextToken : after.nextToken = before.nextToken
  finished : after.finished = before.finished
  factories : after.factories.length = before.factories.length
  queue : after.queue.pending.Sublist before.queue.pending
  tickets : after.tickets.Perm before.tickets
  recorded : ∃ added, after.acts.entries = before.acts.entries ++ added ∧
    hooksOf added = hooks ∧ ∀ act ∈ added, before.Serving act

theorem Served.refl (connection : Connection φ) : Served [] connection connection where
  names := rfl
  transport := rfl
  status := rfl
  selfHandle := rfl
  registered := rfl
  nextToken := rfl
  finished := rfl
  factories := rfl
  queue := .refl _
  tickets := .refl _
  recorded := ⟨[], by simp [hooksOf]⟩

theorem Serving.of_served {hooks : List (Nat × FactoryHook)} {before middle : Connection φ}
    (served : Served hooks before middle) {act : Act} (serving : middle.Serving act) :
    before.Serving act := by
  cases serving with
  | quiet quiet => exact .quiet quiet
  | hooked factory hook => exact .hooked factory hook
  | announced channel suppressed usable =>
      rw [served.status] at usable
      exact .announced channel suppressed usable
  | replied number outcome waiting =>
      apply Serving.replied
      intro absent
      have kept := served.queue
      rw [absent] at kept
      exact waiting (List.sublist_nil.1 kept)

theorem Served.trans {hooks more : List (Nat × FactoryHook)} {before middle after : Connection φ}
    (first : Served hooks before middle) (second : Served more middle after) :
    Served (hooks ++ more) before after where
  names := second.names.trans first.names
  transport := second.transport.trans first.transport
  status := second.status.trans first.status
  selfHandle := second.selfHandle.trans first.selfHandle
  registered := second.registered.trans first.registered
  nextToken := second.nextToken.trans first.nextToken
  finished := second.finished.trans first.finished
  factories := second.factories.trans first.factories
  queue := second.queue.trans first.queue
  tickets := second.tickets.trans first.tickets
  recorded := by
    obtain ⟨added, entries, called, allowed⟩ := first.recorded
    obtain ⟨further, entriesAfter, calledAfter, allowedAfter⟩ := second.recorded
    refine ⟨added ++ further, ?_, ?_, ?_⟩
    · rw [entriesAfter, entries, List.append_assoc]
    · rw [hooksOf, List.filterMap_append]
      exact congrArg₂ (· ++ ·) called calledAfter
    · intro act member
      rcases List.mem_append.1 member with early | late
      · exact allowed act early
      · exact (allowedAfter act late).of_served first

theorem served_record (connection : Connection φ) (act : Act) (allowed : connection.Serving act)
    (silent : act.answered? = none) :
    Served (hooksOf [act]) connection (connection.record act) where
  names := rfl
  transport := rfl
  status := rfl
  selfHandle := rfl
  registered := rfl
  nextToken := rfl
  finished := rfl
  factories := rfl
  queue := .refl _
  tickets := by rw [tickets_record connection silent]
  recorded := by
    refine ⟨[act], rfl, rfl, ?_⟩
    intro other member
    rw [List.mem_singleton.1 member]
    exact allowed

/-- Requests that leave the queue and are answered keep their numbers among the tickets. -/
theorem served_answers (connection : Connection φ) {answered rest : List PendingRequest}
    (outcome : Outcome ObjectPath) (split : (answered ++ rest).Perm connection.queue.pending)
    (kept : rest.Sublist connection.queue.pending) :
    Served [] connection (({ connection with queue := ⟨rest⟩ }).reply outcome answered) := by
  rw [reply_eq]
  exact {
    names := rfl
    transport := rfl
    status := rfl
    selfHandle := rfl
    registered := rfl
    nextToken := rfl
    finished := rfl
    factories := rfl
    queue := kept
    tickets := by
      have numbers := (split.map PendingRequest.reply).symm
      rw [List.map_append] at numbers
      simp only [tickets, List.filterMap_append, answered_replies]
      refine .trans ?_ (numbers.symm.append_right _)
      rw [← List.append_assoc]
      refine List.perm_append_comm.trans ?_
      rw [← List.append_assoc]
    recorded := by
      refine ⟨_, rfl, unseen_replies (fun _ => rfl) answered, ?_⟩
      intro act member
      obtain ⟨request, chosen, same⟩ := List.mem_map.1 member
      subst same
      apply Serving.replied
      intro absent
      have waiting := split.subset (List.mem_append_left rest chosen)
      rw [absent] at waiting
      cases waiting }

theorem answer_matching_eq (connection : Connection φ) (channel : Channel) (token : Option Token)
    (outcome : Outcome ObjectPath) :
    connection.answerMatching channel token outcome
      = ({ connection with queue :=
          ⟨connection.queue.pending.filter (! RequestQueue.isAnswered channel token ·)⟩ }).reply
        outcome (connection.queue.pending.filter (RequestQueue.isAnswered channel token)) := by
  unfold answerMatching RequestQueue.takeMatching
  rw [List.partition_eq_filter_filter]
  rfl

theorem served_take_matching (connection : Connection φ) (channel : Channel)
    (token : Option Token) (outcome : Outcome ObjectPath) :
    Served [] connection (connection.answerMatching channel token outcome) := by
  rw [answer_matching_eq]
  apply served_answers
  · exact List.filter_append_perm _ _
  · exact List.filter_sublist

theorem served_announce (connection : Connection φ) (channel : Channel) (token : Option Token)
    (usable : connection.status ≠ .disconnected) :
    Served [] connection (connection.announceChannel channel token) := by
  let suppressed := (connection.queue.takeMatching channel token).1.any
    fun request => request.request.suppressHandler
  have announced := served_record connection _ (.announced channel suppressed usable) rfl
  exact announced.trans (served_take_matching _ channel token (.ok channel.path))

/-- The first element with a property, put before what is left when it is taken out. -/
theorem first_taken {α : Type} {chosen : α → Bool} {elements : List α} {first : α}
    (found : elements.find? chosen = some first) :
    (first :: elements.eraseP chosen).Perm elements := by
  obtain ⟨holds, early, late, split, others⟩ := List.find?_eq_some_iff_append.1 found
  have absent : ∀ other ∈ early, ¬ chosen other = true := by
    intro other member
    simpa using others other member
  rw [split, List.eraseP_append_right _ absent, List.eraseP_cons_of_pos holds]
  exact List.perm_middle.symm

theorem served_settle (connection : Connection φ) (token : Token) (outcome : Outcome ObjectPath) :
    Served [] connection (connection.answerToken token outcome) := by
  unfold answerToken
  split
  · rename_i request queue taken
    obtain ⟨found, present, same⟩ := Option.map_eq_some_iff.1 taken
    cases same
    apply served_answers
    · exact first_taken present
    · exact List.eraseP_sublist
  · exact .refl connection

theorem Service.served {before after : Connection φ} (move : Service Work before after) :
    Served [] before after := by
  cases move with
  | work repositories worked =>
      exact { Served.refl before with }
  | keep index factory =>
      exact { Served.refl before with factories := List.length_set }
  | note act quiet =>
      have noted := served_record before act (.quiet quiet) quiet.unanswered
      rwa [quiet.unhooked] at noted
  | announce channel token usable => exact served_announce before channel token usable
  | answer channel token outcome own => exact served_take_matching before channel token outcome
  | settle token failure => exact served_settle before token (.error failure)

theorem Serves.served {hooks : List (Nat × FactoryHook)} {before after : Connection φ}
    (serves : Serves Work hooks before after) : Served hooks before after := by
  induction serves with
  | refl => exact .refl _
  | next serves move induction =>
      have further := induction.trans move.served
      rwa [List.append_nil] at further
  | hook index hook serves induction =>
      exact induction.trans (served_record _ _ (.hooked index hook) rfl)

theorem apply_report_serves (connection : Connection φ) (report : Report) :
    Serves Work [] connection (connection.applyReport report) := by
  cases report with
  | newChannel channel token =>
      by_cases usable : connection.status = .disconnected
      · have ignored : connection.applyReport (.newChannel channel token) = connection :=
          if_pos usable
        rw [ignored]
        exact .refl connection
      · have announced : connection.applyReport (.newChannel channel token)
            = connection.announceChannel channel token := if_neg usable
        rw [announced]
        exact (Service.announce connection channel token usable).serves
  | channelError channel failure token =>
      have failed : ∀ path, (.error failure : Outcome ObjectPath) = .ok path → channel.path = path :=
        fun path same => by cases same
      exact (Service.answer connection channel token (.error failure) failed).serves
  | channelClosed path =>
      exact (Service.note connection (.announced (.channelClosed path)) (.closed path)).serves

theorem apply_reports_serves (reports : List Report) (connection : Connection φ) :
    Serves Work [] connection (reports.foldl applyReport connection) := by
  induction reports generalizing connection with
  | nil => exact .refl connection
  | cons report rest induction =>
      exact (connection.apply_report_serves report).trans (induction _)

theorem apply_call_serves {α : Type} (connection : Connection φ) (index : Nat)
    (call : FactoryCall φ α)
    (worked : Relation.ReflTransGen Work connection.repositories call.repositories) :
    Serves Work [] connection (connection.applyCall index call) := by
  have kept : Serves Work [] connection { connection with
      factories := connection.factories.set index call.factory } :=
    (Service.keep connection index call.factory).serves
  have used : ∀ repositories, Relation.ReflTransGen Work connection.repositories repositories →
      Serves Work [] connection { connection with
        factories := connection.factories.set index call.factory, repositories } := by
    intro repositories work
    induction work with
    | refl => exact kept
    | tail _ step induction => exact induction.next (.work _ _ step)
  exact (used _ worked).trans (apply_reports_serves call.reports _)

theorem with_factory_serves {α : Type} {connection after : Connection φ} {index : Nat}
    {call : φ → Surroundings → Repositories → Option (FactoryCall φ α)} {answer : α}
    (worked : ∀ factory result, call factory connection.surroundings connection.repositories
      = some result → Relation.ReflTransGen Work connection.repositories result.repositories)
    (done : connection.withFactory index call = some (answer, after)) :
    Serves Work [] connection after := by
  obtain ⟨factory, _, called⟩ := Option.bind_eq_some_iff.1 done
  obtain ⟨result, outcome, same⟩ := Option.bind_eq_some_iff.1 called
  cases same
  have noted : Serves Work [] connection (connection.record (.called index)) :=
    (Service.note connection (.called index) (.called index)).serves
  exact noted.trans (apply_call_serves _ index result (worked factory result outcome))

variable [ChannelFactory φ]

/-- The factories use the repositories as `Work` allows. -/
structure FactoriesWork (Work : Repositories → Repositories → Prop) (φ : Type)
    [ChannelFactory φ] : Prop where
  request : ∀ (factory : φ) request token surroundings repositories,
    Relation.ReflTransGen Work repositories
      (ChannelFactory.request factory request token surroundings repositories).repositories
  hook : ∀ (factory : φ) hook surroundings repositories,
    Relation.ReflTransGen Work repositories
      (ChannelFactory.hook factory hook surroundings repositories).repositories

theorem hook_factory_serves (works : FactoriesWork Work φ) (connection : Connection φ)
    (hook : FactoryHook) {index : Nat} (present : index < connection.factories.length) :
    Serves Work [(index, hook)] connection (hookFactory hook connection index) := by
  have called : Serves Work [(index, hook)] connection (connection.record (.hooked index hook)) :=
    (Serves.refl connection).hook index hook
  unfold hookFactory
  rw [List.getElem?_eq_getElem present]
  have applied := apply_call_serves (connection.record (.hooked index hook)) index
    (ChannelFactory.hook connection.factories[index] hook connection.surroundings
      connection.repositories) (works.hook _ _ _ _)
  exact called.trans applied

theorem hook_all_serves (works : FactoriesWork Work φ) (connection : Connection φ)
    (hook : FactoryHook) :
    Serves Work ((List.range connection.factories.length).map fun index => (index, hook))
      connection (connection.hookAll hook) := by
  have along : ∀ (indices : List Nat) (start : Connection φ),
      (∀ index ∈ indices, index < start.factories.length) →
        Serves Work (indices.map fun index => (index, hook)) start
          (indices.foldl (hookFactory hook) start) := by
    intro indices
    induction indices with
    | nil => exact fun start _ => .refl start
    | cons index rest induction =>
        intro start present
        have first := start.hook_factory_serves works hook (present index List.mem_cons_self)
        apply first.trans
        apply induction
        intro other member
        rw [first.served.factories]
        exact present other (List.mem_cons_of_mem index member)
  exact along _ connection fun index member => List.mem_range.1 member

/-- Whatever the factories answer, the walk over them is served in moves. -/
theorem ask_factories_serves (works : FactoriesWork Work φ) (request : ChannelRequest)
    (token : Token) (indices : List Nat) (refusal : Option RequestAnswer)
    (connection : Connection φ) (usable : connection.status ≠ .disconnected) :
    Serves Work [] connection (askFactories request token indices refusal connection) := by
  -- A factory may have reported before it answers, so every answer starts from what its call left.
  induction indices generalizing refusal connection with
  | nil => exact (Service.settle connection token _).serves
  | cons index rest induction =>
      unfold askFactories
      split
      · exact induction refusal connection usable
      · rename_i factory present
        dsimp only
        let call := ChannelFactory.request factory request token connection.surroundings
          connection.repositories
        have asked : Serves Work [] connection (connection.record (.asked index token)) :=
          (Service.note connection (.asked index token) (.asked index token)).serves
        have applied : Serves Work [] connection
            ((connection.record (.asked index token)).applyCall index call) :=
          asked.trans (apply_call_serves _ index call (works.request _ _ _ _ _))
        have still : ((connection.record (.asked index token)).applyCall index call).status
            ≠ .disconnected := by
          rw [applied.served.status]
          exact usable
        split
        · rename_i channel _
          exact applied.next (.answer _ channel _ _ fun path same => by cases same; rfl)
        · split
          · exact applied.next (.announce _ _ _ still)
          · exact applied
        · exact applied
        · exact applied.next (.settle _ _ _)
        · exact applied.trans (induction _ _ still)

end Connection

end ConnectionManager
