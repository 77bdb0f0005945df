import ConnectionManager.Proofs.Connection.Completions
import ConnectionManager.Proofs.Connection.Repositories
import ConnectionManager.Proofs.Handle.Lifetimes
import ConnectionManager.Proofs.Roster.Runs

/-!
The requests that wait for a roster. When it arrives, each is satisfied by a channel that is open
and reported, or its failure is reported, or it went astray: it asks for a group by a handle whose
identifier the backend knows by another name, and the channel of that group has another handle.
-/

namespace ConnectionManager

theorem Repositories.Denotes.interned {repositories : Repositories} {kind : HandleKind}
    {repository next : Repository} {handle fresh : Handle} {raw id : String}
    (denoted : repositories.Denotes kind handle id) (sound : repositories.Sound)
    (found : repositories.get kind = .ok repository)
    (interned : repository.intern raw = .ok (fresh, next)) :
    (repositories.set kind next).Denotes kind handle id := by
  obtain ⟨again, known, named⟩ := denoted
  rw [found] at known
  cases known
  exact ⟨next, get_set found, Repository.intern_keeps (sound kind repository found) interned named⟩

theorem Repositories.inspect_denotes {repositories : Repositories} {kind : HandleKind}
    {handle : Handle} {id : String}
    (inspected : (repositories.get kind >>= fun repository => repository.inspect handle) = .ok id) :
    repositories.Denotes kind handle id := by
  obtain ⟨repository, known, named⟩ := Outcome.bind_eq_ok.1 inspected
  exact ⟨repository, known, named⟩

theorem Repositories.Steps.sound {repositories next : Repositories}
    (steps : repositories.Steps next) (sound : repositories.Sound) : next.Sound := by
  induction steps with
  | refl => exact sound
  | tail _ step induction => exact step.sound induction

def RequestAnswer.Refuses : RequestAnswer → Prop
  | .existing _ | .created _ | .queued => False
  | _ => True

namespace Roster

variable {β : Type} {roster : Roster β}

theorem list_channel_open {name : ListName} {view : ListView}
    (found : roster.lists.find? name = some view) : view.channel ∈ roster.channels :=
  List.mem_append_left _ (List.mem_map_of_mem ((mem_values _ view).2 ⟨name, found⟩))

theorem group_channel_open {name : String} {view : GroupView}
    (found : roster.groups.find? name = some view) : view.channel ∈ roster.channels :=
  List.mem_append_right _ (List.mem_map_of_mem ((mem_values _ view).2 ⟨name, found⟩))

theorem Shaped.aimed {surroundings : Surroundings} {channel : Channel}
    (shaped : roster.Shaped surroundings) (there : channel ∈ roster.channels) :
    channel.kind ≠ .none := by
  rcases List.mem_append.1 there with listed | grouped
  · obtain ⟨view, member, same⟩ := List.mem_map.1 listed
    obtain ⟨name, found⟩ := (mem_values _ view).1 member
    obtain ⟨path, _, made⟩ := shaped.lists name view found
    rw [← same, made]
    exact HandleKind.noConfusion
  · obtain ⟨view, member, same⟩ := List.mem_map.1 grouped
    obtain ⟨name, found⟩ := (mem_values _ view).1 member
    obtain ⟨path, handle, _, made⟩ := shaped.groups name view found
    rw [← same, made]
    exact HandleKind.noConfusion

variable [RosterBackend β]

/-- A request asks for a group whose channel is open under another handle: the identifier of the
handle that it names is not the canonical name of the group. -/
def Astray (roster : Roster β) (repositories : Repositories) (request : ChannelRequest) : Prop :=
  request.kind = .group ∧ ∃ id name view, repositories.Denotes .group request.handle id ∧
    roster.normalizeGroup id = some name ∧ roster.groups.find? name = some view ∧
      view.channel.handle ≠ request.handle

end Roster

namespace RosterCall

variable {β : Type} {surroundings : Surroundings} {call next : RosterCall β}

/-- Every open channel was reported, and apart from that there are only failures. -/
structure Told (call : RosterCall β) : Prop where
  all : ∀ channel ∈ call.roster.channels, .newChannel channel none ∈ call.reports
  only : ∀ report ∈ call.reports,
    (∃ channel ∈ call.roster.channels, report = .newChannel channel none) ∨
      ∃ channel failure token, report = .channelError channel failure token

theorem Growth.told (growth : Growth surroundings call next) (told : Told call) : Told next := by
  cases growth with
  | upkeep upkeep =>
      obtain ⟨reports, channels⟩ := upkeep.channels
      refine ⟨?_, ?_⟩
      · intro channel member
        rw [reports]
        exact told.all channel (channels.subset member)
      · intro report member
        rw [reports] at member
        rcases told.only report member with ⟨channel, there, same⟩ | failed
        · exact .inl ⟨channel, channels.symm.subset there, same⟩
        · exact .inr failed
  | opening opening =>
      cases opening with
      | note events => exact ⟨told.all, told.only⟩
      | @opened name path repository after handle absent reached found interned =>
          let made : Channel := ⟨path, contactListType, .group, handle⟩
          have grown := opened_channels absent { channel := made }
          refine ⟨?_, ?_⟩
          · intro channel member
            rcases List.mem_cons.1 (grown.subset member) with fresh | earlier
            · rw [fresh]
              exact List.mem_append_right _ List.mem_cons_self
            · exact List.mem_append_left _ (told.all channel earlier)
          · intro report member
            rcases List.mem_append.1 member with earlier | last
            · rcases told.only report earlier with ⟨channel, there, same⟩ | failed
              · exact .inl ⟨channel, grown.symm.subset (List.mem_cons_of_mem _ there), same⟩
              · exact .inr failed
            · exact .inl ⟨made, grown.symm.subset List.mem_cons_self, List.mem_singleton.1 last⟩
      | failed channel failure token =>
          refine ⟨fun channel member => List.mem_append_left _ (told.all channel member), ?_⟩
          intro report member
          rcases List.mem_append.1 member with earlier | last
          · exact told.only report earlier
          · exact .inr ⟨channel, failure, some token, List.mem_singleton.1 last⟩

theorem Growths.told (growths : Growths surroundings call next) (told : Told call) : Told next := by
  induction growths with
  | refl => exact told
  | tail _ growth induction => exact growth.told induction

theorem report_lists_told {filled : RosterCall β} (silent : filled.reports = [])
    (bare : ∀ name, filled.roster.groups.find? name = none) : Told filled.reportLists := by
  have groups : filled.roster.groups.entries = [] := List.isEmpty_iff.1
    ((Catalog.is_empty_iff _).2 bare)
  have channels : filled.roster.channels = filled.roster.lists.values.map ListView.channel := by
    rw [Roster.channels, Catalog.values, Catalog.values, groups]
    exact List.append_nil _
  rw [report_lists_eq, silent, List.nil_append]
  refine ⟨?_, ?_⟩
  · intro channel member
    obtain ⟨view, there, same⟩ := List.mem_map.1 (channels ▸ member)
    exact List.mem_map.2 ⟨view, there, by rw [same]⟩
  · intro report member
    obtain ⟨view, there, same⟩ := List.mem_map.1 member
    exact .inl ⟨view.channel, channels ▸ List.mem_map_of_mem there, same.symm⟩

variable [RosterBackend β] {entry : Token × ChannelRequest}

/-- What has become of a request that waited. -/
inductive Settled (entry : Token × ChannelRequest) (call : RosterCall β) : Prop
  | satisfied (channel : Channel) (there : channel ∈ call.roster.channels)
      (satisfies : channel.satisfies entry.2 = true)
  | failed (channel : Channel) (failure : Failure)
      (reported : .channelError channel failure (some entry.1) ∈ call.reports)
  | astray (astray : call.roster.Astray call.repositories entry.2)

theorem Opening.settled (opening : Opening surroundings call next)
    (sound : call.repositories.Sound) (settled : Settled entry call) : Settled entry next := by
  cases opening with
  | note events =>
      cases settled with
      | satisfied channel there satisfies => exact .satisfied channel there satisfies
      | failed channel failure reported => exact .failed channel failure reported
      | astray astray => exact .astray astray
  | @opened name path repository after handle absent reached found interned =>
      let made : Channel := ⟨path, contactListType, .group, handle⟩
      have grown := opened_channels absent { channel := made }
      cases settled with
      | satisfied channel there satisfies =>
          exact .satisfied channel (grown.symm.subset (List.mem_cons_of_mem _ there)) satisfies
      | failed channel failure reported =>
          exact .failed channel failure (List.mem_append_left _ reported)
      | astray astray =>
          obtain ⟨kind, id, other, view, denoted, normal, present, apart⟩ := astray
          refine .astray ⟨kind, id, other, view, denoted.interned sound found interned, normal, ?_,
            apart⟩
          have different : other ≠ name := by
            intro same
            rw [same, absent] at present
            cases present
          change (call.roster.groups.insert name { channel := made }).find? other = some view
          rw [Catalog.find_insert, if_neg different, present]
  | failed channel failure token =>
      cases settled with
      | satisfied channel there satisfies => exact .satisfied channel there satisfies
      | failed channel failure reported =>
          exact .failed channel failure (List.mem_append_left _ reported)
      | astray astray => exact .astray astray

theorem Openings.settled (openings : Openings surroundings call next)
    (sound : call.repositories.Sound) (settled : Settled entry call) : Settled entry next := by
  induction openings with
  | refl => exact settled
  | @tail middle after earlier opening induction =>
      have still : middle.repositories.Sound := (Openings.moves earlier).steps.sound sound
      exact opening.settled still induction

theorem settled_by_group {request : ChannelRequest} {token : Token} {id name : String}
    {view : GroupView} (shaped : call.roster.Shaped surroundings)
    (sort : request.channelType = contactListType) (kind : request.kind = .group)
    (denoted : call.repositories.Denotes .group request.handle id)
    (normal : call.roster.normalizeGroup id = some name)
    (found : call.roster.groups.find? name = some view) : Settled (token, request) call := by
  by_cases same : view.channel.handle = request.handle
  · obtain ⟨path, handle, _, channel⟩ := shaped.groups name view found
    have named : handle = request.handle := by
      rw [channel] at same
      exact same
    refine .satisfied view.channel (Roster.group_channel_open found) ?_
    rw [channel]
    simp [Channel.satisfies, sort, kind, named]
  · exact .astray ⟨kind, id, name, view, denoted, normal, found, same⟩

theorem answer_group_settled {request : ChannelRequest} (token : Token) {id name : String}
    (shaped : call.roster.Shaped surroundings) (sound : call.repositories.Sound)
    (sort : request.channelType = contactListType) (kind : request.kind = .group)
    (denoted : call.repositories.Denotes .group request.handle id)
    (normal : call.roster.normalizeGroup id = some name) :
    Settled (token, request) (call.answerGroup surroundings name).2 ∨
      (call.answerGroup surroundings name).1.Refuses := by
  have answering := answer_group_answering surroundings call name
  generalize call.answerGroup surroundings name = given at answering ⊢
  cases answering with
  | existing found => exact .inl (settled_by_group shaped sort kind denoted normal found)
  | unavailable | failed => exact .inr trivial
  | created absent reached found interned =>
      have opening : Moves surroundings call _ :=
        .single (.growth (.opening (.opened absent reached found interned)))
      have announced := opening.tail (.growth (.upkeep (emit_upkeep _ (.groupsCreated [name]))))
      have present : ∀ view, (call.roster.groups.insert name view).find? name = some view :=
        fun view => by rw [Catalog.find_insert, if_pos rfl]
      exact .inl (settled_by_group (Moves.shaped announced shaped) sort kind
        (denoted.interned sound found interned) normal (present _))

theorem answer_settled {request : ChannelRequest} (token : Token) (call : RosterCall β)
    (shaped : call.roster.Shaped surroundings) (sound : call.repositories.Sound)
    (sort : request.channelType = contactListType) :
    Settled (token, request) (call.answer surroundings request).2 ∨
      (call.answer surroundings request).1.Refuses := by
  unfold answer
  split
  · rename_i kind
    split
    · exact .inr trivial
    · rename_i list named
      split
      · rename_i view found
        obtain ⟨path, _, channel⟩ := shaped.lists list view found
        have handle : list.handle = request.handle := by simpa using List.find?_some named
        refine .inl (.satisfied view.channel (Roster.list_channel_open found) ?_)
        rw [channel]
        simp [Channel.satisfies, sort, kind, handle]
      · exact .inr trivial
  · rename_i kind
    split
    · exact .inr trivial
    · rename_i id inspected
      split
      · exact .inr trivial
      · rename_i name normal
        exact answer_group_settled token shaped sound sort kind
          (Repositories.inspect_denotes inspected) normal
  all_goals exact .inr trivial

theorem finish_queued_settled (call : RosterCall β) (entry : Token × ChannelRequest)
    (shaped : call.roster.Shaped surroundings) (sound : call.repositories.Sound)
    (sort : entry.2.channelType = contactListType) :
    Settled entry (call.finishQueued surroundings entry) := by
  have answered := answer_settled entry.1 call shaped sound sort
  unfold finishQueued
  dsimp only
  split
  · rename_i satisfied
    obtain ⟨channel, there, satisfies⟩ := List.any_eq_true.1 satisfied
    exact .satisfied channel there satisfies
  · split
    · rename_i channel existing
      rw [existing] at answered
      exact answered.resolve_right id
    · rename_i channel created
      rw [created] at answered
      exact answered.resolve_right id
    · rename_i queued
      rw [queued] at answered
      exact answered.resolve_right id
    · exact .failed _ _ (List.mem_append_right _ List.mem_cons_self)

theorem finish_each_settled (entries : List (Token × ChannelRequest)) (call : RosterCall β)
    (shaped : call.roster.Shaped surroundings) (sound : call.repositories.Sound)
    (sort : ∀ entry ∈ entries, entry.2.channelType = contactListType) :
    ∀ entry ∈ entries, Settled entry (entries.foldl (finishQueued surroundings) call) := by
  induction entries generalizing call with
  | nil => exact fun entry member => absurd member List.not_mem_nil
  | cons first rest induction =>
      have openings : Openings surroundings call _ := finish_queued_openings call first
      have still : (call.finishQueued surroundings first).repositories.Sound :=
        (Openings.moves openings).steps.sound sound
      intro entry member
      rcases List.mem_cons.1 member with same | later
      · have settled := call.finish_queued_settled first shaped sound
          (sort first List.mem_cons_self)
        rw [same]
        exact Openings.settled (fold_chain finish_queued_openings rest _) still settled
      · exact induction _ ((Openings.moves openings).shaped shaped) still
          (fun other there => sort other (List.mem_cons_of_mem _ there)) entry later

/-- When the roster arrives, every request that it put off is settled. -/
theorem list_received_settled (surroundings : Surroundings) (call : RosterCall β)
    (waiting : call.roster.phase = .waiting) (unopened : call.roster.Unopened)
    (silent : call.reports = []) (sound : call.repositories.Sound)
    (sort : ∀ entry ∈ call.roster.queued, entry.2.channelType = contactListType) :
    Told (call.listReceived surroundings) ∧
      ∀ entry ∈ call.roster.queued, Settled entry (call.listReceived surroundings) := by
  obtain ⟨filled, grown, reports, growths, openings, finished, _, queued, worked, opened⟩ :=
    list_received_chain surroundings call waiting
  obtain ⟨bare, shaped⟩ := opened unopened
  have same : filled.reportLists.roster = filled.roster ∧
      filled.reportLists.repositories = filled.repositories := by
    rw [report_lists_eq]
    exact ⟨rfl, rfl⟩
  have told : Told grown := growths.told (report_lists_told (reports.trans silent) bare)
  have still : grown.repositories.Sound :=
    (Growths.moves growths).steps.sound (same.2 ▸ worked.sound sound)
  have grownShaped : grown.roster.Shaped surroundings :=
    (Growths.moves growths).shaped (same.1 ▸ shaped)
  have forgotten : grown.forgetting.roster.Shaped surroundings :=
    ⟨grownShaped.lists, grownShaped.groups⟩
  refine ⟨(Openings.growths openings).told ⟨told.all, told.only⟩, ?_⟩
  rw [finished, ← queued]
  exact finish_each_settled grown.roster.queued grown.forgetting forgotten still (queued ▸ sort)

end RosterCall

/-- What a report sends to a request that waits in the queue. -/
def Report.answer? (pending : PendingRequest) : Report → Option (Outcome ObjectPath)
  | .newChannel channel token =>
      if RequestQueue.isAnswered channel token pending then some (.ok channel.path) else none
  | .channelError channel failure token =>
      if RequestQueue.isAnswered channel token pending then some (.error failure) else none
  | .channelClosed _ => none

namespace Connection

section Reports

variable {φ : Type} {pending : PendingRequest}

theorem Served.replies {hooks : List (Nat × FactoryHook)} {before after : Connection φ}
    (served : Served hooks before after) {sent : Nat × Outcome ObjectPath}
    (told : sent ∈ before.replies) : sent ∈ after.replies := by
  obtain ⟨added, entries, _⟩ := served.recorded
  apply mem_replies.2
  rw [entries]
  exact List.mem_append_left _ (mem_replies.1 told)

theorem answer_matching_pending (connection : Connection φ) (channel : Channel)
    (token : Option Token) (outcome : Outcome ObjectPath)
    (waiting : pending ∈ connection.queue.pending) :
    (RequestQueue.isAnswered channel token pending = true ∧
        (pending.reply, outcome) ∈ (connection.answerMatching channel token outcome).replies) ∨
      (RequestQueue.isAnswered channel token pending = false ∧
        pending ∈ (connection.answerMatching channel token outcome).queue.pending) := by
  rw [answer_matching_eq, reply_eq]
  cases answered : RequestQueue.isAnswered channel token pending with
  | true =>
      left
      refine ⟨rfl, mem_replies.2 (List.mem_append_right _ ?_)⟩
      exact List.mem_map.2 ⟨pending, List.mem_filter.2 ⟨waiting, answered⟩, rfl⟩
  | false =>
      right
      exact ⟨rfl, List.mem_filter.2 ⟨waiting, by rw [answered]; rfl⟩⟩

theorem apply_report_pending (connection : Connection φ) (report : Report)
    (usable : connection.status ≠ .disconnected) (waiting : pending ∈ connection.queue.pending) :
    (∃ outcome, report.answer? pending = some outcome ∧
        (pending.reply, outcome) ∈ (connection.applyReport report).replies) ∨
      (report.answer? pending = none ∧
        pending ∈ (connection.applyReport report).queue.pending) := by
  cases report with
  | newChannel channel token =>
      have announced : connection.applyReport (.newChannel channel token)
          = connection.announceChannel channel token := if_neg usable
      obtain ⟨suppressed, same⟩ := connection.announce_channel_eq channel token
      rw [announced, same]
      rcases answer_matching_pending (connection.announceEvent (.newChannel channel suppressed))
        channel token (.ok channel.path) waiting with ⟨answered, told⟩ | ⟨passed, still⟩
      · exact .inl ⟨.ok channel.path, if_pos answered, told⟩
      · exact .inr ⟨if_neg (by rw [passed]; decide), still⟩
  | channelError channel failure token =>
      rcases answer_matching_pending connection channel token (.error failure) waiting with
        ⟨answered, told⟩ | ⟨passed, still⟩
      · exact .inl ⟨.error failure, if_pos answered, told⟩
      · exact .inr ⟨if_neg (by rw [passed]; decide), still⟩
  | channelClosed path => exact .inr ⟨rfl, waiting⟩

theorem apply_reports_pending (reports : List Report) (connection : Connection φ)
    (usable : connection.status ≠ .disconnected) (waiting : pending ∈ connection.queue.pending)
    (answered : ∃ report ∈ reports, (report.answer? pending).isSome = true) :
    ∃ report ∈ reports, ∃ outcome, report.answer? pending = some outcome ∧
      (pending.reply, outcome) ∈ (reports.foldl applyReport connection).replies := by
  induction reports generalizing connection with
  | nil =>
      obtain ⟨report, member, _⟩ := answered
      cases member
  | cons first rest induction =>
      have status := (connection.apply_report_eased first).status
      have later : Serves AnyWork [] (connection.applyReport first)
          (rest.foldl applyReport (connection.applyReport first)) := apply_reports_serves rest _
      rcases connection.apply_report_pending first usable waiting with
        ⟨outcome, sent, told⟩ | ⟨passed, still⟩
      · exact ⟨first, List.mem_cons_self, outcome, sent, later.served.replies told⟩
      · have remaining : ∃ report ∈ rest, (report.answer? pending).isSome = true := by
          obtain ⟨report, member, some⟩ := answered
          rcases List.mem_cons.1 member with same | other
          · rw [same, passed] at some
            cases some
          · exact ⟨report, other, some⟩
        obtain ⟨report, member, sent⟩ := induction _ (status ▸ usable) still remaining
        exact ⟨report, List.mem_cons_of_mem _ member, sent⟩

theorem Accounted.answered {tokens : List Token} {connection : Connection φ} {token : Token}
    (accounted : Accounted tokens connection) (given : token ∈ tokens)
    (gone : connection.waiting token = 0) : ∃ outcome, (token, outcome) ∈ connection.replies := by
  have once := accounted.count token
  rw [List.count_eq_one_of_mem accounted.nodup given, gone, Nat.zero_add] at once
  have some : 0 < connection.answers token := by
    rw [once]
    exact Nat.one_pos
  obtain ⟨⟨number, outcome⟩, member, same⟩ := List.countP_pos_iff.1 some
  have numbered : number = token := by simpa using same
  exact ⟨outcome, numbered ▸ member⟩

theorem Accounted.settled {tokens : List Token} {connection : Connection φ} {token : Token}
    {outcome : Outcome ObjectPath} (accounted : Accounted tokens connection)
    (told : (token, outcome) ∈ connection.replies) : connection.waiting token = 0 := by
  have once := accounted.count token
  have some : 0 < connection.answers token :=
    List.countP_pos_iff.2 ⟨(token, outcome), told, by simp⟩
  have bound := List.nodup_iff_count_le_one.1 accounted.nodup token
  omega

end Reports

variable {β φ : Type} [RosterBackend β] [ChannelFactory φ] {lodging : Lodging β φ} {place : Nat}
  {roster : Roster β} {start asked accepted later : Connection φ}

def arrivalOf (lodging : Lodging β φ) (connection : Connection φ) (roster : Roster β) :
    FactoryCall φ Unit :=
  (roster.run connection.repositories fun call =>
    ((), call.listReceived connection.surroundings)).wrap lodging.lodge

theorem with_factory_arrival (standing : later.factories[place]? = some (lodging.lodge roster)) :
    later.withFactory place (lodging.visit .listReceived)
      = some ((), (later.record (.called place)).applyCall place (arrivalOf lodging later roster)) := by
  unfold withFactory Lodging.visit
  rw [standing]
  dsimp only [bind, Option.bind]
  rw [lodging.found]
  rfl

theorem Standing.known {owed : List (Token × ChannelRequest)} {connection : Connection φ}
    (standing : Standing lodging place owed connection)
    (present : connection.factories[place]? = some (lodging.lodge roster)) :
    roster.Kept connection.surroundings owed := by
  obtain ⟨other, found, kept⟩ := standing
  rw [present, Option.some.injEq] at found
  have same := congrArg lodging.find found
  rw [lodging.found, lodging.found, Option.some.injEq] at same
  rwa [same]

/-- A request that waits when its roster arrives is answered, unless it went astray. -/
theorem arrival_answers {token : Token} {request : ChannelRequest} {sender : String}
    (usable : later.status ≠ .disconnected) (sound : later.repositories.Sound)
    (kept : roster.Kept later.surroundings [(token, request)]) (waiting : roster.phase = .waiting)
    (pending : ⟨token, request, sender, token⟩ ∈ later.queue.pending) :
    let call : RosterCall β := { roster, repositories := later.repositories }
    let arrived := call.listReceived later.surroundings
    arrived.roster.Astray arrived.repositories request ∨
      ∃ outcome, (token, outcome) ∈ ((later.record (.called place)).applyCall place
          (arrivalOf lodging later roster)).replies ∧
        ∀ path, outcome = .ok path → ∃ channel ∈ arrived.roster.channels, channel.path = path := by
  intro call arrived
  obtain ⟨told, settled⟩ := RosterCall.list_received_settled later.surroundings call waiting
    (kept.unopened waiting) rfl sound kept.queued
  obtain ⟨_, shaped, _⟩ := RosterCall.list_received_balanced later.surroundings call waiting
    (kept.unopened waiting) rfl
  have entry : (token, request) ∈ call.roster.queued :=
    kept.owed waiting _ List.mem_cons_self
  let own : PendingRequest := ⟨token, request, sender, token⟩
  have answered : arrived.roster.Astray arrived.repositories request ∨
      ∃ report ∈ arrived.reports, (report.answer? own).isSome = true := by
    cases settled (token, request) entry with
    | satisfied channel there satisfies =>
        right
        refine ⟨.newChannel channel none, told.all channel there, ?_⟩
        have reached : RequestQueue.isAnswered channel none own = true := by
          simp [RequestQueue.isAnswered, own, satisfies, shaped.aimed there]
        rw [Report.answer?, if_pos reached]
        rfl
    | failed channel failure reported =>
        right
        refine ⟨.channelError channel failure (some token), reported, ?_⟩
        have reached : RequestQueue.isAnswered channel (some token) own = true := by
          simp [RequestQueue.isAnswered, own]
        rw [Report.answer?, if_pos reached]
        rfl
    | astray astray => exact .inl astray
  rcases answered with astray | answered
  · exact .inl astray
  · right
    obtain ⟨report, member, outcome, sent, replied⟩ := apply_reports_pending arrived.reports
      ((later.record (.called place)).taking place (arrivalOf lodging later roster)) usable pending
      answered
    refine ⟨outcome, replied, ?_⟩
    rintro path rfl
    rcases told.only report member with ⟨channel, there, same⟩ | ⟨channel, failure, made, same⟩
    · rw [same] at sent
      have given := (Option.ite_none_right_eq_some.1 sent).2
      cases given
      exact ⟨channel, there, rfl⟩
    · rw [same] at sent
      have given := (Option.ite_none_right_eq_some.1 sent).2
      cases given

/-- A request for a channel that a roster put off is answered when the roster arrives, by the path
of an open channel or with an error, if it was not answered before; unless it went astray. -/
theorem queued_requests_answered (works : FactoriesWork Repositories.Step φ) {backend : β}
    (fresh : Fresh start) (sound : start.repositories.Sound)
    (lodged : start.factories[place]? = some (lodging.lodge { backend }))
    {made more : List (Connection φ × ChannelRequest)} (run : RosterRun lodging place made start asked)
    {request : ChannelRequest} {sender : String} {token : Token}
    (done : asked.requestChannel request sender = .ok (token, accepted)) {holder : Roster β}
    (held : accepted.factories[place]? = some (lodging.lodge holder))
    (queued : (token, request) ∈ holder.queued) (rest : RosterRun lodging place more accepted later)
    (usable : later.status ≠ .disconnected)
    (standing : later.factories[place]? = some (lodging.lodge roster))
    (waiting : roster.phase = .waiting) :
    ∃ after arrived, later.withFactory place (lodging.visit .listReceived) = some ((), after) ∧
      after.factories[place]? = some (lodging.lodge arrived) ∧ arrived.phase = .received ∧
      (arrived.Astray after.repositories request ∨
        (after.waiting token = 0 ∧ ∃ outcome, (token, outcome) ∈ after.replies ∧
          ((token, outcome) ∈ later.replies ∨ ∀ path, outcome = .ok path →
            ∃ channel ∈ arrived.channels, channel.path = path))) := by
  obtain ⟨given, connected, _, _⟩ := request_channel_eq_ok done
  have earlier := run.phases works
  have following := rest.phases works
  -- What the roster keeps to itself, up to the moment of its arrival.
  have open_ : accepted.status ≠ .disconnected := fun gone => usable (following.disconnected gone)
  have begun : Standing lodging place [] start := ⟨_, lodged, Roster.new_kept _ backend⟩
  have asking : Standing lodging place [] accepted :=
    (run.next (.request request sender done)).standing works open_ begun
  have owing : Standing lodging place [(token, request)] accepted := by
    refine ⟨holder, held, { asking.known held with owed := ?_ }⟩
    intro _ entry member
    rw [List.mem_singleton.1 member]
    exact queued
  have kept := (rest.standing works usable owing).known standing
  -- What the connection keeps: sound repositories, and the account of its tokens.
  have phases := (earlier.trans (request_phases works done)).trans following
  have soundLater : later.repositories.Sound := (phases.moves works).sound sound
  have accounted : Accounted (tokensOf made ++ [token] ++ tokensOf more) later :=
    phases.accounted works fresh.accounted
  have waits := (earlier.accounted works fresh.accounted).traced request sender connected
  have traced := following.traced works (waits.served (request_channel_serves works done).served)
  let after := (later.record (.called place)).applyCall place (arrivalOf lodging later roster)
  have arrival := with_factory_arrival standing
  have served : Served [] later after := (with_factory_serves (fun factory result called =>
    lodging.visit_steps .listReceived factory _ _ result called) arrival).served
  have after_accounted := accounted.served served
  let arrived := RosterCall.listReceived later.surroundings
    { roster, repositories := later.repositories }
  obtain ⟨_, _, received, _⟩ := RosterCall.list_received_balanced later.surroundings
    { roster, repositories := later.repositories } waiting (kept.unopened waiting) rfl
  have left : after.factories[place]? = some (lodging.lodge arrived.roster) ∧
      after.repositories = arrived.repositories := by
    obtain ⟨_, _, _, same⟩ := apply_call_eased (later.record (.called place)) place
      (arrivalOf lodging later roster)
    obtain ⟨bound, _⟩ := List.getElem?_eq_some_iff.1 standing
    change after = _ at same
    rw [same]
    exact ⟨List.getElem?_set_self bound, rfl⟩
  refine ⟨after, arrived.roster, arrival, left.1, received, ?_⟩
  rw [left.2]
  by_cases gone : later.waiting token = 0
  · obtain ⟨outcome, told⟩ := accounted.answered
      (List.mem_append_left _ (List.mem_append_right _ List.mem_cons_self)) gone
    have still := served.replies told
    exact .inr ⟨after_accounted.settled still, outcome, still, .inl told⟩
  · obtain ⟨pending, member, same⟩ := List.countP_pos_iff.1 (Nat.pos_of_ne_zero gone)
    have numbered : pending.token = token := by simpa using same
    have own : pending = ⟨token, request, sender, token⟩ := by
      have reply : pending.reply = asked.nextToken := by
        rw [accounted.numbered pending member, numbered, given]
      rw [traced.own pending member reply, given]
    have answers : arrived.roster.Astray arrived.repositories request ∨
        ∃ outcome, (token, outcome) ∈ after.replies ∧ ∀ path, outcome = .ok path →
          ∃ channel ∈ arrived.roster.channels, channel.path = path :=
      arrival_answers usable soundLater kept waiting (own ▸ member)
    rcases answers with astray | ⟨outcome, told, opened⟩
    · exact .inl astray
    · exact .inr ⟨after_accounted.settled told, outcome, told, .inr opened⟩

def listRequest : ChannelRequest := ⟨contactListType, .list, 1, false⟩

theorem queued_requests_answered_rehearsed :
    ∃ (accepted : Connection (Roster Rehearsal.StandInBackend))
      (holder : Roster Rehearsal.StandInBackend)
      (after : Connection (Roster Rehearsal.StandInBackend)),
      Fresh rehearsedRoster ∧ rehearsedRoster.repositories.Sound ∧
        rehearsedRoster.factories[0]? = some { backend := smallLetters } ∧
        RosterRun Lodging.own 0 [] rehearsedRoster rehearsedRosterUp ∧
        rehearsedRosterUp.requestChannel listRequest ":1.50" = .ok (1, accepted) ∧
        accepted.factories[0]? = some holder ∧ (1, listRequest) ∈ holder.queued ∧
        holder.phase = .waiting ∧ accepted.status ≠ .disconnected ∧
        accepted.withFactory 0 (Lodging.own.visit .listReceived) = some ((), after) ∧
        after.waiting 1 = 0 ∧ ∃ outcome, (1, outcome) ∈ after.replies := by
  obtain ⟨accepted, holder, done, held, queued, waiting, connected⟩ :
      ∃ (accepted : Connection (Roster Rehearsal.StandInBackend))
        (holder : Roster Rehearsal.StandInBackend),
        rehearsedRosterUp.requestChannel listRequest ":1.50" = .ok (1, accepted) ∧
          accepted.factories[0]? = some holder ∧ holder.queued = [(1, listRequest)] ∧
          holder.phase = .waiting ∧ accepted.status = .connected :=
    ⟨_, _, rfl, rfl, rfl, rfl, rfl⟩
  have sound : rehearsedRoster.repositories.Sound := Repositories.standard_sound
  have lodged : rehearsedRoster.factories[0]? = some { backend := smallLetters } := rfl
  have entry : (1, listRequest) ∈ holder.queued := by
    rw [queued]
    exact List.mem_cons_self
  have usable : accepted.status ≠ .disconnected := by
    rw [connected]
    decide
  obtain ⟨after, arrived, received, _, _, answered⟩ := queued_requests_answered Roster.works
    rehearsed_roster_fresh sound lodged rehearsed_roster_up_run done held entry (.refl accepted)
    usable held waiting
  have listed : ¬ arrived.Astray after.repositories listRequest := fun astray => by cases astray.1
  obtain ⟨gone, outcome, told, _⟩ := answered.resolve_left listed
  exact ⟨accepted, holder, after, rehearsed_roster_fresh, sound, lodged, rehearsed_roster_up_run,
    done, held, entry, waiting, usable, received, gone, outcome, told⟩

/-- A client has a handle for the group Friends, which the backend knows as friends. -/
def rehearsedNamed : Connection (Roster Rehearsal.StandInBackend) :=
  (rehearsedRosterUp.requestHandles .group ["Friends"] ":1.50").2

theorem rehearsed_named_run : RosterRun Lodging.own 0 [] rehearsedRoster rehearsedNamed :=
  rehearsed_roster_up_run.next (on_repository_step rehearsedRosterUp .group _ fun repository =>
    repository.request_all_steps ":1.50" ["Friends"])

/-- A request for a group by another name than the backend's is put off, and when the roster has
arrived it still waits. -/
theorem group_request_left_waiting :
    ∃ (accepted : Connection (Roster Rehearsal.StandInBackend))
      (holder : Roster Rehearsal.StandInBackend)
      (after : Connection (Roster Rehearsal.StandInBackend)),
      Fresh rehearsedRoster ∧ RosterRun Lodging.own 0 [] rehearsedRoster rehearsedNamed ∧
        rehearsedNamed.requestChannel groupRequest ":1.50" = .ok (1, accepted) ∧
        accepted.factories[0]? = some holder ∧ holder.queued = [(1, groupRequest)] ∧
        holder.phase = .waiting ∧
        accepted.withFactory 0 (Lodging.own.visit .listReceived) = some ((), after) ∧
        after.status = .connected ∧ after.waiting 1 = 1 ∧ after.replies = [] :=
  ⟨_, _, _, rehearsed_roster_fresh, rehearsed_named_run, rfl, rfl, rfl, rfl, rfl, rfl, rfl, rfl⟩

end Connection

end ConnectionManager
