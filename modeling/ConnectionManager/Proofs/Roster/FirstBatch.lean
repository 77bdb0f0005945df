import ConnectionManager.Proofs.Roster.Deeds
import ConnectionManager.Proofs.Roster.GroupBatches

/-!
A roster from its start to its arrival and beyond. Before it arrives it is silent: it has no channel,
tells nothing, takes no reference, and puts requests off or refuses them. It arrives in one batch: the
lists tell in their order, then the groups by name, and then only groups that are created for requests
that waited. It does not arrive twice.
-/

namespace ConnectionManager

/-- Whether something is done to a roster that neither makes it arrive nor ends it. -/
def RosterDeed.IsEarly {β : Type} : RosterDeed β → Prop
  | .use .listReceived | .hook .disconnected | .hook .closeAll => False
  | _ => True

namespace Roster

variable {β : Type} [RosterBackend β] {roster next : Roster β}

/-- One deed, in any surroundings and with any repositories. -/
inductive Does (allowed : RosterDeed β → Prop) : Roster β → Roster β → Prop
  | deed {roster : Roster β} (surroundings : Surroundings) (repositories : Repositories)
      (deed : RosterDeed β) (fits : allowed deed) : Does allowed roster
        (({ roster, repositories } : RosterCall β).enact surroundings deed).roster

/-- What is done to a roster over time. -/
abbrev Course (allowed : RosterDeed β → Prop) : Roster β → Roster β → Prop :=
  Relation.ReflTransGen (Does allowed)

theorem Course.lasting {allowed : RosterDeed β → Prop} {kept : Roster β → Prop}
    (course : Course allowed roster next) (lasting : Lasting kept) (holds : kept roster) :
    kept next := by
  induction course with
  | refl => exact holds
  | tail _ step induction =>
      cases step with
      | deed surroundings repositories deed fits =>
          exact lasting surroundings { roster := _, repositories } deed induction

/-- A roster of which nothing was heard yet. -/
structure Unheard (roster : Roster β) : Prop extends roster.Unopened where
  waiting : roster.phase = .waiting
  silent : roster.events.entries = []

omit [RosterBackend β] in
theorem Unopened.channels (unopened : roster.Unopened) : roster.channels = [] :=
  List.map_eq_nil_iff.1 unopened.paths

omit [RosterBackend β] in
theorem unheard_new (backend : β) : ({ backend } : Roster β).Unheard where
  lists _ := rfl
  groups _ := rfl
  waiting := rfl
  silent := rfl

end Roster

namespace RosterCall

variable {β : Type} [RosterBackend β] {call next : RosterCall β} {surroundings : Surroundings}

theorem request_waiting (waiting : call.roster.phase = .waiting) (surroundings : Surroundings)
    (request : ChannelRequest) (token : Token) :
    call.request surroundings request token = (.queued, call.postponing request token) ∨
      ∃ refusal ∈ [RequestAnswer.notImplemented, .invalidHandle, .notAvailable],
        call.request surroundings request token = (refusal, call) := by
  unfold RosterCall.request
  rw [waiting]
  dsimp only
  split
  · exact .inr ⟨.notImplemented, by simp, rfl⟩
  · split
    · split
      · exact .inr ⟨.invalidHandle, by simp, rfl⟩
      · split
        · exact .inl rfl
        · exact .inr ⟨.notAvailable, by simp, rfl⟩
    · exact .inl rfl
    all_goals exact .inr ⟨.notImplemented, by simp, rfl⟩

/-- An early deed leaves no trace outside of the roster, and nothing is heard of it. -/
theorem enact_early (unheard : call.roster.Unheard) (surroundings : Surroundings)
    {deed : RosterDeed β} (early : deed.IsEarly) :
    (call.enact surroundings deed).roster.Unheard ∧
      (call.enact surroundings deed).repositories = call.repositories ∧
      (call.enact surroundings deed).reports = call.reports := by
  have still : ∀ next : Roster β, next.phase = call.roster.phase → next.lists = call.roster.lists →
      next.groups = call.roster.groups → next.events = call.roster.events → next.Unheard := by
    intro next phase lists groups events
    exact {
      lists := by rw [lists]; exact unheard.lists
      groups := by rw [groups]; exact unheard.groups
      waiting := phase.trans unheard.waiting
      silent := by rw [events]; exact unheard.silent }
  cases deed with
  | use use =>
      rcases perform_waiting surroundings unheard.waiting use with rfl | ⟨backend, same⟩
      · exact early.elim
      · rw [enact, same]
        exact ⟨still _ rfl rfl rfl rfl, rfl, rfl⟩
  | request request token =>
      rcases request_waiting unheard.waiting surroundings request token with
        same | ⟨refusal, _, same⟩
      · rw [enact, same]
        exact ⟨still _ rfl rfl rfl rfl, rfl, rfl⟩
      · rw [enact, same]
        exact ⟨unheard, rfl, rfl⟩
  | hook hook =>
      cases hook with
      | connecting => exact ⟨unheard, rfl, rfl⟩
      | connected => exact ⟨unheard, rfl, rfl⟩
      | disconnected => exact early.elim
      | closeAll => exact early.elim

/-! The requests that waited. -/

/-- Whether a request waits for a group: its handle stands for the name when it is answered. -/
def Awaited (call : RosterCall β) (name : String) : Prop :=
  ∃ token request answering id, (token, request) ∈ call.roster.queued ∧ request.kind = .group ∧
    call.repositories.Steps answering ∧
    (answering.get .group >>= fun repository => repository.inspect request.handle) = .ok id ∧
    call.roster.normalizeGroup id = some name

theorem answer_group_told (surroundings : Surroundings) (call : RosterCall β) (name : String) :
    (call.answerGroup surroundings name).2.roster.events.entries = call.roster.events.entries ∨
      (call.answerGroup surroundings name).2.roster.events.entries
        = call.roster.events.entries ++ [.groupsCreated [name]] := by
  have answering := answer_group_answering surroundings call name
  generalize call.answerGroup surroundings name = given at answering ⊢
  cases answering with
  | existing | unavailable | failed => exact .inl rfl
  | created => exact .inr rfl

theorem answer_told (surroundings : Surroundings) (call : RosterCall β) (request : ChannelRequest) :
    (call.answer surroundings request).2.roster.events.entries = call.roster.events.entries ∨
      ∃ id name, request.kind = .group ∧
        (call.repositories.get .group >>= fun repository => repository.inspect request.handle)
          = .ok id ∧ call.roster.normalizeGroup id = some name ∧
        (call.answer surroundings request).2.roster.events.entries
          = call.roster.events.entries ++ [.groupsCreated [name]] := by
  unfold answer
  split
  · split
    · exact .inl rfl
    · split <;> exact .inl rfl
  · rename_i kind
    split
    · exact .inl rfl
    · rename_i id inspected
      split
      · exact .inl rfl
      · rename_i name normal
        rcases call.answer_group_told surroundings name with same | told
        · exact .inl same
        · exact .inr ⟨id, name, kind, inspected, normal, told⟩
  all_goals exact .inl rfl

theorem finish_queued_told (surroundings : Surroundings) (call : RosterCall β)
    (entry : Token × ChannelRequest) :
    (call.finishQueued surroundings entry).roster.events.entries = call.roster.events.entries ∨
      ∃ id name, entry.2.kind = .group ∧
        (call.repositories.get .group >>= fun repository => repository.inspect entry.2.handle)
          = .ok id ∧ call.roster.normalizeGroup id = some name ∧
        (call.finishQueued surroundings entry).roster.events.entries
          = call.roster.events.entries ++ [.groupsCreated [name]] := by
  have answered := call.answer_told surroundings entry.2
  unfold finishQueued
  dsimp only
  split
  · exact .inl rfl
  · split <;> exact answered

/-- The requests that waited tell of groups that are created for them, and of nothing else. -/
theorem finish_each_told (start : RosterCall β) (entries : List (Token × ChannelRequest))
    (call : RosterCall β) (waited : ∀ entry ∈ entries, entry ∈ start.roster.queued)
    (reached : start.repositories.Steps call.repositories)
    (backend : call.roster.backend = start.roster.backend) :
    ∃ created : List String,
      (entries.foldl (finishQueued surroundings) call).roster.events.entries
        = call.roster.events.entries ++ created.map (fun name => .groupsCreated [name]) ∧
      ∀ name ∈ created, start.Awaited name := by
  induction entries generalizing call with
  | nil => exact ⟨[], (List.append_nil _).symm, fun _ member => absurd member List.not_mem_nil⟩
  | cons entry rest induction =>
      let next := call.finishQueued surroundings entry
      obtain ⟨_, aside, _⟩ := call.finish_queued_work surroundings entry
      have openings : Openings surroundings call next := call.finish_queued_openings entry
      obtain ⟨created, told, awaited⟩ := induction next
        (fun other member => waited other (List.mem_cons_of_mem entry member))
        (reached.trans (Openings.moves openings).steps) (aside.backend.trans backend)
      rw [List.foldl_cons, told]
      rcases call.finish_queued_told surroundings entry with
        same | ⟨id, name, kind, inspected, normal, first⟩
      · rw [same]
        exact ⟨created, rfl, awaited⟩
      · rw [first]
        refine ⟨name :: created, by simp, ?_⟩
        intro other member
        rcases List.mem_cons.1 member with rfl | later
        · have alike : start.roster.normalizeGroup id = call.roster.normalizeGroup id := by
            unfold Roster.normalizeGroup
            rw [backend]
          exact ⟨entry.1, entry.2, call.repositories, id, waited entry List.mem_cons_self, kind,
            reached, inspected, alike.trans normal⟩
        · exact awaited other later

/-! The arrival. -/

/-- What a roster tells when it arrives: each list that there is a view of, in the order of the lists;
each group that can be created, by name; and groups that are created for requests that waited. A list
names each contact of the roster in one of the parts of its change, once, if no contact is named
twice; but the list of those who are denied names the blocked contacts and no others. -/
structure FirstBatch (call : RosterCall β) (events : List RosterEvent)
    (lists groups : List MembershipChange) (created : List String) : Prop where
  told : events = lists.map .membersChanged ++ groups.map .membersChanged
    ++ created.map fun name => .groupsCreated [name]
  listed : List.Forall₂ call.roster.ListBatch (ListName.all.filter call.roster.hasView) lists
  once : (RosterBackend.contacts call.roster.backend).Nodup →
    ∀ change ∈ lists, change.view ≠ .list .deny →
      ∀ contact ∈ RosterBackend.contacts call.roster.backend, change.contacts.count contact = 1
  denied : ∀ change ∈ lists, change.view = .list .deny →
    change.contacts = change.added ∧ change.added.Perm call.roster.blocked
  ascending : call.roster.knownGroups.Pairwise (· < ·)
  known : ∀ name, name ∈ call.roster.knownGroups ↔ call.roster.Knows name
  grouped : List.Forall₂ call.GroupBatch (call.repositories.creatable call.roster.knownGroups) groups
  awaited : ∀ name ∈ created, call.Awaited name

theorem align_each_group (initial : Bool) (named : List (ListName × List Handle))
    (call : RosterCall β) :
    (alignEach initial call named).repositories.get .group = call.repositories.get .group := by
  induction named generalizing call with
  | nil => rfl
  | cons entry rest induction =>
      refine (induction (updateList initial entry.2 call entry.1)).trans ?_
      cases found : call.roster.lists.find? entry.1 with
      | none => rw [update_list_absent found]
      | some view =>
          rw [update_list_eq found, (emit_change_frame _ _ initial).1]
          rfl

/-- The call in which the lists of a roster that arrives are filled, and nothing else was done. -/
structure Filled (call filled : RosterCall β) : Prop where
  told : ∃ changes, filled.roster.events.entries = changes.map .membersChanged ∧
    List.Forall₂ call.roster.ListBatch (ListName.all.filter call.roster.hasView) changes
  received : filled.roster.phase = .received
  backend : filled.roster.backend = call.roster.backend
  queued : filled.roster.queued = call.roster.queued
  bare : ∀ name, filled.roster.groups.find? name = none
  group : filled.repositories.get .group = call.repositories.get .group
  valid : ∀ contact, filled.repositories.contacts.isValid contact
    = call.repositories.contacts.isValid contact
  steps : call.repositories.Steps filled.repositories

theorem Arriving.filled {views : Catalog ListName ListView}
    (arriving : call.Arriving surroundings views) (unheard : call.roster.Unheard) :
    call.Filled ((call.receiving.withLists views).receiveLists) := by
  let started := call.receiving.withLists views
  obtain ⟨changes, told, batches⟩ := @receive_lists_told β _ started rfl
  have supported : (fun list => (started.roster.lists.find? list).isSome)
      = call.roster.hasView := by
    funext list
    change (views.find? list).isSome = _
    cases has : call.roster.hasView list with
    | true =>
        obtain ⟨channel, view⟩ := (arriving.found list).1 has
        rw [view]
        rfl
    | false =>
        rw [(arriving.found list).2 has, unheard.lists list]
        rfl
  have apart : started.roster.Apart := by
    have lined := opened_lined surroundings call .listReceived
    rw [arriving.opened] at lined
    refine lined.apart fun list view known => ?_
    rw [unheard.lists list] at known
    cases known
  have upkeeps : Upkeeps started started.receiveLists := started.receive_lists_upkeeps
  have moves : Moves surroundings started started.receiveLists := Upkeeps.moves upkeeps
  obtain ⟨phase, _, queued⟩ := moves.frame
  -- Filling the lists is bringing each of them in line.
  let named := ListName.all.map fun list => (list, call.roster.contactsOf list)
  have distinct : (named.map Prod.fst).Nodup := by
    change ListName.all.Nodup
    decide
  have lined := (align_each_lined true named started).1
  exact {
    told := by
      rw [supported] at batches
      refine ⟨changes, ?_, batches.imp fun list change batch => ?_⟩
      · rw [told]
        exact congrArg (· ++ _) unheard.silent
      · have same : started.roster.backend = call.roster.backend := rfl
        exact Roster.ListBatch.congr same batch
    received := phase
    backend := lined.backend
    queued := queued
    bare := upkeeps.no_group unheard.groups
    group := align_each_group true named started
    valid := fun contact => align_each_valid apart true named distinct fun entry _ =>
      arriving.nowhere unheard.toUnopened entry.1 contact
    steps := moves.steps }

/-- The call in which the groups of a roster that arrives have followed. -/
structure Grown (call grown : RosterCall β) : Prop where
  told : ∃ lists groups, grown.roster.events.entries
      = lists.map .membersChanged ++ groups.map .membersChanged ∧
    List.Forall₂ call.roster.ListBatch (ListName.all.filter call.roster.hasView) lists ∧
    List.Forall₂ call.GroupBatch (call.repositories.creatable call.roster.knownGroups) groups
  backend : grown.roster.backend = call.roster.backend
  queued : grown.roster.queued = call.roster.queued
  steps : call.repositories.Steps grown.repositories

theorem Filled.grown {filled : RosterCall β} (ready : call.Filled filled)
    (surroundings : Surroundings) : call.Grown (filled.reportLists.receiveGroups surroundings
      (RosterBackend.contacts call.roster.backend)) := by
  have reported : filled.reportLists.roster = filled.roster := by rw [report_lists_eq]
  have kept : filled.reportLists.repositories = filled.repositories := by rw [report_lists_eq]
  obtain ⟨lists, listsTold, listBatches⟩ := ready.told
  obtain ⟨groups, groupsTold, groupBatches⟩ := @receive_groups_told β _ filled.reportLists
    surroundings (reported ▸ ready.received) (reported ▸ ready.bare)
  rw [reported, ready.backend] at groupsTold
  have known : filled.roster.knownGroups = call.roster.knownGroups := by
    unfold Roster.knownGroups
    rw [ready.backend]
  have creatable : filled.repositories.creatable = call.repositories.creatable := by
    funext names
    unfold Repositories.creatable
    rw [ready.group]
  have alike : filled.reportLists.GroupBatch = call.GroupBatch := by
    funext name change
    unfold GroupBatch Roster.Places
    rw [reported, kept, ready.backend]
    simp only [ready.valid]
  rw [reported, kept, known, creatable, alike] at groupBatches
  obtain ⟨_, aside, _⟩ := receive_groups_work surroundings
    (RosterBackend.contacts call.roster.backend) filled.reportLists
  have moves : Moves surroundings filled.reportLists (filled.reportLists.receiveGroups surroundings
      (RosterBackend.contacts call.roster.backend)) :=
    Growths.moves (receive_groups_growths _ _)
  exact {
    told := ⟨lists, groups, by rw [groupsTold, listsTold], listBatches, groupBatches⟩
    backend := by rw [aside.backend, reported, ready.backend]
    queued := by rw [moves.frame.2.2, reported, ready.queued]
    steps := ready.steps.trans (kept ▸ moves.steps) }

theorem Grown.finished {grown : RosterCall β} (ready : call.Grown grown)
    (surroundings : Surroundings) : ∃ lists groups created,
      call.FirstBatch (grown.finishAll surroundings).roster.events.entries lists groups created := by
  obtain ⟨lists, groups, told, listBatches, groupBatches⟩ := ready.told
  have waited : ∀ entry ∈ grown.roster.queued, entry ∈ call.roster.queued := by
    rw [ready.queued]
    exact fun _ member => member
  obtain ⟨created, createdTold, awaited⟩ := @finish_each_told β _ surroundings call
    grown.roster.queued grown.forgetting waited ready.steps ready.backend
  refine ⟨lists, groups, created, {
    told := createdTold.trans (congrArg (· ++ _) told)
    listed := listBatches
    once := ?_
    denied := ?_
    ascending := call.roster.known_groups_ascending
    known := fun name => Roster.mem_known_groups
    grouped := groupBatches
    awaited }⟩
  · intro distinct change member other contact inside
    obtain ⟨list, _, batch⟩ := Roster.batch_of_mem listBatches member
    have same : call.roster.contactsOf list = RosterBackend.contacts call.roster.backend :=
      if_neg fun denied => other (by rw [batch.view, denied])
    exact batch.once (same ▸ distinct) (same ▸ inside)
  · intro change member denied
    obtain ⟨list, viewed, batch⟩ := Roster.batch_of_mem listBatches member
    have here : list = .deny := by
      rw [batch.view] at denied
      cases denied
      rfl
    subst here
    have blocking : call.roster.canBlock = true := (List.mem_filter.1 viewed).2
    have same : call.roster.contactsOf .deny = call.roster.blocked :=
      (if_pos rfl).trans (if_pos blocking)
    exact ⟨batch.denied, batch.denied ▸ same ▸ batch.tells.whole⟩

theorem list_received_told (surroundings : Surroundings) (unheard : call.roster.Unheard) :
    ∃ lists groups created, call.FirstBatch
      (call.listReceived surroundings).roster.events.entries lists groups created := by
  obtain ⟨views, arriving⟩ := arriving surroundings unheard.waiting
  rw [arriving.arrived unheard.waiting]
  exact ((arriving.filled unheard).grown surroundings).finished surroundings

end RosterCall

namespace Roster

variable {β : Type} [RosterBackend β] {roster : Roster β}

/-- Whatever is done to a new roster before it arrives, nothing is heard of it, no reference is taken,
and requests are put off or refused. It arrives in one batch, and it does so once. -/
theorem arrives_in_one_batch {backend : β}
    (early : Course RosterDeed.IsEarly { backend } roster) :
    (roster.events.entries = [] ∧ roster.channels = []) ∧
      ∀ (surroundings : Surroundings) (repositories : Repositories),
        let call : RosterCall β := { roster, repositories }
        let arrived := call.listReceived surroundings
        (∀ deed : RosterDeed β, deed.IsEarly →
            (call.enact surroundings deed).repositories = repositories ∧
              (call.enact surroundings deed).reports = []) ∧
          (∀ request token,
            call.request surroundings request token = (.queued, call.postponing request token) ∨
              ∃ refusal ∈ [RequestAnswer.notImplemented, .invalidHandle, .notAvailable],
                call.request surroundings request token = (refusal, call)) ∧
          (∃ lists groups created,
            call.FirstBatch arrived.roster.events.entries lists groups created) ∧
          ∀ later, Course (fun _ => True) arrived.roster later →
            ∀ (elsewhere : Surroundings) (others : Repositories),
              ({ roster := later, repositories := others } : RosterCall β).listReceived elsewhere
                = { roster := later, repositories := others } := by
  have unheard : roster.Unheard := by
    induction early with
    | refl => exact unheard_new backend
    | tail _ step induction =>
        cases step with
        | deed surroundings repositories deed fits =>
            exact (RosterCall.enact_early induction surroundings fits).1
  refine ⟨⟨unheard.silent, unheard.toUnopened.channels⟩, fun surroundings repositories => ?_⟩
  intro call arrived
  have waiting : call.roster.phase = .waiting := unheard.waiting
  refine ⟨fun deed fits => (RosterCall.enact_early unheard surroundings fits).2,
    RosterCall.request_waiting waiting surroundings,
    RosterCall.list_received_told surroundings unheard, ?_⟩
  intro later course elsewhere others
  have received : arrived.roster.phase = .received := RosterCall.list_received_phase waiting
  have arrivedOnce : later.phase ≠ .waiting := by
    refine course.lasting lasting_arrived ?_
    rw [received]
    decide
  exact if_pos arrivedOnce

open Rehearsal (StandInBackend)

/-- A new roster that has put off a request for a group. -/
def rehearsedWaiting : RosterCall StandInBackend :=
  ({ roster := { backend := Connection.smallLetters }
     repositories := Connection.rehearsedRoster.repositories } : RosterCall StandInBackend).enact
    Connection.rehearsedRoster.surroundings (.request Connection.groupRequest 7)

theorem arrives_in_one_batch_rehearsed :
    rehearsedWaiting.roster.queued = [(7, Connection.groupRequest)] ∧
      rehearsedWaiting.roster.events.entries = [] ∧
      ∃ lists groups created, rehearsedWaiting.FirstBatch
        (rehearsedWaiting.listReceived
          Connection.rehearsedRoster.surroundings).roster.events.entries lists groups created := by
  have early : Course RosterDeed.IsEarly { backend := Connection.smallLetters }
      rehearsedWaiting.roster := .single (.deed _ _ _ trivial)
  obtain ⟨⟨silent, _⟩, later⟩ := arrives_in_one_batch early
  obtain ⟨_, _, batch, _⟩ :=
    later Connection.rehearsedRoster.surroundings Connection.rehearsedRoster.repositories
  exact ⟨by decide +kernel, silent, batch⟩

/-- A roster of one contact, who could be blocked and is not. -/
def rehearsedNeighbour : RosterCall StandInBackend where
  roster := { backend := { Connection.smallLetters with contacts := [2], blocking := .write } }
  repositories := Connection.rehearsedRoster.repositories

/-- He is in no part of the change of the list of those who are denied. -/
theorem unblocked_contact_untold :
    RosterBackend.contacts rehearsedNeighbour.roster.backend = [2] ∧
      ∃ change, change.view = .list .deny ∧ change.contacts.count 2 = 0 ∧
        .membersChanged change ∈ (rehearsedNeighbour.listReceived
          Connection.rehearsedRoster.surroundings).roster.events.entries := by
  exact ⟨rfl, { view := .list .deny }, rfl, rfl, by decide +kernel⟩

end Roster

end ConnectionManager
