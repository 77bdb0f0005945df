import ConnectionManager.Proofs.Handle.Counts
import ConnectionManager.Proofs.Roster.Scenes

/-!
The references of a roster, to the last one. A roster is used as its connection uses it, until it is
told to close everything; in between, other code does what it likes with the same repositories, as
long as it gives back only references that it took. Then the references that a repository counts are
always those that the views keep and those of other code, and when everything is closed those of
other code are left.
-/

namespace ConnectionManager

namespace Repository

/-- The references that a repository counts are those kept here and those kept elsewhere, as long as
it has not ended. A list of names counts none. -/
def Exact (repository : Repository) (kept outside : Handle → Nat) : Prop :=
  ∀ table, repository.table = some table → table.invalid = false →
    ∀ key, table.share key .service = kept key + outside key

/-- A repository to which everything that was kept here has been given back: it goes on with the
references of other code and the holds of clients as they were, and a handle lives exactly if one of
those keeps it. -/
def Cleared (outside : Handle → Nat) (before after : Repository) : Prop :=
  ∀ old, before.table = some old → old.invalid = false → ∃ new, after.table = some new ∧
    new.invalid = false ∧ (∀ key, new.share key .service = outside key) ∧
      (∀ key client, new.share key (.client client) = old.share key (.client client)) ∧
        ∀ key, new.isValid key = true ↔
          0 < outside key ∨ ∃ client, 0 < old.share key (.client client)

variable {repository next : Repository} {kept outside : Handle → Nat}
  {held : Handle → String → Nat}

theorem Counts.exact_table {lax : Prop}
    (counts : repository.Counts lax held fun key => kept key + outside key) :
    repository.Exact kept outside := by
  intro table tabled usable key
  exact (((counts_table tabled).1 counts).exact usable).2 key .service

/-- Whatever keeps the account exact clears a repository when it gives up all that it claims. -/
theorem Counts.cleared (counts : repository.Counts True held fun key => kept key + outside key)
    (given : repository.Counts False held (fun key => kept key + outside key) →
      next.Counts False held outside) : repository.Cleared outside next := by
  intro old tabled usable
  have before := (counts_table tabled).1 counts
  obtain ⟨new, found, settled, shares⟩ := (given ((counts_table tabled).2 (before.strict usable))).table
  have holds : ∀ key client, old.share key (.client client) = held key client := fun key client =>
    (before.exact usable).2 key (.client client)
  refine ⟨new, found, settled.usable, fun key => shares key .service, fun key client => ?_,
    fun key => ?_⟩
  · rw [holds]
    exact shares key (.client client)
  · rw [settled.valid_iff]
    simp only [shares, holds]
    constructor
    · rintro ⟨keeper, positive⟩
      cases keeper with
      | service => exact .inl positive
      | client name => exact .inr ⟨name, positive⟩
    · rintro (positive | ⟨name, positive⟩)
      · exact ⟨.service, positive⟩
      · exact ⟨.client name, positive⟩

end Repository

namespace Repositories

theorem get_group_congr {left right : Repositories} (same : left.others = right.others) :
    left.get .group = right.get .group := by
  unfold get
  rw [if_neg (by decide), if_neg (by decide), same]

end Repositories

namespace Roster

variable {β : Type} {roster : Roster β}

theorem Unopened.claims (unopened : roster.Unopened) (key : Handle) : roster.claims key = 0 := by
  have lists : roster.lists.entries = [] :=
    List.isEmpty_iff.1 ((Catalog.is_empty_iff _).2 unopened.lists)
  have groups : roster.groups.entries = [] :=
    List.isEmpty_iff.1 ((Catalog.is_empty_iff _).2 unopened.groups)
  simp [Roster.claims, Catalog.values, lists, groups]

theorem Unopened.group_claims (unopened : roster.Unopened) (key : Handle) :
    roster.groupClaims key = 0 := by
  have groups : roster.groups.entries = [] :=
    List.isEmpty_iff.1 ((Catalog.is_empty_iff _).2 unopened.groups)
  simp [Roster.groupClaims, Catalog.values, groups]

end Roster

namespace RosterCall

variable {β : Type} {call next : RosterCall β}
  {keeps : Repository → (Handle → Nat) → Prop} {outside : Handle → Nat}

/-! Everything is closed. -/

def closeList (call : RosterCall β) (view : ListView) : RosterCall β :=
  (call.withContacts (view.clear call.repositories.contacts)).report (.channelClosed view.channel.path)

theorem clear_view_keeps (reckoning : Repository.Reckoning keeps) {view : ListView}
    {repository : Repository} {others : Handle → Nat}
    (kept : keeps repository fun key => others key + view.claims key) :
    keeps (view.clear repository) others := by
  have members : keeps repository fun key => others key + view.remotePending.claim key
      + view.localPending.claim key + view.members.claim key := by
    refine cast (congrArg (keeps repository) (funext fun key => ?_)) kept
    rw [ListView.claims]
    omega
  exact HandleSet.clear_keeps reckoning
    (HandleSet.clear_keeps reckoning (HandleSet.clear_keeps reckoning members))

theorem close_lists (views : List ListView) (call : RosterCall β) :
    (views.foldl closeList call).roster = call.roster ∧
      (views.foldl closeList call).repositories.others = call.repositories.others ∧
      ∀ {keeps : Repository → (Handle → Nat) → Prop} {others : Handle → Nat},
        Repository.Reckoning keeps →
        (keeps call.repositories.contacts fun key =>
          others key + (views.map fun view => view.claims key).sum) →
        keeps (views.foldl closeList call).repositories.contacts others := by
  induction views generalizing call with
  | nil => exact ⟨rfl, rfl, fun _ kept => by simpa using kept⟩
  | cons view rest induction =>
      obtain ⟨roster, repositories, given⟩ := induction (call.closeList view)
      refine ⟨roster, repositories, fun reckoning kept => given reckoning ?_⟩
      refine clear_view_keeps reckoning ?_
      refine cast (congrArg (_) (funext fun key => ?_)) kept
      rw [List.map_cons, List.sum_cons]
      omega

theorem drop_groups (names : List String) (call : RosterCall β) :
    Aside call [] (names.foldl (fun current name => (current.dropGroup name).2) call) ∧
      (names.foldl (fun current name => (current.dropGroup name).2) call).roster.groups
        = names.foldl Catalog.erase call.roster.groups := by
  induction names generalizing call with
  | nil => exact ⟨.refl call, rfl⟩
  | cons name rest induction =>
      obtain ⟨dropped, roster, _⟩ := call.drop_group_aside name
      obtain ⟨later, groups⟩ := induction (call.dropGroup name).2
      refine ⟨dropped.trans later, groups.trans ?_⟩
      rw [roster]
      rfl

/-- What is left when everything is closed: no views, and only the claims of others. -/
structure Closed (call next : RosterCall β) : Prop extends Conserving call next where
  phase : next.roster.phase = call.roster.phase
  unopened : next.roster.Unopened

theorem close_all_closed (call : RosterCall β) : call.Closed call.closeAll := by
  let forgotten : RosterCall β :=
    { call with roster := { call.roster with queued := [], lists := .empty } }
  let bare := call.roster.lists.values.foldl closeList forgotten
  obtain ⟨roster, others, listed⟩ := close_lists call.roster.lists.values forgotten
  obtain ⟨dropped, erased⟩ := drop_groups bare.roster.groups.keys bare
  have bareRoster : bare.roster = forgotten.roster := roster
  have closed : call.closeAll
      = bare.roster.groups.keys.foldl (fun current name => (current.dropGroup name).2) bare := rfl
  rw [← closed] at dropped erased
  refine {
    contacts := ?_
    groups := ?_
    phase := dropped.phase.trans (by rw [bareRoster])
    unopened := ⟨fun list => ?_, fun name => ?_⟩ }
  · intro keeps reckoning outside kept
    refine dropped.contacts reckoning outside ?_
    unfold KeepsContacts
    rw [bareRoster]
    refine listed reckoning ?_
    refine cast (congrArg (keeps _) (funext fun key => ?_)) kept
    simp only [Roster.claims, forgotten]
    change _ = 0 + _ + _ + _
    omega
  · intro keeps reckoning outside kept
    refine dropped.groups reckoning outside ?_
    have found : bare.repositories.get .group = call.repositories.get .group :=
      Repositories.get_group_congr others
    unfold KeepsGroups
    rw [bareRoster, found]
    exact kept
  · rw [dropped.lists, bareRoster]
    rfl
  · rw [erased, Catalog.find_erase_all]
    split
    · rfl
    · rename_i absent
      have missing := mt (Catalog.mem_keys bare.roster.groups name).2 absent
      simpa [Catalog.contains] using missing

/-! Every use of a roster. -/

section Uses

variable [RosterBackend β]

/-- New lists claim nothing, and where nothing was open they replace none. -/
theorem Arriving.conserving {surroundings : Surroundings} {lists : Catalog ListName ListView}
    (arriving : call.Arriving surroundings lists)
    (unopened : call.roster.Unopened) : Conserving call (call.receiving.withLists lists) where
  contacts := by
    intro keeps reckoning outside kept
    refine cast (congrArg (keeps call.repositories.contacts) (funext fun key => ?_)) kept
    have fewer := arriving.fewer key
    rw [unopened.claims] at fewer ⊢
    rw [Nat.le_zero.1 fewer]
  groups _ _ kept := kept

theorem align_each_conserving (initial : Bool) (named : List (ListName × List Handle))
    (call : RosterCall β) : Conserving call (alignEach initial call named) := by
  induction named generalizing call with
  | nil => exact .refl call
  | cons entry rest induction =>
      obtain ⟨events, part, _⟩ := update_list_part initial entry.2 call entry.1
      exact part.toConserving.trans (induction _)

/-- No use of a roster loses or makes up references. -/
theorem perform_conserving (surroundings : Surroundings) (call : RosterCall β) (use : RosterUse β)
    (unopened : call.roster.phase = .waiting → call.roster.Unopened) :
    Conserving call (call.perform surroundings use) := by
  have opened : Conserving call (call.opened surroundings use) := by
    rcases call.opened_cases surroundings use with unchanged | ⟨rfl, waiting⟩
    · rw [unchanged]
      exact .refl call
    · obtain ⟨lists, arriving⟩ := arriving surroundings waiting
      rw [arriving.opened]
      exact arriving.conserving (unopened waiting)
  rcases call.perform_parts surroundings use with ⟨_, _, backend, same⟩ | ⟨_, events, work, _⟩
  · rw [same]
    exact .still rfl rfl rfl
  · exact (opened.trans (align_each_conserving _ _ _)).trans work.toConserving

theorem request_conserving (surroundings : Surroundings) (call : RosterCall β)
    (request : ChannelRequest) (token : Token) :
    Conserving call (call.request surroundings request token).2 := by
  rcases call.request_cases surroundings request token with
    ⟨same, _⟩ | ⟨same, _⟩ | ⟨refusal, same, _⟩
  · rw [same]
    exact .still rfl rfl rfl
  · obtain ⟨events, aside, _⟩ := call.answer_work surroundings request
    rw [same]
    exact aside.toConserving
  · rw [same]
    exact .refl call

end Uses

end RosterCall

/-- A roster with its repositories, and the references that other code has taken and not given
back. -/
structure RosterBooks (β : Type) where
  roster : Roster β
  repositories : Repositories
  contacts : Handle → Nat
  groups : Handle → Nat

namespace RosterBooks

open Repository (Exact Cleared Dealing)

variable {β : Type}

def call (books : RosterBooks β) : RosterCall β :=
  { roster := books.roster, repositories := books.repositories }

def leaving (books : RosterBooks β) (roster : Roster β) (repositories : Repositories) :
    RosterBooks β :=
  { books with roster, repositories }

/-- A new roster, with repositories that count the references of other code and no others. -/
structure Fresh (books : RosterBooks β) : Prop where
  new : ∃ backend, books.roster = { backend }
  contacts : ∃ held, books.repositories.contacts.Counts True held books.contacts
  groups : ∃ held, ∀ repository, books.repositories.get .group = .ok repository →
    repository.Counts True held books.groups

variable [RosterBackend β]

/-- What happens next. The roster is used, asked for a channel, or told of the course of its
connection; other code uses the repository of contacts or that of groups in an orderly way, or
does what it likes with the others. -/
inductive Step : RosterBooks β → RosterBooks β → Prop
  | use (books : RosterBooks β) (surroundings : Surroundings) (use : RosterUse β) :
      Step books (books.leaving (books.call.perform surroundings use).roster
        (books.call.perform surroundings use).repositories)
  | request (books : RosterBooks β) (surroundings : Surroundings) (request : ChannelRequest)
      (token : Token) :
      Step books (books.leaving (books.call.request surroundings request token).2.roster
        (books.call.request surroundings request token).2.repositories)
  | hook (books : RosterBooks β) (moment : FactoryHook) :
      Step books (books.leaving (books.roster.hook moment books.repositories).factory
        (books.roster.hook moment books.repositories).repositories)
  | contacts (books : RosterBooks β) {left : Handle → Nat} {next : Repository}
      (dealing : Dealing True books.contacts books.repositories.contacts left next) :
      Step books { books with
        repositories := { books.repositories with contacts := next }, contacts := left }
  | groups (books : RosterBooks β) {left : Handle → Nat} {repository next : Repository}
      (found : books.repositories.get .group = .ok repository)
      (dealing : Dealing True books.groups repository left next) :
      Step books { books with
        repositories := books.repositories.set .group next, groups := left }
  | others (books : RosterBooks β) (repositories : Repositories)
      (contacts : repositories.contacts = books.repositories.contacts)
      (groups : repositories.get .group = books.repositories.get .group) :
      Step books { books with repositories }

abbrev Run : RosterBooks β → RosterBooks β → Prop := Relation.ReflTransGen Step

/-- What holds at every moment: the references that are counted are those of the views and those of
other code, and before its arrival the roster has no views. -/
structure Balanced (books : RosterBooks β) : Prop where
  unopened : books.roster.phase = .waiting → books.roster.Unopened
  contacts : ∃ held, books.call.KeepsContacts (Repository.Counts True held) books.contacts
  groups : ∃ held, books.call.KeepsGroups (Repository.Counts True held) books.groups

variable {books start after : RosterBooks β}

omit [RosterBackend β] in
theorem Fresh.balanced (fresh : books.Fresh) : books.Balanced := by
  obtain ⟨⟨backend, new⟩, ⟨held, contacts⟩, heldGroups, groups⟩ := fresh
  have unopened : books.roster.Unopened := by
    rw [new]
    exact ⟨fun _ => rfl, fun _ => rfl⟩
  refine ⟨fun _ => unopened, ⟨held, ?_⟩, heldGroups, fun repository found => ?_⟩
  · unfold RosterCall.KeepsContacts
    simp only [call, unopened.claims, Nat.zero_add]
    exact contacts
  · simp only [call, unopened.group_claims, Nat.zero_add]
    exact groups repository found

omit [RosterBackend β] in
theorem Balanced.conserved {next : RosterCall β} (balanced : books.Balanced)
    (conserving : books.call.Conserving next)
    (unopened : next.roster.phase = .waiting → next.roster.Unopened) :
    (books.leaving next.roster next.repositories).Balanced := by
  obtain ⟨_, ⟨held, contacts⟩, heldGroups, groups⟩ := balanced
  exact ⟨unopened, ⟨held, conserving.contacts (Repository.counts_reckoning True held) _ contacts⟩,
    heldGroups, conserving.groups (Repository.counts_reckoning True heldGroups) _ groups⟩

theorem use_unopened (surroundings : Surroundings) (call : RosterCall β) (use : RosterUse β)
    (unopened : call.roster.phase = .waiting → call.roster.Unopened)
    (waiting : (call.perform surroundings use).roster.phase = .waiting) :
    (call.perform surroundings use).roster.Unopened := by
  rcases call.perform_parts surroundings use with ⟨_, _, backend, same⟩ | ⟨received, events, work, _⟩
  · rw [same] at waiting ⊢
    obtain ⟨lists, groups⟩ := unopened waiting
    exact ⟨lists, groups⟩
  · rw [work.phase, received] at waiting
    cases waiting

theorem request_unopened (surroundings : Surroundings) (call : RosterCall β)
    (request : ChannelRequest) (token : Token)
    (unopened : call.roster.phase = .waiting → call.roster.Unopened)
    (waiting : (call.request surroundings request token).2.roster.phase = .waiting) :
    (call.request surroundings request token).2.roster.Unopened := by
  rcases call.request_cases surroundings request token with
    ⟨same, _⟩ | ⟨same, received, _⟩ | ⟨refusal, same, _⟩
  · rw [same] at waiting ⊢
    obtain ⟨lists, groups⟩ := unopened waiting
    exact ⟨lists, groups⟩
  · obtain ⟨events, aside, _⟩ := call.answer_work surroundings request
    rw [same, aside.phase, received] at waiting
    cases waiting
  · rw [same] at waiting ⊢
    exact unopened waiting

theorem Step.balanced (step : Step books after) (balanced : books.Balanced) : after.Balanced := by
  cases step with
  | use surroundings use =>
      exact balanced.conserved
        (RosterCall.perform_conserving surroundings books.call use balanced.unopened)
        (use_unopened surroundings books.call use balanced.unopened)
  | request surroundings request token =>
      exact balanced.conserved
        (RosterCall.request_conserving surroundings books.call request token)
        (request_unopened surroundings books.call request token balanced.unopened)
  | hook moment =>
      cases moment with
      | connecting => exact balanced
      | connected => exact balanced
      | disconnected =>
          obtain ⟨_, contacts, groups⟩ := balanced
          exact ⟨fun waiting => (by cases waiting), contacts, groups⟩
      | closeAll =>
          have closed := books.call.close_all_closed
          exact balanced.conserved closed.toConserving fun _ => closed.unopened
  | contacts dealing =>
      obtain ⟨unopened, ⟨held, contacts⟩, groups⟩ := balanced
      exact ⟨unopened, dealing.counts trivial contacts, groups⟩
  | groups found dealing =>
      obtain ⟨unopened, ⟨held, contacts⟩, heldGroups, groups⟩ := balanced
      obtain ⟨heldAfter, counts⟩ := dealing.counts trivial (groups _ found)
      refine ⟨unopened, ⟨held, ?_⟩, heldAfter, fun repository known => ?_⟩
      · unfold RosterCall.KeepsContacts call
        rw [Repositories.set_group_contacts]
        exact contacts
      · have same := (Repositories.get_set found).symm.trans known
        cases same
        exact counts
  | others repositories contacts groups =>
      obtain ⟨unopened, ⟨held, kept⟩, heldGroups, keptGroups⟩ := balanced
      refine ⟨unopened, ⟨held, ?_⟩, heldGroups, ?_⟩
      · unfold RosterCall.KeepsContacts call
        rw [contacts]
        exact kept
      · unfold RosterCall.KeepsGroups call
        rw [groups]
        exact keptGroups

theorem Run.balanced (run : Run start after) (fresh : start.Fresh) : after.Balanced := by
  induction run with
  | refl => exact fresh.balanced
  | tail _ step induction => exact step.balanced induction

omit [RosterBackend β] in
/-- When everything is closed there are no views, and both repositories have what is left without
the roster. -/
theorem Balanced.closed (balanced : books.Balanced) :
    books.call.closeAll.roster.Unopened ∧
      Cleared books.contacts books.repositories.contacts books.call.closeAll.repositories.contacts ∧
      ∀ repository, books.repositories.get .group = .ok repository →
        ∃ next, books.call.closeAll.repositories.get .group = .ok next ∧
          Cleared books.groups repository next := by
  obtain ⟨_, ⟨held, contacts⟩, heldGroups, groups⟩ := balanced
  have closed := books.call.close_all_closed
  refine ⟨closed.unopened, contacts.cleared fun strict => ?_, fun repository found => ?_⟩
  · have after := closed.contacts (Repository.counts_reckoning False held) books.contacts strict
    unfold RosterCall.KeepsContacts at after
    simpa only [closed.unopened.claims, Nat.zero_add] using after
  · have steps := RosterCall.close_all_steps books.call
    obtain ⟨next, known⟩ := steps.still found
    refine ⟨next, known, (groups repository found).cleared fun strict => ?_⟩
    have before : books.call.KeepsGroups (Repository.Counts False heldGroups) books.groups := by
      intro other again
      have same := found.symm.trans again
      cases same
      exact strict
    have after := closed.groups (Repository.counts_reckoning False heldGroups) books.groups before
      next known
    simpa only [closed.unopened.group_claims, Nat.zero_add] using after

/-- A roster neither leaks references nor gives too many back. At every moment the references that
repositories count are those that the views keep and those of other code: on a contact one for each
set that contains it, on a group one for each view with its handle. When everything is closed, those
of other code are left, and exactly the handles that nothing else keeps alive are free. -/
theorem references_balanced (run : Run start after) (fresh : start.Fresh) :
    Exact after.repositories.contacts after.roster.claims after.contacts ∧
      (∀ repository, after.repositories.get .group = .ok repository →
        Exact repository after.roster.groupClaims after.groups) ∧
      after.call.closeAll.roster.Unopened ∧
      Cleared after.contacts after.repositories.contacts
        after.call.closeAll.repositories.contacts ∧
      ∀ repository, after.repositories.get .group = .ok repository →
        ∃ next, after.call.closeAll.repositories.get .group = .ok next ∧
          Cleared after.groups repository next := by
  obtain ⟨_, ⟨_, contacts⟩, _, groups⟩ := run.balanced fresh
  exact ⟨contacts.exact_table, fun repository found => (groups repository found).exact_table,
    (run.balanced fresh).closed⟩

/-! Alice is on the lists of a roster and in a group that is renamed. -/

section Rehearsed

open Rehearsal (StandInBackend)
open RosterScene (rehearsedContacts rehearsedSurroundings rehearsed_dealing)

def rehearsedBackend : StandInBackend :=
  { contacts := [1], states := [(1, { subscribe := .yes, publish := .ask })] }

def rehearsedStart : RosterBooks StandInBackend :=
  { roster := { backend := rehearsedBackend }, repositories := .standard
    contacts := fun _ => 0, groups := fun _ => 0 }

/-- Alice's handle is interned by other code. -/
def rehearsedIntern : RosterBooks StandInBackend :=
  { rehearsedStart with
    repositories := { rehearsedStart.repositories with contacts := rehearsedContacts }
    contacts := single 1 }

def rehearsedUse (books : RosterBooks StandInBackend) (use : RosterUse StandInBackend) :
    RosterBooks StandInBackend :=
  books.leaving (books.call.perform rehearsedSurroundings use).roster
    (books.call.perform rehearsedSurroundings use).repositories

def rehearsedGroup : RosterBooks StandInBackend :=
  rehearsedUse (rehearsedUse rehearsedIntern .listReceived) (.groupsChanged [1] ["friends"] [])

def rehearsedRenaming : RosterBooks StandInBackend :=
  rehearsedUse (rehearsedUse (rehearsedUse rehearsedIntern .listReceived)
    (.groupsChanged [1] ["friends"] [])) (.groupRenamed "friends" "family")

theorem rehearsed_start_fresh : rehearsedStart.Fresh where
  new := ⟨rehearsedBackend, rfl⟩
  contacts := ⟨fun _ _ => 0, .inr ⟨DynamicRepository.settled_new .contact _, fun _ keeper => by
    cases keeper <;> rfl⟩⟩
  groups := ⟨fun _ _ => 0, fun repository found => by
    have same : Repositories.standard.get .group = .ok (.dynamic (.plain .group)) := by rfl
    cases same.symm.trans found
    exact .inr ⟨DynamicRepository.settled_new .group _, fun _ keeper => by cases keeper <;> rfl⟩⟩

theorem rehearsed_group_run : Run rehearsedStart rehearsedGroup := by
  have interned : Run rehearsedStart rehearsedIntern :=
    .single (.contacts rehearsedStart (rehearsed_dealing True rehearsedBackend))
  have arrived := interned.tail (.use rehearsedIntern rehearsedSurroundings .listReceived)
  exact arrived.tail (.use _ rehearsedSurroundings (.groupsChanged [1] ["friends"] []))

theorem rehearsed_renaming_run : Run rehearsedStart rehearsedRenaming :=
  rehearsed_group_run.tail (.use _ rehearsedSurroundings (.groupRenamed "friends" "family"))

theorem references_balanced_rehearsed :
    rehearsedStart.Fresh ∧ Run rehearsedStart rehearsedRenaming ∧
      rehearsedRenaming.roster.claims 1 = 4 ∧ rehearsedRenaming.roster.groupClaims 2 = 1 ∧
      Exact rehearsedRenaming.repositories.contacts rehearsedRenaming.roster.claims (single 1) ∧
      rehearsedRenaming.call.closeAll.roster.Unopened ∧
      Cleared (single 1) rehearsedRenaming.repositories.contacts
        rehearsedRenaming.call.closeAll.repositories.contacts := by
  have claimed : rehearsedRenaming.roster.claims 1 = 4 := by decide +kernel
  have grouped : rehearsedRenaming.roster.groupClaims 2 = 1 := by decide +kernel
  obtain ⟨contacts, _, closed, cleared, _⟩ :=
    references_balanced rehearsed_renaming_run rehearsed_start_fresh
  exact ⟨rehearsed_start_fresh, rehearsed_renaming_run, claimed, grouped, contacts, closed, cleared⟩

end Rehearsed

end RosterBooks

end ConnectionManager
