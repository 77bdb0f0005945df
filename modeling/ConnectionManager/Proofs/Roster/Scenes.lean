import ConnectionManager.Proofs.Roster.Alignment

/-!
A roster among other code that uses the same repositories. The roster is used as its connection
uses it; in between, other code takes references on contacts and gives them back, clients come and
go, and the repository may end. Orderly code gives back only what it took. Then the references that
the views of the roster keep are covered from one moment to the next.
-/

namespace ConnectionManager

/-- A roster with its repositories, and the references on contacts that other code has taken and
not given back. -/
structure RosterScene (β : Type) where
  roster : Roster β
  repositories : Repositories
  outside : Handle → Nat

namespace RosterScene

open RosterCall (GroupWork)

variable {β : Type}

def call (scene : RosterScene β) : RosterCall β :=
  { roster := scene.roster, repositories := scene.repositories }

def leaving (scene : RosterScene β) (call : RosterCall β) : RosterScene β :=
  { scene with roster := call.roster, repositories := call.repositories }

/-- A new roster, with a repository of contacts that counts the references of other code. -/
structure Fresh (scene : RosterScene β) : Prop where
  new : ∃ backend, scene.roster = { backend }
  covered : scene.repositories.contacts.Covers scene.outside

variable [RosterBackend β]

/-- What happens next, with the contacts that lists of the roster refuse meanwhile. What other code
does with repositories other than that of contacts is left open. -/
inductive Step (orderly : Prop) :
    List (ListName × Handle) → RosterScene β → RosterScene β → Prop
  | use (scene : RosterScene β) (surroundings : Surroundings) (use : RosterUse β) :
      Step orderly (scene.call.refusals surroundings use) scene
        (scene.leaving (scene.call.perform surroundings use))
  | request (scene : RosterScene β) (surroundings : Surroundings) (request : ChannelRequest)
      (token : Token) :
      Step orderly [] scene (scene.leaving (scene.call.request surroundings request token).2)
  | elsewhere (scene : RosterScene β) {outside : Handle → Nat} {contacts : Repository}
      (others : Catalog HandleKind Repository)
      (dealing : Repository.Dealing orderly scene.outside scene.repositories.contacts outside
        contacts) :
      Step orderly [] scene { scene with repositories := ⟨contacts, others⟩, outside }

/-- What happens from one moment to another, with all that lists of the roster refused. -/
inductive Run (orderly : Prop) :
    List (ListName × Handle) → RosterScene β → RosterScene β → Prop
  | refl (scene : RosterScene β) : Run orderly [] scene scene
  | next {refused more : List (ListName × Handle)} {before middle after : RosterScene β}
      (run : Run orderly refused before middle) (step : Step orderly more middle after) :
      Run orderly (refused ++ more) before after

variable {orderly : Prop} {scene start after : RosterScene β} {refused : List (ListName × Handle)}

/-- What a step amounts to: nothing but another backend or a request that is put off; or lists are
brought in line and then groups are worked on; or a request is answered, which is work on groups; or
other code did something. -/
inductive Course (orderly : Prop) (scene after : RosterScene β) :
    List (ListName × Handle) → Prop
  | idle (phase : after.roster.phase = scene.roster.phase)
      (lists : after.roster.lists = scene.roster.lists)
      (groups : after.roster.groups = scene.roster.groups)
      (events : after.roster.events = scene.roster.events)
      (repositories : after.repositories = scene.repositories)
      (outside : after.outside = scene.outside) : Course orderly scene after []
  | used (surroundings : Surroundings) (use : RosterUse β)
      (received : (scene.call.inLine surroundings use).roster.phase = .received)
      (work : GroupWork (scene.call.inLine surroundings use) after.call)
      (outside : after.outside = scene.outside) :
      Course orderly scene after (scene.call.refusals surroundings use)
  | answered (received : scene.roster.phase = .received) (work : GroupWork scene.call after.call)
      (outside : after.outside = scene.outside) : Course orderly scene after []
  | elsewhere (roster : after.roster = scene.roster)
      (dealing : Repository.Dealing orderly scene.outside scene.repositories.contacts after.outside
        after.repositories.contacts) : Course orderly scene after []

omit [RosterBackend β] in
theorem work_leaving {lined next : RosterCall β} (work : GroupWork lined next) :
    GroupWork lined (scene.leaving next).call := by
  obtain ⟨events, aside, account⟩ := work
  exact ⟨events, ⟨⟨⟨aside.contacts, aside.groups⟩, aside.phase, aside.backend, aside.told,
    aside.usable⟩, aside.lists,
    aside.silent⟩, account⟩

theorem Step.course (step : Step orderly refused scene after) :
    Course orderly scene after refused := by
  cases step with
  | use _ surroundings use =>
      rcases scene.call.perform_parts surroundings use with
        ⟨_, none, backend, same⟩ | ⟨received, work⟩
      · rw [none, same]
        exact .idle rfl rfl rfl rfl rfl rfl
      · exact .used surroundings use received (work_leaving work) rfl
  | request _ surroundings request token =>
      rcases scene.call.request_cases surroundings request token with
        ⟨same, _⟩ | ⟨same, received, _⟩ | ⟨refusal, same, _⟩
      · rw [same]
        exact .idle rfl rfl rfl rfl rfl rfl
      · rw [same]
        exact .answered received
          (work_leaving (RosterCall.answer_work surroundings scene.call request)) rfl
      · rw [same]
        exact .idle rfl rfl rfl rfl rfl rfl
  | elsewhere _ others dealing => exact .elsewhere rfl dealing

/-- What holds at every moment: before its arrival the roster has told nothing and opened nothing,
after it there are the two views that every backend has, and no contact is in two slots. -/
structure Steady (scene : RosterScene β) : Prop where
  apart : scene.roster.Apart
  unopened : scene.roster.phase = .waiting →
    scene.roster.Unopened ∧ scene.roster.events.entries = []
  viewed : scene.roster.phase = .received → ∀ list, list = .subscribe ∨ list = .publish →
    (scene.roster.lists.find? list).isSome = true

omit [RosterBackend β] in
theorem Fresh.steady (fresh : start.Fresh) : start.Steady := by
  obtain ⟨backend, same⟩ := fresh.new
  have roster : start.roster.phase = .waiting ∧ start.roster.lists = .empty ∧
      start.roster.groups = .empty ∧ start.roster.events.entries = [] := by
    rw [same]
    exact ⟨rfl, rfl, rfl, rfl⟩
  obtain ⟨waiting, lists, groups, quiet⟩ := roster
  have none : ∀ list, start.roster.lists.find? list = none := by
    intro list
    rw [lists]
    rfl
  exact {
    apart := fun list view found => by
      rw [none] at found
      cases found
    unopened := fun _ => ⟨⟨none, fun name => by rw [groups]; rfl⟩, quiet⟩
    viewed := fun received => by
      rw [waiting] at received
      cases received }

omit [RosterBackend β] in
theorem steady_of_received (received : scene.roster.phase = .received) (apart : scene.roster.Apart)
    (viewed : ∀ list, list = .subscribe ∨ list = .publish →
      (scene.roster.lists.find? list).isSome = true) : scene.Steady where
  apart := apart
  unopened waiting := by
    rw [received] at waiting
    cases waiting
  viewed _ := viewed

omit [RosterBackend β] in
theorem Steady.same (steady : scene.Steady) (phase : after.roster.phase = scene.roster.phase)
    (lists : after.roster.lists = scene.roster.lists)
    (groups : after.roster.groups = scene.roster.groups)
    (events : after.roster.events = scene.roster.events) : after.Steady := by
  obtain ⟨apart, unopened, viewed⟩ := steady
  refine ⟨?_, fun waiting => ?_, ?_⟩
  · unfold Roster.Apart
    rw [lists]
    exact apart
  · obtain ⟨bare, quiet⟩ := unopened (phase ▸ waiting)
    exact ⟨⟨lists ▸ bare.lists, groups ▸ bare.groups⟩, events ▸ quiet⟩
  · rw [phase, lists]
    exact viewed

theorem Steady.in_line_viewed (steady : scene.Steady) (surroundings : Surroundings)
    (use : RosterUse β) (received : (scene.call.inLine surroundings use).roster.phase = .received)
    {list : ListName} (either : list = .subscribe ∨ list = .publish) :
    ((scene.call.inLine surroundings use).roster.lists.find? list).isSome = true := by
  rw [RosterCall.inLine, RosterCall.align_each_view]
  rcases scene.call.opened_cases surroundings use with unchanged | ⟨rfl, waiting⟩
  · have stage : (scene.call.opened surroundings use).roster.phase = .received :=
      (RosterCall.align_each_lined use.isFirst (scene.call.named use) _).2.symm.trans received
    rw [unchanged] at stage ⊢
    exact steady.viewed stage list either
  · obtain ⟨lists, arriving⟩ := RosterCall.arriving surroundings waiting
    have has : scene.call.roster.hasView list = true := by
      rcases either with same | same <;> rw [same] <;> rfl
    obtain ⟨channel, view⟩ := (arriving.found list).1 has
    have viewed : (scene.call.receiving.withLists lists).roster.lists.find? list
        = some { channel } := view
    rw [arriving.opened, viewed]
    rfl

theorem Step.steady (step : Step orderly refused scene after) (steady : scene.Steady) :
    after.Steady := by
  cases step.course with
  | idle phase lists groups events => exact steady.same phase lists groups events
  | used surroundings use received work =>
      obtain ⟨events, aside, _⟩ := work
      have lists : after.roster.lists = (scene.call.inLine surroundings use).roster.lists :=
        aside.lists
      have apart := (scene.call.in_line_lined surroundings use).apart steady.apart
      refine steady_of_received (aside.phase.trans received) ?_ fun list either => ?_
      · unfold Roster.Apart
        rw [lists]
        exact apart
      · rw [lists]
        exact steady.in_line_viewed surroundings use received either
  | answered received work =>
      obtain ⟨events, aside, _⟩ := work
      have lists : after.roster.lists = scene.roster.lists := aside.lists
      refine steady_of_received (aside.phase.trans received) ?_ fun list either => ?_
      · unfold Roster.Apart
        rw [lists]
        exact steady.apart
      · rw [lists]
        exact steady.viewed received list either
  | elsewhere roster =>
      exact steady.same (by rw [roster]) (by rw [roster]) (by rw [roster]) (by rw [roster])

theorem Run.steady (run : Run orderly refused start after) (fresh : start.Fresh) : after.Steady := by
  induction run with
  | refl => exact fresh.steady
  | next run step induction => exact step.steady (induction fresh)

/-! The references that the views keep. -/

def Backed (scene : RosterScene β) : Prop := scene.call.Backed scene.outside

omit [RosterBackend β] in
theorem Fresh.backed (fresh : start.Fresh) : start.Backed := by
  obtain ⟨backend, same⟩ := fresh.new
  refine fresh.covered.fewer fun key => ?_
  have bare : start.roster.claims key = 0 := by
    rw [same]
    rfl
  change start.roster.claims key + start.outside key ≤ _
  omega

theorem Step.backed (step : Step orderly refused scene after) (sound : orderly)
    (backed : scene.Backed) : after.Backed := by
  cases step.course with
  | idle phase lists groups events repositories outside =>
      unfold Backed RosterCall.Backed Roster.claims call
      dsimp only
      rw [lists, groups, repositories, outside]
      exact backed
  | used surroundings use received work outside =>
      obtain ⟨events, aside, _⟩ := work
      have lined := (scene.call.in_line_lined surroundings use).backed scene.outside backed
      unfold Backed
      rw [outside]
      exact aside.backed scene.outside lined
  | answered received work outside =>
      obtain ⟨events, aside, _⟩ := work
      unfold Backed
      rw [outside]
      exact aside.backed scene.outside backed
  | elsewhere roster dealing =>
      unfold Backed RosterCall.Backed call
      dsimp only
      rw [roster]
      exact dealing.covers sound backed

theorem Run.backed (run : Run orderly refused start after) (sound : orderly)
    (fresh : start.Fresh) : after.Backed := by
  induction run with
  | refl => exact fresh.backed
  | next run step induction => exact step.backed sound (induction fresh)

theorem Step.usable (step : Step orderly refused scene after)
    (usable : after.repositories.contacts.isUsable = true) :
    scene.repositories.contacts.isUsable = true := by
  cases step.course with
  | idle _ _ _ _ repositories => exact repositories ▸ usable
  | used surroundings use _ work =>
      obtain ⟨events, aside, _⟩ := work
      have lined := (scene.call.in_line_lined surroundings use).usable
      exact (aside.usable.trans lined).symm.trans usable
  | answered _ work =>
      obtain ⟨events, aside, _⟩ := work
      exact aside.usable.symm.trans usable
  | elsewhere _ dealing => exact dealing.usable usable

/-! A roster of one contact, whose handle other code has interned. -/

section Rehearsed

open Rehearsal (StandInBackend)

def rehearsedOpening (backend : StandInBackend) : RosterScene StandInBackend :=
  { roster := { backend }, repositories := .standard, outside := fun _ => 0 }

theorem rehearsed_opening_fresh (backend : StandInBackend) : (rehearsedOpening backend).Fresh where
  new := ⟨backend, rfl⟩
  covered := .inr ⟨DynamicRepository.settled_new .contact _, fun _ => Nat.zero_le _⟩

def rehearsedContacts : Repository :=
  ((Repositories.standard.contacts.intern "alice").toOption.get (by decide)).2

theorem rehearsed_dealing (orderly : Prop) (backend : StandInBackend) :
    Repository.Dealing orderly (rehearsedOpening backend).outside
      (rehearsedOpening backend).repositories.contacts (single 1) rehearsedContacts := by
  have done : Repositories.standard.contacts.intern "alice" = .ok (1, rehearsedContacts) := rfl
  simpa [rehearsedOpening] using
    (Repository.Dealing.interned done : Repository.Dealing orderly (fun _ => 0) _ _ _)

def rehearsedMeeting (backend : StandInBackend) : RosterScene StandInBackend :=
  { rehearsedOpening backend with
    repositories := ⟨rehearsedContacts, Repositories.standard.others⟩, outside := single 1 }

def rehearsedSurroundings : Surroundings :=
  { connectionPath := .root, selfHandle := Handle.none, status := .connected }

def rehearsedArrival (backend : StandInBackend) : RosterScene StandInBackend :=
  (rehearsedMeeting backend).leaving
    ((rehearsedMeeting backend).call.perform rehearsedSurroundings .listReceived)

theorem rehearsed_arrival_run (orderly : Prop) (backend : StandInBackend) :
    Run orderly ([] ++ [] ++ (rehearsedMeeting backend).call.refusals rehearsedSurroundings
      .listReceived) (rehearsedOpening backend) (rehearsedArrival backend) :=
  have met := (Run.refl _).next
    (.elsewhere _ Repositories.standard.others (rehearsed_dealing orderly backend))
  met.next (.use (rehearsedMeeting backend) rehearsedSurroundings .listReceived)

end Rehearsed

end RosterScene

end ConnectionManager
