import ConnectionManager.Proofs.Roster.Scenes

/-!
How the lists of a roster track what its backend knows. The backend names the contacts that changed,
and the lists then show every contact where it belongs. A contact that goes from one list of
subscriptions to the other has to outlive the first one's reference: the list of stored contacts sees
to that, or else somebody who holds the handle.
-/

namespace ConnectionManager

namespace ContactStates

theorem subscribe_slot (states : ContactStates) :
    ((states.membership .subscribe).slot = some .members ↔ states.subscribe = .yes) ∧
      ((states.membership .subscribe).slot = some .remotePending ↔ states.subscribe = .ask) := by
  unfold membership
  cases states.subscribe <;> simp [Membership.slot]

theorem publish_slot (states : ContactStates) :
    ((states.membership .publish).slot = some .members ↔ states.publish = .yes) ∧
      ((states.membership .publish).slot = some .localPending ↔ states.publish = .ask) := by
  unfold membership
  cases states.publish <;> simp [Membership.slot]

theorem stored_slot (states : ContactStates) :
    (states.membership .stored).slot = some .members := rfl

end ContactStates

namespace Roster

variable {β : Type} {roster : Roster β}

/-- Where a contact belongs in a list, by what is known of contacts. -/
def slotKnown (known : Handle → Option ContactStates) (list : ListName) (contact : Handle) :
    Option Slot :=
  (known contact).bind fun states => (states.membership list).slot

/-- The lists other than that of blocked contacts show every contact where it belongs. -/
def ShowsKnown (roster : Roster β) (known : Handle → Option ContactStates) : Prop :=
  ∀ list, list ≠ .deny → (roster.lists.find? list).isSome = true →
    ∀ contact, roster.standing list contact = slotKnown known list contact

/-- The list of blocked contacts, if there is one, shows exactly those that are barred. -/
def ShowsBarred (roster : Roster β) (barred : List Handle) : Prop :=
  (roster.lists.find? .deny).isSome = true →
    ∀ contact, roster.standing .deny contact = if contact ∈ barred then some .members else none

theorem ShowsKnown.unknown {known : Handle → Option ContactStates} (shows : roster.ShowsKnown known)
    {list : ListName} (other : list ≠ .deny) {contact : Handle} (unknown : known contact = none) :
    roster.standing list contact = none := by
  cases found : roster.lists.find? list with
  | none =>
      rw [standing, found]
      rfl
  | some view =>
      rw [shows list other (by rw [found]; rfl) contact, slotKnown, unknown]
      rfl

variable [RosterBackend β]

theorem membership_slot (roster : Roster β) {list : ListName} (other : list ≠ .deny)
    (contact : Handle) : (roster.membership list contact).slot
      = slotKnown (RosterBackend.states roster.backend) list contact := by
  unfold membership slotKnown
  rw [if_neg other]
  cases RosterBackend.states roster.backend contact <;> rfl

theorem membership_deny (roster : Roster β) (contact : Handle) :
    (roster.membership .deny contact).slot
      = if contact ∈ roster.blocked then some .members else none := by
  unfold membership
  rw [if_pos rfl, List.contains_eq_mem]
  by_cases member : contact ∈ roster.blocked
  · simp [member, Membership.slot]
  · simp [member, Membership.slot]

end Roster

namespace RosterCall

open Roster (slotKnown)

variable {β : Type} [RosterBackend β] {call : RosterCall β} {list : ListName}
  {contacts : List Handle} {known : Handle → Option ContactStates}

theorem update_list_shows {now : Handle → Option ContactStates} (apart : call.roster.Apart)
    (initial : Bool) (other : list ≠ .deny)
    (viewed : (call.roster.lists.find? list).isSome = true)
    (backend : RosterBackend.states call.roster.backend = now)
    (shows : ∀ contact, call.roster.standing list contact = slotKnown known list contact)
    (complete : ∀ contact, now contact ≠ known contact → contact ∈ contacts)
    (accepted : ∀ contact ∈ contacts, call.refuses list contact = false) (contact : Handle) :
    (updateList initial contacts call list).roster.standing list contact
      = slotKnown now list contact := by
  rw [update_list_standing apart viewed]
  split
  · rw [call.roster.membership_slot other, backend]
  · rename_i unnamed
    have outside : contact ∉ contacts := fun named => unnamed ⟨named, accepted contact named⟩
    have same : now contact = known contact := by
      by_contra changed
      exact outside (complete contact changed)
    rw [shows, slotKnown, slotKnown, same]

/-- Whoever is to be taken into the list of publications is still alive when the list of
subscriptions is in line. -/
def Spared (initial : Bool) (contacts : List Handle) (call : RosterCall β) : Prop :=
  ∀ contact ∈ contacts, (call.roster.membership .publish contact).slot ≠ none →
    (updateList initial contacts call .subscribe).repositories.contacts.isValid contact = true

theorem accepted_of_alive (other : list ≠ .deny) {contact : Handle}
    (alive : RosterBackend.states call.roster.backend contact ≠ none →
      call.repositories.contacts.isValid contact = true) : call.refuses list contact = false := by
  apply (refuses_eq_false ..).2
  by_cases unknown : RosterBackend.states call.roster.backend contact = none
  · have nowhere : (call.roster.membership list contact).slot = none := by
      rw [call.roster.membership_slot other, slotKnown, unknown]
      rfl
    exact .inr (.inl nowhere)
  · exact .inr (.inr (.inr (alive unknown)))

section Known

variable (apart : call.roster.Apart) (initial : Bool) (shows : call.roster.ShowsKnown known)
  (alive : ∀ contact ∈ contacts, RosterBackend.states call.roster.backend contact ≠ none →
    call.repositories.contacts.isValid contact = true)

include apart shows alive

/-- The list of stored contacts refuses nobody: who was known is there, and who was not only came in
so far. -/
theorem stored_accepts {contact : Handle} (named : contact ∈ contacts) :
    (alignEach initial call [(.subscribe, contacts), (.publish, contacts)]).refuses .stored contact
      = false := by
  let second := alignEach initial call [(.subscribe, contacts), (.publish, contacts)]
  obtain ⟨lined, _⟩ := align_each_lined initial [(.subscribe, contacts), (.publish, contacts)] call
  -- Who was not known stands in no list, so no list can give a reference of his back before; who was
  -- known is in this list already.
  cases before : known contact with
  | none =>
      apply accepted_of_alive (by decide)
      rw [lined.backend]
      intro now
      refine (align_each_valid apart initial _ (by simp) ?_).trans (alive contact named now)
      intro entry member
      have other : entry.1 ≠ .deny := by
        rcases List.mem_pair.1 member with rfl | rfl <;> simp
      exact shows.unknown other before
  | some states =>
      apply (refuses_eq_false ..).2
      cases viewed : (second.roster.lists.find? .stored).isSome with
      | false => exact .inl rfl
      | true =>
          have storedView : (call.roster.lists.find? .stored).isSome = true := by
            rw [← viewed]
            exact (align_each_view initial _ call .stored).symm
          have stands : second.roster.standing .stored contact = some .members := by
            change (updateList initial contacts (updateList initial contacts call .subscribe)
              .publish).roster.standing .stored contact = _
            rw [standing_other (by decide), standing_other (by decide),
              shows .stored (by decide) storedView, slotKnown, before]
            rfl
          by_cases now : RosterBackend.states call.roster.backend contact = none
          · refine .inr (.inl ?_)
            rw [Roster.membership_slot _ (by decide), lined.backend, slotKnown, now]
            rfl
          · obtain ⟨current, known⟩ := Option.ne_none_iff_exists'.1 now
            refine .inr (.inr (.inl ?_))
            rw [Roster.membership_slot _ (by decide), lined.backend, slotKnown, known]
            exact stands

/-- The lists show what the backend knows, after they were brought in line for all contacts that
changed. -/
theorem align_known_shows
    (complete : ∀ contact, RosterBackend.states call.roster.backend contact ≠ known contact →
      contact ∈ contacts)
    (spared : call.Spared initial contacts) :
    (alignKnown initial contacts call).roster.ShowsKnown
      (RosterBackend.states call.roster.backend) := by
  let first := updateList initial contacts call .subscribe
  let second := updateList initial contacts first .publish
  obtain ⟨_, firstPart, _⟩ := update_list_part initial contacts call .subscribe
  obtain ⟨_, secondPart, _⟩ := update_list_part initial contacts first .publish
  have firstApart : first.roster.Apart := update_list_apart apart initial contacts .subscribe
  have secondApart : second.roster.Apart := update_list_apart firstApart initial contacts .publish
  have firstStates : RosterBackend.states first.roster.backend
      = RosterBackend.states call.roster.backend := by rw [firstPart.backend]
  have secondStates : RosterBackend.states second.roster.backend
      = RosterBackend.states call.roster.backend := by rw [secondPart.backend, firstStates]
  intro list other viewed contact
  have present : (call.roster.lists.find? list).isSome = true := by
    rw [← viewed]
    exact (align_each_view initial _ call list).symm
  have last : alignKnown initial contacts call = updateList initial contacts second .stored := rfl
  rw [last]
  cases list with
  | subscribe =>
      rw [standing_other (by decide), standing_other (by decide)]
      exact update_list_shows apart initial other present rfl (shows .subscribe other present)
        complete (fun contact named => accepted_of_alive other (alive contact named)) contact
  | publish =>
      rw [standing_other (by decide)]
      refine update_list_shows firstApart initial other (by rw [update_list_view]; exact present)
        firstStates (fun contact => ?_) complete (fun contact named => ?_) contact
      · rw [standing_other (by decide)]
        exact shows .publish other present contact
      · apply (refuses_eq_false ..).2
        rw [Roster.membership_congr firstPart.backend]
        -- The list of subscriptions may just have given back the last reference.
        by_cases unpublished : (call.roster.membership .publish contact).slot = none
        · exact .inr (.inl unpublished)
        · exact .inr (.inr (.inr (spared contact named unpublished)))
  | stored =>
      refine update_list_shows secondApart initial other
        (by rw [update_list_view, update_list_view]; exact present) secondStates (fun contact => ?_)
        complete (fun contact named => stored_accepts apart initial shows alive named) contact
      rw [standing_other (by decide), standing_other (by decide)]
      exact shows .stored other present contact
  | deny => exact absurd rfl other

omit alive in
theorem spared_of_unknown {contact : Handle} (unknown : known contact = none)
    (valid : call.repositories.contacts.isValid contact = true) :
    (updateList initial contacts call .subscribe).repositories.contacts.isValid contact = true :=
  (update_list_valid apart initial contacts (.inl (shows.unknown (by decide) unknown))).trans valid

theorem spared_of_stored {outside : Handle → Nat} (backed : call.Backed outside)
    (viewed : (call.roster.lists.find? .stored).isSome = true) :
    call.Spared initial contacts := by
  intro contact named published
  have now : RosterBackend.states call.roster.backend contact ≠ none := by
    intro unknown
    rw [call.roster.membership_slot (by decide), slotKnown, unknown] at published
    exact published rfl
  have valid := alive contact named now
  cases before : known contact with
  | none => exact spared_of_unknown apart initial shows before valid
  | some states =>
      obtain ⟨events, part, _⟩ := update_list_part initial contacts call .subscribe
      have stands : (updateList initial contacts call .subscribe).roster.standing .stored contact
          = some .members := by
        rw [standing_other (by decide), shows .stored (by decide) viewed, slotKnown, before]
        rfl
      exact (part.backed outside backed).valid (part.usable.trans (Repository.usable_of_valid valid))
        (update_list_apart apart initial contacts .subscribe) stands

end Known

/-- The list of blocked contacts shows those that the backend blocks, after it was brought in line
for all contacts whose blocking changed. -/
theorem update_deny_shows (apart : call.roster.Apart) (initial : Bool) {barred : List Handle}
    (shows : call.roster.ShowsBarred barred)
    (complete : ∀ contact, ¬(contact ∈ call.roster.blocked ↔ contact ∈ barred) → contact ∈ contacts)
    (alive : ∀ contact ∈ contacts, contact ∈ call.roster.blocked →
      call.repositories.contacts.isValid contact = true) :
    (updateList initial contacts call .deny).roster.ShowsBarred call.roster.blocked := by
  intro viewed contact
  rw [update_list_view] at viewed
  have accepted : contact ∈ contacts → call.refuses .deny contact = false := by
    intro named
    apply (refuses_eq_false ..).2
    rw [call.roster.membership_deny]
    by_cases blocked : contact ∈ call.roster.blocked
    · exact .inr (.inr (.inr (alive contact named blocked)))
    · exact .inr (.inl (if_neg blocked))
  rw [update_list_standing apart viewed, call.roster.membership_deny]
  split
  · rfl
  · rename_i unnamed
    have same : contact ∈ call.roster.blocked ↔ contact ∈ barred := by
      by_contra changed
      have named := complete contact changed
      exact unnamed ⟨named, accepted named⟩
    rw [shows viewed contact, if_congr same rfl rfl]

theorem update_deny_known (initial : Bool) (contacts : List Handle)
    (shows : call.roster.ShowsKnown known) :
    (updateList initial contacts call .deny).roster.ShowsKnown known := by
  intro list other viewed contact
  rw [update_list_other other] at viewed
  rw [standing_other other]
  exact shows list other viewed contact

theorem align_known_barred (initial : Bool) (contacts : List Handle) {barred : List Handle}
    (shows : call.roster.ShowsBarred barred) :
    (alignKnown initial contacts call).roster.ShowsBarred barred := by
  intro viewed contact
  rw [alignKnown, align_each_view] at viewed
  change (updateList initial contacts (updateList initial contacts (updateList initial contacts call
    .subscribe) .publish) .stored).roster.standing .deny contact = _
  rw [standing_other (by decide), standing_other (by decide), standing_other (by decide)]
  exact shows viewed contact

section Arrival

variable {surroundings : Surroundings} {lists : Catalog ListName ListView}
  (arriving : call.Arriving surroundings lists) (unopened : call.roster.Unopened)
  (apart : call.roster.Apart)

include arriving unopened apart

theorem arriving_known
    (complete : ∀ contact, RosterBackend.states call.roster.backend contact ≠ none →
      contact ∈ RosterBackend.contacts call.roster.backend)
    (alive : ∀ contact, RosterBackend.states call.roster.backend contact ≠ none →
      call.repositories.contacts.isValid contact = true) :
    (alignKnown true (RosterBackend.contacts call.roster.backend)
      (call.receiving.withLists lists)).roster.ShowsKnown
        (RosterBackend.states call.roster.backend) := by
  let opened := call.receiving.withLists lists
  let named := RosterBackend.contacts call.roster.backend
  have lined := opened_lined surroundings call .listReceived
  rw [arriving.opened] at lined
  have openedApart : opened.roster.Apart := lined.apart apart
  have bare : opened.roster.ShowsKnown fun _ => none :=
    fun list _ _ contact => arriving.nowhere unopened list contact
  have aliveNamed : ∀ contact ∈ named, RosterBackend.states opened.roster.backend contact ≠ none →
      opened.repositories.contacts.isValid contact = true := fun contact _ now => alive contact now
  have spared : opened.Spared true named := by
    intro contact _ published
    have now : RosterBackend.states opened.roster.backend contact ≠ none := by
      intro unknown
      rw [opened.roster.membership_slot (by decide), slotKnown, unknown] at published
      exact published rfl
    exact spared_of_unknown openedApart true bare rfl (alive contact now)
  exact align_known_shows openedApart true bare aliveNamed complete spared

theorem arriving_barred (named : List Handle)
    (alive : call.roster.canBlock = true → ∀ contact ∈ call.roster.blocked,
      call.repositories.contacts.isValid contact = true) :
    (updateList true (if call.roster.canBlock then call.roster.blocked else [])
      (alignKnown true named (call.receiving.withLists lists)) .deny).roster.ShowsBarred
        call.roster.blocked := by
  let opened := call.receiving.withLists lists
  let filled := alignKnown true named opened
  have lined := opened_lined surroundings call .listReceived
  rw [arriving.opened] at lined
  have openedApart : opened.roster.Apart := lined.apart apart
  have filling : Lined opened filled := (align_each_lined true _ opened).1
  cases has : call.roster.canBlock with
  | true =>
      have backend : filled.roster.backend = call.roster.backend := filling.backend
      have blocked : filled.roster.blocked = call.roster.blocked := by
        unfold Roster.blocked
        rw [backend]
      have nobody : filled.roster.ShowsBarred [] :=
        align_known_barred true named fun _ contact => arriving.nowhere unopened .deny contact
      have valid : ∀ contact ∈ call.roster.blocked,
          filled.repositories.contacts.isValid contact = true := fun contact member =>
        (align_each_valid openedApart true _ (by simp)
          fun entry _ => arriving.nowhere unopened entry.1 contact).trans (alive has contact member)
      rw [if_pos rfl]
      have lastly : (updateList true call.roster.blocked filled .deny).roster.ShowsBarred
          filled.roster.blocked :=
        update_deny_shows (filling.apart openedApart) true nobody (by rw [blocked]; simp)
          fun contact member _ => valid contact member
      rw [blocked] at lastly
      exact lastly
  | false =>
      intro viewed
      have closed : call.roster.hasView .deny = false := has
      have missing : opened.roster.lists.find? .deny = none :=
        ((arriving.found .deny).2 closed).trans (unopened.lists .deny)
      rw [update_list_view, alignKnown, align_each_view, missing] at viewed
      cases viewed

end Arrival

end RosterCall

namespace RosterScene

variable {β : Type} [RosterBackend β] {orderly : Prop} {scene start after : RosterScene β}
  {known : Handle → Option ContactStates} {barred : List Handle}

/-- A run in which the backend does its part, with the states of contacts and the blocked contacts
of which it last spoke. At the arrival it lists every contact that has states. Later it names every
contact whose states or whose blocking changed since. Whoever it gives a place to is alive then; and
whoever goes to the list of publications is kept alive meanwhile, by the list of stored contacts if
other code is orderly, or else by somebody. -/
inductive Tracked (orderly : Prop) (start : RosterScene β) :
    (Handle → Option ContactStates) → List Handle → RosterScene β → Prop
  | fresh : Tracked orderly start (fun _ => none) [] start
  | arrived {known : Handle → Option ContactStates} {barred : List Handle} {scene : RosterScene β}
      (before : Tracked orderly start known barred scene) (surroundings : Surroundings)
      (waiting : scene.roster.phase = .waiting)
      (coherent : ∀ contact, contact ∈ RosterBackend.contacts scene.roster.backend ↔
        RosterBackend.states scene.roster.backend contact ≠ none)
      (alive : ∀ contact ∈ RosterBackend.contacts scene.roster.backend,
        scene.repositories.contacts.isValid contact = true)
      (blockedAlive : scene.roster.canBlock = true → ∀ contact ∈ scene.roster.blocked,
        scene.repositories.contacts.isValid contact = true) :
      Tracked orderly start (RosterBackend.states scene.roster.backend) scene.roster.blocked
        (scene.leaving (scene.call.perform surroundings .listReceived))
  | changed {known : Handle → Option ContactStates} {barred : List Handle} {scene : RosterScene β}
      (before : Tracked orderly start known barred scene) (surroundings : Surroundings)
      (changed removed : List Handle) (received : scene.roster.phase = .received)
      (complete : ∀ contact, RosterBackend.states scene.roster.backend contact ≠ known contact →
        contact ∈ changed ++ removed)
      (alive : ∀ contact ∈ changed ++ removed,
        RosterBackend.states scene.roster.backend contact ≠ none →
          scene.repositories.contacts.isValid contact = true)
      (kept : (orderly ∧ (scene.roster.lists.find? .stored).isSome = true) ∨
        scene.call.Spared false (changed ++ removed)) :
      Tracked orderly start (RosterBackend.states scene.roster.backend) barred
        (scene.leaving (scene.call.perform surroundings (.contactsChanged changed removed)))
  | blocked {known : Handle → Option ContactStates} {barred : List Handle} {scene : RosterScene β}
      (before : Tracked orderly start known barred scene) (surroundings : Surroundings)
      (changed : List Handle) (received : scene.roster.phase = .received)
      (complete : ∀ contact, ¬(contact ∈ scene.roster.blocked ↔ contact ∈ barred) →
        contact ∈ changed)
      (alive : ∀ contact ∈ changed, contact ∈ scene.roster.blocked →
        scene.repositories.contacts.isValid contact = true) :
      Tracked orderly start known scene.roster.blocked
        (scene.leaving (scene.call.perform surroundings (.blockingChanged changed)))
  /-- A use that concerns no list. -/
  | aside {known : Handle → Option ContactStates} {barred : List Handle} {scene : RosterScene β}
      (before : Tracked orderly start known barred scene) (surroundings : Surroundings)
      (use : RosterUse β) (unnamed : scene.call.named use = []) :
      Tracked orderly start known barred (scene.leaving (scene.call.perform surroundings use))
  | request {known : Handle → Option ContactStates} {barred : List Handle} {scene : RosterScene β}
      (before : Tracked orderly start known barred scene) (surroundings : Surroundings)
      (request : ChannelRequest) (token : Token) :
      Tracked orderly start known barred
        (scene.leaving (scene.call.request surroundings request token).2)
  | elsewhere {known : Handle → Option ContactStates} {barred : List Handle}
      {scene : RosterScene β} (before : Tracked orderly start known barred scene)
      {outside : Handle → Nat} {contacts : Repository} (others : Catalog HandleKind Repository)
      (dealing : Repository.Dealing orderly scene.outside scene.repositories.contacts outside
        contacts) :
      Tracked orderly start known barred
        { scene with repositories := ⟨contacts, others⟩, outside }

theorem Tracked.run (tracked : Tracked orderly start known barred scene) :
    ∃ refused, Run orderly refused start scene := by
  induction tracked with
  | fresh => exact ⟨[], .refl start⟩
  | arrived _ surroundings _ _ _ _ induction =>
      obtain ⟨refused, run⟩ := induction
      exact ⟨_, run.next (.use _ surroundings .listReceived)⟩
  | changed _ surroundings changed removed _ _ _ _ induction =>
      obtain ⟨refused, run⟩ := induction
      exact ⟨_, run.next (.use _ surroundings (.contactsChanged changed removed))⟩
  | blocked _ surroundings changed _ _ _ induction =>
      obtain ⟨refused, run⟩ := induction
      exact ⟨_, run.next (.use _ surroundings (.blockingChanged changed))⟩
  | aside _ surroundings use _ induction =>
      obtain ⟨refused, run⟩ := induction
      exact ⟨_, run.next (.use _ surroundings use)⟩
  | request _ surroundings request token induction =>
      obtain ⟨refused, run⟩ := induction
      exact ⟨_, run.next (.request _ surroundings request token)⟩
  | elsewhere _ others dealing induction =>
      obtain ⟨refused, run⟩ := induction
      exact ⟨_, run.next (.elsewhere _ others dealing)⟩

/-- Once it has arrived, a roster shows what its backend last spoke of. -/
def Showing (known : Handle → Option ContactStates) (barred : List Handle)
    (scene : RosterScene β) : Prop :=
  scene.roster.phase = .received → scene.roster.ShowsKnown known ∧ scene.roster.ShowsBarred barred

omit [RosterBackend β] in
theorem shows_congr {roster next : Roster β} (lists : next.lists = roster.lists)
    (shown : roster.ShowsKnown known ∧ roster.ShowsBarred barred) :
    next.ShowsKnown known ∧ next.ShowsBarred barred := by
  unfold Roster.ShowsKnown Roster.ShowsBarred Roster.standing at shown ⊢
  rw [lists]
  exact shown

omit [RosterBackend β] in
theorem Showing.same (showing : scene.Showing known barred)
    (phase : after.roster.phase = scene.roster.phase)
    (lists : after.roster.lists = scene.roster.lists) : after.Showing known barred :=
  fun received => shows_congr lists (showing (phase.symm.trans received))

theorem Showing.aside (showing : scene.Showing known barred) (surroundings : Surroundings)
    (use : RosterUse β) (unnamed : scene.call.named use = []) :
    (scene.leaving (scene.call.perform surroundings use)).Showing known barred := by
  have opened : scene.call.opened surroundings use = scene.call := by
    rcases scene.call.opened_cases surroundings use with unchanged | ⟨rfl, waiting⟩
    · exact unchanged
    · rw [RosterCall.named_arrival waiting] at unnamed
      cases unnamed
  have line : scene.call.inLine surroundings use = scene.call := by
    rw [RosterCall.inLine, unnamed, opened]
    rfl
  have lists := scene.call.perform_lists surroundings use
  rw [line] at lists
  refine showing.same ?_ lists
  rcases scene.call.perform_parts surroundings use with
    ⟨_, _, backend, same⟩ | ⟨_, events, work, _⟩
  · rw [same]
    rfl
  · exact work.phase.trans (congrArg (fun call => call.roster.phase) line)

theorem Showing.request (showing : scene.Showing known barred) (surroundings : Surroundings)
    (request : ChannelRequest) (token : Token) :
    (scene.leaving (scene.call.request surroundings request token).2).Showing known barred := by
  rcases scene.call.request_cases surroundings request token with
    ⟨same, _⟩ | ⟨same, _⟩ | ⟨refusal, same, _⟩
  · rw [same]
    exact showing.same rfl rfl
  · obtain ⟨events, aside, _⟩ := RosterCall.answer_work surroundings scene.call request
    rw [same]
    exact showing.same aside.phase aside.lists
  · rw [same]
    exact showing

/-- After each notification, a roster that is there shows what its backend spoke of. -/
theorem Tracked.showing (tracked : Tracked orderly start known barred scene)
    (fresh : start.Fresh) : scene.Showing known barred := by
  induction tracked with
  | fresh =>
      intro received
      obtain ⟨backend, same⟩ := fresh.new
      rw [same] at received
      cases received
  | @arrived _ _ scene before surroundings waiting coherent alive blockedAlive _ =>
      intro _
      obtain ⟨refused, run⟩ := before.run
      have steady := run.steady fresh
      have unopened := (steady.unopened waiting).1
      have stage : scene.call.roster.phase = .waiting := waiting
      obtain ⟨lists, arriving, line⟩ := RosterCall.in_line_arrival surroundings stage
      have shown := RosterCall.arriving_known arriving unopened steady.apart
        (fun contact => (coherent contact).2)
        (fun contact now => alive contact ((coherent contact).2 now))
      have performed := scene.call.perform_lists surroundings .listReceived
      rw [line] at performed
      exact shows_congr performed ⟨RosterCall.update_deny_known true _ shown,
        RosterCall.arriving_barred arriving unopened steady.apart _ blockedAlive⟩
  | @changed known barred scene before surroundings changed removed received complete alive kept
      induction =>
      intro _
      obtain ⟨refused, run⟩ := before.run
      have steady := run.steady fresh
      obtain ⟨shown, shownBarred⟩ := induction received
      have spared : scene.call.Spared false (changed ++ removed) := by
        rcases kept with ⟨sound, viewed⟩ | spared
        · exact RosterCall.spared_of_stored steady.apart false shown alive
            (run.backed sound fresh) viewed
        · exact spared
      have performed := scene.call.perform_lists surroundings (.contactsChanged changed removed)
      rw [RosterCall.in_line_changed surroundings changed removed received] at performed
      exact shows_congr performed
        ⟨RosterCall.align_known_shows steady.apart false shown alive complete spared,
          RosterCall.align_known_barred false _ shownBarred⟩
  | @blocked known barred scene before surroundings changed received complete alive induction =>
      intro _
      obtain ⟨refused, run⟩ := before.run
      obtain ⟨shown, shownBarred⟩ := induction received
      have performed := scene.call.perform_lists surroundings (.blockingChanged changed)
      rw [RosterCall.in_line_blocking surroundings changed received] at performed
      exact shows_congr performed ⟨RosterCall.update_deny_known false changed shown,
        RosterCall.update_deny_shows (run.steady fresh).apart false shownBarred complete alive⟩
  | aside _ surroundings use unnamed induction => exact induction.aside surroundings use unnamed
  | request _ surroundings request token induction =>
      exact induction.request surroundings request token
  | elsewhere _ others dealing induction => exact induction.same rfl rfl

/-- In a run in which the backend names every contact that changed and gives places only to contacts
that are alive, and in which whoever goes from the subscriptions to the publications is kept alive
meanwhile, the lists show what the backend last spoke of. -/
theorem lists_track_backend (tracked : Tracked orderly start known barred scene)
    (fresh : start.Fresh) (received : scene.roster.phase = .received) :
    (∃ view, scene.roster.lists.find? .subscribe = some view ∧ ∀ contact,
        (contact ∈ HandleSet.toList view.members ↔
          ∃ states, known contact = some states ∧ states.subscribe = .yes) ∧
        (contact ∈ HandleSet.toList view.remotePending ↔
          ∃ states, known contact = some states ∧ states.subscribe = .ask)) ∧
      (∃ view, scene.roster.lists.find? .publish = some view ∧ ∀ contact,
        (contact ∈ HandleSet.toList view.members ↔
          ∃ states, known contact = some states ∧ states.publish = .yes) ∧
        (contact ∈ HandleSet.toList view.localPending ↔
          ∃ states, known contact = some states ∧ states.publish = .ask)) ∧
      (∀ view, scene.roster.lists.find? .stored = some view → ∀ contact,
        contact ∈ HandleSet.toList view.members ↔ ∃ states, known contact = some states) ∧
      ∀ view, scene.roster.lists.find? .deny = some view → ∀ contact,
        contact ∈ HandleSet.toList view.members ↔ contact ∈ barred := by
  obtain ⟨refused, run⟩ := tracked.run
  have steady := run.steady fresh
  obtain ⟨shown, shownBarred⟩ := tracked.showing fresh received
  have places : ∀ {list view}, list ≠ ListName.deny → scene.roster.lists.find? list = some view →
      ∀ slot contact, contact ∈ HandleSet.toList (view.get slot) ↔
        ∃ states, known contact = some states ∧ (states.membership list).slot = some slot := by
    intro list view other found slot contact
    rw [HandleSet.mem_to_list]
    refine (steady.apart list view found).standing_iff.symm.trans ?_
    rw [← Roster.standing_found found, shown list other (by rw [found]; rfl), Roster.slotKnown,
      Option.bind_eq_some_iff]
  obtain ⟨subscriptions, foundFirst⟩ :=
    Option.isSome_iff_exists.1 (steady.viewed received .subscribe (.inl rfl))
  obtain ⟨publications, foundSecond⟩ :=
    Option.isSome_iff_exists.1 (steady.viewed received .publish (.inr rfl))
  refine ⟨⟨subscriptions, foundFirst, fun contact => ⟨?_, ?_⟩⟩,
    ⟨publications, foundSecond, fun contact => ⟨?_, ?_⟩⟩, ?_, ?_⟩
  · simpa only [ContactStates.subscribe_slot, ListView.get] using
      places (by decide) foundFirst .members contact
  · simpa only [ContactStates.subscribe_slot, ListView.get] using
      places (by decide) foundFirst .remotePending contact
  · simpa only [ContactStates.publish_slot, ListView.get] using
      places (by decide) foundSecond .members contact
  · simpa only [ContactStates.publish_slot, ListView.get] using
      places (by decide) foundSecond .localPending contact
  · intro view found contact
    simpa only [ContactStates.stored_slot, and_true, ListView.get] using
      places (by decide) found .members contact
  · intro view found contact
    have inside : view.standing contact = some .members ↔
        (view.get .members).contains contact = true :=
      (steady.apart .deny view found).standing_iff
    rw [HandleSet.mem_to_list]
    refine inside.symm.trans ?_
    rw [← Roster.standing_found found, shownBarred (by rw [found]; rfl)]
    simp

open Rehearsal (StandInBackend)

/-- A backend that knows alice and nobody else, with or without a list of stored contacts. -/
def rehearsedKnowing (persists : Bool) (states : ContactStates) : StandInBackend :=
  StandInBackend.setStates states { persists } 1

theorem rehearsed_states (persists : Bool) (states : ContactStates) (contact : Handle) :
    RosterBackend.states (rehearsedKnowing persists states) contact
      = if contact = 1 then some states else none := by
  change ([(1, states)].find? fun entry => decide (entry.1 = contact)).map Prod.snd = _
  by_cases alice : contact = 1
  · simp [alice]
  · simp [alice, Ne.symm alice]

theorem rehearsed_coherent (persists : Bool) (states : ContactStates) (contact : Handle) :
    contact ∈ RosterBackend.contacts (rehearsedKnowing persists states) ↔
      RosterBackend.states (rehearsedKnowing persists states) contact ≠ none := by
  rw [rehearsed_states]
  change contact ∈ [1] ↔ _
  simp

def rehearsedFollowing (persists : Bool) : StandInBackend :=
  rehearsedKnowing persists { subscribe := .yes }

theorem rehearsed_arrival_tracked (persists : Bool) :
    Tracked True (rehearsedOpening (rehearsedFollowing persists))
      (RosterBackend.states (rehearsedFollowing persists)) []
      (rehearsedArrival (rehearsedFollowing persists)) := by
  have met : Tracked True (rehearsedOpening (rehearsedFollowing persists)) (fun _ => none) []
      (rehearsedMeeting (rehearsedFollowing persists)) :=
    Tracked.fresh.elsewhere Repositories.standard.others
      (rehearsed_dealing True (rehearsedFollowing persists))
  have nobody : (rehearsedMeeting (rehearsedFollowing persists)).roster.blocked = [] := rfl
  refine met.arrived rehearsedSurroundings rfl (rehearsed_coherent persists _) ?_ ?_
  · intro contact member
    rw [List.mem_singleton.1 member]
    rfl
  · intro _ contact member
    rw [nobody] at member
    cases member

/-- Alice follows us instead, and her change is to be announced. -/
def rehearsedTurning (scene : RosterScene StandInBackend) (persists : Bool) :
    RosterScene StandInBackend :=
  scene.leaving (scene.call.perform rehearsedSurroundings
    (.backendChanged (rehearsedKnowing persists { publish := .yes })))

def rehearsedTurned (scene : RosterScene StandInBackend) : RosterScene StandInBackend :=
  scene.leaving (scene.call.perform rehearsedSurroundings (.contactsChanged [1] []))

theorem rehearsed_complete {persists : Bool} {before now : ContactStates} (contact : Handle)
    (changed : RosterBackend.states (rehearsedKnowing persists now) contact
      ≠ RosterBackend.states (rehearsedKnowing persists before) contact) : contact ∈ [1] ++ [] := by
  rw [rehearsed_states, rehearsed_states] at changed
  by_contra other
  have stranger : contact ≠ 1 := by simpa using other
  rw [if_neg stranger, if_neg stranger] at changed
  exact changed rfl

/-- A roster with a list of stored contacts: alice moves from one list to the other. -/
theorem lists_track_backend_rehearsed :
    ∃ known scene, (rehearsedOpening (rehearsedFollowing true)).Fresh ∧
      Tracked True (rehearsedOpening (rehearsedFollowing true)) known [] scene ∧
      scene.roster.phase = .received ∧
      (∃ view, scene.roster.lists.find? .subscribe = some view ∧
        1 ∉ HandleSet.toList view.members) ∧
      ∃ view, scene.roster.lists.find? .publish = some view ∧
        1 ∈ HandleSet.toList view.members := by
  let scene := rehearsedTurning (rehearsedArrival (rehearsedFollowing true)) true
  have fresh := rehearsed_opening_fresh (rehearsedFollowing true)
  have turning : Tracked True (rehearsedOpening (rehearsedFollowing true)) _ [] scene :=
    (rehearsed_arrival_tracked true).aside rehearsedSurroundings (.backendChanged _) rfl
  have alive : ∀ contact ∈ [1] ++ [], RosterBackend.states scene.roster.backend contact ≠ none →
      scene.repositories.contacts.isValid contact = true := by
    intro contact member _
    have alice : contact = 1 := by simpa using member
    rw [alice]
    decide +kernel
  have tracked := turning.changed rehearsedSurroundings [1] [] (by decide +kernel)
    rehearsed_complete alive (.inl ⟨trivial, by decide +kernel⟩)
  have received : (rehearsedTurned scene).roster.phase = .received := by decide +kernel
  obtain ⟨⟨subscriptions, first, followed⟩, ⟨publications, second, following⟩, _⟩ :=
    lists_track_backend tracked fresh received
  have now : RosterBackend.states scene.roster.backend 1 = some { publish := .yes } :=
    rehearsed_states true { publish := .yes } 1
  refine ⟨_, _, fresh, tracked, received, ⟨subscriptions, first, fun member => ?_⟩,
    publications, second, (following 1).1.2 ⟨_, now, rfl⟩⟩
  obtain ⟨states, known, yes⟩ := (followed 1).1.1 member
  cases now.symm.trans known
  cases yes

/-- Other code has given back its reference, and only the list of subscriptions keeps alice alive. -/
def rehearsedLeft : RosterScene StandInBackend :=
  let scene := rehearsedArrival (rehearsedFollowing false)
  let contacts := scene.repositories.contacts
  { scene with
    repositories := ⟨contacts.orUnchanged (contacts.dropReference 1), scene.repositories.others⟩
    outside := fun key => scene.outside key - single 1 key }

theorem rehearsed_left_tracked :
    Tracked True (rehearsedOpening (rehearsedFollowing false))
      (RosterBackend.states (rehearsedFollowing false)) [] rehearsedLeft := by
  let contacts := (rehearsedArrival (rehearsedFollowing false)).repositories.contacts
  have possible : (contacts.dropReference 1).toOption.isSome = true := by decide +kernel
  have dropped : contacts.dropReference 1 = .ok (contacts.orUnchanged (contacts.dropReference 1)) := by
    cases done : contacts.dropReference 1 with
    | ok next => rfl
    | error failure =>
        rw [done] at possible
        cases possible
  exact (rehearsed_arrival_tracked false).elsewhere _ (.dropped (fun _ => by decide) dropped)

/-- Without a list of stored contacts, alice is lost on her way from one list to the other: the list
of subscriptions gives her last reference back before the list of publications takes one. -/
theorem moved_contact_lost :
    ∃ known refused scene, (rehearsedOpening (rehearsedFollowing false)).Fresh ∧
      Tracked True (rehearsedOpening (rehearsedFollowing false)) known [] scene ∧
      scene.roster.phase = .received ∧
      (RosterBackend.contacts scene.roster.backend).Nodup ∧
      (∀ contact, contact ∈ RosterBackend.contacts scene.roster.backend ↔
        RosterBackend.states scene.roster.backend contact ≠ none) ∧
      (∀ contact, RosterBackend.states scene.roster.backend contact ≠ known contact →
        contact ∈ [1] ++ []) ∧
      scene.repositories.contacts.isValid 1 = true ∧
      Step True refused scene (rehearsedTurned scene) ∧
      RosterBackend.states (rehearsedTurned scene).roster.backend 1 = some { publish := .yes } ∧
      ((rehearsedTurned scene).roster.lists.find? .publish).map (·.contains .members 1)
        = some false := by
  let scene := rehearsedTurning rehearsedLeft false
  have turning : Tracked True (rehearsedOpening (rehearsedFollowing false)) _ [] scene :=
    rehearsed_left_tracked.aside rehearsedSurroundings (.backendChanged _) rfl
  exact ⟨_, _, scene, rehearsed_opening_fresh _, turning, by decide +kernel, by decide +kernel,
    rehearsed_coherent false _, rehearsed_complete, by decide +kernel,
    .use scene rehearsedSurroundings (.contactsChanged [1] []),
    by decide +kernel, by decide +kernel⟩

end RosterScene

end ConnectionManager
