import ConnectionManager.Proofs.Roster.Scenes

/-!
What the events of a roster tell of its lists. A change is put together before the contacts move, and
says of each contact that it names where the backend wants it. So whoever listened from the start
knows where a contact stands in a list as long as the list never refused it; a contact that was
refused is told of all the same.
-/

namespace ConnectionManager

namespace MembershipChange

variable {change : MembershipChange} {places : Handle → Membership} {contact other : Handle}

def Mentions (change : MembershipChange) (contact : Handle) : Prop :=
  contact ∈ change.added ∨ contact ∈ change.localPending.map Prod.fst ∨
    contact ∈ change.remotePending ∨ contact ∈ change.removed

structure Faithful (change : MembershipChange) (places : Handle → Membership) : Prop where
  added : ∀ contact ∈ change.added, (places contact).slot = some .members
  localPending : ∀ contact ∈ change.localPending.map Prod.fst,
    (places contact).slot = some .localPending
  remotePending : ∀ contact ∈ change.remotePending, (places contact).slot = some .remotePending
  removed : ∀ contact ∈ change.removed, (places contact).slot = none

/-- Where a listener puts a contact when a change names it. -/
def placeOf (change : MembershipChange) (contact : Handle) : Option (Option Slot) :=
  if contact ∈ change.added then some (some .members)
  else if contact ∈ change.localPending.map Prod.fst then some (some .localPending)
  else if contact ∈ change.remotePending then some (some .remotePending)
  else if contact ∈ change.removed then some none
  else none

theorem place_of_faithful (faithful : change.Faithful places) (mentioned : change.Mentions contact) :
    change.placeOf contact = some (places contact).slot := by
  unfold placeOf
  split
  · rename_i member
    rw [faithful.added contact member]
  · split
    · rename_i member
      rw [faithful.localPending contact member]
    · split
      · rename_i member
        rw [faithful.remotePending contact member]
      · split
        · rename_i member
          rw [faithful.removed contact member]
        · unfold Mentions at mentioned
          tauto

theorem place_of_unmentioned (silent : ¬change.Mentions contact) :
    change.placeOf contact = none := by
  unfold Mentions at silent
  unfold placeOf
  grind

/-- The change that names one more contact, where it belongs. -/
def naming (change : MembershipChange) (contact : Handle) : Membership → MembershipChange
  | .member => { change with added := change.added ++ [contact] }
  | .localPending message =>
      { change with localPending := change.localPending ++ [(contact, message)] }
  | .remotePending => { change with remotePending := change.remotePending ++ [contact] }
  | .outside => { change with removed := change.removed ++ [contact] }

theorem note_eq {view : ListView} (apart : view.Apart) (change : MembershipChange)
    (initial : Bool) (contact : Handle) (membership : Membership) :
    change.note view initial contact membership
      = if initial = true ∨ view.standing contact ≠ membership.slot
        then change.naming contact membership else change := by
  have moves : ∀ slot, (initial || !view.contains slot contact) = true ↔
      initial = true ∨ view.standing contact ≠ some slot := by
    intro slot
    rw [ne_eq, apart.standing_iff, Bool.or_eq_true, Bool.not_eq_true']
    simp
  have leaves : (initial || view.contains .members contact || view.contains .localPending contact
      || view.contains .remotePending contact) = true ↔
      initial = true ∨ view.standing contact ≠ none := by
    unfold ListView.standing
    grind
  unfold note
  cases membership with
  | member => exact if_congr (moves .members) rfl rfl
  | localPending message => exact if_congr (moves .localPending) rfl rfl
  | remotePending => exact if_congr (moves .remotePending) rfl rfl
  | outside => exact if_congr leaves rfl rfl

theorem naming_mentions (change : MembershipChange) (contact : Handle) (membership : Membership)
    (other : Handle) : (change.naming contact membership).Mentions other ↔
      change.Mentions other ∨ other = contact := by
  unfold Mentions naming
  cases membership <;> simp only [List.map_append, List.mem_append, List.map_cons, List.map_nil,
    List.mem_singleton] <;> tauto

theorem naming_faithful (faithful : change.Faithful places) (contact : Handle) :
    (change.naming contact (places contact)).Faithful places := by
  have snoc : ∀ (handles : List Handle) (slot : Option Slot),
      (∀ other ∈ handles, (places other).slot = slot) → (places contact).slot = slot →
        ∀ other ∈ handles ++ [contact], (places other).slot = slot := by
    intro handles slot earlier last other member
    rcases List.mem_append.1 member with before | here
    · exact earlier other before
    · rw [List.mem_singleton.1 here]
      exact last
  unfold naming
  cases place : places contact with
  | member =>
      exact { faithful with added := snoc _ _ faithful.added (by rw [place]; rfl) }
  | localPending message =>
      refine { faithful with localPending := ?_ }
      rw [List.map_append]
      exact snoc _ _ faithful.localPending (by rw [place]; rfl)
  | remotePending =>
      exact { faithful with remotePending := snoc _ _ faithful.remotePending (by rw [place]; rfl) }
  | outside =>
      exact { faithful with removed := snoc _ _ faithful.removed (by rw [place]; rfl) }

theorem place_of_sort (change : MembershipChange) (contact : Handle) :
    change.sort.placeOf contact = change.placeOf contact := by
  have waiting : ∀ entry, entry ∈ change.localPending.mergeSort pendingBefore ↔
      entry ∈ change.localPending := fun entry => List.mem_mergeSort
  have names : contact ∈ (change.localPending.mergeSort pendingBefore).map Prod.fst ↔
      contact ∈ change.localPending.map Prod.fst := by
    simp only [List.mem_map, waiting]
  unfold placeOf sort
  dsimp only
  simp only [sortHandles, List.mem_mergeSort, names]

end MembershipChange

namespace ListUpdate

variable {initial : Bool} {places : Handle → Membership} {update : ListUpdate} {contact : Handle}

theorem along_faithful (apart : update.view.Apart) (faithful : update.change.Faithful places)
    (contacts : List Handle) : (update.along initial places contacts).change.Faithful places := by
  induction contacts generalizing update with
  | nil => exact faithful
  | cons first rest induction =>
      apply induction (step_apart apart initial (first, places first))
      change (update.change.note update.view initial first (places first)).Faithful places
      rw [MembershipChange.note_eq apart]
      split
      · exact MembershipChange.naming_faithful faithful first
      · exact faithful

theorem step_mentions (apart : update.view.Apart) (initial : Bool) (other : Handle) :
    (update.step initial (other, places other)).change.Mentions contact ↔
      update.change.Mentions contact ∨ (contact = other ∧
        (initial = true ∨ update.view.standing other ≠ (places other).slot)) := by
  change (update.change.note update.view initial other (places other)).Mentions contact ↔ _
  rw [MembershipChange.note_eq apart]
  split
  · rename_i moved
    rw [MembershipChange.naming_mentions]
    simp [moved]
  · rename_i settled
    simp [settled]

/-- A change names a contact if it was to be told of or did not stand where it belongs, whether the
view took it in or refused it. -/
theorem along_mentions (apart : update.view.Apart) (contacts : List Handle) :
    (update.along initial places contacts).change.Mentions contact ↔
      update.change.Mentions contact ∨ (contact ∈ contacts ∧
        (initial = true ∨ update.view.standing contact ≠ (places contact).slot)) := by
  induction contacts generalizing update with
  | nil => simp [along]
  | cons first rest induction =>
      refine (induction (step_apart apart initial (first, places first))).trans ?_
      rw [step_mentions apart]
      by_cases same : contact = first
      · subst same
        -- A contact that stands where it belongs goes on doing so; one that does not is named now.
        have settled : update.view.standing contact = (places contact).slot →
            (update.step initial (contact, places contact)).view.standing contact
              = (places contact).slot := by
          intro there
          refine (ListView.place_standing apart ..).trans ?_
          rw [there, ite_self]
        rw [List.mem_cons]
        tauto
      · rw [(step_other apart initial (places first) same).1, List.mem_cons]
        simp [same]

end ListUpdate

namespace RosterEvent

/-- Where a listener knows the contacts of a list to stand after an event. -/
def place (list : ListName) (places : Handle → Option Slot) (event : RosterEvent) :
    Handle → Option Slot :=
  match event.ofList list with
  | some change => fun contact => (change.placeOf contact).getD (places contact)
  | none => places

/-- Where a listener who heard some events knows the contacts of a list to stand. -/
def placesTold (list : ListName) (events : List RosterEvent) : Handle → Option Slot :=
  events.foldl (place list) fun _ => none

theorem places_told_append (list : ListName) (earlier later : List RosterEvent) :
    placesTold list (earlier ++ later) = later.foldl (place list) (placesTold list earlier) :=
  List.foldl_append

theorem place_silent {list : ListName} {events : List RosterEvent}
    (silent : ∀ event ∈ events, event.ofList list = none) (places : Handle → Option Slot) :
    events.foldl (place list) places = places := by
  induction events with
  | nil => rfl
  | cons event rest induction =>
      have quiet : place list places event = places := by
        unfold place
        rw [silent event List.mem_cons_self]
      rw [List.foldl_cons, quiet]
      exact induction fun other member => silent other (List.mem_cons_of_mem _ member)

end RosterEvent

namespace RosterCall

open RosterEvent (placesTold)

variable {β : Type} [RosterBackend β] {call : RosterCall β} {list : ListName} {contact : Handle}

/-- A listener knows where a contact stands in a list. -/
def ListTold (call : RosterCall β) (list : ListName) (contact : Handle) : Prop :=
  placesTold list call.roster.events.entries contact = call.roster.standing list contact

theorem update_list_places_other {other : ListName} (different : other ≠ list) (initial : Bool)
    (contacts : List Handle) :
    placesTold other (updateList initial contacts call list).roster.events.entries
      = placesTold other call.roster.events.entries := by
  obtain ⟨events, part, _, lists⟩ := update_list_part initial contacts call list
  have silent : ∀ event ∈ events, event.ofList other = none := by
    intro event member
    obtain ⟨change, same, view⟩ := lists event member
    rw [same, RosterEvent.ofList, view, if_neg]
    simpa using different.symm
  rw [part.told, RosterEvent.places_told_append, RosterEvent.place_silent silent]

/-- The first time, and for a contact that does not stand where it belongs, what is told is where it
belongs; that a list may refuse a contact makes no difference. -/
theorem update_list_places (apart : call.roster.Apart) (received : call.roster.phase = .received)
    (viewed : (call.roster.lists.find? list).isSome = true) (initial : Bool)
    (contacts : List Handle) :
    placesTold list (updateList initial contacts call list).roster.events.entries contact
      = if contact ∈ contacts ∧ (initial = true ∨
            call.roster.standing list contact ≠ (call.roster.membership list contact).slot)
        then (call.roster.membership list contact).slot
        else placesTold list call.roster.events.entries contact := by
  obtain ⟨view, found⟩ := Option.isSome_iff_exists.1 viewed
  let update := call.aligning initial contacts list view
  have faithful : update.change.Faithful (call.roster.membership list) :=
    ListUpdate.along_faithful (apart list view found) ⟨by simp, by simp, by simp, by simp⟩ contacts
  have mentions : update.change.Mentions contact ↔ contact ∈ contacts ∧ (initial = true ∨
      call.roster.standing list contact ≠ (call.roster.membership list contact).slot) := by
    rw [Roster.standing_found found]
    refine (ListUpdate.along_mentions (apart list view found) contacts).trans ?_
    simp [MembershipChange.Mentions]
  have ours : update.change.view = .list list := ListUpdate.along_view contacts _
  have told : placesTold list (updateList initial contacts call list).roster.events.entries contact
      = (update.change.placeOf contact).getD (placesTold list call.roster.events.entries contact) := by
    rw [update_list_eq found]
    rcases emit_change_cases (call.aligned initial contacts list view) update.change initial with
      ⟨nothing, same⟩ | ⟨_, same⟩
    · -- Nothing is announced only if the change is empty, as the roster is there.
      have empty : update.change.isEmpty = true := (nothing received).2
      have silent : ¬update.change.Mentions contact := by
        simp [MembershipChange.isEmpty] at empty
        simp [MembershipChange.Mentions, empty]
      rw [same, MembershipChange.place_of_unmentioned silent]
      rfl
    · have entries : ((call.aligned initial contacts list view).emit
          (.membersChanged update.change.sort)).roster.events.entries
          = call.roster.events.entries ++ [.membersChanged update.change.sort] := rfl
      have event : RosterEvent.ofList list (.membersChanged update.change.sort)
          = some update.change.sort := if_pos ours
      rw [same, entries, RosterEvent.places_told_append, List.foldl_cons, List.foldl_nil,
        RosterEvent.place, event]
      dsimp only
      rw [MembershipChange.place_of_sort]
  rw [told]
  split
  · rename_i named
    rw [MembershipChange.place_of_faithful faithful (mentions.2 named)]
    rfl
  · rename_i unnamed
    rw [MembershipChange.place_of_unmentioned fun mentioned => unnamed (mentions.1 mentioned)]
    rfl

theorem update_list_told (apart : call.roster.Apart) (received : call.roster.phase = .received)
    (initial : Bool) {contacts : List Handle}
    (accepted : contact ∈ contacts → call.refuses list contact = false)
    (told : call.ListTold list contact) :
    (updateList initial contacts call list).ListTold list contact := by
  cases viewed : (call.roster.lists.find? list).isSome with
  | false =>
      rw [update_list_absent (by simpa using viewed)]
      exact told
  | true =>
      unfold ListTold at told ⊢
      rw [update_list_places apart received viewed, update_list_standing apart viewed, told]
      by_cases named : contact ∈ contacts
      · rw [if_pos (show _ ∧ _ from ⟨named, accepted named⟩)]
        by_cases there :
            call.roster.standing list contact = (call.roster.membership list contact).slot
        · rw [there, ite_self]
        · rw [if_pos ⟨named, .inr there⟩]
      · simp [named]

theorem contacts_changed_eq (received : call.roster.phase = .received) (changed : List Handle) :
    call.contactsChanged changed [] = updateList false (changed ++ []) (updateList false
      (changed ++ []) (updateList false (changed ++ []) call .subscribe) .publish) .stored :=
  if_pos received

theorem align_each_told (initial : Bool) (named : List (ListName × List Handle))
    (call : RosterCall β) (apart : call.roster.Apart) (received : call.roster.phase = .received)
    (accepted : (list, contact) ∉ refusalsOf initial call named) (told : call.ListTold list contact) :
    (alignEach initial call named).ListTold list contact := by
  induction named generalizing call with
  | nil => exact told
  | cons entry rest induction =>
      obtain ⟨name, contacts⟩ := entry
      rw [refusalsOf, List.mem_append, not_or] at accepted
      obtain ⟨free, later⟩ := accepted
      obtain ⟨events, part, _⟩ := update_list_part initial contacts call name
      apply induction (updateList initial contacts call name)
        (update_list_apart apart initial contacts name) (part.phase.trans received) later
      by_cases same : list = name
      · subst same
        refine update_list_told apart received initial (fun member => ?_) told
        by_contra refused
        exact free (List.mem_map.2
          ⟨contact, List.mem_filter.2 ⟨member, by simpa using refused⟩, rfl⟩)
      · unfold ListTold
        rw [update_list_places_other same, standing_other same]
        exact told

omit [RosterBackend β] in
theorem Aside.list_told {next : RosterCall β} {events : List RosterEvent}
    (aside : Aside call events next) (told : call.ListTold list contact) :
    next.ListTold list contact := by
  unfold ListTold Roster.standing
  rw [aside.told, RosterEvent.places_told_append,
    RosterEvent.place_silent fun event member => aside.silent event member list, aside.lists]
  exact told

theorem arriving_told {surroundings : Surroundings} {lists : Catalog ListName ListView}
    (arriving : call.Arriving surroundings lists) (unopened : call.roster.Unopened)
    (quiet : call.roster.events.entries = []) (list : ListName) (contact : Handle) :
    (call.receiving.withLists lists).ListTold list contact := by
  have entries : (call.receiving.withLists lists).roster.events.entries = [] := quiet
  unfold ListTold
  rw [arriving.nowhere unopened, entries]
  rfl

end RosterCall

namespace RosterScene

open RosterEvent (placesTold)

variable {β : Type} [RosterBackend β] {orderly : Prop} {scene start after : RosterScene β}
  {refused : List (ListName × Handle)} {list : ListName} {contact : Handle}

/-- What is told while lists are brought in line is where the contacts stand. -/
theorem Steady.in_line_told (steady : scene.Steady) (surroundings : Surroundings)
    (use : RosterUse β) (received : (scene.call.inLine surroundings use).roster.phase = .received)
    (accepted : (list, contact) ∉ scene.call.refusals surroundings use)
    (told : scene.call.ListTold list contact) :
    (scene.call.inLine surroundings use).ListTold list contact := by
  have lined := RosterCall.opened_lined surroundings scene.call use
  have phase : (scene.call.opened surroundings use).roster.phase = .received :=
    (RosterCall.align_each_lined use.isFirst (scene.call.named use) _).2.symm.trans received
  refine RosterCall.align_each_told use.isFirst _ _ (lined.apart steady.apart) phase accepted ?_
  rcases scene.call.opened_cases surroundings use with unchanged | ⟨rfl, waiting⟩
  · rw [unchanged]
    exact told
  · obtain ⟨lists, arriving⟩ := RosterCall.arriving surroundings waiting
    obtain ⟨unopened, quiet⟩ := steady.unopened waiting
    rw [arriving.opened]
    exact RosterCall.arriving_told arriving unopened quiet list contact

theorem Step.told (step : Step orderly refused scene after) (steady : scene.Steady)
    (accepted : (list, contact) ∉ refused) (told : scene.call.ListTold list contact) :
    after.call.ListTold list contact := by
  cases step.course with
  | idle _ lists _ events =>
      unfold RosterCall.ListTold Roster.standing call
      dsimp only
      rw [lists, events]
      exact told
  | used surroundings use received work =>
      obtain ⟨events, aside, _⟩ := work
      exact aside.list_told (steady.in_line_told surroundings use received accepted told)
  | answered _ work =>
      obtain ⟨events, aside, _⟩ := work
      exact aside.list_told told
  | elsewhere roster =>
      unfold RosterCall.ListTold call
      rw [roster]
      exact told

theorem Run.told (run : Run orderly refused start after) (fresh : start.Fresh)
    (accepted : (list, contact) ∉ refused) : after.call.ListTold list contact := by
  induction run with
  | refl scene =>
      obtain ⟨backend, same⟩ := fresh.new
      unfold RosterCall.ListTold call
      rw [same]
      rfl
  | next run step induction =>
      rw [List.mem_append, not_or] at accepted
      exact step.told (run.steady fresh) accepted.2 (induction fresh accepted.1)

/-- Whoever listened to a roster from the start knows, of every contact that a list never refused,
in which slot of the list it stands, whatever other code does. -/
theorem list_events_exact (run : Run orderly refused start scene) (fresh : start.Fresh)
    (accepted : (list, contact) ∉ refused) :
    match scene.roster.lists.find? list with
    | some view => ∀ slot, view.contains slot contact = true ↔
        placesTold list (scene.roster.events.unread ⟨0⟩) contact = some slot
    | none => placesTold list (scene.roster.events.unread ⟨0⟩) contact = none := by
  have told : placesTold list (scene.roster.events.unread ⟨0⟩) contact
      = scene.roster.standing list contact := run.told fresh accepted
  have apart := (run.steady fresh).apart
  rw [told]
  split
  · rename_i view found
    intro slot
    rw [Roster.standing_found found, (apart list view found).standing_iff]
  · rename_i absent
    rw [Roster.standing, absent]
    rfl

open Rehearsal (StandInBackend)

def rehearsedStranger : RosterScene StandInBackend :=
  (rehearsedArrival {}).leaving ((rehearsedArrival {}).call.perform rehearsedSurroundings
    (.backendChanged ([1, 7].foldl (StandInBackend.setStates { subscribe := .yes }) {})))

def rehearsedAnnouncement : RosterScene StandInBackend :=
  rehearsedStranger.leaving
    (rehearsedStranger.call.perform rehearsedSurroundings (.contactsChanged [1, 7] []))

theorem rehearsed_announcement_run : ∃ refused,
    (ListName.subscribe, 1) ∉ refused ∧ (ListName.subscribe, 7) ∈ refused ∧
      Run True refused (rehearsedOpening {}) rehearsedAnnouncement :=
  ⟨_, by decide +kernel, by decide +kernel,
    ((rehearsed_arrival_run True {}).next (.use _ rehearsedSurroundings (.backendChanged _))).next
      (.use rehearsedStranger rehearsedSurroundings (.contactsChanged [1, 7] []))⟩

theorem list_events_exact_rehearsed :
    (rehearsedOpening {}).Fresh ∧ (∃ refused, (ListName.subscribe, 1) ∉ refused ∧
      Run True refused (rehearsedOpening {}) rehearsedAnnouncement) ∧
      placesTold .subscribe (rehearsedAnnouncement.roster.events.unread ⟨0⟩) 1 = some .members := by
  have fresh := rehearsed_opening_fresh {}
  obtain ⟨refused, accepted, _, run⟩ := rehearsed_announcement_run
  have shown : (rehearsedAnnouncement.roster.lists.find? .subscribe).map (·.contains .members 1)
      = some true := by decide +kernel
  obtain ⟨view, found, inside⟩ := Option.map_eq_some_iff.1 shown
  have exact := list_events_exact run fresh accepted
  rw [found] at exact
  exact ⟨fresh, ⟨refused, accepted, run⟩, (exact .members).1 inside⟩

/-- A contact that the list refused is announced as a member of it, while the repository goes on. -/
theorem refused_contact_announced :
    (rehearsedOpening {}).Fresh ∧
      (∃ refused, Run True refused (rehearsedOpening {}) rehearsedAnnouncement) ∧
      rehearsedAnnouncement.repositories.contacts.isUsable = true ∧
      placesTold .subscribe (rehearsedAnnouncement.roster.events.unread ⟨0⟩) 7 = some .members ∧
      (rehearsedAnnouncement.roster.lists.find? .subscribe).map (·.contains .members 7)
        = some false := by
  obtain ⟨refused, _, _, run⟩ := rehearsed_announcement_run
  have earlier := (rehearsed_arrival_run True {}).next (.use _ rehearsedSurroundings
    (.backendChanged ([1, 7].foldl (StandInBackend.setStates { subscribe := .yes }) {})))
  have apart : rehearsedStranger.call.roster.Apart :=
    (earlier.steady (rehearsed_opening_fresh {})).apart
  have received : rehearsedStranger.call.roster.phase = .received := by decide +kernel
  have told : placesTold .subscribe (rehearsedAnnouncement.roster.events.unread ⟨0⟩) 7
      = some .members := by
    change placesTold .subscribe
      (rehearsedStranger.call.contactsChanged [1, 7] []).roster.events.entries 7 = _
    rw [RosterCall.contacts_changed_eq received, RosterCall.update_list_places_other (by decide),
      RosterCall.update_list_places_other (by decide),
      RosterCall.update_list_places apart received (by decide +kernel),
      if_pos ⟨by decide, .inr (by decide +kernel)⟩]
    decide +kernel
  exact ⟨rehearsed_opening_fresh {}, ⟨refused, run⟩, by decide +kernel, told, by decide +kernel⟩

end RosterScene

end ConnectionManager
