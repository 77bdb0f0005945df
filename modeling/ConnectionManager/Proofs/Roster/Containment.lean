import ConnectionManager.Proofs.Roster.Scenes

/-!
The list of stored contacts holds every contact of the lists of subscriptions. The lists are brought
in line one after another, the stored contacts last. A contact that came into an earlier list is kept
alive by it, so that the last one can take it in.
-/

namespace ConnectionManager

namespace Roster

variable {β : Type} [RosterBackend β]

/-- If there is a list of stored contacts, the members and the pending contacts of the lists of
subscriptions are all members of it. -/
def Within (roster : Roster β) : Prop :=
  (roster.lists.find? .stored).isSome = true → ∀ list, list = .subscribe ∨ list = .publish →
    ∀ contact, roster.standing list contact ≠ none → roster.standing .stored contact = some .members

theorem stored_slot (roster : Roster β) (contact : Handle) :
    (roster.membership .stored contact).slot = some .members ∨
      ∀ list, list ≠ .deny → (roster.membership list contact).slot = none := by
  cases known : RosterBackend.states roster.backend contact with
  | some states =>
      left
      unfold membership
      rw [if_neg (by decide), known]
      rfl
  | none =>
      right
      intro list other
      unfold membership
      rw [if_neg other, known]
      rfl

end Roster

namespace RosterCall

variable {β : Type} [RosterBackend β] {call : RosterCall β} {list : ListName} {contact : Handle}
  {contacts : List Handle}

/-- A contact in a list was there before, or it was named and came in with a valid handle; and if it
was named, it belongs there. -/
theorem update_list_origin (apart : call.roster.Apart) (initial : Bool)
    (stands : (updateList initial contacts call list).roster.standing list contact ≠ none) :
    (call.roster.standing list contact ≠ none ∨
        (contact ∈ contacts ∧ call.repositories.contacts.isUsable = true)) ∧
      (contact ∈ contacts → (call.roster.membership list contact).slot ≠ none) := by
  have viewed : (call.roster.lists.find? list).isSome = true := by
    by_contra missing
    have absent : call.roster.lists.find? list = none := by simpa using missing
    rw [update_list_absent absent, Roster.standing, absent] at stands
    exact stands rfl
  rw [update_list_standing apart viewed] at stands
  constructor
  · by_cases before : call.roster.standing list contact = none
    · right
      split at stands
      · rename_i entered
        obtain ⟨named, free⟩ := entered
        rcases (refuses_eq_false ..).1 free with missing | nowhere | there | valid
        · rw [viewed] at missing
          cases missing
        · exact absurd nowhere stands
        · exact absurd (there.symm.trans before) stands
        · exact ⟨named, Repository.usable_of_valid valid⟩
      · exact absurd before stands
    · exact .inl before
  · intro named nowhere
    have free : call.refuses list contact = false :=
      (refuses_eq_false ..).2 (.inr (.inl nowhere))
    rw [if_pos ⟨named, free⟩] at stands
    exact stands nowhere

theorem align_known_within (initial : Bool) (contacts : List Handle) {outside : Handle → Nat}
    (apart : call.roster.Apart) (backed : call.Backed outside) (within : call.roster.Within) :
    (alignKnown initial contacts call).roster.Within := by
  intro viewed list either contact stands
  let first := updateList initial contacts call .subscribe
  let second := updateList initial contacts first .publish
  have last : alignKnown initial contacts call = updateList initial contacts second .stored := rfl
  obtain ⟨_, firstPart, _⟩ := update_list_part initial contacts call .subscribe
  obtain ⟨_, secondPart, _⟩ := update_list_part initial contacts first .publish
  have firstApart : first.roster.Apart := update_list_apart apart initial contacts .subscribe
  have secondApart : second.roster.Apart := update_list_apart firstApart initial contacts .publish
  have firstMembership : first.roster.membership = call.roster.membership :=
    Roster.membership_congr firstPart.backend
  have secondMembership : second.roster.membership = call.roster.membership :=
    (Roster.membership_congr secondPart.backend).trans firstMembership
  have storedView : (second.roster.lists.find? .stored).isSome = true := by
    rw [last, update_list_view] at viewed
    exact viewed
  have storedBefore : second.roster.standing .stored contact = call.roster.standing .stored contact :=
    (standing_other (by decide) initial contacts contact).trans
      (standing_other (by decide) initial contacts contact)
  have storedThen : (call.roster.lists.find? .stored).isSome = true := by
    rw [update_list_view, update_list_view] at storedView
    exact storedView
  have standsSecond : second.roster.standing list contact ≠ none := by
    rw [last, standing_other (by rcases either with same | same <;> rw [same] <;> decide)] at stands
    exact stands
  have origin : (call.roster.standing list contact ≠ none ∨
        (contact ∈ contacts ∧ call.repositories.contacts.isUsable = true)) ∧
      (contact ∈ contacts → (call.roster.membership list contact).slot ≠ none) := by
    rcases either with rfl | rfl
    · rw [standing_other (by decide)] at standsSecond
      exact update_list_origin apart initial standsSecond
    · have came := update_list_origin firstApart initial standsSecond
      rw [standing_other (by decide), firstMembership, firstPart.usable] at came
      exact came
  have other : list ≠ .deny := by
    rcases either with same | same <;> rw [same] <;> decide
  rw [last, update_list_standing secondApart storedView, storedBefore, secondMembership]
  split
  · rename_i moved
    rcases call.roster.stored_slot contact with stored | nowhere
    · exact stored
    · exact absurd (nowhere list other) (origin.2 moved.1)
  · rename_i unmoved
    rcases origin.1 with before | ⟨named, usable⟩
    · exact within storedThen list either contact before
    · -- The list that has the contact keeps its handle valid, so that it is not refused.
      have covered : second.Backed outside :=
        secondPart.backed outside (firstPart.backed outside backed)
      have alive : second.repositories.contacts.isUsable = true :=
        secondPart.usable.trans (firstPart.usable.trans usable)
      obtain ⟨slot, inside⟩ := Option.ne_none_iff_exists'.1 standsSecond
      have valid := covered.valid alive secondApart inside
      exact absurd ⟨named, (refuses_eq_false ..).2 (.inr (.inr (.inr valid)))⟩ unmoved

theorem update_deny_within (initial : Bool) (contacts : List Handle) (within : call.roster.Within) :
    (updateList initial contacts call .deny).roster.Within := by
  intro viewed list either contact stands
  have other : list ≠ .deny := by
    rcases either with same | same <;> rw [same] <;> decide
  rw [update_list_other (by decide)] at viewed
  rw [standing_other other] at stands
  rw [standing_other (by decide)]
  exact within viewed list either contact stands

theorem in_line_within (surroundings : Surroundings) (use : RosterUse β) {outside : Handle → Nat}
    (apart : call.roster.Apart) (backed : call.Backed outside) (within : call.roster.Within) :
    (call.inLine surroundings use).roster.Within := by
  rcases call.in_line_cases surroundings use with same | ⟨_, waiting, lists, opening, same⟩ |
    ⟨changed, removed, _, _, same⟩ | ⟨changed, _, _, same⟩
  · rw [same]
    exact within
  · have lined := opened_lined surroundings call .listReceived
    have bare : (call.receiving.withLists lists).roster.Within := by
      intro _ list either contact stands
      have has : call.roster.hasView list = true := by
        rcases either with same | same <;> rw [same] <;> rfl
      obtain ⟨channel, view⟩ := (opening.found list).1 has
      have viewed : (call.receiving.withLists lists).roster.lists.find? list = some { channel } :=
        view
      rw [Roster.standing_found viewed] at stands
      exact absurd rfl stands
    rw [opening.opened] at lined
    rw [same]
    exact update_deny_within true _ (align_known_within true _ (lined.apart apart)
      (lined.backed outside backed) bare)
  · rw [same]
    exact align_known_within false _ apart backed within
  · rw [same]
    exact update_deny_within false changed within

end RosterCall

namespace RosterScene

variable {β : Type} [RosterBackend β] {scene start after : RosterScene β}
  {refused : List (ListName × Handle)}

omit [RosterBackend β] in
theorem Fresh.within (fresh : start.Fresh) : start.roster.Within := by
  intro viewed
  obtain ⟨backend, same⟩ := fresh.new
  rw [same] at viewed
  cases viewed

omit [RosterBackend β] in
theorem within_congr {roster next : Roster β} (lists : next.lists = roster.lists)
    (within : roster.Within) : next.Within := by
  unfold Roster.Within Roster.standing
  rw [lists]
  exact within

theorem Step.within (step : Step True refused scene after) (steady : scene.Steady)
    (backed : scene.Backed) (within : scene.roster.Within) : after.roster.Within := by
  cases step.course with
  | idle _ lists => exact within_congr lists within
  | used surroundings use _ work =>
      obtain ⟨events, aside, _⟩ := work
      exact within_congr aside.lists
        (RosterCall.in_line_within surroundings use steady.apart backed within)
  | answered _ work =>
      obtain ⟨events, aside, _⟩ := work
      exact within_congr aside.lists within
  | elsewhere roster => exact roster ▸ within

theorem Run.within (run : Run True refused start after) (fresh : start.Fresh) :
    after.roster.Within := by
  induction run with
  | refl => exact fresh.within
  | next run step induction =>
      exact step.within (run.steady fresh) (run.backed trivial fresh) (induction fresh)

/-- As long as other code gives back only references that it took, no list ever has a contact in two
slots, and if there is a list of stored contacts, every contact in a slot of a list of subscriptions
is a member of it, whatever the backend answers and whichever handles are valid. -/
theorem subscriptions_stored (run : Run True refused start scene) (fresh : start.Fresh) :
    (∀ list view, scene.roster.lists.find? list = some view → ∀ contact first second,
        first ≠ second → view.contains first contact = true → view.contains second contact = false) ∧
      ∀ stored, scene.roster.lists.find? .stored = some stored →
        ∀ list view, list = .subscribe ∨ list = .publish →
          scene.roster.lists.find? list = some view →
          ∀ slot contact, view.contains slot contact = true →
            stored.contains .members contact = true := by
  have apart := (run.steady fresh).apart
  constructor
  · intro list view found contact first second different inside
    by_contra both
    exact different (apart list view found contact first second inside (by simpa using both))
  · intro stored known list view either found slot contact inside
    have stands : scene.roster.standing list contact = some slot :=
      (Roster.standing_found found contact).trans ((apart list view found).standing_iff.2 inside)
    have kept := run.within fresh (by rw [known]; rfl) list either contact (by rw [stands]; simp)
    rw [Roster.standing_found known] at kept
    exact (apart .stored stored known).standing_iff.1 kept

open Rehearsal (StandInBackend)

/-- Alice is a mutual contact, but for her request, and a roster that stores contacts knows her. -/
def rehearsedFriend : StandInBackend :=
  StandInBackend.setStates { subscribe := .yes, publish := .ask } {} 1

/-- A change of alice was announced, with a handle that nobody has interned. -/
def rehearsedNews : RosterScene StandInBackend :=
  (rehearsedArrival rehearsedFriend).leaving
    ((rehearsedArrival rehearsedFriend).call.perform rehearsedSurroundings
      (.contactsChanged [1, 7] []))

theorem subscriptions_stored_rehearsed :
    (rehearsedOpening rehearsedFriend).Fresh ∧
      (∃ refused, Run True refused (rehearsedOpening rehearsedFriend) rehearsedNews) ∧
      ∃ stored view, rehearsedNews.roster.lists.find? .stored = some stored ∧
        rehearsedNews.roster.lists.find? .publish = some view ∧
        view.contains .localPending 1 = true ∧ view.contains .members 1 = false ∧
        stored.contains .members 1 = true := by
  have fresh := rehearsed_opening_fresh rehearsedFriend
  have run := (rehearsed_arrival_run True rehearsedFriend).next
    (.use (rehearsedArrival rehearsedFriend) rehearsedSurroundings (.contactsChanged [1, 7] []))
  obtain ⟨apart, within⟩ := subscriptions_stored run fresh
  have listed : (rehearsedNews.roster.lists.find? .stored).isSome = true := by decide +kernel
  have waiting : (rehearsedNews.roster.lists.find? .publish).map (·.contains .localPending 1)
      = some true := by decide +kernel
  obtain ⟨stored, kept⟩ := Option.isSome_iff_exists.1 listed
  obtain ⟨view, found, waits⟩ := Option.map_eq_some_iff.1 waiting
  exact ⟨fresh, ⟨_, run⟩, stored, view, kept, found, waits,
    apart .publish view found 1 .localPending .members (by decide) waits,
    within stored kept .publish view (.inr rfl) found .localPending 1 waits⟩

end RosterScene

end ConnectionManager
