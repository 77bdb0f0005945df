import ConnectionManager.Proofs.Roster.Scenes

/-!
What the events of a roster tell of its groups. Whoever listened from the start knows exactly the
groups and their members, and was told only of changes that happened, as long as other code gives
back only references that it took and the repository of contacts has not ended.
-/

namespace ConnectionManager

namespace RosterScene

open RosterEvent (Account)

variable {β : Type} [RosterBackend β] {scene start after : RosterScene β}
  {refused : List (ListName × Handle)}

theorem account_of_lists {events : List RosterEvent}
    (lists : ∀ event ∈ events, ∃ change list,
      event = .membersChanged change ∧ change.view = .list list)
    (groups : Catalog String HandleSet) : Account groups events groups := by
  induction events with
  | nil => exact .refl groups
  | cons event rest induction =>
      obtain ⟨change, list, same, view⟩ := lists event List.mem_cons_self
      have later := induction fun other member => lists other (List.mem_cons_of_mem _ member)
      have real : event.Real groups := by
        rw [same, RosterEvent.Real, view]
        trivial
      have idle : RosterEvent.follow groups event = groups := by
        rw [same, RosterEvent.follow, view]
      exact (Account.single real idle).trans later

/-- What was told so far accounts for the groups as they are. -/
def Accounted (scene : RosterScene β) : Prop :=
  Account .empty scene.roster.events.entries scene.roster.pictured

omit [RosterBackend β] in
theorem Fresh.accounted (fresh : start.Fresh) : start.Accounted := by
  obtain ⟨backend, same⟩ := fresh.new
  unfold Accounted
  rw [same]
  exact .refl _

omit [RosterBackend β] in
theorem accounted_of_work (accounted : scene.Accounted) {lined : RosterCall β}
    (line : RosterCall.Lined scene.call lined) (fit : lined.Fit)
    (work : RosterCall.GroupWork lined after.call) : after.Accounted := by
  obtain ⟨events, aside, account⟩ := work
  obtain ⟨earlier, told, lists⟩ := line.told
  have pictured : lined.roster.pictured = scene.roster.pictured := by
    unfold Roster.pictured
    rw [line.groups]
    rfl
  have entries : after.roster.events.entries = scene.roster.events.entries ++ earlier ++ events :=
    aside.told.trans (congrArg (· ++ events) told)
  have grown := account fit
  rw [pictured] at grown
  unfold Accounted
  rw [entries]
  exact (accounted.trans (account_of_lists lists _)).trans grown

theorem Step.accounted (step : Step True refused scene after) (accounted : scene.Accounted)
    (backed : scene.Backed) (usable : after.repositories.contacts.isUsable = true) :
    after.Accounted := by
  have before := step.usable usable
  cases step.course with
  | idle _ _ groups events =>
      unfold Accounted Roster.pictured
      rw [groups, events]
      exact accounted
  | used surroundings use received work =>
      have lined := scene.call.in_line_lined surroundings use
      exact accounted_of_work accounted lined ⟨received, lined.usable.trans before, scene.outside,
        lined.backed scene.outside backed⟩ work
  | answered received work =>
      exact accounted_of_work accounted (.refl scene.call) ⟨received, before, scene.outside, backed⟩
        work
  | elsewhere roster =>
      unfold Accounted
      rw [roster]
      exact accounted

theorem Run.accounted (run : Run True refused start after) (fresh : start.Fresh)
    (usable : after.repositories.contacts.isUsable = true) : after.Accounted := by
  induction run with
  | refl => exact fresh.accounted
  | next run step induction =>
      exact step.accounted (induction fresh (step.usable usable)) (run.backed trivial fresh) usable

/-- Whoever listened to a roster from the start knows the names of its groups and their members, and
everything that was told of groups was news when it was told, as long as other code gave back only
references that it had taken and the repository of contacts has not ended. -/
theorem group_events_exact (run : Run True refused start scene) (fresh : start.Fresh)
    (usable : scene.repositories.contacts.isUsable = true) :
    ∃ known : Catalog String HandleSet,
      (scene.roster.events.unread ⟨0⟩).foldl RosterEvent.follow .empty = known ∧
        RosterEvent.Truthful .empty (scene.roster.events.unread ⟨0⟩) ∧
        known.keys = scene.roster.groupNames ∧
        ∀ group, ((known.find? group).map HandleSet.toList).getD []
          = scene.roster.groupMembers group := by
  obtain ⟨truthful, leads⟩ := run.accounted fresh usable
  refine ⟨scene.roster.pictured, leads, truthful, ?_, fun group => ?_⟩
  · simp [Roster.pictured, Roster.groupNames, Catalog.keys, Catalog.mapValues]
  · rw [Roster.pictured, Catalog.find_map_values, Roster.groupMembers]
    cases scene.roster.groups.find? group <;> rfl

/-- Alice joined a group that was not there before; a handle that nobody has interned could not. -/
def rehearsedJoining : RosterScene Rehearsal.StandInBackend :=
  (rehearsedArrival {}).leaving
    ((rehearsedArrival {}).call.perform rehearsedSurroundings
      (.groupsChanged [1, 7, 1] ["friends", "family"] []))

theorem group_events_exact_rehearsed :
    (rehearsedOpening {}).Fresh ∧
      (∃ refused, Run True refused (rehearsedOpening {}) rehearsedJoining) ∧
      rehearsedJoining.repositories.contacts.isUsable = true ∧
      ∃ known : Catalog String HandleSet,
        (rehearsedJoining.roster.events.unread ⟨0⟩).foldl RosterEvent.follow .empty = known ∧
          known.keys = ["family", "friends"] ∧
          ((known.find? "friends").map HandleSet.toList).getD [] = [1] := by
  have fresh := rehearsed_opening_fresh {}
  have run := (rehearsed_arrival_run True {}).next (.use (rehearsedArrival {}) rehearsedSurroundings
    (.groupsChanged [1, 7, 1] ["friends", "family"] []))
  have usable : rehearsedJoining.repositories.contacts.isUsable = true := by decide +kernel
  have names : rehearsedJoining.roster.groupNames = ["family", "friends"] := by decide +kernel
  have members : rehearsedJoining.roster.groupMembers "friends" = [1] := by decide +kernel
  obtain ⟨known, followed, _, keys, inside⟩ := group_events_exact run fresh usable
  exact ⟨fresh, ⟨_, run⟩, usable, known, followed, keys.trans names,
    (inside "friends").trans members⟩

end RosterScene

end ConnectionManager
