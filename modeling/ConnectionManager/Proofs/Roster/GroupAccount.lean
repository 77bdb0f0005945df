import ConnectionManager.Proofs.Roster.Backing
import ConnectionManager.Roster.Requests

/-!
What listeners know of the groups of a roster. A listener follows the events: it opens and closes
groups and moves their members. As long as members can be taken out of their groups, every part of
a call that concerns groups tells what it did, and nothing else.
-/

namespace ConnectionManager

namespace HandleSet

def join (set : HandleSet) (handles : List Handle) : HandleSet :=
  handles.foldl (fun set handle => Catalog.insert set handle ()) set

def leave (set : HandleSet) (handles : List Handle) : HandleSet := handles.foldl Catalog.erase set

theorem contains_join (set : HandleSet) (handles : List Handle) (handle : Handle) :
    Catalog.contains (set.join handles) handle = true ↔
      handle ∈ handles ∨ Catalog.contains set handle = true := by
  induction handles generalizing set with
  | nil => simp [join]
  | cons first rest induction =>
      rw [join, List.foldl_cons]
      refine (induction _).trans ?_
      rw [Catalog.contains_insert, List.mem_cons]
      tauto

theorem contains_leave (set : HandleSet) (handles : List Handle) (handle : Handle) :
    Catalog.contains (set.leave handles) handle = true ↔
      handle ∉ handles ∧ Catalog.contains set handle = true := by
  induction handles generalizing set with
  | nil => simp [leave]
  | cons first rest induction =>
      rw [leave, List.foldl_cons]
      refine (induction _).trans ?_
      rw [Catalog.contains_erase, List.mem_cons]
      tauto

theorem ext_contains {left right : HandleSet} (same : ∀ handle,
    Catalog.contains left handle = true ↔ Catalog.contains right handle = true) : left = right := by
  apply Catalog.ext_find
  intro handle
  have alike : (left.find? handle).isSome = (right.find? handle).isSome :=
    Bool.eq_iff_iff.2 (same handle)
  cases one : left.find? handle <;> cases two : right.find? handle <;> simp_all

theorem join_to_list (set : HandleSet) : join .empty (toList set) = set := by
  apply ext_contains
  intro handle
  rw [contains_join, mem_to_list]
  simp [Catalog.contains]

end HandleSet

namespace MembershipChange

theorem mem_sort_handles {handles : List Handle} {handle : Handle} :
    handle ∈ sortHandles handles ↔ handle ∈ handles :=
  List.mem_mergeSort

theorem sort_handles_nodup {handles : List Handle} (distinct : handles.Nodup) :
    (sortHandles handles).Nodup :=
  (List.mergeSort_perm handles _).nodup_iff.2 distinct

end MembershipChange

namespace Catalog

variable {κ ν μ : Type} [Ord κ] [Std.TransOrd κ] [Std.LawfulEqOrd κ] [DecidableEq κ]

theorem map_insert (catalog : Catalog κ ν) (change : κ → ν → μ) (key : κ) (value : ν) :
    (catalog.insert key value).mapValues change
      = (catalog.mapValues change).insert key (change key value) := by
  apply ext_find
  intro sought
  rw [find_map_values, find_insert, find_insert, find_map_values]
  by_cases same : sought = key
  · simp [same]
  · simp [same]

theorem map_erase (catalog : Catalog κ ν) (change : κ → ν → μ) (key : κ) :
    (catalog.erase key).mapValues change = (catalog.mapValues change).erase key := by
  apply ext_find
  intro sought
  rw [find_map_values, find_erase, find_erase, find_map_values]
  by_cases same : sought = key
  · simp [same]
  · simp [same]

theorem insert_found {catalog : Catalog κ ν} {key : κ} {value : ν}
    (found : catalog.find? key = some value) : catalog.insert key value = catalog := by
  apply ext_find
  intro sought
  rw [find_insert]
  split
  · rename_i same
    rw [same, found]
  · rfl

omit [Std.TransOrd κ] in
theorem find_erase_all (keys : List κ) (catalog : Catalog κ ν) (sought : κ) :
    (keys.foldl erase catalog).find? sought
      = if sought ∈ keys then none else catalog.find? sought := by
  induction keys generalizing catalog with
  | nil => simp
  | cons key rest induction =>
      rw [List.foldl_cons, induction, find_erase]
      by_cases same : sought = key <;> by_cases later : sought ∈ rest <;> simp [same, later]

end Catalog

namespace RosterEvent

/-- What a listener knows of the groups after an event: the open ones with their members. A change
of a group that is not open opens it. -/
def follow (groups : Catalog String HandleSet) : RosterEvent → Catalog String HandleSet
  | .membersChanged change =>
      match change.view with
      | .list _ => groups
      | .group name =>
          let members : HandleSet := (groups.find? name).getD .empty
          groups.insert name ((members.join change.added).leave change.removed)
  | .groupsCreated names => names.foldl (fun groups name => groups.insert name .empty) groups
  | .groupsRemoved names => names.foldl Catalog.erase groups
  | .groupRenamed old new members => (groups.erase old).insert new (HandleSet.join .empty members)

/-- What an event tells of groups is news to a listener: who is added was not there, who is removed
was, what is created was closed, what is removed was open, and a group that is renamed was open with
the members that move. -/
def Real (groups : Catalog String HandleSet) : RosterEvent → Prop
  | .membersChanged change =>
      match change.view with
      | .list _ => True
      | .group name =>
          let members : HandleSet := (groups.find? name).getD .empty
          (change.added.Nodup ∧ ∀ contact ∈ change.added, Catalog.contains members contact = false) ∧
            (change.removed.Nodup ∧
              ∀ contact ∈ change.removed, Catalog.contains (members.join change.added) contact = true)
  | .groupsCreated names => names.Nodup ∧ ∀ name ∈ names, groups.find? name = none
  | .groupsRemoved names => names.Nodup ∧ ∀ name ∈ names, groups.contains name = true
  | .groupRenamed old new members =>
      groups.find? new = none ∧
        ∃ set : HandleSet, groups.find? old = some set ∧ members = set.toList

def Truthful : Catalog String HandleSet → List RosterEvent → Prop
  | _, [] => True
  | groups, event :: rest => event.Real groups ∧ Truthful (follow groups event) rest

/-- Events that are true and lead a listener from what was there to what is there. -/
def Account (before : Catalog String HandleSet) (events : List RosterEvent)
    (after : Catalog String HandleSet) : Prop :=
  Truthful before events ∧ events.foldl follow before = after

variable {before middle after : Catalog String HandleSet} {first second : List RosterEvent}

theorem Account.refl (groups : Catalog String HandleSet) : Account groups [] groups :=
  ⟨trivial, rfl⟩

theorem truthful_append : Truthful before (first ++ second) ↔
    Truthful before first ∧ Truthful (first.foldl follow before) second := by
  induction first generalizing before with
  | nil => simp [Truthful]
  | cons event rest induction =>
      rw [List.cons_append, Truthful, Truthful, induction, List.foldl_cons, and_assoc]

theorem Account.trans (one : Account before first middle) (two : Account middle second after) :
    Account before (first ++ second) after := by
  obtain ⟨truthful, leads⟩ := one
  obtain ⟨later, onwards⟩ := two
  subst leads
  exact ⟨truthful_append.2 ⟨truthful, later⟩, by rw [List.foldl_append, onwards]⟩

theorem Account.single {event : RosterEvent} (real : event.Real before)
    (leads : follow before event = after) : Account before [event] after :=
  ⟨⟨real, trivial⟩, leads⟩

end RosterEvent

def Roster.pictured {β : Type} (roster : Roster β) : Catalog String HandleSet :=
  roster.groups.mapValues fun _ view => view.members

namespace RosterCall

open RosterEvent (Account)

variable {β : Type} {call next last : RosterCall β}

/-- What is told counts, and every member can be taken out. -/
structure Fit (call : RosterCall β) : Prop where
  received : call.roster.phase = .received
  usable : call.repositories.contacts.isUsable = true
  backed : ∃ outside, call.Backed outside

theorem Part.fit {events : List RosterEvent} (part : Part call events next) (fit : call.Fit) :
    next.Fit := by
  obtain ⟨received, usable, outside, backed⟩ := fit
  exact ⟨part.phase.trans received, part.usable.trans usable, outside, part.backed outside backed⟩

/-- A part that concerns groups only, and tells of them what it did. -/
def GroupWork (call next : RosterCall β) : Prop :=
  ∃ events, Aside call events next ∧
    (call.Fit → Account call.roster.pictured events next.roster.pictured)

theorem GroupWork.refl (call : RosterCall β) : GroupWork call call :=
  ⟨[], .refl call, fun _ => .refl _⟩

theorem GroupWork.trans (first : GroupWork call next) (second : GroupWork next last) :
    GroupWork call last := by
  obtain ⟨events, aside, account⟩ := first
  obtain ⟨more, asideToo, accountToo⟩ := second
  exact ⟨events ++ more, aside.trans asideToo,
    fun fit => (account fit).trans (accountToo (aside.toPart.fit fit))⟩

theorem fold_group_work {α : Type} {step : RosterCall β → α → RosterCall β}
    (work : ∀ current element, GroupWork current (step current element)) (elements : List α)
    (call : RosterCall β) : GroupWork call (elements.foldl step call) := by
  induction elements generalizing call with
  | nil => exact .refl call
  | cons element rest induction => exact (work call element).trans (induction _)

/-! Members join and leave. -/

theorem add_cases (update : GroupUpdate) (contact : Handle) :
    update.add contact = update ∨
      (Catalog.contains update.members contact = false ∧ ∃ next, update.add contact
        = ⟨Catalog.insert update.members contact (), next, update.moved ++ [contact]⟩) := by
  unfold GroupUpdate.add GroupUpdate.step
  rcases HandleSet.add_cases update.members update.repository contact with
    ⟨_, same⟩ | ⟨absent, next, _, same⟩ | ⟨_, _, failure, same⟩
  · rw [same]
    exact .inl rfl
  · rw [same]
    exact .inr ⟨absent, next, rfl⟩
  · rw [same]
    exact .inl rfl

theorem remove_cases {others : Handle → Nat} {update : GroupUpdate} (contact : Handle)
    (covers : update.repository.Covers fun key => others key + update.members.claim key)
    (usable : update.repository.isUsable = true) :
    update.remove contact = update ∨
      (Catalog.contains update.members contact = true ∧ ∃ next, update.remove contact
        = ⟨Catalog.erase update.members contact, next, update.moved ++ [contact]⟩) := by
  unfold GroupUpdate.remove GroupUpdate.step
  rcases HandleSet.remove_cases update.members update.repository contact with
    ⟨_, same⟩ | ⟨present, next, _, same⟩ | ⟨present, failure, refused, _⟩
  · rw [same]
    exact .inl rfl
  · rw [same]
    exact .inr ⟨present, next, rfl⟩
  · have claimed := HandleSet.claim_pos.2 present
    obtain ⟨next, done⟩ := covers.drop_ok usable (Nat.lt_of_lt_of_le claimed (Nat.le_add_left _ _))
    rw [refused] at done
    cases done

theorem joined_account (handles : List Handle) (update : GroupUpdate) :
    ∃ moved, (handles.foldl GroupUpdate.add update).moved = update.moved ++ moved ∧
      (handles.foldl GroupUpdate.add update).members = update.members.join moved ∧
      moved.Nodup ∧ ∀ contact ∈ moved, Catalog.contains update.members contact = false := by
  induction handles generalizing update with
  | nil =>
      exact ⟨[], (List.append_nil _).symm, rfl, .nil, fun _ member => absurd member List.not_mem_nil⟩
  | cons handle rest induction =>
      rw [List.foldl_cons]
      rcases add_cases update handle with same | ⟨absent, next, same⟩
      · rw [same]
        exact induction update
      · obtain ⟨moved, news, members, distinct, fresh⟩ := induction (update.add handle)
        rw [same] at news members fresh ⊢
        refine ⟨handle :: moved, by simp [news], members, List.nodup_cons.2 ⟨?_, distinct⟩, ?_⟩
        · intro again
          have outside := fresh handle again
          simp [Catalog.contains, Catalog.find_insert] at outside
        · intro contact member
          rcases List.mem_cons.1 member with here | later
          · rw [here]
            exact absent
          · have outside := fresh contact later
            by_contra inside
            have still := (Catalog.contains_insert update.members handle contact ()).2
              (.inr (by simpa using inside))
            rw [outside] at still
            cases still

theorem left_account {others : Handle → Nat} (handles : List Handle) (update : GroupUpdate)
    (covers : update.repository.Covers fun key => others key + update.members.claim key)
    (usable : update.repository.isUsable = true) :
    ∃ moved, (handles.foldl GroupUpdate.remove update).moved = update.moved ++ moved ∧
      (handles.foldl GroupUpdate.remove update).members = update.members.leave moved ∧
      moved.Nodup ∧ ∀ contact ∈ moved, Catalog.contains update.members contact = true := by
  induction handles generalizing update with
  | nil =>
      exact ⟨[], (List.append_nil _).symm, rfl, .nil, fun _ member => absurd member List.not_mem_nil⟩
  | cons handle rest induction =>
      obtain ⟨fields, repository⟩ : (update.remove handle).members = _ ∧
          (update.remove handle).repository = _ := step_fields HandleSet.remove update handle
      have later := induction (update.remove handle)
        (by
          rw [fields, repository]
          exact HandleSet.remove_keeps Repository.covers_reckoning handle covers)
        (by rw [repository, HandleSet.remove_usable]; exact usable)
      rw [List.foldl_cons]
      rcases remove_cases handle covers usable with same | ⟨present, next, same⟩
      · rw [same] at later ⊢
        exact later
      · obtain ⟨moved, news, members, distinct, stale⟩ := later
        rw [same] at news members stale ⊢
        refine ⟨handle :: moved, by simp [news], members, List.nodup_cons.2 ⟨?_, distinct⟩, ?_⟩
        · intro again
          exact ((Catalog.contains_erase update.members handle handle).1 (stale handle again)).1 rfl
        · intro contact member
          rcases List.mem_cons.1 member with here | later
          · rw [here]
            exact present
          · exact ((Catalog.contains_erase update.members handle contact).1 (stale contact later)).2

/-! What is done to one group. -/

theorem pictured_insert (groups : Catalog String GroupView) (name : String) (view : GroupView) :
    (groups.insert name view).mapValues (fun _ view => view.members)
      = (groups.mapValues fun _ view => view.members).insert name view.members :=
  groups.map_insert _ name view

theorem pictured_find (call : RosterCall β) (name : String) :
    call.roster.pictured.find? name = (call.roster.groups.find? name).map GroupView.members :=
  Catalog.find_map_values _ _ _

theorem leaving_account {name : String} {view : GroupView}
    (found : call.roster.groups.find? name = some view) (add remove : List Handle)
    {added : List Handle} (entrants : (call.joining view add).members = view.members.join added)
    (fit : call.Fit) : ∃ removed, (call.leaving view add remove).moved = removed ∧
      (call.leaving view add remove).members = (view.members.join added).leave removed ∧
      removed.Nodup ∧
      ∀ contact ∈ removed, Catalog.contains (view.members.join added) contact = true := by
  obtain ⟨_, usable, outside, backed⟩ := fit
  obtain ⟨others, split, _, _⟩ := Roster.claims_group found
  have parted : call.repositories.contacts.Covers fun key => others key + view.members.claim key :=
    backed.fewer fun key => by rw [split]; omega
  obtain ⟨removed, moved, members, distinct, stale⟩ := left_account remove
    { members := (call.joining view add).members, repository := (call.joining view add).repository }
    (steps_keep _ (HandleSet.add_keeps Repository.covers_reckoning) add _ parted)
    ((steps_usable _ HandleSet.add_usable add _).trans usable)
  have gone : (call.leaving view add remove).members
      = (view.members.join added).leave removed := by
    rw [← entrants]
    exact members
  dsimp only at stale
  rw [entrants] at stale
  exact ⟨removed, moved.trans (List.nil_append _), gone, distinct, stale⟩

/-- A change of a group, told to a listener who knows its members, or who hears of it for the first
time and is told even that nothing changed. -/
theorem change_group_account {name : String} {view : GroupView}
    (found : call.roster.groups.find? name = some view) (add remove : List Handle) (always : Bool)
    (groups : Catalog String HandleSet) (known : (groups.find? name).getD .empty = view.members)
    (opened : always = true ∨ groups.find? name = some view.members) :
    ∃ events, Aside call events (call.changeGroup name add remove always) ∧
      (call.Fit → Account groups events
        (groups.insert name (call.leaving view add remove).members)) := by
  let changed := call.setMembers name view (call.leaving view add remove).members
    (call.leaving view add remove).repository
  have aside : Aside call [] changed := set_members_aside found add remove
  obtain ⟨added, joins, entered, distinct, fresh⟩ := joined_account add
    { members := view.members, repository := call.repositories.contacts }
  have joined : (call.joining view add).moved = added := joins.trans (List.nil_append _)
  have leaves := leaving_account found add remove entered
  rw [change_group_eq found]
  rcases changed.emit_change_cases (call.groupChange name view add remove) always with
    ⟨nothing, same⟩ | ⟨_, same⟩
  · refine ⟨[], ?_, fun fit => ?_⟩
    · rw [same]
      exact aside
    · obtain ⟨removed, moved, members, _⟩ := leaves fit
      obtain ⟨quiet, empty⟩ := nothing (aside.phase.trans fit.received)
      have idle : added = [] ∧ removed = [] := by
        simpa [MembershipChange.isEmpty, groupChange, joined, moved] using empty
      have kept : (call.leaving view add remove).members = view.members := by
        rw [members, idle.1, idle.2]
        rfl
      rw [kept, Catalog.insert_found (opened.resolve_left (by simp [quiet]))]
      exact .refl groups
  · refine ⟨[.membersChanged (call.groupChange name view add remove).sort], ?_, fun fit => ?_⟩
    · rw [same]
      exact aside.trans (emit_aside changed fun list => rfl)
    · obtain ⟨removed, moved, members, once, stale⟩ := leaves fit
      have alike : view.members.join (MembershipChange.sortHandles added)
          = view.members.join added := by
        apply HandleSet.ext_contains
        intro handle
        rw [HandleSet.contains_join, HandleSet.contains_join, MembershipChange.mem_sort_handles]
      have alikeToo : (view.members.join added).leave (MembershipChange.sortHandles removed)
          = (view.members.join added).leave removed := by
        apply HandleSet.ext_contains
        intro handle
        rw [HandleSet.contains_leave, HandleSet.contains_leave, MembershipChange.mem_sort_handles]
      apply Account.single
      · simp only [RosterEvent.Real, groupChange, MembershipChange.sort, known, joined, moved, alike]
        exact ⟨⟨MembershipChange.sort_handles_nodup distinct, fun contact member =>
            fresh contact (MembershipChange.mem_sort_handles.1 member)⟩,
          MembershipChange.sort_handles_nodup once, fun contact member =>
            stale contact (MembershipChange.mem_sort_handles.1 member)⟩
      · simp only [RosterEvent.follow, groupChange, MembershipChange.sort, known, joined, moved,
          alike, alikeToo, members]

theorem change_group_groups {name : String} {view : GroupView}
    (found : call.roster.groups.find? name = some view) (add remove : List Handle) (always : Bool) :
    (call.changeGroup name add remove always).roster.groups
      = call.roster.groups.insert name
        { view with members := (call.leaving view add remove).members } := by
  rw [change_group_eq found]
  unfold emitChange
  split <;> rfl

theorem change_group_absent {name : String} (absent : call.roster.groups.find? name = none)
    (add remove : List Handle) (always : Bool) : call.changeGroup name add remove always = call := by
  unfold changeGroup
  rw [absent]

theorem change_group_work (call : RosterCall β) (name : String) (add remove : List Handle)
    (always : Bool) : GroupWork call (call.changeGroup name add remove always) := by
  cases found : call.roster.groups.find? name with
  | none =>
      rw [change_group_absent found]
      exact .refl call
  | some view =>
      have known : call.roster.pictured.find? name = some view.members := by
        rw [pictured_find, found]
        rfl
      obtain ⟨events, aside, account⟩ := change_group_account found add remove always
        call.roster.pictured (by rw [known]; rfl) (.inr known)
      refine ⟨events, aside, fun fit => ?_⟩
      have after : (call.changeGroup name add remove always).roster.pictured
          = call.roster.pictured.insert name (call.leaving view add remove).members := by
        unfold Roster.pictured
        rw [change_group_groups found, pictured_insert]
      rw [after]
      exact account fit

theorem ensure_group_outcome (surroundings : Surroundings) (call : RosterCall β) (name : String) :
    ((call.ensureGroup surroundings name).2 = call ∧
        (call.ensureGroup surroundings name).1 ≠ .ok true ∧
        ((call.ensureGroup surroundings name).1 = .ok false →
          call.roster.groups.contains name = true)) ∨
      (call.roster.groups.find? name = none ∧ (call.ensureGroup surroundings name).1 = .ok true ∧
        ∃ channel, (call.ensureGroup surroundings name).2.roster
          = { call.roster with groups := call.roster.groups.insert name { channel } }) := by
  rcases call.ensure_group_cases surroundings name with ⟨failure, same, _⟩ | ⟨view, found, same⟩ |
    ⟨path, repository, handle, next, absent, _, _, _, same⟩
  · rw [same]
    exact .inl ⟨rfl, by simp, by simp⟩
  · rw [same]
    exact .inl ⟨rfl, by simp, fun _ => by simp [Catalog.contains, found]⟩
  · rw [same]
    exact .inr ⟨absent, rfl, _, rfl⟩

variable {surroundings : Surroundings}

/-- One of the groups that are to be there: if it is new, it counts as created. -/
def ensureNext (surroundings : Surroundings) (state : List String × RosterCall β) (name : String) :
    List String × RosterCall β :=
  match state.2.ensureGroup surroundings name with
  | (.ok true, next) => (state.1 ++ [name], next)
  | (_, next) => (state.1, next)

theorem ensure_groups_eq (surroundings : Surroundings) (names : List String) (call : RosterCall β) :
    call.ensureGroups surroundings names = names.foldl (ensureNext surroundings) ([], call) := rfl

theorem ensure_next_cases (surroundings : Surroundings) (created : List String)
    (call : RosterCall β) (name : String) :
    ensureNext surroundings (created, call) name = (created, call) ∨
      (call.roster.groups.find? name = none ∧ ∃ next, Aside call [] next ∧
        next.roster.pictured = call.roster.pictured.insert name .empty ∧
        ensureNext surroundings (created, call) name = (created ++ [name], next)) := by
  rcases call.ensure_group_outcome surroundings name with
    ⟨same, other, _⟩ | ⟨absent, opened, channel, same⟩
  · left
    unfold ensureNext
    split
    · rename_i next answer
      rw [answer] at other
      exact absurd rfl other
    · rename_i next _ answer
      rw [answer] at same
      exact congrArg (Prod.mk created) same
  · refine .inr ⟨absent, _, call.ensure_group_aside surroundings name, ?_, ?_⟩
    · unfold Roster.pictured
      rw [same, pictured_insert]
    · have pair : call.ensureGroup surroundings name
          = (.ok true, (call.ensureGroup surroundings name).2) := Prod.ext opened rfl
      rw [ensureNext, pair]

theorem ensure_along_account (surroundings : Surroundings) (names created : List String)
    (call : RosterCall β) : ∃ more,
      (names.foldl (ensureNext surroundings) (created, call)).1 = created ++ more ∧
        Aside call [] (names.foldl (ensureNext surroundings) (created, call)).2 ∧
        RosterEvent.Real call.roster.pictured (.groupsCreated more) ∧
        (names.foldl (ensureNext surroundings) (created, call)).2.roster.pictured
          = RosterEvent.follow call.roster.pictured (.groupsCreated more) := by
  induction names generalizing created call with
  | nil =>
      exact ⟨[], (List.append_nil _).symm, .refl call,
        ⟨.nil, fun _ member => absurd member List.not_mem_nil⟩, rfl⟩
  | cons name rest induction =>
      rw [List.foldl_cons]
      rcases ensure_next_cases surroundings created call name with
        passed | ⟨absent, next, aside, grown, taken⟩
      · rw [passed]
        exact induction created call
      · obtain ⟨more, names, later, ⟨distinct, closed⟩, pictured⟩ :=
          induction (created ++ [name]) next
        rw [taken]
        rw [grown] at closed pictured
        -- A name that comes again finds its group open, so it counts once.
        refine ⟨name :: more, by simp [names], aside.trans later,
          ⟨List.nodup_cons.2 ⟨?_, distinct⟩, ?_⟩, pictured⟩
        · intro again
          have once := closed name again
          rw [Catalog.find_insert, if_pos rfl] at once
          cases once
        · intro other member
          rcases List.mem_cons.1 member with here | later
          · rw [here, pictured_find, absent]
            rfl
          · have once := closed other later
            rw [Catalog.find_insert] at once
            split at once
            · cases once
            · exact once

theorem ensure_groups_account (surroundings : Surroundings) (names : List String)
    (call : RosterCall β) :
    Aside call [] (call.ensureGroups surroundings names).2 ∧
      RosterEvent.Real call.roster.pictured
        (.groupsCreated (call.ensureGroups surroundings names).1) ∧
      (call.ensureGroups surroundings names).2.roster.pictured
        = RosterEvent.follow call.roster.pictured
          (.groupsCreated (call.ensureGroups surroundings names).1) := by
  obtain ⟨more, all, aside, real, pictured⟩ := ensure_along_account surroundings names [] call
  rw [ensure_groups_eq, all, List.nil_append]
  exact ⟨aside, real, pictured⟩

theorem announce_groups_work (surroundings : Surroundings) (names : List String)
    (call : RosterCall β) : GroupWork call (announceGroups surroundings names call) := by
  obtain ⟨aside, real, pictured⟩ := ensure_groups_account surroundings names call
  unfold announceGroups
  dsimp only
  split
  · rename_i none
    have nothing : (call.ensureGroups surroundings names).1 = [] := List.isEmpty_iff.1 none
    rw [nothing] at pictured
    exact ⟨[], aside, fun _ => ⟨trivial, pictured.symm⟩⟩
  · exact ⟨_, aside.trans (emit_aside _ fun list => rfl), fun _ => .single real pictured.symm⟩

/-- A group whose members move is opened before, without being told of; the renaming tells of it. -/
theorem rename_group_work (surroundings : Surroundings) (old new : String) (call : RosterCall β) :
    GroupWork call (renameGroup surroundings old new call) := by
  rcases rename_group_cases surroundings old new call with
    same | ⟨oldView, channel, next, different, found, absent, opened, groups, same⟩
  · rw [same]
    exact .refl call
  · have aside := call.ensure_group_aside surroundings new
    rw [opened] at aside
    have foundNew : next.roster.groups.find? new = some { channel } := by
      rw [groups, Catalog.find_insert, if_pos rfl]
    have foundOld : next.roster.groups.find? old = some oldView := by
      rw [groups, Catalog.find_insert, if_neg different, found]
    obtain ⟨moved, after⟩ := move_group_aside different foundOld foundNew rfl
    rw [same]
    refine ⟨_, aside.trans moved, fun _ => .single ?_ ?_⟩
    · refine ⟨by rw [pictured_find, absent]; rfl, oldView.members, ?_, rfl⟩
      rw [pictured_find, found]
      rfl
    · unfold Roster.pictured
      rw [after, pictured_insert, groups, RosterEvent.follow, HandleSet.join_to_list,
        Catalog.map_erase, pictured_insert]
      apply Catalog.ext_find
      intro key
      simp only [Catalog.find_insert, Catalog.find_erase]
      grind

theorem remove_group_absent {name : String} (absent : call.roster.groups.find? name = none)
    (removed : List String) : removeGroup (removed, call) name = (removed, call) := by
  have gone : call.dropGroup name = (false, call) := by
    unfold dropGroup
    rw [absent]
  unfold removeGroup
  dsimp only
  rw [change_group_absent absent, gone]

/-- A group that is removed loses its members. That it is gone is told in the end, so that until then
a listener takes it for open. -/
theorem remove_group_account {name : String} {view : GroupView}
    (found : call.roster.groups.find? name = some view) (removed : List String)
    (groups : Catalog String HandleSet)
    (real : RosterEvent.Real groups (.groupsRemoved removed))
    (leads : RosterEvent.follow groups (.groupsRemoved removed) = call.roster.pictured) :
    ∃ next events known, removeGroup (removed, call) name = (removed ++ [name], next) ∧
      Aside call events next ∧ (call.Fit → Account groups events known) ∧
      RosterEvent.Real known (.groupsRemoved (removed ++ [name])) ∧
      RosterEvent.follow known (.groupsRemoved (removed ++ [name])) = next.roster.pictured := by
  let emptied := call.changeGroup name [] (call.roster.groupMembers name) false
  have after := change_group_groups found [] (call.roster.groupMembers name) false
  obtain ⟨dropped, roster, there⟩ := drop_group_aside emptied name
  have open_ : emptied.roster.groups.contains name = true := by
    rw [Catalog.contains, after, Catalog.find_insert, if_pos rfl]
    rfl
  have taken : removeGroup (removed, call) name
      = (removed ++ [name], (emptied.dropGroup name).2) := by
    have pair : emptied.dropGroup name = (true, (emptied.dropGroup name).2) :=
      Prod.ext (there.trans open_) rfl
    unfold removeGroup
    dsimp only
    rw [pair]
  -- The group is still open here, so it is none of those whose end the listener has yet to hear of.
  have known : groups.find? name = some view.members ∧ name ∉ removed := by
    have looked := congrArg (Catalog.find? · name) leads
    rw [RosterEvent.follow, pictured_find, found, Catalog.find_erase_all] at looked
    split at looked
    · cases looked
    · exact ⟨looked, ‹_›⟩
  obtain ⟨events, aside, account⟩ := change_group_account found []
    (call.roster.groupMembers name) false groups (by rw [known.1]; rfl) (.inr known.1)
  refine ⟨(emptied.dropGroup name).2, events ++ [], groups.insert name
    (call.leaving view [] (call.roster.groupMembers name)).members, taken, aside.trans dropped,
    fun fit => by rw [List.append_nil]; exact account fit, ⟨?_, ?_⟩, ?_⟩
  · refine List.nodup_append.2 ⟨real.1, List.nodup_singleton name, ?_⟩
    intro one inside other last same
    rw [same, List.mem_singleton.1 last] at inside
    exact known.2 inside
  · intro other member
    rw [Catalog.contains_insert]
    rcases List.mem_append.1 member with earlier | last
    · exact .inr (real.2 other earlier)
    · exact .inl (List.mem_singleton.1 last)
  · have gone : (emptied.dropGroup name).2.roster.pictured
        = call.roster.pictured.erase name := by
      unfold Roster.pictured
      rw [roster]
      dsimp only
      rw [after, Catalog.map_erase, pictured_insert]
      apply Catalog.ext_find
      intro key
      simp only [Catalog.find_insert, Catalog.find_erase]
      grind
    rw [gone, ← leads]
    apply Catalog.ext_find
    intro key
    simp only [RosterEvent.follow, Catalog.find_erase_all, Catalog.find_erase, Catalog.find_insert]
    grind

theorem remove_groups_account (names removed : List String) (call : RosterCall β)
    (groups : Catalog String HandleSet)
    (real : RosterEvent.Real groups (.groupsRemoved removed))
    (leads : RosterEvent.follow groups (.groupsRemoved removed) = call.roster.pictured) :
    ∃ more events known, (names.foldl removeGroup (removed, call)).1 = removed ++ more ∧
      Aside call events (names.foldl removeGroup (removed, call)).2 ∧
      (call.Fit → Account groups events known) ∧
      RosterEvent.Real known (.groupsRemoved (removed ++ more)) ∧
      RosterEvent.follow known (.groupsRemoved (removed ++ more))
        = (names.foldl removeGroup (removed, call)).2.roster.pictured := by
  induction names generalizing removed call groups with
  | nil =>
      rw [← List.append_nil removed] at real leads
      exact ⟨[], [], groups, (List.append_nil _).symm, .refl call, fun _ => .refl groups, real, leads⟩
  | cons name rest induction =>
      rw [List.foldl_cons]
      cases found : call.roster.groups.find? name with
      | none =>
          rw [remove_group_absent found]
          exact induction removed call groups real leads
      | some view =>
          obtain ⟨next, events, known, taken, aside, account, realToo, leadsToo⟩ :=
            remove_group_account found removed groups real leads
          obtain ⟨more, further, last, all, later, accountToo, realLast, leadsLast⟩ :=
            induction (removed ++ [name]) next known realToo leadsToo
          rw [taken]
          refine ⟨name :: more, events ++ further, last, by simp [all], aside.trans later,
            fun fit => (account fit).trans (accountToo (aside.toPart.fit fit)), ?_, ?_⟩
          · rw [List.append_cons]
            exact realLast
          · rw [List.append_cons]
            exact leadsLast

/-! Everything that is done to groups in a call. -/

variable [RosterBackend β]

omit [RosterBackend β] in
theorem when_received_work {action : RosterCall β → RosterCall β} (call : RosterCall β)
    (work : GroupWork call (action call)) : GroupWork call (call.whenReceived action) := by
  unfold whenReceived
  split
  · exact work
  · exact .refl call

theorem groups_created_work (surroundings : Surroundings) (names : List String)
    (call : RosterCall β) : GroupWork call (groupsCreated surroundings names call) :=
  when_received_work call (announce_groups_work surroundings _ call)

theorem groups_removed_work (names : List String) (call : RosterCall β) :
    GroupWork call (groupsRemoved names call) := by
  apply when_received_work
  obtain ⟨removed, events, known, all, aside, account, real, leads⟩ := remove_groups_account
    (names.filterMap call.roster.normalizeGroup) [] call call.roster.pictured
    ⟨.nil, fun _ member => absurd member List.not_mem_nil⟩ rfl
  rw [List.nil_append] at all real leads
  dsimp only
  rw [all]
  split
  · rename_i none
    rw [List.isEmpty_iff.1 none] at leads
    exact ⟨events, aside, fun fit => leads ▸ account fit⟩
  · exact ⟨_, aside.trans (emit_aside _ fun list => rfl),
      fun fit => (account fit).trans (.single real leads)⟩

theorem group_renamed_work (surroundings : Surroundings) (old new : String) (call : RosterCall β) :
    GroupWork call (groupRenamed surroundings old new call) := by
  apply when_received_work
  split
  · exact rename_group_work surroundings _ _ call
  · exact .refl call

theorem groups_changed_work (surroundings : Surroundings) (contacts : List Handle)
    (added removed : List String) (call : RosterCall β) :
    GroupWork call (groupsChanged surroundings contacts added removed call) := by
  apply when_received_work
  have created : GroupWork call _ :=
    announce_groups_work surroundings (added.filterMap call.roster.normalizeGroup) call
  have joined := created.trans (fold_group_work (fun current name =>
    change_group_work current name contacts [] false)
      (added.filterMap call.roster.normalizeGroup) _)
  exact joined.trans (fold_group_work (fun current name =>
    change_group_work current name [] contacts false)
      (removed.filterMap call.roster.normalizeGroup) _)

theorem answer_group_work (surroundings : Surroundings) (call : RosterCall β) (name : String) :
    GroupWork call (call.answerGroup surroundings name).2 := by
  have aside := call.ensure_group_aside surroundings name
  have answering := answer_group_answering surroundings call name
  generalize call.answerGroup surroundings name = given at answering ⊢
  cases answering with
  | existing | unavailable | failed => exact .refl call
  | @created path _ _ handle absent reached found interned =>
      rw [ensure_group_opened absent reached found interned] at aside
      refine ⟨_, aside.trans (emit_aside _ fun list => rfl), fun _ => .single ?_ ?_⟩
      · refine ⟨List.nodup_singleton name, fun other member => ?_⟩
        rw [List.mem_singleton.1 member, pictured_find, absent]
        rfl
      · exact (pictured_insert call.roster.groups name
          { channel := ⟨path, contactListType, .group, handle⟩ }).symm

theorem answer_work (surroundings : Surroundings) (call : RosterCall β) (request : ChannelRequest) :
    GroupWork call (call.answer surroundings request).2 := by
  unfold answer
  split
  · split
    · exact .refl call
    · split <;> exact .refl call
  · split
    · exact .refl call
    · split
      · exact .refl call
      · exact answer_group_work surroundings call _
  all_goals exact .refl call

theorem finish_queued_work (surroundings : Surroundings) (call : RosterCall β)
    (entry : Token × ChannelRequest) : GroupWork call (call.finishQueued surroundings entry) := by
  have answered : GroupWork call _ := answer_work surroundings call entry.2
  unfold finishQueued
  dsimp only
  split
  · exact .refl call
  · split
    · exact answered
    · exact answered
    · exact answered
    · exact answered.trans ⟨[], report_aside _ _, fun _ => .refl _⟩

omit [RosterBackend β] in
theorem receive_group_work (surroundings : Surroundings) (call : RosterCall β)
    (entry : String × List Handle) : GroupWork call (call.receiveGroup surroundings entry) := by
  have aside := call.ensure_group_aside surroundings entry.1
  unfold receiveGroup
  rcases call.ensure_group_outcome surroundings entry.1 with
    ⟨same, _, _⟩ | ⟨absent, opened, channel, same⟩
  · split
    · rename_i failure next answer
      rw [answer] at same
      have idle : next = call := same
      rw [idle]
      exact .refl call
    · rename_i created next answer
      rw [answer] at same
      have idle : next = call := same
      rw [idle]
      exact change_group_work call entry.1 entry.2 [] true
  · let next := (call.ensureGroup surroundings entry.1).2
    have pair : call.ensureGroup surroundings entry.1 = (.ok true, next) := Prod.ext opened rfl
    have groups : next.roster.groups = call.roster.groups.insert entry.1 { channel } :=
      congrArg Roster.groups same
    have found : next.roster.groups.find? entry.1 = some { channel } := by
      rw [groups, Catalog.find_insert, if_pos rfl]
    have unknown : call.roster.pictured.find? entry.1 = none := by
      rw [pictured_find, absent]
      rfl
    obtain ⟨events, changed, account⟩ := change_group_account found entry.2 [] true
      call.roster.pictured (by rw [unknown]; rfl) (.inl rfl)
    rw [pair]
    refine ⟨_, aside.trans changed, fun fit => ?_⟩
    have after : (next.changeGroup entry.1 entry.2 [] true).roster.pictured
        = call.roster.pictured.insert entry.1 (next.leaving { channel } entry.2 []).members := by
      unfold Roster.pictured
      rw [change_group_groups found, groups, pictured_insert, pictured_insert]
      apply Catalog.ext_find
      intro key
      simp only [Catalog.find_insert]
      grind
    rw [after]
    exact account (aside.toPart.fit fit)

theorem receive_groups_work (surroundings : Surroundings) (contacts : List Handle)
    (call : RosterCall β) : GroupWork call (call.receiveGroups surroundings contacts) := by
  unfold receiveGroups
  split
  · split
    · exact .refl call
    · exact fold_group_work (receive_group_work surroundings) _ call
  · exact .refl call

theorem finish_all_work (surroundings : Surroundings) (call : RosterCall β) :
    GroupWork call.forgetting (call.finishAll surroundings) :=
  fold_group_work (finish_queued_work surroundings) _ _

end RosterCall

end ConnectionManager
