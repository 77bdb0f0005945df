import ConnectionManager.Proofs.Roster.Moves
import ConnectionManager.Proofs.Roster.Placement
import Mathlib.Algebra.Ring.Nat

/-!
The references that a roster keeps, on contacts and on its groups, and what it does to lists and
groups in a call. References that are in account, with those of others, stay so, however account is
kept; what is done to groups leaves the lists alone, and the other way round.
-/

namespace ConnectionManager

namespace Catalog

variable {κ ν : Type} [Ord κ] [Std.TransOrd κ] [Std.LawfulEqOrd κ]

theorem sum_insert (catalog : Catalog κ ν) (key : κ) (value : ν) (read : ν → Nat) :
    ((catalog.insert key value).values.map read).sum
      = read value + ((catalog.erase key).values.map read).sum := by
  have entries := Entries.insert_perm key value catalog.ascending
  have values : ((catalog.insert key value).values.map read).Perm
      (read value :: (catalog.erase key).values.map read) := (entries.map Prod.snd).map read
  exact values.sum_nat

theorem sum_split {catalog : Catalog κ ν} {key : κ} {value : ν}
    (found : catalog.find? key = some value) (read : ν → Nat) :
    (catalog.values.map read).sum = read value + ((catalog.erase key).values.map read).sum :=
  (values_erase_perm found read).sum_nat

omit [Std.TransOrd κ] in
theorem erase_absent {catalog : Catalog κ ν} {key : κ} (absent : catalog.find? key = none) :
    catalog.erase key = catalog := by
  have entries : Entries.erase key catalog.entries = catalog.entries := Entries.erase_absent absent
  cases catalog
  simp only [erase] at entries ⊢
  simp only [entries]

end Catalog

namespace RosterEvent

/-- The change of a list that an event tells of. -/
def ofList (list : ListName) : RosterEvent → Option MembershipChange
  | .membersChanged change => if change.view = .list list then some change else none
  | .groupsCreated _ | .groupsRemoved _ | .groupRenamed .. => none

end RosterEvent

namespace Roster

variable {β : Type}

/-- The references that the views of a roster keep on a contact. -/
def claims (roster : Roster β) (handle : Handle) : Nat :=
  (roster.lists.values.map fun view => view.claims handle).sum
    + (roster.groups.values.map fun view => view.members.claim handle).sum

/-- The references that a roster keeps on a group: one for each view with this handle. -/
def groupClaims (roster : Roster β) (handle : Handle) : Nat :=
  (roster.groups.values.map fun view => single view.channel.handle handle).sum

theorem claims_list {roster : Roster β} {list : ListName} {view : ListView}
    (found : roster.lists.find? list = some view) : ∃ others : Handle → Nat,
      (∀ key, roster.claims key = others key + view.claims key) ∧
        ∀ changed key, ({ roster with lists := roster.lists.insert list changed }).claims key
          = others key + changed.claims key := by
  refine ⟨fun key => ((roster.lists.erase list).values.map fun view => view.claims key).sum
    + (roster.groups.values.map fun view => view.members.claim key).sum, ?_, ?_⟩
  · intro key
    simp only [claims, Catalog.sum_split found]
    omega
  · intro changed key
    simp only [claims, Catalog.sum_insert]
    omega

theorem claims_group {roster : Roster β} {name : String} {view : GroupView}
    (found : roster.groups.find? name = some view) : ∃ others : Handle → Nat,
      (∀ key, roster.claims key = others key + view.members.claim key) ∧
        (∀ key, ({ roster with groups := roster.groups.erase name }).claims key = others key) ∧
        ∀ changed key, ({ roster with groups := roster.groups.insert name changed }).claims key
          = others key + changed.members.claim key := by
  refine ⟨fun key => (roster.lists.values.map fun view => view.claims key).sum
    + ((roster.groups.erase name).values.map fun view => view.members.claim key).sum, ?_, ?_, ?_⟩
  · intro key
    simp only [claims, Catalog.sum_split found]
    omega
  · exact fun key => rfl
  · intro changed key
    simp only [claims, Catalog.sum_insert]
    omega

theorem group_claims_split {roster : Roster β} {name : String} {view : GroupView}
    (found : roster.groups.find? name = some view) (key : Handle) :
    roster.groupClaims key = ({ roster with groups := roster.groups.erase name }).groupClaims key
      + single view.channel.handle key := by
  rw [groupClaims, Catalog.sum_split found, Nat.add_comm]
  rfl

theorem group_claims_changed {roster : Roster β} {name : String} {view : GroupView}
    (found : roster.groups.find? name = some view) (changed : GroupView)
    (same : changed.channel.handle = view.channel.handle) (key : Handle) :
    ({ roster with groups := roster.groups.insert name changed }).groupClaims key
      = roster.groupClaims key := by
  simp only [groupClaims, Catalog.sum_insert, Catalog.sum_split found, same]

end Roster

namespace RosterCall

variable {β : Type} {call next last : RosterCall β} {events more : List RosterEvent}

/-- The references that the views keep on contacts are in account, with others that are kept
`outside`. -/
def KeepsContacts (keeps : Repository → (Handle → Nat) → Prop) (outside : Handle → Nat)
    (call : RosterCall β) : Prop :=
  keeps call.repositories.contacts fun key => call.roster.claims key + outside key

/-- The references that are kept on groups are in account, with others that are kept `outside`. -/
def KeepsGroups (keeps : Repository → (Handle → Nat) → Prop) (outside : Handle → Nat)
    (call : RosterCall β) : Prop :=
  ∀ repository, call.repositories.get .group = .ok repository →
    keeps repository fun key => call.roster.groupClaims key + outside key

def Backed (outside : Handle → Nat) (call : RosterCall β) : Prop :=
  call.repositories.contacts.Covers fun key => call.roster.claims key + outside key

/-- What is in account stays so, however account is kept. -/
structure Conserving (call next : RosterCall β) : Prop where
  contacts : ∀ {keeps}, Repository.Reckoning keeps → ∀ outside,
    call.KeepsContacts keeps outside → next.KeepsContacts keeps outside
  groups : ∀ {keeps}, Repository.Reckoning keeps → ∀ outside,
    call.KeepsGroups keeps outside → next.KeepsGroups keeps outside

theorem Conserving.still (repositories : next.repositories = call.repositories)
    (lists : next.roster.lists = call.roster.lists)
    (groups : next.roster.groups = call.roster.groups) : Conserving call next := by
  constructor
  · intro keeps reckoning outside kept
    unfold KeepsContacts Roster.claims at kept ⊢
    rwa [repositories, lists, groups]
  · intro keeps reckoning outside kept
    unfold KeepsGroups Roster.groupClaims at kept ⊢
    rwa [repositories, groups]

theorem Conserving.refl (call : RosterCall β) : Conserving call call := .still rfl rfl rfl

theorem Conserving.trans (first : Conserving call next) (second : Conserving next last) :
    Conserving call last where
  contacts reckoning outside kept :=
    second.contacts reckoning outside (first.contacts reckoning outside kept)
  groups reckoning outside kept :=
    second.groups reckoning outside (first.groups reckoning outside kept)

/-- What happens in a part of a call: some events are told, and what is in account stays so. -/
structure Part (call : RosterCall β) (events : List RosterEvent) (next : RosterCall β) : Prop
    extends Conserving call next where
  phase : next.roster.phase = call.roster.phase
  backend : next.roster.backend = call.roster.backend
  told : next.roster.events.entries = call.roster.events.entries ++ events
  usable : next.repositories.contacts.isUsable = call.repositories.contacts.isUsable

/-- A part that leaves the lists alone and tells nothing of them. -/
structure Aside (call : RosterCall β) (events : List RosterEvent) (next : RosterCall β) : Prop
    extends Part call events next where
  lists : next.roster.lists = call.roster.lists
  silent : ∀ event ∈ events, ∀ list, event.ofList list = none

theorem Part.refl (call : RosterCall β) : Part call [] call :=
  ⟨.refl call, rfl, rfl, (List.append_nil _).symm, rfl⟩

theorem Part.backed (part : Part call events next) (outside : Handle → Nat)
    (backed : call.Backed outside) : next.Backed outside :=
  part.contacts Repository.covers_reckoning outside backed

theorem Part.trans (first : Part call events next) (second : Part next more last) :
    Part call (events ++ more) last where
  phase := second.phase.trans first.phase
  backend := second.backend.trans first.backend
  told := by rw [second.told, first.told, List.append_assoc]
  usable := second.usable.trans first.usable
  toConserving := first.toConserving.trans second.toConserving

theorem Aside.refl (call : RosterCall β) : Aside call [] call :=
  ⟨.refl call, rfl, fun _ member => absurd member List.not_mem_nil⟩

theorem Aside.trans (first : Aside call events next) (second : Aside next more last) :
    Aside call (events ++ more) last where
  toPart := first.toPart.trans second.toPart
  lists := second.lists.trans first.lists
  silent event member := (List.mem_append.1 member).elim (first.silent event) (second.silent event)

end RosterCall

namespace Repositories

variable {repositories : Repositories}

theorem set_group_contacts (repositories : Repositories) (repository : Repository) :
    (repositories.set .group repository).contacts = repositories.contacts :=
  set_other_contacts (by decide)

end Repositories

namespace HandleSet

theorem add_usable (set : HandleSet) (repository : Repository) (handle : Handle) :
    (set.add repository handle).repository.isUsable = repository.isUsable := by
  rcases set.add_cases repository handle with ⟨_, same⟩ | ⟨_, next, done, same⟩ | ⟨_, _, _, same⟩
  · rw [same]
  · rw [same]
    exact (Repository.add_reference_taken done).usable
  · rw [same]

theorem remove_usable (set : HandleSet) (repository : Repository) (handle : Handle) :
    (set.remove repository handle).repository.isUsable = repository.isUsable := by
  rcases set.remove_cases repository handle with ⟨_, same⟩ | ⟨_, next, done, same⟩ | ⟨_, _, _, same⟩
  · rw [same]
  · rw [same]
    exact (Repository.drop_reference_returned done).usable
  · rw [same]

theorem clear_usable (set : HandleSet) (repository : Repository) :
    (set.clear repository).isUsable = repository.isUsable := by
  have along : ∀ (handles : List Handle) (current : Repository),
      (current.tryEach (·.dropReference ·) handles).isUsable = current.isUsable := by
    intro handles
    induction handles with
    | nil => exact fun current => rfl
    | cons handle rest induction =>
        intro current
        refine (induction _).trans ?_
        change (current.orUnchanged (current.dropReference handle)).isUsable = current.isUsable
        cases done : current.dropReference handle with
        | ok next => exact (Repository.drop_reference_returned done).usable
        | error failure => rfl
  exact along _ repository

end HandleSet

namespace RosterCall

variable {β : Type} {call : RosterCall β} {surroundings : Surroundings}

theorem report_aside (call : RosterCall β) (report : Report) : Aside call [] (call.report report) :=
  ⟨⟨.still rfl rfl rfl, rfl, rfl, (List.append_nil _).symm, rfl⟩, rfl,
    fun _ member => absurd member List.not_mem_nil⟩

theorem emit_aside (call : RosterCall β) {event : RosterEvent}
    (silent : ∀ list, event.ofList list = none) : Aside call [event] (call.emit event) where
  phase := rfl
  backend := rfl
  told := rfl
  usable := rfl
  toConserving := .still rfl rfl rfl
  lists := rfl
  silent other member := by
    rw [List.mem_singleton.1 member]
    exact silent

theorem ensure_group_aside (surroundings : Surroundings) (call : RosterCall β) (name : String) :
    Aside call [] (call.ensureGroup surroundings name).2 := by
  rcases call.ensure_group_cases surroundings name with ⟨failure, same, _⟩ | ⟨view, _, same⟩ |
    ⟨path, repository, handle, next, absent, _, found, interned, same⟩
  · rw [same]
    exact .refl call
  · rw [same]
    exact .refl call
  · have contacts := call.repositories.set_group_contacts next
    rw [same]
    refine {
      phase := rfl
      backend := rfl
      told := (List.append_nil _).symm
      usable := congrArg Repository.isUsable contacts
      contacts := ?_
      groups := ?_
      lists := rfl
      silent := fun _ member => absurd member List.not_mem_nil }
    · intro keeps reckoning outside kept
      have unclaimed : ∀ key, ((call.roster.groups.insert name
          { channel := ⟨path, contactListType, .group, handle⟩ }).values.map fun view =>
            view.members.claim key).sum
          = (call.roster.groups.values.map fun view => view.members.claim key).sum := by
        intro key
        rw [Catalog.sum_insert, Catalog.erase_absent absent]
        exact Nat.zero_add _
      unfold KeepsContacts Roster.claims at kept ⊢
      simp only [report, contacts, unclaimed]
      exact kept
    · intro keeps reckoning outside kept changed known
      have given : (call.repositories.set .group next).get .group = .ok changed := known
      rw [Repositories.get_set found] at given
      cases given
      have more := reckoning.interned interned (kept repository found)
      refine cast (congrArg (keeps next) (funext fun key => ?_)) more
      simp only [report, Roster.groupClaims, Catalog.sum_insert, Catalog.erase_absent absent]
      omega

/-- A group gives its reference back, and whoever else keeps references notices nothing. -/
theorem release_group_keeps {keeps : Repository → (Handle → Nat) → Prop}
    (reckoning : Repository.Reckoning keeps) {handle : Handle} {others : Handle → Nat}
    (kept : ∀ repository, call.repositories.get .group = .ok repository →
      keeps repository fun key => others key + single handle key) :
    ∀ repository, (call.releaseGroupHandle handle).repositories.get .group = .ok repository →
      keeps repository others := by
  intro repository known
  unfold releaseGroupHandle at known
  cases found : call.repositories.get .group with
  | error failure =>
      rw [found] at known
      dsimp only at known
      rw [found] at known
      cases known
  | ok before =>
      rw [found] at known
      dsimp only at known
      rw [Repositories.get_set found] at known
      cases known
      cases done : before.dropReference handle with
      | ok next => exact reckoning.returned done (kept before found)
      | error failure => exact reckoning.refused done (kept before found)

theorem release_group_frame (call : RosterCall β) (handle : Handle) :
    (call.releaseGroupHandle handle).roster = call.roster ∧
      (call.releaseGroupHandle handle).repositories.contacts = call.repositories.contacts := by
  unfold releaseGroupHandle
  split
  · exact ⟨rfl, rfl⟩
  · exact ⟨rfl, call.repositories.set_group_contacts _⟩

/-- Groups change, with one of them giving its reference back, while what is left is in account. -/
theorem regroup_aside (call : RosterCall β) (groups : Catalog String GroupView)
    {contacts : Repository} {handle : Handle}
    (usable : contacts.isUsable = call.repositories.contacts.isUsable)
    (kept : ∀ {keeps}, Repository.Reckoning keeps → ∀ outside, call.KeepsContacts keeps outside →
      keeps contacts fun key => ({ call.roster with groups }).claims key + outside key)
    (left : ∀ key, call.roster.groupClaims key
      = ({ call.roster with groups }).groupClaims key + single handle key) :
    Aside call [] ((({ call with roster := { call.roster with groups } }).withContacts
      contacts).releaseGroupHandle handle) := by
  obtain ⟨roster, released⟩ := release_group_frame
    (({ call with roster := { call.roster with groups } }).withContacts contacts) handle
  refine {
    phase := by rw [roster]; rfl
    backend := by rw [roster]; rfl
    told := by rw [roster]; exact (List.append_nil _).symm
    usable := by rw [released]; exact usable
    contacts := ?_
    groups := ?_
    lists := by rw [roster]; rfl
    silent := fun _ member => absurd member List.not_mem_nil }
  · intro keeps reckoning outside before
    unfold KeepsContacts
    rw [roster, released]
    exact kept reckoning outside before
  · intro keeps reckoning outside before
    unfold KeepsGroups
    rw [roster]
    refine release_group_keeps reckoning fun repository found => ?_
    refine cast (congrArg (keeps repository) (funext fun key => ?_)) (before repository found)
    rw [left]
    exact Nat.add_right_comm _ _ _

theorem drop_group_aside (call : RosterCall β) (name : String) :
    Aside call [] (call.dropGroup name).2 ∧
      (call.dropGroup name).2.roster = { call.roster with groups := call.roster.groups.erase name } ∧
      (call.dropGroup name).1 = call.roster.groups.contains name := by
  unfold dropGroup Catalog.contains
  cases found : call.roster.groups.find? name with
  | none =>
      have unchanged : call.roster.groups.erase name = call.roster.groups :=
        Catalog.erase_absent found
      rw [unchanged]
      exact ⟨.refl call, rfl, rfl⟩
  | some view =>
      dsimp only
      obtain ⟨others, split, erased, _⟩ := Roster.claims_group found
      have cleared := call.regroup_aside (call.roster.groups.erase name)
        (HandleSet.clear_usable view.members call.repositories.contacts) (by
          intro keeps reckoning outside kept
          refine HandleSet.clear_keeps reckoning ?_
          refine cast (congrArg (keeps _) (funext fun key => ?_)) kept
          rw [split, erased]
          exact Nat.add_right_comm _ _ _)
        (Roster.group_claims_split found)
      exact ⟨cleared.trans (report_aside _ _), (release_group_frame _ _).1, rfl⟩

section Steps

variable {keeps : Repository → (Handle → Nat) → Prop} {others : Handle → Nat}
  (change : HandleSet → Repository → Handle → HandleSet.Change)

/-- What one change of a set keeps in account, a change of the members keeps. -/
theorem steps_keep (keeping : ∀ {set : HandleSet} {repository : Repository} (handle : Handle),
      (keeps repository fun key => others key + set.claim key) →
        keeps (change set repository handle).repository
          fun key => others key + (change set repository handle).set.claim key)
    (handles : List Handle) (update : GroupUpdate)
    (kept : keeps update.repository fun key => others key + update.members.claim key) :
    keeps (handles.foldl (GroupUpdate.step change) update).repository fun key =>
      others key + (handles.foldl (GroupUpdate.step change) update).members.claim key := by
  induction handles generalizing update with
  | nil => exact kept
  | cons handle rest induction =>
      obtain ⟨members, repository⟩ := step_fields change update handle
      apply induction
      rw [members, repository]
      exact keeping handle kept

theorem steps_usable (lasting : ∀ set repository handle,
      (change set repository handle).repository.isUsable = repository.isUsable)
    (handles : List Handle) (update : GroupUpdate) :
    (handles.foldl (GroupUpdate.step change) update).repository.isUsable
      = update.repository.isUsable := by
  induction handles generalizing update with
  | nil => rfl
  | cons handle rest induction =>
      rw [List.foldl_cons, induction, (step_fields change update handle).2]
      exact lasting _ _ _

end Steps

def joining (call : RosterCall β) (view : GroupView) (add : List Handle) : GroupUpdate :=
  add.foldl GroupUpdate.add { members := view.members, repository := call.repositories.contacts }

def leaving (call : RosterCall β) (view : GroupView) (add remove : List Handle) : GroupUpdate :=
  remove.foldl GroupUpdate.remove
    { members := (call.joining view add).members, repository := (call.joining view add).repository }

def groupChange (call : RosterCall β) (name : String) (view : GroupView) (add remove : List Handle) :
    MembershipChange :=
  { view := .group name, added := (call.joining view add).moved,
    removed := (call.leaving view add remove).moved }

theorem change_group_eq {name : String} {view : GroupView}
    (found : call.roster.groups.find? name = some view) (add remove : List Handle) (always : Bool) :
    call.changeGroup name add remove always
      = (call.setMembers name view (call.leaving view add remove).members
          (call.leaving view add remove).repository).emitChange
        (call.groupChange name view add remove) always := by
  unfold changeGroup
  rw [found]
  rfl

theorem leaving_usable (call : RosterCall β) (view : GroupView) (add remove : List Handle) :
    (call.leaving view add remove).repository.isUsable = call.repositories.contacts.isUsable :=
  (steps_usable _ HandleSet.remove_usable remove _).trans (steps_usable _ HandleSet.add_usable add _)

theorem leaving_keeps {keeps : Repository → (Handle → Nat) → Prop} {others : Handle → Nat}
    (reckoning : Repository.Reckoning keeps) (view : GroupView) (add remove : List Handle)
    (kept : keeps call.repositories.contacts fun key => others key + view.members.claim key) :
    keeps (call.leaving view add remove).repository fun key =>
      others key + (call.leaving view add remove).members.claim key :=
  steps_keep _ (HandleSet.remove_keeps reckoning) remove
    { members := (call.joining view add).members, repository := (call.joining view add).repository }
    (steps_keep _ (HandleSet.add_keeps reckoning) add
      { members := view.members, repository := call.repositories.contacts } kept)

theorem set_members_aside {name : String} {view : GroupView}
    (found : call.roster.groups.find? name = some view) (add remove : List Handle) :
    Aside call [] (call.setMembers name view (call.leaving view add remove).members
      (call.leaving view add remove).repository) where
  phase := rfl
  backend := rfl
  told := (List.append_nil _).symm
  usable := leaving_usable call view add remove
  contacts := by
    intro keeps reckoning outside kept
    obtain ⟨others, split, _, changed⟩ := Roster.claims_group found
    have parted : keeps call.repositories.contacts fun key =>
        others key + outside key + view.members.claim key := by
      refine cast (congrArg (keeps _) (funext fun key => ?_)) kept
      rw [split]
      exact Nat.add_right_comm _ _ _
    have left := leaving_keeps reckoning view add remove parted
    refine cast (congrArg (keeps _) (funext fun key => ?_)) left
    refine (Nat.add_right_comm _ _ _).trans (congrArg (· + outside key) ?_)
    exact (changed { view with members := (call.leaving view add remove).members } key).symm
  groups := by
    intro keeps reckoning outside kept repository known
    refine cast (congrArg (keeps repository) (funext fun key => ?_)) (kept repository known)
    exact congrArg (· + outside key) (Roster.group_claims_changed found
      { view with members := (call.leaving view add remove).members } rfl key).symm
  lists := rfl
  silent _ member := absurd member List.not_mem_nil

theorem emit_change_cases (call : RosterCall β) (change : MembershipChange) (always : Bool) :
    ((call.roster.phase = .received → always = false ∧ change.isEmpty = true) ∧
        call.emitChange change always = call) ∨
      (call.roster.phase = .received ∧
        call.emitChange change always = call.emit (.membersChanged change.sort)) := by
  unfold emitChange
  split
  · rename_i silent
    refine .inl ⟨fun received => ?_, rfl⟩
    simpa [received] using silent
  · rename_i told
    have received : call.roster.phase = .received := by
      by_contra other
      exact told (by simp [other])
    exact .inr ⟨received, rfl⟩

/-- A group that hands its members to one that has none gives its own reference back. -/
theorem move_group_aside {old new : String} {oldView newView : GroupView} (different : old ≠ new)
    (foundOld : call.roster.groups.find? old = some oldView)
    (foundNew : call.roster.groups.find? new = some newView)
    (bare : newView.members = .empty) :
    Aside call [.groupRenamed old new (HandleSet.toList oldView.members)]
        (moveGroup old new oldView newView call) ∧
      (moveGroup old new oldView newView call).roster.groups
        = (call.roster.groups.erase old).insert new { newView with members := oldView.members } := by
  have still : (call.roster.groups.erase old).find? new = some newView := by
    rw [Catalog.find_erase, if_neg different.symm, foundNew]
  let handed : Catalog String GroupView :=
    (call.roster.groups.erase old).insert new { newView with members := oldView.members }
  have claims : ∀ key, ({ call.roster with groups := handed }).claims key
      = call.roster.claims key := by
    intro key
    have before := Catalog.sum_split foundOld fun view => view.members.claim key
    have rest := Catalog.sum_split still fun view => view.members.claim key
    have after := (call.roster.groups.erase old).sum_insert new
      { newView with members := oldView.members } fun view => view.members.claim key
    have none : newView.members.claim key = 0 := by
      rw [bare]
      rfl
    dsimp only at after
    simp only [Roster.claims, handed]
    omega
  have left : ∀ key, call.roster.groupClaims key
      = ({ call.roster with groups := handed }).groupClaims key
        + single oldView.channel.handle key := by
    intro key
    let without : Roster β := { call.roster with groups := call.roster.groups.erase old }
    have still : without.groups.find? new = some newView := still
    have same := Roster.group_claims_changed still { newView with members := oldView.members } rfl key
    rw [Roster.group_claims_split foundOld]
    exact congrArg (· + single oldView.channel.handle key) same.symm
  have kept : ∀ {keeps}, Repository.Reckoning keeps → ∀ outside, call.KeepsContacts keeps outside →
      keeps call.repositories.contacts fun key =>
        ({ call.roster with groups := handed }).claims key + outside key := by
    intro keeps reckoning outside kept
    simp only [claims]
    exact kept
  have moved := call.regroup_aside handed rfl kept left
  exact ⟨(moved.trans (report_aside _ _)).trans (emit_aside _ fun list => rfl),
    congrArg Roster.groups (release_group_frame _ _).1⟩

end RosterCall

end ConnectionManager
