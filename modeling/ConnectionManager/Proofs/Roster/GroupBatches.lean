import ConnectionManager.Proofs.Roster.ListBatches

/-!
What the groups of a roster tell when it arrives: one change for each group whose name the repository
of groups takes, by name, with every member once. Names that a backend writes differently can be the
same group. A contact whose handle is not valid does not come in.
-/

namespace ConnectionManager

namespace Repository

/-- The names that a repository takes when they are interned one after another. -/
def taking : Repository → List String → List String
  | _, [] => []
  | repository, name :: rest =>
      match repository.intern name with
      | .ok (_, next) => name :: next.taking rest
      | .error _ => repository.taking rest

end Repository

/-- The groups that can be created among some, in turn. -/
def Repositories.creatable (repositories : Repositories) (names : List String) : List String :=
  match repositories.get .group with
  | .ok repository => repository.taking names
  | .error _ => []

/-! The groups of the backend, by name. -/

namespace GroupSource

variable {source : GroupSource} {contacts : List Handle} {name : String} {contact : Handle}

/-- Whether a contact is in a group, however its name is written. -/
def Places (source : GroupSource) (name : String) (contact : Handle) : Prop :=
  ∃ written ∈ source.ofContact contact, source.normalize written = some name

/-- Whether there is a group of a name: by itself or because a contact is in it. -/
def Knows (source : GroupSource) (contacts : List Handle) (name : String) : Prop :=
  (∃ written ∈ source.names, source.normalize written = some name) ∨
    ∃ contact ∈ contacts, source.Places name contact

/-- One contact joins one group. -/
def enter (catalog : Catalog String (List Handle)) (entry : String × Handle) :
    Catalog String (List Handle) :=
  catalog.insert entry.1 ((catalog.find? entry.1).getD [] ++ [entry.2])

def memberships (source : GroupSource) (contacts : List Handle) : List (String × Handle) :=
  contacts.flatMap fun contact => (source.ofContact contact).filterMap fun group =>
    (source.normalize group).map fun name => (name, contact)

theorem mem_memberships :
    (name, contact) ∈ source.memberships contacts ↔ contact ∈ contacts ∧ source.Places name contact := by
  simp only [memberships, Places, List.mem_flatMap, List.mem_filterMap, Option.map_eq_some_iff,
    Prod.mk.injEq]
  constructor
  · rintro ⟨_, member, written, inside, _, normal, rfl, rfl⟩
    exact ⟨member, written, inside, normal⟩
  · rintro ⟨member, written, inside, normal⟩
    exact ⟨contact, member, written, inside, name, normal, rfl, rfl⟩

theorem enter_members (entries : List (String × Handle)) (catalog : Catalog String (List Handle)) :
    contact ∈ ((entries.foldl enter catalog).find? name).getD [] ↔
      contact ∈ (catalog.find? name).getD [] ∨ (name, contact) ∈ entries := by
  induction entries generalizing catalog with
  | nil => simp
  | cons entry rest induction =>
      rw [List.foldl_cons, induction, enter, Catalog.find_insert, List.mem_cons]
      by_cases same : name = entry.1
      · subst same
        simp [Prod.ext_iff, or_assoc]
      · simp [Prod.ext_iff, same]

theorem enter_names (entries : List (String × Handle)) (catalog : Catalog String (List Handle)) :
    (entries.foldl enter catalog).contains name = true ↔
      catalog.contains name = true ∨ ∃ contact, (name, contact) ∈ entries := by
  induction entries generalizing catalog with
  | nil => simp
  | cons entry rest induction =>
      rw [List.foldl_cons, induction, enter, Catalog.contains_insert]
      obtain ⟨other, contact⟩ := entry
      simp only [List.mem_cons, Prod.mk.injEq, exists_or]
      grind

/-- The groups that there are by themselves, without members. -/
def own (source : GroupSource) : Catalog String (List Handle) :=
  (source.names.filterMap source.normalize).foldl (fun catalog name => catalog.insert name []) .empty

theorem own_find (source : GroupSource) (name : String) : source.own.find? name
    = if name ∈ source.names.filterMap source.normalize then some [] else none := by
  have along : ∀ (names : List String) (catalog : Catalog String (List Handle)),
      (names.foldl (fun catalog name => catalog.insert name []) catalog).find? name
        = if name ∈ names then some [] else catalog.find? name := by
    intro names
    induction names with
    | nil => simp
    | cons first rest induction =>
        intro catalog
        rw [List.foldl_cons, induction, Catalog.find_insert]
        by_cases later : name ∈ rest <;> by_cases same : name = first <;> simp [later, same]
  exact along _ .empty

theorem groups_of_eq (source : GroupSource) (contacts : List Handle) :
    RosterCall.groupsOf source contacts = (source.memberships contacts).foldl enter source.own := rfl

theorem groups_of_members : contact ∈ ((RosterCall.groupsOf source contacts).find? name).getD [] ↔
    contact ∈ contacts ∧ source.Places name contact := by
  rw [groups_of_eq, enter_members, mem_memberships, own_find]
  split <;> simp

theorem groups_of_keys :
    name ∈ (RosterCall.groupsOf source contacts).keys ↔ source.Knows contacts name := by
  have named : source.own.contains name = true ↔
      ∃ written ∈ source.names, source.normalize written = some name := by
    rw [Catalog.contains, own_find, ← List.mem_filterMap]
    split <;> simp [*]
  have keys : name ∈ (RosterCall.groupsOf source contacts).keys ↔
      (RosterCall.groupsOf source contacts).contains name = true := Catalog.mem_keys _ name
  rw [keys, groups_of_eq, enter_names, named, Knows]
  simp only [mem_memberships]

end GroupSource

/-- A change that tells of the members of a group, each once, and of nothing else. -/
structure MembershipChange.Greets (change : MembershipChange) (name : String)
    (members : Handle → Prop) : Prop where
  view : change.view = .group name
  added : ∀ contact, contact ∈ change.added ↔ members contact
  once : change.added.Nodup
  only : change.contacts = change.added

namespace RosterCall

/-! Members come in. -/

theorem add_member (update : GroupUpdate) (handle contact : Handle) :
    (Catalog.contains (update.add handle).members contact = true ↔
        Catalog.contains update.members contact = true ∨
          (contact = handle ∧ update.repository.isValid contact = true)) ∧
      (update.add handle).repository.isValid contact = update.repository.isValid contact := by
  obtain ⟨members, repository⟩ : (update.add handle).members = _ ∧
      (update.add handle).repository = _ := step_fields HandleSet.add update handle
  rw [members, repository]
  rcases HandleSet.add_cases update.members update.repository handle with
    ⟨inside, same⟩ | ⟨_, next, done, same⟩ | ⟨_, invalid, failure, same⟩
  · rw [same]
    refine ⟨⟨.inl, ?_⟩, rfl⟩
    rintro (already | ⟨rfl, _⟩)
    · exact already
    · exact inside
  · have taken := Repository.add_reference_taken done
    rw [same]
    constructor
    · rw [Catalog.contains_insert]
      constructor
      · rintro (rfl | already)
        · exact .inr ⟨rfl, taken.valid⟩
        · exact .inl already
      · rintro (already | ⟨here, _⟩)
        · exact .inr already
        · exact .inl here
    · by_cases here : contact = handle
      · rw [here, taken.still, taken.valid]
      · exact taken.elsewhere contact here
  · rw [same]
    refine ⟨⟨.inl, ?_⟩, rfl⟩
    rintro (already | ⟨rfl, valid⟩)
    · exact already
    · rw [invalid] at valid
      cases valid

theorem joined_members (handles : List Handle) (update : GroupUpdate) (contact : Handle) :
    (Catalog.contains (handles.foldl GroupUpdate.add update).members contact = true ↔
        Catalog.contains update.members contact = true ∨
          (contact ∈ handles ∧ update.repository.isValid contact = true)) ∧
      (handles.foldl GroupUpdate.add update).repository.isValid contact
        = update.repository.isValid contact := by
  induction handles generalizing update with
  | nil => simp
  | cons handle rest induction =>
      obtain ⟨members, valid⟩ := induction (update.add handle)
      obtain ⟨first, still⟩ := add_member update handle contact
      rw [List.foldl_cons, members, valid, first, still, List.mem_cons]
      tauto

variable {β : Type} {call : RosterCall β} {surroundings : Surroundings}

theorem change_group_first (call : RosterCall β) {name : String} {channel : Channel}
    (members : List Handle) (received : call.roster.phase = .received)
    (found : call.roster.groups.find? name = some { channel }) :
    (∃ change, (call.changeGroup name members [] true).roster.events.entries
          = call.roster.events.entries ++ [.membersChanged change] ∧
        change.Greets name fun contact =>
          contact ∈ members ∧ call.repositories.contacts.isValid contact = true) ∧
      (call.changeGroup name members [] true).repositories.get .group
        = call.repositories.get .group ∧
      (∀ contact, (call.changeGroup name members [] true).repositories.contacts.isValid contact
        = call.repositories.contacts.isValid contact) := by
  let start : GroupUpdate := { members := .empty, repository := call.repositories.contacts }
  let joined := members.foldl GroupUpdate.add start
  obtain ⟨moved, news, joins, distinct, _⟩ := joined_account members start
  have told : call.groupChange name { channel } members []
      = { view := .group name, added := moved } := by
    have entered : (call.joining { channel } members).moved = moved := news.trans (List.nil_append _)
    rw [← entered]
    rfl
  have same : call.changeGroup name members [] true
      = (call.setMembers name { channel } joined.members joined.repository).emit
        (.membersChanged ({ view := .group name, added := moved } : MembershipChange).sort) := by
    rw [change_group_eq found, told]
    exact if_neg (by simp [setMembers, withContacts, received])
  have inside : ∀ contact, contact ∈ moved ↔
      contact ∈ members ∧ call.repositories.contacts.isValid contact = true := by
    intro contact
    have joinedUp := (joined_members members start contact).1
    rw [joins, HandleSet.contains_join] at joinedUp
    have nobody : Catalog.contains start.members contact = false := rfl
    simpa [nobody] using joinedUp
  refine ⟨⟨_, by rw [same]; rfl, rfl, ?_, ?_, ?_⟩, by rw [same]; rfl, ?_⟩
  · exact fun contact => MembershipChange.mem_sort_handles.trans (inside contact)
  · exact MembershipChange.sort_handles_nodup distinct
  · simp [MembershipChange.contacts, MembershipChange.sort, MembershipChange.sortHandles]
  · intro contact
    rw [same]
    exact (joined_members members start contact).2

theorem ensure_group_new {name : String} {repository : Repository}
    (absent : call.roster.groups.find? name = none)
    (known : call.repositories.get .group = .ok repository) :
    (∀ failure, repository.intern name = .error failure →
        call.ensureGroup surroundings name = (.error failure, call)) ∧
      ∀ handle next, repository.intern name = .ok (handle, next) →
        ∃ channel, call.ensureGroup surroundings name = (.ok true, ({ call with
          repositories := call.repositories.set .group next
          roster := { call.roster with
            groups := call.roster.groups.insert name { channel } } }).report
          (.newChannel channel none)) := by
  have closed : ¬ call.roster.groups.contains name = true := by
    rw [Catalog.contains, absent]
    exact Bool.false_ne_true
  obtain ⟨path, formed⟩ := group_path_ok surroundings name
  constructor
  · intro failure refused
    rw [ensureGroup, if_neg closed, formed, known]
    dsimp only [bind, Except.bind]
    rw [refused]
  · intro handle next interned
    exact ⟨_, ensure_group_opened absent formed known interned⟩

theorem receive_group_refused {entry : String × List Handle} {repository : Repository}
    {failure : Failure} (absent : call.roster.groups.find? entry.1 = none)
    (known : call.repositories.get .group = .ok repository)
    (refused : repository.intern entry.1 = .error failure) :
    call.receiveGroup surroundings entry = call := by
  unfold receiveGroup
  rw [(ensure_group_new absent known).1 failure refused]

theorem receive_group_taken (surroundings : Surroundings) {entry : String × List Handle}
    {repository next : Repository} {handle : Handle} (received : call.roster.phase = .received)
    (absent : call.roster.groups.find? entry.1 = none)
    (known : call.repositories.get .group = .ok repository)
    (interned : repository.intern entry.1 = .ok (handle, next)) :
    let after := call.receiveGroup surroundings entry
    (∃ change, after.roster.events.entries = call.roster.events.entries ++ [.membersChanged change] ∧
        change.Greets entry.1 fun contact =>
          contact ∈ entry.2 ∧ call.repositories.contacts.isValid contact = true) ∧
      after.repositories.get .group = .ok next ∧
      (∀ contact, after.repositories.contacts.isValid contact
        = call.repositories.contacts.isValid contact) ∧
      ∀ other, other ≠ entry.1 →
        after.roster.groups.find? other = call.roster.groups.find? other := by
  obtain ⟨channel, created⟩ := (ensure_group_new absent known).2 handle next interned
  let opened := ({ call with
    repositories := call.repositories.set .group next
    roster := { call.roster with groups := call.roster.groups.insert entry.1 { channel } } }).report
      (.newChannel channel none)
  have same : call.receiveGroup surroundings entry = opened.changeGroup entry.1 entry.2 [] true := by
    unfold receiveGroup
    rw [created]
  have found : opened.roster.groups.find? entry.1 = some { channel } := by
    change (call.roster.groups.insert entry.1 { channel }).find? entry.1 = _
    rw [Catalog.find_insert, if_pos rfl]
  have contacts : opened.repositories.contacts = call.repositories.contacts :=
    call.repositories.set_group_contacts next
  have taken : opened.repositories.get .group = .ok next := Repositories.get_set known
  obtain ⟨told, group, valid⟩ := change_group_first opened entry.2 received found
  rw [contacts] at told
  rw [same]
  refine ⟨told, ?_, fun contact => (valid contact).trans (by rw [contacts]), fun other different => ?_⟩
  · exact group.trans taken
  · rw [change_group_groups found, Catalog.find_insert, if_neg different]
    change (call.roster.groups.insert entry.1 { channel }).find? other = _
    rw [Catalog.find_insert, if_neg different]

/-- The groups whose names are taken tell one after another. The induction is on the groups; the
names of those that are left are not open yet, and no handle becomes valid or invalid on the way. -/
theorem receive_each_told (surroundings : Surroundings) (members : String → List Handle)
    (entries : List (String × List Handle)) (call : RosterCall β)
    (matching : ∀ entry ∈ entries, entry.2 = members entry.1)
    (distinct : (entries.map Prod.fst).Nodup) (received : call.roster.phase = .received)
    (absent : ∀ entry ∈ entries, call.roster.groups.find? entry.1 = none) {repository : Repository}
    (known : call.repositories.get .group = .ok repository) :
    ∃ changes, (entries.foldl (receiveGroup surroundings) call).roster.events.entries
        = call.roster.events.entries ++ changes.map .membersChanged ∧
      List.Forall₂ (fun name change => MembershipChange.Greets change name fun contact =>
          contact ∈ members name ∧ call.repositories.contacts.isValid contact = true)
        (repository.taking (entries.map Prod.fst)) changes := by
  induction entries generalizing call repository with
  | nil => exact ⟨[], (List.append_nil _).symm, .nil⟩
  | cons entry rest induction =>
      obtain ⟨fresh, later⟩ := List.nodup_cons.1 distinct
      have closed := absent entry List.mem_cons_self
      have matchingLater : ∀ other ∈ rest, other.2 = members other.1 := fun other member =>
        matching other (List.mem_cons_of_mem entry member)
      have absentLater : ∀ other ∈ rest, call.roster.groups.find? other.1 = none :=
        fun other member => absent other (List.mem_cons_of_mem entry member)
      rw [List.foldl_cons, List.map_cons, Repository.taking]
      cases taken : repository.intern entry.1 with
      | error failure =>
          rw [receive_group_refused closed known taken]
          exact induction call matchingLater later received absentLater known
      | ok given =>
          obtain ⟨handle, next⟩ := given
          obtain ⟨⟨change, told, greets⟩, group, valid, others⟩ :=
            receive_group_taken surroundings received closed known taken
          have phase : (call.receiveGroup surroundings entry).roster.phase = .received :=
            (Growths.moves (call.receive_group_growths entry)).frame.1.trans received
          have stillAbsent : ∀ other ∈ rest,
              (call.receiveGroup surroundings entry).roster.groups.find? other.1 = none := by
            intro other member
            have different : other.1 ≠ entry.1 :=
              fun same => fresh (same ▸ List.mem_map_of_mem member)
            rw [others other.1 different]
            exact absentLater other member
          obtain ⟨changes, toldLater, batches⟩ :=
            induction _ matchingLater later phase stillAbsent group
          simp only [valid] at batches
          refine ⟨change :: changes, by rw [toldLater, told]; simp, .cons ?_ batches⟩
          rw [← matching entry List.mem_cons_self]
          exact greets

end RosterCall

namespace Roster

variable {β : Type} [RosterBackend β] {roster : Roster β} {name : String}

/-- The groups that the backend knows of, by name. -/
def knownGroups (roster : Roster β) : List String :=
  match RosterBackend.groups roster.backend with
  | none => []
  | some source => (RosterCall.groupsOf source (RosterBackend.contacts roster.backend)).keys

def Knows (roster : Roster β) (name : String) : Prop :=
  ∃ source, RosterBackend.groups roster.backend = some source ∧
    source.Knows (RosterBackend.contacts roster.backend) name

def Places (roster : Roster β) (name : String) (contact : Handle) : Prop :=
  contact ∈ RosterBackend.contacts roster.backend ∧
    ∃ source, RosterBackend.groups roster.backend = some source ∧ source.Places name contact

theorem mem_known_groups : name ∈ roster.knownGroups ↔ roster.Knows name := by
  unfold knownGroups Knows
  cases RosterBackend.groups roster.backend with
  | none => simp
  | some source => simp [GroupSource.groups_of_keys]

theorem known_groups_ascending (roster : Roster β) : roster.knownGroups.Pairwise (· < ·) := by
  unfold knownGroups
  split
  · exact .nil
  · rename_i source _
    have ascending := (RosterCall.groupsOf source (RosterBackend.contacts roster.backend)).ascending
    refine List.pairwise_map.2 (ascending.imp ?_)
    intro left right below
    exact compareOfLessAndEq_eq_lt.1 below

end Roster

namespace RosterCall

variable {β : Type} [RosterBackend β] {call : RosterCall β} {surroundings : Surroundings}

/-- What a group tells when the roster arrives: the contacts that the backend has in it, if their
handles are valid. -/
def GroupBatch (call : RosterCall β) (name : String) (change : MembershipChange) : Prop :=
  change.Greets name fun contact =>
    call.roster.Places name contact ∧ call.repositories.contacts.isValid contact = true

/-- Between two moments, every group that can be created tells of its members, by name. -/
def GroupsTold (call next : RosterCall β) : Prop :=
  ∃ changes, next.roster.events.entries = call.roster.events.entries ++ changes.map .membersChanged ∧
    List.Forall₂ call.GroupBatch (call.repositories.creatable call.roster.knownGroups) changes

theorem groups_told_none (none : call.repositories.creatable call.roster.knownGroups = []) :
    call.GroupsTold call :=
  ⟨[], (List.append_nil _).symm, none ▸ .nil⟩

theorem receive_groups_told (surroundings : Surroundings) (received : call.roster.phase = .received)
    (bare : ∀ name, call.roster.groups.find? name = none) :
    call.GroupsTold
      (call.receiveGroups surroundings (RosterBackend.contacts call.roster.backend)) := by
  cases known : call.repositories.get .group with
  | error failure =>
      have unsupported : call.repositories.supports .group = false := by
        unfold Repositories.get at known
        unfold Repositories.supports Catalog.contains
        cases found : call.repositories.others.find? .group with
        | none => rfl
        | some repository =>
            rw [found] at known
            cases known
      have same : call.receiveGroups surroundings (RosterBackend.contacts call.roster.backend)
          = call := by
        rw [receiveGroups, unsupported]
        rfl
      rw [same]
      exact groups_told_none (by rw [Repositories.creatable, known])
  | ok repository =>
      have supported : call.repositories.supports .group = true := by
        obtain ⟨kind, _⟩ | ⟨_, found⟩ := Repositories.get_eq_ok.1 known
        · cases kind
        · rw [Repositories.supports, Catalog.contains, found]
          rfl
      cases grouped : RosterBackend.groups call.roster.backend with
      | none =>
          have same : call.receiveGroups surroundings (RosterBackend.contacts call.roster.backend)
              = call := by rw [receiveGroups, if_pos supported, grouped]
          rw [same]
          exact groups_told_none
            (by rw [Repositories.creatable, known, Roster.knownGroups, grouped]; rfl)
      | some source =>
          let groups := groupsOf source (RosterBackend.contacts call.roster.backend)
          have matching : ∀ entry ∈ groups.entries, entry.2 = (groups.find? entry.1).getD [] := by
            intro entry member
            rw [(groups.find_iff_mem entry.1 entry.2).2 member]
            rfl
          obtain ⟨changes, told, batches⟩ :=
            receive_each_told surroundings (fun name => (groups.find? name).getD [])
              groups.entries call matching groups.keys_nodup received
              (fun entry _ => bare entry.1) known
          refine ⟨changes, ?_, ?_⟩
          · rw [receiveGroups, if_pos supported, grouped]
            exact told
          · rw [Repositories.creatable, known, Roster.knownGroups, grouped]
            refine batches.imp fun name change greets => ?_
            simp only [groups, GroupSource.groups_of_members] at greets
            simpa [GroupBatch, Roster.Places, grouped] using greets

end RosterCall

end ConnectionManager
