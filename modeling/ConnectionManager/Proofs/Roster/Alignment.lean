import ConnectionManager.Proofs.Roster.GroupAccount
import ConnectionManager.Proofs.Roster.Runs

/-!
How a call brings the lists of a roster in line with its backend. Every use of a roster first brings
some lists in line, one after another, and then works on groups. A contact that is named comes to
stand where the backend says, unless its handle is not valid when a list would have to take it in.
-/

namespace ConnectionManager

namespace Roster

variable {β : Type}

/-- No list has a contact in two slots. -/
def Apart (roster : Roster β) : Prop :=
  ∀ list view, roster.lists.find? list = some view → view.Apart

def standing (roster : Roster β) (list : ListName) (contact : Handle) : Option Slot :=
  (roster.lists.find? list).bind fun view => view.standing contact

theorem standing_found {roster : Roster β} {list : ListName} {view : ListView}
    (found : roster.lists.find? list = some view) (contact : Handle) :
    roster.standing list contact = view.standing contact := by
  rw [standing, found]
  rfl

theorem membership_congr [RosterBackend β] {roster next : Roster β}
    (same : next.backend = roster.backend) : next.membership = roster.membership := by
  funext list contact
  unfold membership blocked
  rw [same]

end Roster

namespace RosterCall

section Parts

variable {β : Type} [RosterBackend β] {call : RosterCall β}

/-- Whether a contact will not come to stand in a list where the backend says. -/
def refuses (call : RosterCall β) (list : ListName) (contact : Handle) : Bool :=
  match call.roster.lists.find? list with
  | none => false
  | some view =>
      view.refuses call.repositories.contacts contact (call.roster.membership list contact).slot

def aligning (call : RosterCall β) (initial : Bool) (contacts : List Handle) (list : ListName)
    (view : ListView) : ListUpdate :=
  ListUpdate.along initial (call.roster.membership list) contacts
    ⟨view, call.repositories.contacts, { view := .list list }⟩

def aligned (call : RosterCall β) (initial : Bool) (contacts : List Handle) (list : ListName)
    (view : ListView) : RosterCall β :=
  ({ call with roster := { call.roster with
    lists := call.roster.lists.insert list (call.aligning initial contacts list view).view }
  }).withContacts (call.aligning initial contacts list view).repository

theorem update_list_eq {list : ListName} {view : ListView}
    (found : call.roster.lists.find? list = some view) (initial : Bool) (contacts : List Handle) :
    updateList initial contacts call list
      = (call.aligned initial contacts list view).emitChange
        (call.aligning initial contacts list view).change initial := by
  unfold updateList
  rw [found]
  rfl

theorem update_list_absent {list : ListName} (absent : call.roster.lists.find? list = none)
    (initial : Bool) (contacts : List Handle) : updateList initial contacts call list = call := by
  unfold updateList
  rw [absent]

omit [RosterBackend β] in
theorem emit_change_frame (call : RosterCall β) (change : MembershipChange) (always : Bool) :
    (call.emitChange change always).repositories = call.repositories ∧
      (call.emitChange change always).roster.lists = call.roster.lists ∧
      (call.emitChange change always).roster.groups = call.roster.groups := by
  unfold emitChange
  split <;> exact ⟨rfl, rfl, rfl⟩

theorem update_list_fields {list : ListName} {view : ListView}
    (found : call.roster.lists.find? list = some view) (initial : Bool) (contacts : List Handle) :
    (updateList initial contacts call list).repositories.contacts
        = (call.aligning initial contacts list view).repository ∧
      (updateList initial contacts call list).roster.lists
        = call.roster.lists.insert list (call.aligning initial contacts list view).view := by
  obtain ⟨repositories, lists, _⟩ := (call.aligned initial contacts list view).emit_change_frame
    (call.aligning initial contacts list view).change initial
  rw [update_list_eq found, repositories, lists]
  exact ⟨rfl, rfl⟩

theorem update_list_part (initial : Bool) (contacts : List Handle) (call : RosterCall β)
    (list : ListName) : ∃ events, Part call events (updateList initial contacts call list) ∧
      (updateList initial contacts call list).roster.groups = call.roster.groups ∧
      ∀ event ∈ events, ∃ change, event = .membersChanged change ∧ change.view = .list list := by
  cases found : call.roster.lists.find? list with
  | none =>
      rw [update_list_absent found]
      exact ⟨[], .refl call, rfl, fun _ member => absurd member List.not_mem_nil⟩
  | some view =>
      have quiet : Part call [] (call.aligned initial contacts list view) := {
        phase := rfl
        backend := rfl
        told := (List.append_nil _).symm
        usable := ListUpdate.along_usable contacts _
        contacts := by
          intro keeps reckoning outside kept
          obtain ⟨others, split, changed⟩ := Roster.claims_list found
          have parted : keeps call.repositories.contacts fun key =>
              others key + outside key + view.claims key := by
            refine cast (congrArg (keeps _) (funext fun key => ?_)) kept
            rw [split]
            exact Nat.add_right_comm _ _ _
          have left : keeps (call.aligning initial contacts list view).repository fun key =>
              others key + outside key + (call.aligning initial contacts list view).view.claims key :=
            ListUpdate.along_keeps reckoning contacts parted
          refine cast (congrArg (keeps _) (funext fun key => ?_)) left
          refine (Nat.add_right_comm _ _ _).trans (congrArg (· + outside key) ?_)
          exact (changed (call.aligning initial contacts list view).view key).symm
        groups := fun _ _ kept => kept }
      have ours : (call.aligning initial contacts list view).change.view = .list list :=
        ListUpdate.along_view contacts _
      rw [update_list_eq found]
      rcases emit_change_cases (call.aligned initial contacts list view)
        (call.aligning initial contacts list view).change initial with ⟨_, same⟩ | ⟨_, same⟩
      · rw [same]
        exact ⟨[], quiet, rfl, fun _ member => absurd member List.not_mem_nil⟩
      · rw [same]
        refine ⟨_, quiet.trans ⟨.still rfl rfl rfl, rfl, rfl, rfl, rfl⟩, rfl, ?_⟩
        intro event member
        rw [List.nil_append, List.mem_singleton] at member
        exact ⟨_, member, ours⟩

/-! Where contacts stand after a list is brought in line. -/

variable {list other : ListName} {contact : Handle}

theorem update_list_apart (apart : call.roster.Apart) (initial : Bool) (contacts : List Handle)
    (list : ListName) : (updateList initial contacts call list).roster.Apart := by
  cases found : call.roster.lists.find? list with
  | none =>
      rw [update_list_absent found]
      exact apart
  | some view =>
      intro other viewed known
      rw [(update_list_fields found initial contacts).2, Catalog.find_insert] at known
      split at known
      · cases known
        exact ListUpdate.along_apart (apart list view found) contacts
      · exact apart other viewed known

theorem update_list_other (different : other ≠ list) (initial : Bool) (contacts : List Handle) :
    (updateList initial contacts call list).roster.lists.find? other
      = call.roster.lists.find? other := by
  cases found : call.roster.lists.find? list with
  | none => rw [update_list_absent found]
  | some view =>
      rw [(update_list_fields found initial contacts).2, Catalog.find_insert, if_neg different]

theorem update_list_view (initial : Bool) (contacts : List Handle) (call : RosterCall β)
    (list other : ListName) :
    ((updateList initial contacts call list).roster.lists.find? other).isSome
      = (call.roster.lists.find? other).isSome := by
  by_cases different : other = list
  · subst different
    cases found : call.roster.lists.find? other with
    | none => rw [update_list_absent found, found]
    | some view =>
        rw [(update_list_fields found initial contacts).2, Catalog.find_insert, if_pos rfl]
        rfl
  · rw [update_list_other different]

/-- The contacts that are named come to stand where the backend says, unless they are refused. -/
theorem update_list_standing (apart : call.roster.Apart)
    (viewed : (call.roster.lists.find? list).isSome = true) (initial : Bool)
    (contacts : List Handle) (contact : Handle) :
    (updateList initial contacts call list).roster.standing list contact
      = if contact ∈ contacts ∧ call.refuses list contact = false
        then (call.roster.membership list contact).slot
        else call.roster.standing list contact := by
  obtain ⟨view, found⟩ := Option.isSome_iff_exists.1 viewed
  have lists := (update_list_fields found initial contacts).2
  have placed : (updateList initial contacts call list).roster.lists.find? list
      = some (call.aligning initial contacts list view).view := by
    rw [lists, Catalog.find_insert, if_pos rfl]
  have refusal : call.refuses list contact
      = view.refuses call.repositories.contacts contact
        (call.roster.membership list contact).slot := by
    unfold refuses
    rw [found]
  rw [Roster.standing_found placed, Roster.standing_found found, refusal]
  exact ListUpdate.along_standing (apart list view found) contacts contact

theorem standing_other (different : other ≠ list) (initial : Bool) (contacts : List Handle)
    (contact : Handle) :
    (updateList initial contacts call list).roster.standing other contact
      = call.roster.standing other contact := by
  unfold Roster.standing
  rw [update_list_other different]

theorem update_list_valid (apart : call.roster.Apart) (initial : Bool) (contacts : List Handle)
    (settled : call.roster.standing list contact = none ∨
      call.roster.standing list contact = (call.roster.membership list contact).slot) :
    (updateList initial contacts call list).repositories.contacts.isValid contact
      = call.repositories.contacts.isValid contact := by
  cases found : call.roster.lists.find? list with
  | none => rw [update_list_absent found]
  | some view =>
      rw [Roster.standing_found found] at settled
      rw [(update_list_fields found initial contacts).1]
      exact ListUpdate.along_valid (apart list view found) contacts settled

theorem refuses_eq_false (call : RosterCall β) (list : ListName) (contact : Handle) :
    call.refuses list contact = false ↔ ((call.roster.lists.find? list).isSome = false ∨
      (call.roster.membership list contact).slot = none ∨
      call.roster.standing list contact = (call.roster.membership list contact).slot ∨
      call.repositories.contacts.isValid contact = true) := by
  unfold refuses Roster.standing
  cases found : call.roster.lists.find? list with
  | none => simp
  | some view => simp [ListView.refuses_eq_false]

omit [RosterBackend β] in
theorem Backed.valid {outside : Handle → Nat} (backed : call.Backed outside)
    (usable : call.repositories.contacts.isUsable = true) (apart : call.roster.Apart) {slot : Slot}
    (stands : call.roster.standing list contact = some slot) :
    call.repositories.contacts.isValid contact = true := by
  obtain ⟨view, found, inside⟩ := Option.bind_eq_some_iff.1 stands
  obtain ⟨others, split, _⟩ := Roster.claims_list found
  have kept := ListView.claims_pos ((apart list view found).standing_iff.1 inside)
  apply Repository.Covers.valid backed usable
  have claimed := split contact
  omega

/-! Several lists, one after another. -/

/-- Lists are brought in line one after another, each for contacts of its own. -/
def alignEach (initial : Bool) (call : RosterCall β) (named : List (ListName × List Handle)) :
    RosterCall β :=
  named.foldl (fun current entry => updateList initial entry.2 current entry.1) call

def alignKnown (initial : Bool) (contacts : List Handle) (call : RosterCall β) : RosterCall β :=
  alignEach initial call [(.subscribe, contacts), (.publish, contacts), (.stored, contacts)]

theorem align_each_valid (apart : call.roster.Apart) (initial : Bool)
    (named : List (ListName × List Handle)) (distinct : (named.map Prod.fst).Nodup)
    (outside : ∀ entry ∈ named, call.roster.standing entry.1 contact = none) :
    (alignEach initial call named).repositories.contacts.isValid contact
      = call.repositories.contacts.isValid contact := by
  induction named generalizing call with
  | nil => rfl
  | cons entry rest induction =>
      obtain ⟨fresh, later⟩ := List.nodup_cons.1 distinct
      have first := update_list_valid apart initial entry.2 (.inl (outside entry List.mem_cons_self))
      refine (induction (update_list_apart apart initial entry.2 entry.1) later ?_).trans first
      intro other member
      have different : other.1 ≠ entry.1 :=
        fun same => fresh (same ▸ List.mem_map_of_mem member)
      rw [standing_other different]
      exact outside other (List.mem_cons_of_mem _ member)

/-- The contacts that lists refuse while they are brought in line. -/
def refusalsOf (initial : Bool) (call : RosterCall β) :
    List (ListName × List Handle) → List (ListName × Handle)
  | [] => []
  | (list, contacts) :: rest =>
      ((contacts.filter (call.refuses list)).map fun contact => (list, contact))
        ++ refusalsOf initial (updateList initial contacts call list) rest

/-- The lists that a use brings in line, with the contacts that it names. -/
def named (call : RosterCall β) : RosterUse β → List (ListName × List Handle)
  | .listReceived =>
      if call.roster.phase = .waiting then
        let blocked := if call.roster.canBlock then call.roster.blocked else []
        ListName.all.map fun list =>
          (list, if list = .deny then blocked else RosterBackend.contacts call.roster.backend)
      else []
  | .contactsChanged changed removed =>
      if call.roster.phase = .received then
        [.subscribe, .publish, .stored].map fun list => (list, changed ++ removed)
      else []
  | .blockingChanged changed =>
      if call.roster.phase = .received then [(.deny, changed)] else []
  | _ => []

/-- The call in which lists are brought in line; the arrival of the roster creates them first. -/
def opened (surroundings : Surroundings) (call : RosterCall β) : RosterUse β → RosterCall β
  | .listReceived =>
      if call.roster.phase = .waiting then (createLists surroundings ListName.all call.receiving).2
      else call
  | _ => call

end Parts

end RosterCall

/-- Whether everything that a use names is told, even where nothing changes. -/
def RosterUse.isFirst {β : Type} : RosterUse β → Bool
  | .listReceived => true
  | _ => false

namespace RosterCall

variable {β : Type} [RosterBackend β] {call : RosterCall β} {surroundings : Surroundings}

def refusals (surroundings : Surroundings) (call : RosterCall β) (use : RosterUse β) :
    List (ListName × Handle) :=
  refusalsOf use.isFirst (call.opened surroundings use) (call.named use)

def inLine (surroundings : Surroundings) (call : RosterCall β) (use : RosterUse β) : RosterCall β :=
  alignEach use.isFirst (call.opened surroundings use) (call.named use)

theorem named_arrival (waiting : call.roster.phase = .waiting) :
    call.named .listReceived = ListName.all.map fun list => (list, if list = .deny
      then if call.roster.canBlock then call.roster.blocked else []
      else RosterBackend.contacts call.roster.backend) :=
  if_pos waiting

theorem named_changed {changed removed : List Handle} (received : call.roster.phase = .received) :
    call.named (.contactsChanged changed removed)
      = [(.subscribe, changed ++ removed), (.publish, changed ++ removed),
        (.stored, changed ++ removed)] :=
  if_pos received

theorem named_blocking {changed : List Handle} (received : call.roster.phase = .received) :
    call.named (.blockingChanged changed) = [(.deny, changed)] :=
  if_pos received

theorem create_lists_find (surroundings : Surroundings) (names : List ListName)
    (call : RosterCall β) :
    ∃ lists, createLists surroundings names call = (true, call.withLists lists) ∧
      (∀ key, (call.withLists lists).roster.claims key ≤ call.roster.claims key) ∧
      ∀ list, (list ∈ names ∧ call.roster.hasView list = true →
          ∃ channel, lists.find? list = some { channel }) ∧
        (¬(list ∈ names ∧ call.roster.hasView list = true) →
          lists.find? list = call.roster.lists.find? list) := by
  induction names generalizing call with
  | nil =>
      refine ⟨call.roster.lists, rfl, fun _ => Nat.le_refl _, fun list => ⟨?_, fun _ => rfl⟩⟩
      rintro ⟨member, _⟩
      cases member
  | cons name rest induction =>
      rw [createLists]
      by_cases supported : call.roster.hasView name = true
      · obtain ⟨path, formed⟩ := list_path_ok surroundings.connectionPath name
        let view : ListView := { channel := ⟨path, contactListType, .list, name.handle⟩ }
        let next := call.withLists (call.roster.lists.insert name view)
        obtain ⟨lists, created, fewer, found⟩ := induction next
        rw [if_pos supported, formed]
        refine ⟨lists, created, fun key => Nat.le_trans (fewer key) ?_, fun list => ⟨?_, ?_⟩⟩
        · -- A list that is created is empty; one that it replaces only gives up its claims.
          have bare : view.claims key = 0 := rfl
          simp only [Roster.claims, next, withLists, Catalog.sum_insert, bare]
          cases known : call.roster.lists.find? name with
          | none => rw [Catalog.erase_absent known]; omega
          | some old => rw [Catalog.sum_split known]; omega
        · rintro ⟨member, has⟩
          by_cases later : list ∈ rest
          · exact (found list).1 ⟨later, has⟩
          · have same : list = name := (List.mem_cons.1 member).resolve_right later
            have kept : lists.find? list = (call.roster.lists.insert name view).find? list :=
              (found list).2 fun both => later both.1
            rw [Catalog.find_insert, if_pos same] at kept
            exact ⟨_, kept⟩
        · intro neither
          have other : list ≠ name := by
            intro same
            exact neither ⟨same ▸ List.mem_cons_self, same ▸ supported⟩
          have kept : lists.find? list = (call.roster.lists.insert name view).find? list :=
            (found list).2 fun both => neither ⟨List.mem_cons_of_mem _ both.1, both.2⟩
          rw [kept, Catalog.find_insert, if_neg other]
      · obtain ⟨lists, created, fewer, found⟩ := induction call
        rw [if_neg supported]
        refine ⟨lists, created, fewer, fun list => ⟨?_, ?_⟩⟩
        · rintro ⟨member, has⟩
          rcases List.mem_cons.1 member with same | later
          · exact absurd (same ▸ has) supported
          · exact (found list).1 ⟨later, has⟩
        · exact fun neither => (found list).2 fun both =>
            neither ⟨List.mem_cons_of_mem _ both.1, both.2⟩

omit [RosterBackend β] in
theorem report_lists_work (call : RosterCall β) : GroupWork call call.reportLists := by
  rw [report_lists_eq]
  exact ⟨[], ⟨⟨.still rfl rfl rfl, rfl, rfl, (List.append_nil _).symm, rfl⟩, rfl,
    fun _ member => absurd member List.not_mem_nil⟩, fun _ => .refl _⟩

omit [RosterBackend β] in
theorem forgetting_work (call : RosterCall β) : GroupWork call call.forgetting :=
  ⟨[], ⟨⟨.still rfl rfl rfl, rfl, rfl, (List.append_nil _).symm, rfl⟩, rfl,
    fun _ member => absurd member List.not_mem_nil⟩, fun _ => .refl _⟩

/-- How the arrival of a roster creates its lists: a new view for each list that the backend
supports. -/
structure Arriving (surroundings : Surroundings) (call : RosterCall β)
    (lists : Catalog ListName ListView) : Prop where
  opened : call.opened surroundings .listReceived = call.receiving.withLists lists
  created : createLists surroundings ListName.all call.receiving
    = (true, call.receiving.withLists lists)
  fewer : ∀ key, (call.receiving.withLists lists).roster.claims key ≤ call.roster.claims key
  found : ∀ list,
    (call.roster.hasView list = true → ∃ channel, lists.find? list = some { channel }) ∧
      (call.roster.hasView list = false → lists.find? list = call.roster.lists.find? list)

theorem arriving (surroundings : Surroundings) (waiting : call.roster.phase = .waiting) :
    ∃ lists, call.Arriving surroundings lists := by
  obtain ⟨lists, created, fewer, found⟩ :=
    create_lists_find surroundings ListName.all call.receiving
  have all : ∀ list, list ∈ ListName.all := by
    intro list
    cases list <;> decide
  refine ⟨lists, ?_, created, fewer, fun list => ⟨fun has => (found list).1 ⟨all list, has⟩,
    fun lacks => (found list).2 fun both => ?_⟩⟩
  · unfold opened
    rw [if_pos waiting, created]
  · have has : call.roster.hasView list = true := both.2
    rw [lacks] at has
    cases has

theorem Arriving.nowhere {lists : Catalog ListName ListView}
    (arriving : call.Arriving surroundings lists) (unopened : call.roster.Unopened)
    (list : ListName) (contact : Handle) :
    (call.receiving.withLists lists).roster.standing list contact = none := by
  change (lists.find? list).bind _ = none
  cases has : call.roster.hasView list with
  | true =>
      obtain ⟨channel, view⟩ := (arriving.found list).1 has
      rw [view]
      rfl
  | false =>
      rw [(arriving.found list).2 has, unopened.lists]
      rfl

theorem in_line_arrival (surroundings : Surroundings) (waiting : call.roster.phase = .waiting) :
    ∃ lists, call.Arriving surroundings lists ∧ call.inLine surroundings .listReceived
      = updateList true (if call.roster.canBlock then call.roster.blocked else [])
        (alignKnown true (RosterBackend.contacts call.roster.backend)
          (call.receiving.withLists lists)) .deny := by
  obtain ⟨lists, arriving⟩ := arriving surroundings waiting
  refine ⟨lists, arriving, ?_⟩
  rw [inLine, named_arrival waiting, arriving.opened]
  rfl

theorem in_line_changed (surroundings : Surroundings) (changed removed : List Handle)
    (received : call.roster.phase = .received) :
    call.inLine surroundings (.contactsChanged changed removed)
      = alignKnown false (changed ++ removed) call := by
  rw [inLine, named_changed received]
  rfl

theorem in_line_blocking (surroundings : Surroundings) (changed : List Handle)
    (received : call.roster.phase = .received) :
    call.inLine surroundings (.blockingChanged changed) = updateList false changed call .deny := by
  rw [inLine, named_blocking received]
  rfl

theorem Arriving.arrived {lists : Catalog ListName ListView}
    (arriving : call.Arriving surroundings lists) (waiting : call.roster.phase = .waiting) :
    call.listReceived surroundings
      = ((call.receiving.withLists lists).receiveLists.reportLists.receiveGroups surroundings
        (RosterBackend.contacts call.roster.backend)).finishAll surroundings := by
  have made : createLists surroundings ListName.all
      { call with roster := { call.roster with phase := .received } }
        = (true, call.receiving.withLists lists) := arriving.created
  unfold listReceived
  rw [if_neg (by simpa using waiting)]
  dsimp only
  rw [made]

/-- At its arrival, a roster brings its lists in line, reports them and goes on with groups. -/
theorem arrival_work (surroundings : Surroundings) (waiting : call.roster.phase = .waiting) :
    GroupWork (call.inLine surroundings .listReceived) (call.listReceived surroundings) := by
  obtain ⟨lists, arriving, line⟩ := in_line_arrival surroundings waiting
  let filled := (call.receiving.withLists lists).receiveLists
  have filling : call.inLine surroundings .listReceived = filled := line
  have grown := (report_lists_work filled).trans (receive_groups_work surroundings
    (RosterBackend.contacts call.roster.backend) filled.reportLists)
  rw [filling, arriving.arrived waiting]
  exact (grown.trans (forgetting_work _)).trans (finish_all_work surroundings _)

theorem contacts_changed_work (surroundings : Surroundings) (changed removed : List Handle)
    (received : call.roster.phase = .received) :
    GroupWork (call.inLine surroundings (.contactsChanged changed removed))
      (call.contactsChanged changed removed) := by
  rw [in_line_changed surroundings changed removed received]
  unfold contactsChanged whenReceived
  rw [if_pos received]
  dsimp only
  split
  · exact .refl _
  · exact fold_group_work (fun current name => change_group_work current name [] removed false) _ _

theorem blocking_changed_work (surroundings : Surroundings) (changed : List Handle)
    (received : call.roster.phase = .received) :
    GroupWork (call.inLine surroundings (.blockingChanged changed))
      (call.blockingChanged changed) := by
  rw [in_line_blocking surroundings changed received]
  unfold blockingChanged whenReceived
  rw [if_pos received]
  exact .refl _

/-- What is left alone while lists are brought in line. -/
structure Lined (call next : RosterCall β) : Prop where
  backend : next.roster.backend = call.roster.backend
  groups : next.roster.groups = call.roster.groups
  usable : next.repositories.contacts.isUsable = call.repositories.contacts.isUsable
  backed : ∀ outside, call.Backed outside → next.Backed outside
  apart : call.roster.Apart → next.roster.Apart
  told : ∃ events, next.roster.events.entries = call.roster.events.entries ++ events ∧
    ∀ event ∈ events, ∃ change list, event = .membersChanged change ∧ change.view = .list list

omit [RosterBackend β] in
theorem Lined.refl (call : RosterCall β) : Lined call call :=
  ⟨rfl, rfl, rfl, fun _ backed => backed, id, [], (List.append_nil _).symm,
    fun _ member => absurd member List.not_mem_nil⟩

omit [RosterBackend β] in
theorem Lined.trans {next last : RosterCall β} (first : Lined call next) (second : Lined next last) :
    Lined call last := by
  obtain ⟨events, told, lists⟩ := first.told
  obtain ⟨more, toldToo, listsToo⟩ := second.told
  exact {
    backend := second.backend.trans first.backend
    groups := second.groups.trans first.groups
    usable := second.usable.trans first.usable
    backed := fun outside backed => second.backed outside (first.backed outside backed)
    apart := fun apart => second.apart (first.apart apart)
    told := ⟨events ++ more, by rw [toldToo, told, List.append_assoc], fun event member =>
      (List.mem_append.1 member).elim (lists event) (listsToo event)⟩ }

theorem align_each_lined (initial : Bool) (named : List (ListName × List Handle))
    (call : RosterCall β) : Lined call (alignEach initial call named) ∧
      (alignEach initial call named).roster.phase = call.roster.phase := by
  induction named generalizing call with
  | nil => exact ⟨.refl call, rfl⟩
  | cons entry rest induction =>
      obtain ⟨events, part, groups, lists⟩ := update_list_part initial entry.2 call entry.1
      have first : Lined call (updateList initial entry.2 call entry.1) := {
        backend := part.backend
        groups := groups
        usable := part.usable
        backed := part.backed
        apart := fun apart => update_list_apart apart initial entry.2 entry.1
        told := ⟨events, part.told, fun event member => by
          obtain ⟨change, same, view⟩ := lists event member
          exact ⟨change, entry.1, same, view⟩⟩ }
      obtain ⟨later, phase⟩ := induction (updateList initial entry.2 call entry.1)
      exact ⟨first.trans later, phase.trans part.phase⟩

theorem opened_cases (surroundings : Surroundings) (call : RosterCall β) (use : RosterUse β) :
    call.opened surroundings use = call ∨ (use = .listReceived ∧ call.roster.phase = .waiting) := by
  cases use with
  | listReceived =>
      by_cases waiting : call.roster.phase = .waiting
      · exact .inr ⟨rfl, waiting⟩
      · exact .inl (if_neg waiting)
  | _ => exact .inl rfl

theorem opened_lined (surroundings : Surroundings) (call : RosterCall β) (use : RosterUse β) :
    Lined call (call.opened surroundings use) := by
  rcases call.opened_cases surroundings use with unchanged | ⟨rfl, waiting⟩
  · rw [unchanged]
    exact .refl call
  · obtain ⟨lists, arriving⟩ := arriving surroundings waiting
    rw [arriving.opened]
    refine {
      backend := rfl
      groups := rfl
      usable := rfl
      backed := fun outside backed =>
        backed.fewer fun key => Nat.add_le_add_right (arriving.fewer key) _
      apart := ?_
      told := ⟨[], (List.append_nil _).symm, fun _ member => absurd member List.not_mem_nil⟩ }
    intro apart list view known
    cases has : call.roster.hasView list with
    | true =>
        obtain ⟨channel, bare⟩ := (arriving.found list).1 has
        have same : lists.find? list = some view := known
        rw [bare] at same
        cases same
        intro contact first second inside
        cases first <;> cases inside
    | false => exact apart list view (((arriving.found list).2 has).symm.trans known)

theorem align_each_view (initial : Bool) (named : List (ListName × List Handle))
    (call : RosterCall β) (list : ListName) :
    ((alignEach initial call named).roster.lists.find? list).isSome
      = (call.roster.lists.find? list).isSome := by
  induction named generalizing call with
  | nil => rfl
  | cons entry rest induction =>
      exact (induction _).trans (update_list_view initial entry.2 call entry.1 list)

theorem in_line_lined (surroundings : Surroundings) (call : RosterCall β) (use : RosterUse β) :
    Lined call (call.inLine surroundings use) :=
  (opened_lined surroundings call use).trans (align_each_lined use.isFirst (call.named use) _).1

/-- A use concerns the lists of what the backend knows, that of blocked contacts, or both at the
arrival of the roster; otherwise none. -/
theorem in_line_cases (surroundings : Surroundings) (call : RosterCall β) (use : RosterUse β) :
    call.inLine surroundings use = call ∨
      (use = .listReceived ∧ call.roster.phase = .waiting ∧
        ∃ lists, call.Arriving surroundings lists ∧ call.inLine surroundings use
          = updateList true (if call.roster.canBlock then call.roster.blocked else [])
            (alignKnown true (RosterBackend.contacts call.roster.backend)
              (call.receiving.withLists lists)) .deny) ∨
      (∃ changed removed, use = .contactsChanged changed removed ∧ call.roster.phase = .received ∧
        call.inLine surroundings use = alignKnown false (changed ++ removed) call) ∨
      ∃ changed, use = .blockingChanged changed ∧ call.roster.phase = .received ∧
        call.inLine surroundings use = updateList false changed call .deny := by
  cases use with
  | listReceived =>
      by_cases waiting : call.roster.phase = .waiting
      · exact .inr (.inl ⟨rfl, waiting, in_line_arrival surroundings waiting⟩)
      · left
        have none : call.named .listReceived = [] := if_neg waiting
        have late : call.opened surroundings .listReceived = call := if_neg waiting
        rw [inLine, none, late]
        rfl
  | contactsChanged changed removed =>
      by_cases received : call.roster.phase = .received
      · exact .inr (.inr (.inl ⟨changed, removed, rfl, received,
          in_line_changed surroundings changed removed received⟩))
      · left
        have none : call.named (.contactsChanged changed removed) = [] := if_neg received
        rw [inLine, none]
        rfl
  | blockingChanged changed =>
      by_cases received : call.roster.phase = .received
      · exact .inr (.inr (.inr ⟨changed, rfl, received,
          in_line_blocking surroundings changed received⟩))
      · left
        have none : call.named (.blockingChanged changed) = [] := if_neg received
        rw [inLine, none]
        rfl
  | _ => exact .inl rfl

/-- A use of a roster that counts brings lists in line and then works on groups; any other one
changes the backend or nothing. -/
theorem perform_parts (surroundings : Surroundings) (call : RosterCall β) (use : RosterUse β) :
    (call.inLine surroundings use = call ∧ call.refusals surroundings use = [] ∧
        ∃ backend, call.perform surroundings use = call.backed backend) ∨
      ((call.inLine surroundings use).roster.phase = .received ∧
        GroupWork (call.inLine surroundings use) (call.perform surroundings use)) := by
  have phase : (call.inLine surroundings use).roster.phase
      = (call.opened surroundings use).roster.phase :=
    (align_each_lined use.isFirst (call.named use) _).2
  have idle : call.named use = [] → call.opened surroundings use = call →
      call.inLine surroundings use = call ∧ call.refusals surroundings use = [] := by
    intro none unchanged
    rw [inLine, refusals, none, unchanged]
    exact ⟨rfl, rfl⟩
  cases use with
  | listReceived =>
      by_cases waiting : call.roster.phase = .waiting
      · obtain ⟨lists, arriving⟩ := arriving surroundings waiting
        rw [arriving.opened] at phase
        exact .inr ⟨phase, arrival_work surroundings waiting⟩
      · obtain ⟨same, none⟩ := idle (if_neg waiting) (if_neg waiting)
        exact .inl ⟨same, none, call.roster.backend, if_pos waiting⟩
  | contactsChanged changed removed =>
      by_cases received : call.roster.phase = .received
      · exact .inr ⟨phase.trans received, contacts_changed_work surroundings changed removed received⟩
      · obtain ⟨same, none⟩ := idle (if_neg received) rfl
        exact .inl ⟨same, none, call.roster.backend, if_neg received⟩
  | blockingChanged changed =>
      by_cases received : call.roster.phase = .received
      · exact .inr ⟨phase.trans received, blocking_changed_work surroundings changed received⟩
      · obtain ⟨same, none⟩ := idle (if_neg received) rfl
        exact .inl ⟨same, none, call.roster.backend, if_neg received⟩
  | groupsCreated names =>
      by_cases received : call.roster.phase = .received
      · exact .inr ⟨received, groups_created_work surroundings names call⟩
      · exact .inl ⟨rfl, rfl, call.roster.backend, if_neg received⟩
  | groupsRemoved names =>
      by_cases received : call.roster.phase = .received
      · exact .inr ⟨received, groups_removed_work names call⟩
      · exact .inl ⟨rfl, rfl, call.roster.backend, if_neg received⟩
  | groupRenamed old new =>
      by_cases received : call.roster.phase = .received
      · exact .inr ⟨received, group_renamed_work surroundings old new call⟩
      · exact .inl ⟨rfl, rfl, call.roster.backend, if_neg received⟩
  | groupsChanged contacts added removed =>
      by_cases received : call.roster.phase = .received
      · exact .inr ⟨received, groups_changed_work surroundings contacts added removed call⟩
      · exact .inl ⟨rfl, rfl, call.roster.backend, if_neg received⟩
  | write write => exact .inl ⟨rfl, rfl, call.write_backed write⟩
  | backendChanged backend => exact .inl ⟨rfl, rfl, backend, rfl⟩

theorem perform_lists (surroundings : Surroundings) (call : RosterCall β) (use : RosterUse β) :
    (call.perform surroundings use).roster.lists
      = (call.inLine surroundings use).roster.lists := by
  rcases call.perform_parts surroundings use with
    ⟨unchanged, _, backend, same⟩ | ⟨_, events, work, _⟩
  · rw [same, unchanged]
    rfl
  · exact work.lists

end RosterCall

end ConnectionManager
