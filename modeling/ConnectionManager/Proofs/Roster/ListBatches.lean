import ConnectionManager.Proofs.Roster.ListEvents

/-!
What the lists of a roster tell when it arrives: one change for each view, with every contact that the
list is about in the part where it belongs, once for every time that it is named. Most lists are about
the contacts of the backend, whether they are in the list or not; the list of those who are denied is
about blocked contacts only.
-/

namespace ConnectionManager

namespace MembershipChange

def contacts (change : MembershipChange) : List Handle :=
  change.added ++ change.localPending.map Prod.fst ++ change.remotePending ++ change.removed

/-- A change names some contacts and no others: each in the part where it belongs, and in all as
often as it was to be told. -/
structure Tells (change : MembershipChange) (told : List Handle) (places : Handle → Membership) :
    Prop where
  added : ∀ contact, contact ∈ change.added ↔ contact ∈ told ∧ places contact = .member
  localPending : ∀ contact message, (contact, message) ∈ change.localPending ↔
    contact ∈ told ∧ places contact = .localPending message
  remotePending : ∀ contact, contact ∈ change.remotePending ↔
    contact ∈ told ∧ places contact = .remotePending
  removed : ∀ contact, contact ∈ change.removed ↔ contact ∈ told ∧ places contact = .outside
  whole : change.contacts.Perm told

/-- The contact with its message, if it waits for our answer. -/
def waiting? (places : Handle → Membership) (contact : Handle) : Option (Handle × String) :=
  match places contact with
  | .localPending message => some (contact, message)
  | _ => none

/-- The change that tells of some contacts where they belong. -/
def telling (view : RosterView) (told : List Handle) (places : Handle → Membership) :
    MembershipChange where
  view := view
  added := told.filter fun contact => places contact = .member
  localPending := told.filterMap (waiting? places)
  remotePending := told.filter fun contact => places contact = .remotePending
  removed := told.filter fun contact => places contact = .outside

variable {view : RosterView} {told : List Handle} {places : Handle → Membership}

theorem telling_snoc (view : RosterView) (told : List Handle) (contact : Handle) :
    (telling view told places).naming contact (places contact)
      = telling view (told ++ [contact]) places := by
  unfold telling MembershipChange.naming
  cases place : places contact <;> simp [List.filter_append, waiting?, place]

theorem telling_tells (view : RosterView) (told : List Handle) (places : Handle → Membership) :
    (telling view told places).Tells told places where
  added := by simp [telling]
  localPending contact message := by
    unfold telling
    rw [List.mem_filterMap]
    constructor
    · rintro ⟨other, member, found⟩
      unfold waiting? at found
      split at found
      · rename_i place
        cases found
        exact ⟨member, place⟩
      · cases found
    · rintro ⟨member, place⟩
      exact ⟨contact, member, by rw [waiting?, place]⟩
  remotePending := by simp [telling]
  removed := by simp [telling]
  whole := by
    apply List.perm_iff_count.2
    intro contact
    induction told with
    | nil => rfl
    | cons first rest induction =>
        unfold contacts telling at induction ⊢
        simp only [List.count_append] at induction ⊢
        rw [List.count_cons, ← induction]
        cases place : places first <;> simp [waiting?, place, List.count_cons] <;> omega

theorem Tells.sort {change : MembershipChange} (tells : change.Tells told places) :
    change.sort.Tells told places where
  added contact := mem_sort_handles.trans (tells.added contact)
  localPending contact message := List.mem_mergeSort.trans (tells.localPending contact message)
  remotePending contact := mem_sort_handles.trans (tells.remotePending contact)
  removed contact := mem_sort_handles.trans (tells.removed contact)
  whole := by
    have parts : change.sort.contacts.Perm change.contacts :=
      (((List.mergeSort_perm change.added _).append
        ((List.mergeSort_perm change.localPending _).map Prod.fst)).append
        (List.mergeSort_perm change.remotePending _)).append (List.mergeSort_perm change.removed _)
    exact parts.trans tells.whole

end MembershipChange

theorem ListUpdate.along_first (places : Handle → Membership) (contacts told : List Handle)
    (update : ListUpdate) {view : RosterView}
    (started : update.change = .telling view told places) :
    (update.along true places contacts).change = .telling view (told ++ contacts) places := by
  induction contacts generalizing update told with
  | nil => rw [List.append_nil]; exact started
  | cons first rest induction =>
      have named : (update.step true (first, places first)).change
          = .telling view (told ++ [first]) places := by
        refine Eq.trans ?_ (MembershipChange.telling_snoc view told first)
        rw [← started]
        change update.change.note update.view true first (places first) = _
        unfold MembershipChange.note MembershipChange.naming
        cases places first <;> rfl
      rw [← List.singleton_append, ← List.append_assoc]
      exact induction (told ++ [first]) (update.step true (first, places first)) named

namespace Roster

variable {β : Type} [RosterBackend β] {roster next : Roster β} {change : MembershipChange}

/-- The contacts that a list is about when the roster arrives. -/
def contactsOf (roster : Roster β) (list : ListName) : List Handle :=
  if list = .deny then if roster.canBlock then roster.blocked else []
  else RosterBackend.contacts roster.backend

/-- What a list tells when the roster arrives. -/
structure ListBatch (roster : Roster β) (list : ListName) (change : MembershipChange) : Prop where
  view : change.view = .list list
  tells : change.Tells (roster.contactsOf list) (roster.membership list)

theorem contacts_of_congr (same : next.backend = roster.backend) :
    next.contactsOf = roster.contactsOf := by
  funext list
  unfold contactsOf canBlock blocked
  rw [same]

theorem ListBatch.congr {list : ListName} (same : next.backend = roster.backend)
    (batch : next.ListBatch list change) : roster.ListBatch list change where
  view := batch.view
  tells := by
    rw [← contacts_of_congr same, ← membership_congr same]
    exact batch.tells

theorem batch_of_mem {lists : List ListName} {changes : List MembershipChange}
    (batches : List.Forall₂ roster.ListBatch lists changes) (member : change ∈ changes) :
    ∃ list ∈ lists, roster.ListBatch list change := by
  induction batches with
  | nil => cases member
  | @cons list first _ _ batch _ induction =>
      rcases List.mem_cons.1 member with rfl | later
      · exact ⟨list, List.mem_cons_self, batch⟩
      · obtain ⟨other, inside, belongs⟩ := induction later
        exact ⟨other, List.mem_cons_of_mem list inside, belongs⟩

theorem ListBatch.once {list : ListName} (batch : roster.ListBatch list change)
    (distinct : (roster.contactsOf list).Nodup) {contact : Handle}
    (member : contact ∈ roster.contactsOf list) : change.contacts.count contact = 1 := by
  rw [batch.tells.whole.count_eq]
  exact List.count_eq_one_of_mem distinct member

theorem ListBatch.denied (batch : roster.ListBatch .deny change) :
    change.contacts = change.added := by
  have barred : ∀ contact place, contact ∈ roster.contactsOf .deny ∧
      roster.membership .deny contact = place → place = .member := by
    rintro contact place ⟨member, rfl⟩
    unfold contactsOf at member
    rw [if_pos rfl] at member
    have inside : contact ∈ roster.blocked := by
      split at member
      · exact member
      · cases member
    unfold membership
    rw [if_pos rfl, if_pos (List.contains_iff_mem.2 inside)]
  have localPending : change.localPending = [] := by
    apply List.eq_nil_iff_forall_not_mem.2
    rintro ⟨contact, message⟩ waiting
    cases barred contact _ ((batch.tells.localPending contact message).1 waiting)
  have remotePending : change.remotePending = [] := by
    apply List.eq_nil_iff_forall_not_mem.2
    intro contact waiting
    cases barred contact _ ((batch.tells.remotePending contact).1 waiting)
  have removed : change.removed = [] := by
    apply List.eq_nil_iff_forall_not_mem.2
    intro contact left
    cases barred contact _ ((batch.tells.removed contact).1 left)
  rw [MembershipChange.contacts, localPending, remotePending, removed]
  simp

end Roster

namespace RosterCall

variable {β : Type} [RosterBackend β] {call : RosterCall β}

theorem update_list_first {list : ListName} (received : call.roster.phase = .received)
    (viewed : (call.roster.lists.find? list).isSome = true) (contacts : List Handle) :
    ∃ change, (updateList true contacts call list).roster.events.entries
        = call.roster.events.entries ++ [.membersChanged change] ∧
      change.view = .list list ∧ change.Tells contacts (call.roster.membership list) := by
  obtain ⟨view, found⟩ := Option.isSome_iff_exists.1 viewed
  let change := (call.aligning true contacts list view).change
  have told : change = .telling (.list list) contacts (call.roster.membership list) :=
    ListUpdate.along_first _ contacts [] _ rfl
  have same : updateList true contacts call list
      = (call.aligned true contacts list view).emit (.membersChanged change.sort) := by
    rw [update_list_eq found]
    exact if_neg (by simp [aligned, withContacts, received])
  refine ⟨change.sort, by rw [same]; rfl, ?_, ?_⟩
  · exact congrArg MembershipChange.view told
  · rw [told]
    exact (MembershipChange.telling_tells _ contacts _).sort

/-- Lists that are brought in line one after another tell one after another, as far as there are
views of them. -/
theorem update_each_first (roster : Roster β) (lists : List ListName) (call : RosterCall β)
    (same : call.roster.backend = roster.backend) (received : call.roster.phase = .received) :
    ∃ changes, (lists.foldl (fun current list =>
        updateList true (roster.contactsOf list) current list) call).roster.events.entries
          = call.roster.events.entries ++ changes.map .membersChanged ∧
      List.Forall₂ roster.ListBatch
        (lists.filter fun list => (call.roster.lists.find? list).isSome) changes := by
  induction lists generalizing call with
  | nil => exact ⟨[], (List.append_nil _).symm, .nil⟩
  | cons list rest induction =>
      let next := updateList true (roster.contactsOf list) call list
      obtain ⟨_, part, _⟩ := update_list_part true (roster.contactsOf list) call list
      obtain ⟨changes, told, batches⟩ :=
        induction next (part.backend.trans same) (part.phase.trans received)
      have views : (fun list => (next.roster.lists.find? list).isSome)
          = fun list => (call.roster.lists.find? list).isSome :=
        funext (update_list_view true (roster.contactsOf list) call list)
      rw [views] at batches
      rw [List.foldl_cons, told]
      cases viewed : (call.roster.lists.find? list).isSome with
      | false =>
          have absent : next = call :=
            update_list_absent (Option.not_isSome_iff_eq_none.1 (by simp [viewed])) true _
          rw [List.filter_cons_of_neg (by simp [viewed]), absent]
          exact ⟨changes, rfl, batches⟩
      | true =>
          obtain ⟨change, first, view, tells⟩ :=
            update_list_first received viewed (roster.contactsOf list)
          have kept : ((list :: rest).filter fun list => (call.roster.lists.find? list).isSome)
              = list :: rest.filter fun list => (call.roster.lists.find? list).isSome :=
            List.filter_cons_of_pos viewed
          rw [kept, first]
          refine ⟨change :: changes, by simp, .cons ⟨view, ?_⟩ batches⟩
          rw [← Roster.membership_congr same]
          exact tells

theorem receive_lists_told (received : call.roster.phase = .received) :
    ∃ changes, call.receiveLists.roster.events.entries
        = call.roster.events.entries ++ changes.map .membersChanged ∧
      List.Forall₂ call.roster.ListBatch
        (ListName.all.filter fun list => (call.roster.lists.find? list).isSome) changes :=
  update_each_first call.roster ListName.all call rfl received

end RosterCall

end ConnectionManager
