import ConnectionManager.Proofs.Handle.Claims
import ConnectionManager.Roster.Lists

/-!
Where contacts stand in a list view, and what bringing them into place does. A contact stands in at
most one slot. Bringing it into place concerns this contact only, and it comes to stand where it
belongs unless the repository refuses the reference that this takes. Contacts are brought into place
one after another, so that each stands in the end where a single placement would have put it.
-/

namespace ConnectionManager

namespace ListView

variable {view : ListView} {repository : Repository} {contact : Handle}

def Apart (view : ListView) : Prop :=
  ∀ contact first second, view.contains first contact = true →
    view.contains second contact = true → first = second

def standing (view : ListView) (contact : Handle) : Option Slot :=
  if view.contains .members contact then some .members
  else if view.contains .localPending contact then some .localPending
  else if view.contains .remotePending contact then some .remotePending
  else none

/-- A contact that has to move into a slot is refused if its handle is not valid. -/
def refuses (view : ListView) (repository : Repository) (contact : Handle)
    (target : Option Slot) : Bool :=
  target.isSome && decide (view.standing contact ≠ target) && !repository.isValid contact

def claims (view : ListView) (handle : Handle) : Nat :=
  view.members.claim handle + view.localPending.claim handle + view.remotePending.claim handle

@[simp]
theorem get_set (view : ListView) (slot other : Slot) (handles : HandleSet) :
    (view.set slot handles).get other = if other = slot then handles else view.get other := by
  cases slot <;> cases other <;> rfl

@[simp]
theorem set_get (view : ListView) (slot : Slot) : view.set slot (view.get slot) = view := by
  cases slot <;> rfl

theorem claims_split (view : ListView) (slot : Slot) : ∃ others : Handle → Nat,
    (∀ key, view.claims key = others key + (view.get slot).claim key) ∧
      ∀ handles key, (view.set slot handles).claims key = others key + handles.claim key := by
  cases slot with
  | members =>
      refine ⟨fun key => view.localPending.claim key + view.remotePending.claim key, ?_, ?_⟩
      · intro key
        simp only [claims, get]
        omega
      · intro handles key
        simp only [claims, set]
        omega
  | localPending =>
      refine ⟨fun key => view.members.claim key + view.remotePending.claim key, ?_, ?_⟩
      · intro key
        simp only [claims, get]
        omega
      · intro handles key
        simp only [claims, set]
        omega
  | remotePending =>
      refine ⟨fun key => view.members.claim key + view.localPending.claim key, ?_, ?_⟩
      · intro key
        simp only [claims, get]
      · intro handles key
        simp only [claims, set]

theorem standing_none_iff :
    view.standing contact = none ↔ ∀ slot, view.contains slot contact = false := by
  unfold standing
  constructor
  · intro outside slot
    cases slot <;> grind
  · intro absent
    simp [absent]

theorem Apart.standing_iff (apart : view.Apart) {slot : Slot} :
    view.standing contact = some slot ↔ view.contains slot contact = true := by
  have only := apart contact
  unfold standing
  cases slot <;> grind

theorem standing_congr {next : ListView} {other : Handle}
    (same : ∀ slot, next.contains slot other = view.contains slot contact) :
    next.standing other = view.standing contact := by
  simp only [standing, same]

theorem claims_pos {slot : Slot} (present : view.contains slot contact = true) :
    0 < view.claims contact := by
  obtain ⟨others, split, _⟩ := view.claims_split slot
  have kept : 0 < (view.get slot).claim contact := HandleSet.claim_pos.2 present
  rw [split]
  omega

/-! What one placement does to a view. -/

theorem contains_less (view : ListView) (slot first : Slot) (contact other : Handle) :
    (view.set first (Catalog.erase (view.get first) contact)).contains slot other = true ↔
      view.contains slot other = true ∧ ¬(other = contact ∧ slot = first) := by
  by_cases here : slot = first
  · subst here
    simp [contains, and_comm]
  · simp [contains, here]

theorem contains_more (view : ListView) (slot first : Slot) (contact other : Handle) :
    (view.set first (Catalog.insert (view.get first) contact ())).contains slot other = true ↔
      view.contains slot other = true ∨ (other = contact ∧ slot = first) := by
  by_cases here : slot = first
  · subst here
    simp [contains, or_comm]
  · simp [contains, here]

/-- A contact that stands in at most one of some slots leaves all of them, even if its reference
cannot be given back. -/
theorem take_out_contains (contact : Handle) (slots : List Slot) (view : ListView)
    (repository : Repository)
    (once : ∀ first ∈ slots, ∀ second ∈ slots, view.contains first contact = true →
      view.contains second contact = true → first = second)
    (distinct : slots.Nodup) (slot : Slot) (other : Handle) :
    (takeOut contact slots view repository).1.contains slot other = true ↔
      view.contains slot other = true ∧ ¬(other = contact ∧ slot ∈ slots) := by
  induction slots generalizing view repository with
  | nil => simp [takeOut]
  | cons first rest induction =>
      obtain ⟨fresh, later⟩ := List.nodup_cons.1 distinct
      -- A contact in the first slot stands in none of the others.
      have alone : view.contains first contact = true → ∀ slot ∈ rest,
          view.contains slot contact = false := by
        intro present slot member
        by_contra inside
        have same : first = slot := once first List.mem_cons_self slot
          (List.mem_cons_of_mem _ member) present (by simpa using inside)
        exact fresh (same ▸ member)
      have left := view.contains_less slot first contact other
      unfold takeOut
      rcases HandleSet.remove_cases (view.get first) repository contact with
        ⟨absent, same⟩ | ⟨present, next, _, same⟩ | ⟨present, failure, _, same⟩
      · have outside : view.contains first contact = false := absent
        rw [same]
        dsimp only
        rw [set_get, induction view repository (fun one member two again =>
          once one (List.mem_cons_of_mem _ member) two (List.mem_cons_of_mem _ again)) later]
        grind
      · rw [same]
        dsimp only
        rw [induction _ next ?_ later, left]
        · grind
        · intro one member two _ inside
          have still := ((view.contains_less one first contact contact).1 inside).1
          rw [alone present one member] at still
          cases still
      · have gone := alone present
        rw [same]
        dsimp only
        rw [left]
        grind

theorem others_of_nodup (target : Option Slot) : (othersOf target).Nodup := by
  rcases target with _ | slot
  · decide
  · cases slot <;> decide

theorem mem_others_of (target : Option Slot) (slot : Slot) :
    slot ∈ othersOf target ↔ target ≠ some slot := by
  rcases target with _ | one
  · cases slot <;> decide
  · cases one <;> cases slot <;> decide

theorem refuses_eq_false (view : ListView) (repository : Repository) (contact : Handle)
    (target : Option Slot) : view.refuses repository contact target = false ↔
      (target = none ∨ view.standing contact = target ∨ repository.isValid contact = true) := by
  rcases target with _ | slot
  · simp [refuses]
  · by_cases there : view.standing contact = some slot
    · simp [refuses, there]
    · simp [refuses, there]

/-- A contact comes to stand where it belongs, and only there, unless it is refused; every other
contact stays where it is. -/
theorem place_contains (apart : view.Apart) (repository : Repository) (contact : Handle)
    (target : Option Slot) (slot : Slot) (other : Handle) :
    (view.place repository contact target).1.contains slot other = true ↔
      if other = contact ∧ view.refuses repository contact target = false then target = some slot
      else view.contains slot other = true := by
  have out : ∀ (current : ListView) repository,
      (∀ first ∈ othersOf target, ∀ second ∈ othersOf target, current.contains first contact = true →
        current.contains second contact = true → first = second) →
      ((takeOut contact (othersOf target) current repository).1.contains slot other = true ↔
        current.contains slot other = true ∧ ¬(other = contact ∧ target ≠ some slot)) := by
    intro current repository once
    rw [take_out_contains contact _ current repository once (others_of_nodup target), mem_others_of]
  rcases target with _ | goal
  · have free : view.refuses repository contact none = false := rfl
    unfold place
    dsimp only
    rw [out view repository fun first _ second _ => apart contact first second]
    grind
  · unfold place
    dsimp only
    rcases HandleSet.add_cases (view.get goal) repository contact with
      ⟨present, same⟩ | ⟨absent, next, done, same⟩ | ⟨absent, invalid, failure, same⟩
    · have inside : view.contains goal contact = true := present
      have free : view.refuses repository contact (some goal) = false :=
        (refuses_eq_false ..).2 (.inr (.inl (apart.standing_iff.2 inside)))
      have only := apart contact goal slot inside
      rw [same]
      dsimp only
      rw [set_get, out view repository fun first _ second _ => apart contact first second]
      grind
    · have outside : view.contains goal contact = false := absent
      have free : view.refuses repository contact (some goal) = false :=
        (refuses_eq_false ..).2 (.inr (.inr (Repository.add_reference_taken done).valid))
      rw [same]
      dsimp only
      rw [out, contains_more]
      · grind
      · intro first member second again one two
        have elsewhere := (mem_others_of _ _).1 member
        have elsewhereToo := (mem_others_of _ _).1 again
        rw [contains_more] at one two
        have only := apart contact first second
        grind
    · have outside : view.standing contact ≠ some goal := by
        rw [ne_eq, apart.standing_iff, contains, absent]
        decide
      have refused : view.refuses repository contact (some goal) = true := by
        simp [refuses, outside, invalid]
      rw [same, refused]
      simp

theorem place_apart (apart : view.Apart) (repository : Repository) (contact : Handle)
    (target : Option Slot) : (view.place repository contact target).1.Apart := by
  intro other first second one two
  rw [place_contains apart] at one two
  have only := apart other first second
  grind

theorem place_standing (apart : view.Apart) (repository : Repository) (contact : Handle)
    (target : Option Slot) :
    (view.place repository contact target).1.standing contact
      = if view.refuses repository contact target = false then target
        else view.standing contact := by
  have placed := place_contains apart repository contact target
  have still := place_apart apart repository contact target
  apply Option.ext
  intro slot
  rw [still.standing_iff, placed]
  by_cases free : view.refuses repository contact target = false
  · simp [free]
  · simp [free, apart.standing_iff]

theorem place_elsewhere (apart : view.Apart) (repository : Repository) (target : Option Slot)
    {contact other : Handle} (different : other ≠ contact) :
    (view.place repository contact target).1.standing other = view.standing other := by
  apply standing_congr
  intro slot
  rw [Bool.eq_iff_iff, place_contains apart, if_neg fun both => different both.1]

/-! What one placement does to the repository. -/

theorem take_out_absent (contact : Handle) (slots : List Slot) (view : ListView)
    (repository : Repository) (absent : ∀ slot ∈ slots, view.contains slot contact = false) :
    takeOut contact slots view repository = (view, repository) := by
  induction slots with
  | nil => rfl
  | cons slot rest induction =>
      have outside : ¬ Catalog.contains (view.get slot) contact = true := by
        simpa [contains] using absent slot List.mem_cons_self
      have unchanged : HandleSet.remove (view.get slot) repository contact
          = ⟨.ok false, view.get slot, repository⟩ := if_neg outside
      unfold takeOut
      rw [unchanged]
      dsimp only
      rw [set_get]
      exact induction fun other member => absent other (List.mem_cons_of_mem _ member)

theorem place_idle (apart : view.Apart) (repository : Repository) {target : Option Slot}
    (there : view.standing contact = target) :
    view.place repository contact target = (view, repository) := by
  have absent : ∀ slot ∈ othersOf target, view.contains slot contact = false := by
    intro slot member
    by_contra inside
    have stands : view.standing contact = some slot :=
      apart.standing_iff.2 (by simpa using inside)
    exact (mem_others_of target slot).1 member (there.symm.trans stands)
  rcases target with _ | slot
  · exact take_out_absent contact _ view repository absent
  · have inside : Catalog.contains (view.get slot) contact = true := apart.standing_iff.1 there
    have unchanged : HandleSet.add (view.get slot) repository contact
        = ⟨.ok false, view.get slot, repository⟩ := if_pos inside
    unfold place
    dsimp only
    rw [unchanged]
    dsimp only
    rw [set_get]
    exact take_out_absent contact _ view repository absent

/-- Moving a contact matters only to its own handle, and neither ends nor revives the repository. -/
structure Local (repository next : Repository) (contact : Handle) : Prop where
  usable : next.isUsable = repository.isUsable
  elsewhere : ∀ other, other ≠ contact → next.isValid other = repository.isValid other

theorem Local.refl (repository : Repository) (contact : Handle) :
    Local repository repository contact :=
  ⟨rfl, fun _ _ => rfl⟩

theorem Local.trans {middle next : Repository} (first : Local repository middle contact)
    (second : Local middle next contact) : Local repository next contact :=
  ⟨second.usable.trans first.usable, fun other different =>
    (second.elsewhere other different).trans (first.elsewhere other different)⟩

theorem take_out_local (contact : Handle) (slots : List Slot) (view : ListView)
    (repository : Repository) : Local repository (takeOut contact slots view repository).2 contact := by
  induction slots generalizing view repository with
  | nil => exact .refl repository contact
  | cons slot rest induction =>
      unfold takeOut
      rcases HandleSet.remove_cases (view.get slot) repository contact with
        ⟨_, same⟩ | ⟨_, next, done, same⟩ | ⟨_, failure, _, same⟩
      · rw [same]
        exact induction _ repository
      · have returned := Repository.drop_reference_returned done
        rw [same]
        exact Local.trans ⟨returned.usable, returned.elsewhere⟩ (induction _ next)
      · rw [same]
        exact .refl repository contact

theorem place_local (view : ListView) (repository : Repository) (contact : Handle)
    (target : Option Slot) : Local repository (view.place repository contact target).2 contact := by
  rcases target with _ | slot
  · exact take_out_local contact _ view repository
  · unfold place
    dsimp only
    rcases HandleSet.add_cases (view.get slot) repository contact with
      ⟨_, same⟩ | ⟨_, next, done, same⟩ | ⟨_, _, failure, same⟩
    · rw [same]
      exact take_out_local contact _ _ repository
    · have taken := Repository.add_reference_taken done
      rw [same]
      exact Local.trans ⟨taken.usable, taken.elsewhere⟩ (take_out_local contact _ _ next)
    · rw [same]
      exact .refl repository contact

theorem place_valid (apart : view.Apart) {target : Option Slot}
    (settled : view.standing contact = none ∨ view.standing contact = target) :
    (view.place repository contact target).2.isValid contact = repository.isValid contact := by
  by_cases there : view.standing contact = target
  · rw [place_idle apart repository there]
  · have outside : ∀ slot, view.contains slot contact = false :=
      standing_none_iff.1 (settled.resolve_right there)
    rcases target with _ | slot
    · exact absurd (settled.resolve_right there) there
    · unfold place
      dsimp only
      rcases HandleSet.add_cases (view.get slot) repository contact with
        ⟨present, same⟩ | ⟨_, next, done, same⟩ | ⟨_, _, failure, same⟩
      · have inside : view.contains slot contact = true := present
        rw [outside slot] at inside
        cases inside
      · have absent : ∀ other ∈ othersOf (some slot),
            (view.set slot (Catalog.insert (view.get slot) contact ())).contains other contact
              = false := by
          intro other member
          by_contra inside
          rw [Bool.not_eq_false, contains_more] at inside
          rcases inside with earlier | ⟨_, same⟩
          · rw [outside other] at earlier
            cases earlier
          · exact (mem_others_of _ _).1 member (same ▸ rfl)
        rw [same]
        dsimp only
        rw [take_out_absent contact _ _ next absent]
        have taken := Repository.add_reference_taken done
        rw [taken.still, taken.valid]
      · rw [same]

variable {others : Handle → Nat}

variable {keeps : Repository → (Handle → Nat) → Prop}

theorem take_out_keeps (reckoning : Repository.Reckoning keeps) (contact : Handle)
    (slots : List Slot) (view : ListView) (repository : Repository)
    (kept : keeps repository fun key => others key + view.claims key) :
    keeps (takeOut contact slots view repository).2 fun key =>
      others key + (takeOut contact slots view repository).1.claims key := by
  induction slots generalizing view repository with
  | nil => exact kept
  | cons slot rest induction =>
      obtain ⟨besides, split, changed⟩ := view.claims_split slot
      have parted : keeps repository fun key =>
          others key + besides key + (view.get slot).claim key := by
        simpa only [split, Nat.add_assoc] using kept
      have left := HandleSet.remove_keeps reckoning contact parted
      simp only [Nat.add_assoc, ← changed] at left
      unfold takeOut
      dsimp only
      split
      · exact induction _ _ left
      · exact left

theorem place_keeps (reckoning : Repository.Reckoning keeps) (view : ListView) (contact : Handle)
    (target : Option Slot) (kept : keeps repository fun key => others key + view.claims key) :
    keeps (view.place repository contact target).2 fun key =>
      others key + (view.place repository contact target).1.claims key := by
  rcases target with _ | slot
  · exact take_out_keeps reckoning contact _ view repository kept
  · obtain ⟨besides, split, changed⟩ := view.claims_split slot
    have parted : keeps repository fun key =>
        others key + besides key + (view.get slot).claim key := by
      simpa only [split, Nat.add_assoc] using kept
    have more := HandleSet.add_keeps reckoning contact parted
    simp only [Nat.add_assoc, ← changed] at more
    unfold place
    dsimp only
    split
    · exact kept
    · exact take_out_keeps reckoning contact _ _ _ more

theorem place_refused (apart : view.Apart) {target : Option Slot}
    (refused : view.refuses repository contact target = true) :
    view.place repository contact target = (view, repository) := by
  rcases target with _ | slot
  · cases refused
  · have refusal : view.standing contact ≠ some slot ∧ repository.isValid contact = false := by
      simpa [refuses] using refused
    obtain ⟨outside, invalid⟩ := refusal
    unfold place
    dsimp only
    rcases HandleSet.add_cases (view.get slot) repository contact with
      ⟨present, _⟩ | ⟨_, next, done, _⟩ | ⟨_, _, failure, same⟩
    · exact absurd (apart.standing_iff.2 present) outside
    · rw [(Repository.add_reference_taken done).valid] at invalid
      cases invalid
    · rw [same]

end ListView

namespace ListUpdate

variable {initial : Bool} {places : Handle → Membership} {update : ListUpdate} {contact : Handle}

/-- Contacts are brought into place one after another, each where `places` says. -/
def along (initial : Bool) (places : Handle → Membership) (contacts : List Handle)
    (update : ListUpdate) : ListUpdate :=
  (contacts.map fun contact => (contact, places contact)).foldl (ListUpdate.step initial) update

def refuses (update : ListUpdate) (places : Handle → Membership) (contact : Handle) : Bool :=
  update.view.refuses update.repository contact (places contact).slot

theorem step_apart (apart : update.view.Apart) (initial : Bool) (entry : Handle × Membership) :
    (update.step initial entry).view.Apart :=
  ListView.place_apart apart update.repository entry.1 entry.2.slot

theorem step_other (apart : update.view.Apart) (initial : Bool) (membership : Membership)
    {other : Handle} (different : contact ≠ other) :
    (update.step initial (other, membership)).view.standing contact = update.view.standing contact ∧
      (update.step initial (other, membership)).repository.isValid contact
        = update.repository.isValid contact :=
  ⟨ListView.place_elsewhere apart update.repository membership.slot different,
    (update.view.place_local update.repository other membership.slot).elsewhere contact different⟩

theorem step_refuses (apart : update.view.Apart) (initial : Bool) (other : Handle) :
    (update.step initial (other, places other)).refuses places contact
      = if contact = other ∧ update.refuses places contact = false then false
        else update.refuses places contact := by
  by_cases same : contact = other
  · subst same
    cases refusal : update.refuses places contact with
    | true =>
        have unchanged := ListView.place_refused apart refusal
        rw [if_neg (by simp)]
        simp only [refuses, step, unchanged]
        exact refusal
    | false =>
        rw [if_pos ⟨rfl, rfl⟩]
        refine (ListView.refuses_eq_false ..).2 (.inr (.inl ?_))
        exact (ListView.place_standing apart ..).trans (if_pos refusal)
  · obtain ⟨stands, valid⟩ := step_other apart initial (places other) same
    rw [if_neg fun both => same both.1]
    unfold refuses ListView.refuses
    rw [stands, valid]

theorem along_apart (apart : update.view.Apart) (contacts : List Handle) :
    (update.along initial places contacts).view.Apart := by
  induction contacts generalizing update with
  | nil => exact apart
  | cons first rest induction => exact induction (step_apart apart initial (first, places first))

/-- In the end each of the contacts stands where it belongs, unless it was refused at first. -/
theorem along_standing (apart : update.view.Apart) (contacts : List Handle) (contact : Handle) :
    (update.along initial places contacts).view.standing contact
      = if contact ∈ contacts ∧ update.refuses places contact = false then (places contact).slot
        else update.view.standing contact := by
  induction contacts generalizing update with
  | nil => simp [along]
  | cons first rest induction =>
      have later := induction (step_apart apart initial (first, places first))
      rw [step_refuses apart] at later
      refine Eq.trans later ?_
      by_cases same : contact = first
      · subst same
        have placed := ListView.place_standing apart update.repository contact (places contact).slot
        cases refusal : update.refuses places contact with
        | true =>
            have unmoved : (update.step initial (contact, places contact)).view.standing contact
                = update.view.standing contact := placed.trans (if_neg (by
              change ¬ update.refuses places contact = false
              simp [refusal]))
            simp [unmoved]
        | false =>
            have moved : (update.step initial (contact, places contact)).view.standing contact
                = (places contact).slot := placed.trans (if_pos refusal)
            simp [moved]
      · rw [(step_other apart initial (places first) same).1]
        simp [same]

theorem along_usable (contacts : List Handle) (update : ListUpdate) :
    (update.along initial places contacts).repository.isUsable = update.repository.isUsable := by
  induction contacts generalizing update with
  | nil => rfl
  | cons first rest induction =>
      exact (induction _).trans
        (update.view.place_local update.repository first (places first).slot).usable

theorem along_valid (apart : update.view.Apart) (contacts : List Handle)
    (settled : update.view.standing contact = none ∨
      update.view.standing contact = (places contact).slot) :
    (update.along initial places contacts).repository.isValid contact
      = update.repository.isValid contact := by
  induction contacts generalizing update with
  | nil => rfl
  | cons first rest induction =>
      by_cases same : contact = first
      · subst same
        refine (induction (step_apart apart initial (contact, places contact)) ?_).trans
          (ListView.place_valid apart settled)
        -- A contact that is refused has not moved.
        have placed := ListView.place_standing apart update.repository contact (places contact).slot
        refine placed.symm ▸ ?_
        split
        · exact .inr rfl
        · exact settled
      · obtain ⟨stands, valid⟩ := step_other apart initial (places first) same
        refine (induction (step_apart apart initial (first, places first)) ?_).trans valid
        rw [stands]
        exact settled

theorem along_keeps {keeps : Repository → (Handle → Nat) → Prop} {others : Handle → Nat}
    (reckoning : Repository.Reckoning keeps) (contacts : List Handle)
    (kept : keeps update.repository fun key => others key + update.view.claims key) :
    keeps (update.along initial places contacts).repository fun key =>
      others key + (update.along initial places contacts).view.claims key := by
  induction contacts generalizing update with
  | nil => exact kept
  | cons first rest induction =>
      exact induction (ListView.place_keeps reckoning update.view first (places first).slot kept)

theorem note_view (change : MembershipChange) (view : ListView) (contact : Handle)
    (membership : Membership) : (change.note view initial contact membership).view = change.view := by
  unfold MembershipChange.note
  split <;> split <;> rfl

theorem along_view (contacts : List Handle) (update : ListUpdate) :
    (update.along initial places contacts).change.view = update.change.view := by
  induction contacts generalizing update with
  | nil => rfl
  | cons first rest induction =>
      exact (induction _).trans (note_view update.change update.view first (places first))

end ListUpdate

end ConnectionManager
