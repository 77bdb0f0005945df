import ConnectionManager.Proofs.Handle.Steps

/-!
All repositories of a connection, step by step. A step is one of a single repository, or the
leaving of a client, which every repository notices.
-/

namespace ConnectionManager.Repositories

variable {repositories next : Repositories} {kind other : HandleKind}
  {repository changed : Repository} {handle : Handle} {id : String}

inductive Step : Repositories → Repositories → Prop
  | on {repositories : Repositories} {kind : HandleKind} {repository next : Repository}
      (found : repositories.get kind = .ok repository) (step : repository.Step next) :
      Step repositories (repositories.set kind next)
  | vanished (repositories : Repositories) (client : String) :
      Step repositories (repositories.clientVanished client)

abbrev Steps : Repositories → Repositories → Prop := Relation.ReflTransGen Step

theorem get_eq_ok : repositories.get kind = .ok repository ↔
    (kind = .contact ∧ repositories.contacts = repository) ∨
      (kind ≠ .contact ∧ repositories.others.find? kind = some repository) := by
  unfold get
  by_cases contact : kind = .contact
  · simp [contact]
  · cases found : repositories.others.find? kind <;> simp [contact]

theorem get_set (found : repositories.get kind = .ok repository) :
    (repositories.set kind changed).get kind = .ok changed := by
  rw [get_eq_ok] at found ⊢
  unfold set
  rcases found with ⟨contact, _⟩ | ⟨different, known⟩
  · rw [if_pos contact]
    exact .inl ⟨contact, rfl⟩
  · have present : repositories.others.contains kind = true := by rw [Catalog.contains, known]; rfl
    rw [if_neg different, if_pos present, Catalog.find_insert, if_pos rfl]
    exact .inr ⟨different, rfl⟩

theorem get_set_other (different : other ≠ kind) :
    (repositories.set kind changed).get other = repositories.get other := by
  unfold set get
  by_cases contact : kind = .contact
  · subst contact
    rw [if_pos rfl, if_neg different, if_neg different]
  · rw [if_neg contact]
    by_cases present : repositories.others.contains kind = true
    · rw [if_pos present]
      simp only [Catalog.find_insert, if_neg different]
    · rw [if_neg present]

theorem set_other_contacts (different : kind ≠ .contact) :
    (repositories.set kind changed).contacts = repositories.contacts := by
  unfold set
  rw [if_neg different]
  split <;> rfl

theorem set_get (found : repositories.get kind = .ok repository) :
    repositories.set kind repository = repositories := by
  rw [get_eq_ok] at found
  unfold set
  rcases found with ⟨contact, same⟩ | ⟨different, known⟩
  · rw [if_pos contact, ← same]
  · have unchanged : repositories.others.insert kind repository = repositories.others := by
      apply Catalog.ext_find
      intro sought
      rw [Catalog.find_insert]
      split
      · rename_i same
        rw [same, known]
      · rfl
    rw [if_neg different, unchanged, ite_self]

theorem set_set (found : repositories.get kind = .ok repository) (first second : Repository) :
    (repositories.set kind first).set kind second = repositories.set kind second := by
  rw [get_eq_ok] at found
  unfold set
  rcases found with ⟨contact, _⟩ | ⟨different, known⟩
  · simp only [if_pos contact]
  · have present : repositories.others.contains kind = true := by rw [Catalog.contains, known]; rfl
    have again : (repositories.others.insert kind first).contains kind = true := by
      rw [Catalog.contains, Catalog.find_insert, if_pos rfl]
      rfl
    have twice : (repositories.others.insert kind first).insert kind second
        = repositories.others.insert kind second := by
      apply Catalog.ext_find
      intro sought
      rw [Catalog.find_insert, Catalog.find_insert, Catalog.find_insert]
      split <;> rfl
    simp only [if_neg different, if_pos present, if_pos again, twice]

theorem steps_on (found : repositories.get kind = .ok repository)
    (steps : repository.Steps changed) : repositories.Steps (repositories.set kind changed) := by
  induction steps with
  | refl =>
      rw [set_get found]
  | @tail before after _ step induction =>
      have further := Step.on (get_set found) step
      rw [set_set found] at further
      exact induction.tail further

theorem get_client_vanished (client : String) :
    (repositories.clientVanished client).get kind
      = (repositories.get kind).map (·.clientVanished client) := by
  unfold get clientVanished
  by_cases contact : kind = .contact
  · rw [if_pos contact, if_pos contact]
    rfl
  · rw [if_neg contact, if_neg contact, Catalog.find_map_values]
    cases repositories.others.find? kind <;> rfl

theorem get_invalidate_all :
    repositories.invalidateAll.get kind = (repositories.get kind).map Repository.invalidate := by
  unfold get invalidateAll
  by_cases contact : kind = .contact
  · rw [if_pos contact, if_pos contact]
    rfl
  · rw [if_neg contact, if_neg contact, Catalog.find_map_values]
    cases repositories.others.find? kind <;> rfl

def Sound (repositories : Repositories) : Prop :=
  ∀ kind repository, repositories.get kind = .ok repository → repository.Sound

/-- A handle of a kind is valid and stands for an identifier. -/
def Denotes (repositories : Repositories) (kind : HandleKind) (handle : Handle) (id : String) :
    Prop :=
  ∃ repository, repositories.get kind = .ok repository ∧ repository.inspect handle = .ok id

def Live (repositories : Repositories) (kind : HandleKind) (handle : Handle) : Prop :=
  ∃ repository, repositories.get kind = .ok repository ∧ repository.isValid handle = true

theorem Step.at_kind (step : repositories.Step next) (found : next.get kind = .ok changed) :
    ∃ repository, repositories.get kind = .ok repository ∧
      (changed = repository ∨ repository.Step changed) := by
  cases step with
  | @on moved repository after known step =>
      by_cases same : kind = moved
      · subst same
        rw [get_set known] at found
        cases found
        exact ⟨repository, known, .inr step⟩
      · rw [get_set_other same] at found
        exact ⟨changed, found, .inl rfl⟩
  | vanished client =>
      rw [get_client_vanished] at found
      obtain ⟨repository, known, same⟩ := Outcome.map_eq_ok.1 found
      subst same
      exact ⟨repository, known, .inr (.vanished repository client)⟩

theorem Step.still (step : repositories.Step next) (found : repositories.get kind = .ok repository) :
    ∃ changed, next.get kind = .ok changed := by
  cases step with
  | @on moved before after known step =>
      by_cases same : kind = moved
      · subst same
        exact ⟨after, get_set known⟩
      · exact ⟨repository, by rw [get_set_other same, found]⟩
  | vanished client => exact ⟨repository.clientVanished client, by rw [get_client_vanished, found]; rfl⟩

theorem Steps.still (steps : repositories.Steps next)
    (found : repositories.get kind = .ok repository) : ∃ changed, next.get kind = .ok changed := by
  induction steps with
  | refl => exact ⟨repository, found⟩
  | tail _ step induction =>
      obtain ⟨changed, known⟩ := induction
      exact step.still known

theorem Step.sound (step : repositories.Step next) (sound : repositories.Sound) : next.Sound := by
  intro kind changed found
  obtain ⟨repository, known, rfl | taken⟩ := step.at_kind found
  · exact sound kind changed known
  · exact taken.sound (sound kind repository known)

theorem Step.keeps (step : repositories.Step next) (sound : repositories.Sound)
    (denoted : repositories.Denotes kind handle id) (live : next.Live kind handle) :
    next.Denotes kind handle id := by
  obtain ⟨changed, found, valid⟩ := live
  obtain ⟨repository, known, named⟩ := denoted
  obtain ⟨earlier, again, same | taken⟩ := step.at_kind found
  · rw [known] at again
    cases again
    exact ⟨changed, found, same ▸ named⟩
  · rw [known] at again
    cases again
    exact ⟨changed, found, taken.keeps (sound kind repository known) named valid⟩

theorem Denotes.unique {first second : String} (left : repositories.Denotes kind handle first)
    (right : repositories.Denotes kind handle second) : first = second := by
  obtain ⟨repository, found, named⟩ := left
  obtain ⟨again, foundAgain, namedAgain⟩ := right
  rw [found] at foundAgain
  cases foundAgain
  rw [named] at namedAgain
  cases namedAgain
  rfl

theorem invalidate_all_sound : repositories.invalidateAll.Sound := by
  intro kind changed found
  rw [get_invalidate_all] at found
  obtain ⟨repository, _, same⟩ := Outcome.map_eq_ok.1 found
  subst same
  cases repository with
  | dynamic repository => exact .inl rfl
  | guarded repository refused => exact .inl rfl
  | fixed repository => trivial

theorem invalidate_all_dead : ¬ repositories.invalidateAll.Live kind handle := by
  rintro ⟨changed, found, valid⟩
  rw [get_invalidate_all] at found
  obtain ⟨repository, _, same⟩ := Outcome.map_eq_ok.1 found
  subst same
  cases repository <;> cases valid

/-- What operations made of new repositories is sound. -/
theorem history_sound (kind : HandleKind) (normalize : String → Outcome String)
    (operations : List DynamicRepository.Operation) :
    (Repository.dynamic (DynamicRepository.history kind normalize operations)).Sound :=
  .inr (DynamicRepository.history_settled kind normalize operations)

theorem standard_sound : standard.Sound := by
  intro kind repository found
  have plain : ∀ kind, (Repository.dynamic (.plain kind)).Sound := fun kind =>
    history_sound kind DynamicRepository.plainIdentifier []
  rcases get_eq_ok.1 found with ⟨_, same⟩ | ⟨_, known⟩
  · rw [← same]
    exact plain .contact
  · have others : standard.others
        = (Catalog.empty.insert .list (.fixed .lists)).insert .group (.dynamic (.plain .group)) := rfl
    rw [others, Catalog.find_insert, Catalog.find_insert] at known
    split at known
    · cases known
      exact plain .group
    · split at known
      · cases known
        trivial
      · cases known

end ConnectionManager.Repositories
