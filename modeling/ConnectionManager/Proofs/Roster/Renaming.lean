import ConnectionManager.Proofs.Roster.Balance
import ConnectionManager.Proofs.Roster.Paths

/-!
Renaming a group, all of it or nothing. A renaming is refused for a name that cannot be used, for an
old group that is not there, for a new one that is, and for a name that the repository of groups does
not take; then nothing at all changes. Otherwise the members move as they are, the repository of
groups counts one reference less on the old handle and one more on the new one, and one event tells of
it (`renaming_atomic`). The two handles may be the same, as the repository has a normal form of its
own; then its counts stay as they were.
-/

namespace ConnectionManager

namespace DynamicRepository

theorem exchange_shares {repository between : DynamicRepository} {id : String} {taken : Handle}
    (settled : repository.Settled) (interned : repository.intern id = .ok (taken, between))
    (given : Handle) :
    let after := between.orUnchanged (between.dropReference given)
    (∀ key, after.share key .service
        = repository.share key .service + single taken key - single given key) ∧
      ∀ key client, after.share key (.client client) = repository.share key (.client client) := by
  obtain ⟨settledBetween, more⟩ := intern_shares settled interned
  have holds : ∀ (handle key : Handle) client,
      occurrences [handle] .service key (.client client) = 0 := by
    intro handle key client
    simp [occurrences_single]
  cases done : between.dropReference given with
  | ok after =>
      obtain ⟨_, less⟩ := drop_shares settledBetween done
      refine ⟨fun key => ?_, fun key client => ?_⟩
      · have total := (more key .service).symm.trans (less key .service)
        rw [occurrences_service, occurrences_service] at total
        exact (Nat.sub_eq_of_eq_add total).symm
      · have total := (more key (.client client)).symm.trans (less key (.client client))
        rw [holds, holds] at total
        exact total.symm
  | error failure =>
      have none : between.share given .service = 0 := by
        by_contra referenced
        obtain ⟨after, again, _⟩ :=
          Repository.settled_drop settledBetween (Nat.pos_of_ne_zero referenced)
        rw [done] at again
        cases again
      refine ⟨fun key => ?_, fun key client => ?_⟩
      · change between.share key .service = _
        rw [← occurrences_service taken key, ← more]
        by_cases same : key = given
        · rw [same, none, Nat.zero_sub]
        · rw [single, if_neg same, Nat.sub_zero]
      · change between.share key (.client client) = _
        rw [more, holds, Nat.add_zero]

end DynamicRepository

namespace Repository

/-- A repository counts one reference more on one handle and one less on another, unless there was
none to lose, and clients hold what they held. A list of names counts nothing and does not change. -/
structure Exchanged (before after : Repository) (given taken : Handle) : Prop where
  counted : ∀ table, before.table = some table → ∃ changed, after.table = some changed ∧
    (∀ key, changed.share key .service
      = table.share key .service + single taken key - single given key) ∧
    ∀ key client, changed.share key (.client client) = table.share key (.client client)
  listed : before.table = none → after = before

theorem or_unchanged_table {wrap : DynamicRepository → Repository}
    (tables : ∀ table, (wrap table).table = some table) (table : DynamicRepository)
    (outcome : Outcome DynamicRepository) :
    ((wrap table).orUnchanged (outcome.map wrap)).table = some (table.orUnchanged outcome) := by
  cases outcome <;> exact tables _

theorem exchanged {before between : Repository} {id : String} {taken : Handle}
    (sound : before.Sound) (interned : before.intern id = .ok (taken, between)) (given : Handle) :
    before.Exchanged (between.orUnchanged (between.dropReference given)) given taken := by
  have settled : ∀ {table next : DynamicRepository}, table.invalid = true ∨ table.Settled →
      table.intern id = .ok (taken, next) → table.Settled := by
    intro table next sound done
    refine sound.resolve_left fun invalid => ?_
    rw [(DynamicRepository.intern_eq_ok done).1] at invalid
    cases invalid
  cases intern_by_form interned with
  | dynamic done =>
      refine ⟨fun table tabled => ?_, fun none => by cases none⟩
      cases tabled
      exact ⟨_, or_unchanged_table (fun _ => rfl) _ _,
        DynamicRepository.exchange_shares (settled sound done) done given⟩
  | guarded refused done =>
      refine ⟨fun table tabled => ?_, fun none => by cases none⟩
      cases tabled
      exact ⟨_, @or_unchanged_table (.guarded · refused) (fun _ => rfl) _ _,
        DynamicRepository.exchange_shares (settled sound done) done given⟩
  | @fixed list _ kept =>
      refine ⟨fun table tabled => (by cases tabled), fun _ => ?_⟩
      rw [kept.1]
      change Repository.orUnchanged _ ((list.check given).map _) = _
      cases list.check given <;> rfl

end Repository

namespace RosterCall

variable {β : Type} [RosterBackend β] {surroundings : Surroundings} {call next : RosterCall β}
  {old new oldName newName : String} {view : GroupView} {channel : Channel}

/-- Why a group is not renamed. -/
inductive RenamingRefused (call : RosterCall β) (old new : String) : Prop
  | unusableOld (unusable : call.roster.normalizeGroup old = none)
  | unusableNew (unusable : call.roster.normalizeGroup new = none)
  | unknown {oldName : String} (normal : call.roster.normalizeGroup old = some oldName)
      (absent : call.roster.groups.find? oldName = none)
  | present {newName : String} {view : GroupView}
      (normal : call.roster.normalizeGroup new = some newName)
      (present : call.roster.groups.find? newName = some view)
  | notInterned {newName : String} {failure : Failure}
      (normal : call.roster.normalizeGroup new = some newName)
      (refused : (do (← call.repositories.get .group).intern newName) = .error failure)

/-- What a renaming goes by: the normal names, the old view, and the channel of the new one. -/
structure Renaming (surroundings : Surroundings) (call : RosterCall β) (old new : String)
    (oldName newName : String) (view : GroupView) (channel : Channel) : Prop where
  oldNormal : call.roster.normalizeGroup old = some oldName
  newNormal : call.roster.normalizeGroup new = some newName
  present : call.roster.groups.find? oldName = some view
  absent : call.roster.groups.find? newName = none
  formed : surroundings.channelPath [groupElement, newName] = .ok channel.path
  named : channel = ⟨channel.path, contactListType, .group, channel.handle⟩
  interned : ∃ repository taken, call.repositories.get .group = .ok repository ∧
    repository.intern newName = .ok (channel.handle, taken)

/-- All that a renaming does, and nothing else. -/
structure Renamed (call : RosterCall β) (oldName newName : String) (view : GroupView)
    (channel : Channel) (next : RosterCall β) : Prop where
  told : next.roster.events = { call.roster.events with
    entries := call.roster.events.entries
      ++ [.groupRenamed oldName newName (HandleSet.toList view.members)] }
  reported : next.reports
    = call.reports ++ [.newChannel channel none, .channelClosed view.channel.path]
  gone : next.roster.groups.find? oldName = none
  moved : next.roster.groups.find? newName = some { channel, members := view.members }
  others : ∀ name, name ≠ oldName → name ≠ newName →
    next.roster.groups.find? name = call.roster.groups.find? name
  roster : { next.roster with groups := call.roster.groups, events := call.roster.events }
    = call.roster
  contacts : next.repositories.contacts = call.repositories.contacts
  kinds : ∀ kind, kind ≠ .group → next.repositories.get kind = call.repositories.get kind
  references : ∀ before, call.repositories.get .group = .ok before → before.Sound →
    ∃ after, next.repositories.get .group = .ok after ∧
      before.Exchanged after view.channel.handle channel.handle

theorem Renaming.different (renames : call.Renaming surroundings old new oldName newName view channel) :
    oldName ≠ newName := by
  intro same
  have present := renames.present
  rw [same, renames.absent] at present
  cases present

theorem Renaming.not_refused
    (renames : call.Renaming surroundings old new oldName newName view channel) :
    ¬ call.RenamingRefused old new := by
  obtain ⟨oldNormal, newNormal, present, absent, _, _, repository, taken, known, interned⟩ := renames
  rintro (unusable | unusable | ⟨normal, missing⟩ | ⟨normal, there⟩ | ⟨normal, refused⟩)
  · rw [oldNormal] at unusable
    cases unusable
  · rw [newNormal] at unusable
    cases unusable
  · rw [oldNormal] at normal
    cases normal
    rw [present] at missing
    cases missing
  · rw [newNormal] at normal
    cases normal
    rw [absent] at there
    cases there
  · rw [newNormal] at normal
    cases normal
    rw [known] at refused
    change repository.intern newName = _ at refused
    rw [interned] at refused
    cases refused

theorem group_renamed_received (received : call.roster.phase = .received) :
    call.groupRenamed surroundings old new
      = match call.roster.normalizeGroup old, call.roster.normalizeGroup new with
        | some old, some new => call.renameGroup surroundings old new
        | _, _ => call := if_pos received

omit [RosterBackend β] in
theorem rename_not_interned {failure : Failure} (absent : call.roster.groups.find? new = none)
    (refused : (do (← call.repositories.get .group).intern new) = .error failure) :
    call.renameGroup surroundings old new = call := by
  have unopened : ∃ failure, call.ensureGroup surroundings new = (.error failure, call) := by
    rcases call.ensure_group_cases surroundings new with ⟨failure, same, _⟩ | ⟨_, present, _⟩ |
      ⟨_, repository, _, _, _, _, known, interned, _⟩
    · exact ⟨failure, same⟩
    · rw [absent] at present
      cases present
    · rw [known] at refused
      change repository.intern new = _ at refused
      rw [interned] at refused
      cases refused
  obtain ⟨failure, unopened⟩ := unopened
  unfold renameGroup
  rw [unopened]
  split <;> rfl

theorem renaming_cases (surroundings : Surroundings) (old new : String) (call : RosterCall β)
    (received : call.roster.phase = .received) :
    (call.RenamingRefused old new ∧ call.groupRenamed surroundings old new = call) ∨
      ∃ oldName newName view channel,
        call.Renaming surroundings old new oldName newName view channel := by
  rw [group_renamed_received received]
  cases oldNormal : call.roster.normalizeGroup old with
  | none => exact .inl ⟨.unusableOld oldNormal, rfl⟩
  | some oldName =>
  cases newNormal : call.roster.normalizeGroup new with
  | none => exact .inl ⟨.unusableNew newNormal, rfl⟩
  | some newName =>
  cases found : call.roster.groups.find? oldName with
  | none =>
      refine .inl ⟨.unknown oldNormal found, ?_⟩
      dsimp only
      unfold renameGroup
      rw [found]
  | some view =>
  cases absent : call.roster.groups.find? newName with
  | some newView =>
      refine .inl ⟨.present newNormal absent, ?_⟩
      dsimp only
      unfold renameGroup
      rw [found, absent]
  | none =>
  cases interned : (do (← call.repositories.get .group).intern newName) with
  | error failure =>
      exact .inl ⟨.notInterned newNormal interned, rename_not_interned absent interned⟩
  | ok given =>
      obtain ⟨handle, taken⟩ := given
      obtain ⟨path, formed⟩ := group_path_ok surroundings newName
      obtain ⟨repository, known, interned⟩ := Outcome.bind_eq_ok.1 interned
      exact .inr ⟨oldName, newName, view, ⟨path, contactListType, .group, handle⟩, oldNormal,
        newNormal, found, absent, formed, rfl, repository, taken, known, interned⟩

theorem Renaming.result (renames : call.Renaming surroundings old new oldName newName view channel)
    (received : call.roster.phase = .received) :
    ∃ repository taken, call.repositories.get .group = .ok repository ∧
      repository.intern newName = .ok (channel.handle, taken) ∧
      call.groupRenamed surroundings old new = {
        roster := { call.roster with
          groups := ((call.roster.groups.insert newName { channel }).erase oldName).insert newName
            { channel, members := view.members }
          events := call.roster.events.emit
            (.groupRenamed oldName newName (HandleSet.toList view.members)) }
        repositories := call.repositories.set .group
          (taken.orUnchanged (taken.dropReference view.channel.handle))
        reports := call.reports ++ [.newChannel channel none] ++ [.channelClosed view.channel.path] } := by
  obtain ⟨oldNormal, newNormal, present, absent, formed, named, repository, taken, known, interned⟩ :=
    renames
  refine ⟨repository, taken, known, interned, ?_⟩
  have opened := ensure_group_opened absent formed known interned
  rw [← named] at opened
  have reached : (call.repositories.set .group taken).get .group = .ok taken :=
    Repositories.get_set known
  have inserted : (call.roster.groups.insert newName { channel }).find? newName
      = some { channel } := by
    rw [Catalog.find_insert, if_pos rfl]
  rw [group_renamed_received received, oldNormal, newNormal]
  dsimp only
  unfold renameGroup
  rw [present, absent, opened]
  simp only [report, inserted]
  unfold moveGroup releaseGroupHandle
  simp only [reached, report, emit, Repositories.set_set known]

theorem Renaming.renamed (renames : call.Renaming surroundings old new oldName newName view channel)
    (received : call.roster.phase = .received) :
    call.Renamed oldName newName view channel (call.groupRenamed surroundings old new) := by
  obtain ⟨repository, taken, known, interned, result⟩ := renames.result received
  have different := renames.different
  rw [result]
  refine {
    told := rfl
    reported := List.append_assoc _ _ _
    gone := ?_
    moved := ?_
    others := ?_
    roster := rfl
    contacts := call.repositories.set_group_contacts _
    kinds := fun kind other => Repositories.get_set_other other
    references := ?_ }
  · rw [Catalog.find_insert, if_neg different, Catalog.find_erase, if_pos rfl]
  · rw [Catalog.find_insert, if_pos rfl]
  · intro name notOld notNew
    rw [Catalog.find_insert, if_neg notNew, Catalog.find_erase, if_neg notOld, Catalog.find_insert,
      if_neg notNew]
  · intro before again sound
    cases known.symm.trans again
    exact ⟨_, Repositories.get_set known, Repository.exchanged sound interned _⟩

end RosterCall

namespace RosterBooks

variable {β : Type} [RosterBackend β] {books start : RosterBooks β}

theorem Run.view_referenced (run : Run start books) (fresh : start.Fresh) {name : String}
    {view : GroupView} {repository : Repository}
    (found : books.roster.groups.find? name = some view)
    (known : books.repositories.get .group = .ok repository) : repository.Sound ∧
      ∀ table, repository.table = some table → table.invalid = false →
        0 < table.share view.channel.handle .service := by
  obtain ⟨_, _, held, groups⟩ := run.balanced fresh
  have counts : repository.Counts True held fun key => books.roster.groupClaims key + books.groups key :=
    groups repository known
  refine ⟨?_, fun table tabled usable => ?_⟩
  · cases repository with
    | dynamic table => exact counts.imp And.right And.left
    | guarded table refused => exact counts.imp And.right And.left
    | fixed table => trivial
  · rw [counts.exact_table table tabled usable, Roster.group_claims_split found, single, if_pos rfl]
    omega

end RosterBooks

namespace RosterCall

variable {β : Type} [RosterBackend β]

/-- Renaming a group is atomic. It is refused and nothing at all changes: no view, no event, no
report, no repository. Or exactly one event tells of it, with all members of the old group, which is
gone then; the new group has these members, a channel for the new one is reported and then that for
the old one closed; no repository changes but that of groups, where the old handle loses one
reference, if there is one, and the new one gains one. As long as other code gives back only what it
took, the old handle does have a reference to lose. -/
theorem renaming_atomic (surroundings : Surroundings) (old new : String) (call : RosterCall β)
    (received : call.roster.phase = .received) :
    ((call.RenamingRefused old new ∧ call.groupRenamed surroundings old new = call) ∨
      (¬ call.RenamingRefused old new ∧ ∃ oldName newName view channel,
        call.Renaming surroundings old new oldName newName view channel ∧
        call.Renamed oldName newName view channel (call.groupRenamed surroundings old new))) ∧
    ∀ start books, RosterBooks.Run start books → start.Fresh → call.roster = books.roster →
      call.repositories = books.repositories → ∀ name view repository,
        call.roster.groups.find? name = some view → call.repositories.get .group = .ok repository →
          repository.Sound ∧ ∀ table, repository.table = some table → table.invalid = false →
            0 < table.share view.channel.handle .service := by
  constructor
  · rcases renaming_cases surroundings old new call received with refused |
      ⟨oldName, newName, view, channel, renames⟩
    · exact .inl refused
    · exact .inr ⟨renames.not_refused, oldName, newName, view, channel, renames,
        renames.renamed received⟩
  · intro start books run fresh rosters repositories name view repository found known
    rw [rosters] at found
    rw [repositories] at known
    exact run.view_referenced fresh found known

/-! Alice's group is renamed. -/

open RosterBooks (rehearsedGroup rehearsed_group_run rehearsed_start_fresh)
open RosterScene (rehearsedSurroundings)

theorem renaming_atomic_rehearsed :
    let call := rehearsedGroup.call
    let next := call.groupRenamed rehearsedSurroundings "friends" "family"
    call.roster.phase = .received ∧ ¬ call.RenamingRefused "friends" "family" ∧
    (∃ view channel repository, HandleSet.toList view.members = [1] ∧ view.channel.handle = 1 ∧
      channel.handle = 2 ∧ call.Renamed "friends" "family" view channel next ∧
      call.repositories.get .group = .ok repository ∧ repository.Sound) ∧
    call.RenamingRefused "family" "friends" ∧
    call.groupRenamed rehearsedSurroundings "family" "friends" = call := by
  intro call next
  have received : call.roster.phase = .received := by decide +kernel
  have names : call.roster.groupNames = ["friends"] ∧ next.roster.groupNames = ["family"] := by
    decide +kernel
  have normal : call.roster.normalizeGroup "friends" = some "friends" ∧
      call.roster.normalizeGroup "family" = some "family" := by
    decide +kernel
  have groups : (call.roster.groups.find? "friends").map (fun view =>
      (HandleSet.toList view.members, view.channel.handle)) = some ([1], 1) ∧
        (call.roster.groups.find? "family").isNone = true := by
    decide +kernel
  have given : (do (← call.repositories.get .group).intern "family").toOption.map Prod.fst
      = some 2 := by
    decide +kernel
  have unknown : call.RenamingRefused "family" "friends" :=
    .unknown normal.2 (Option.isNone_iff_eq_none.1 groups.2)
  obtain ⟨forward, referenced⟩ :=
    renaming_atomic rehearsedSurroundings "friends" "family" call received
  obtain ⟨backward, _⟩ := renaming_atomic rehearsedSurroundings "family" "friends" call received
  obtain ⟨fine, oldName, newName, view, channel, renames, renamed⟩ :=
    forward.resolve_left fun refused => by
      have same : next.roster.groupNames = call.roster.groupNames :=
        congrArg (fun call : RosterCall _ => call.roster.groupNames) refused.2
      rw [names.1, names.2] at same
      exact absurd same (by decide)
  cases normal.1.symm.trans renames.oldNormal
  cases normal.2.symm.trans renames.newNormal
  obtain ⟨repository, taken, known, interned⟩ := renames.interned
  have opened := groups.1
  rw [renames.present] at opened
  rw [known] at given
  change (repository.intern "family").toOption.map Prod.fst = _ at given
  rw [interned] at given
  obtain ⟨sound, _⟩ := referenced _ _ rehearsed_group_run rehearsed_start_fresh rfl rfl "friends"
    view repository renames.present known
  have parts := Prod.ext_iff.1 (Option.some.inj opened)
  exact ⟨received, fine, ⟨view, channel, repository, parts.1, parts.2, Option.some.inj given, renamed,
    known, sound⟩, unknown, (backward.resolve_right fun allowed => allowed.1 unknown).2⟩

end RosterCall

end ConnectionManager
