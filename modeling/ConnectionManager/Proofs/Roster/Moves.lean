import ConnectionManager.Proofs.Connection.Service
import ConnectionManager.Proofs.Handle.Repositories
import ConnectionManager.Roster.Notifications
import ConnectionManager.Roster.Writes

/-!
What a roster does in a call, as a chain of small moves. Views change, groups are opened and
closed, and each opening and closing leaves its report in the same move; everything else leaves the
channels alone. Lists are opened only when the roster arrives, and not by these moves.
-/

namespace ConnectionManager

namespace RosterCall

variable {β : Type}

/-- A move that leaves the channels and the reports alone. -/
inductive Upkeep : RosterCall β → RosterCall β → Prop
  | work (call : RosterCall β) (repositories : Repositories)
      (worked : call.repositories.Steps repositories) : Upkeep call { call with repositories }
  | note (call : RosterCall β) (events : Journal RosterEvent) :
      Upkeep call { call with roster := { call.roster with events } }
  | list {call : RosterCall β} {name : ListName} {view : ListView}
      (found : call.roster.lists.find? name = some view) (changed : ListView)
      (same : changed.channel = view.channel) :
      Upkeep call
        { call with roster := { call.roster with lists := call.roster.lists.insert name changed } }
  | group {call : RosterCall β} {name : String} {view : GroupView}
      (found : call.roster.groups.find? name = some view) (changed : GroupView)
      (same : changed.channel = view.channel) :
      Upkeep call
        { call with roster := { call.roster with groups := call.roster.groups.insert name changed } }

/-- A move that leaves the views alone, unless it opens a group. -/
inductive Opening (surroundings : Surroundings) : RosterCall β → RosterCall β → Prop
  | note (call : RosterCall β) (events : Journal RosterEvent) :
      Opening surroundings call { call with roster := { call.roster with events } }
  | opened {call : RosterCall β} {name : String} {path : ObjectPath} {repository next : Repository}
      {handle : Handle} (absent : call.roster.groups.find? name = none)
      (reached : surroundings.channelPath [groupElement, name] = .ok path)
      (found : call.repositories.get .group = .ok repository)
      (interned : repository.intern name = .ok (handle, next)) :
      Opening surroundings call
        (({ call with
          repositories := call.repositories.set .group next
          roster := { call.roster with
            groups := call.roster.groups.insert name
              { channel := ⟨path, contactListType, .group, handle⟩ } } }).report
          (.newChannel ⟨path, contactListType, .group, handle⟩ none))
  | failed (call : RosterCall β) (channel : Channel) (failure : Failure) (token : Token) :
      Opening surroundings call (call.report (.channelError channel failure (some token)))

/-- A move that closes nothing. -/
inductive Growth (surroundings : Surroundings) : RosterCall β → RosterCall β → Prop
  | upkeep {call next : RosterCall β} (upkeep : Upkeep call next) : Growth surroundings call next
  | opening {call next : RosterCall β} (opening : Opening surroundings call next) :
      Growth surroundings call next

inductive Move (surroundings : Surroundings) : RosterCall β → RosterCall β → Prop
  | growth {call next : RosterCall β} (growth : Growth surroundings call next) :
      Move surroundings call next
  | closed {call : RosterCall β} {name : String} {view : GroupView}
      (found : call.roster.groups.find? name = some view) :
      Move surroundings call
        (({ call with
          roster := { call.roster with groups := call.roster.groups.erase name } }).report
          (.channelClosed view.channel.path))

abbrev Upkeeps : RosterCall β → RosterCall β → Prop := Relation.ReflTransGen Upkeep

abbrev Openings (surroundings : Surroundings) : RosterCall β → RosterCall β → Prop :=
  Relation.ReflTransGen (Opening surroundings)

abbrev Growths (surroundings : Surroundings) : RosterCall β → RosterCall β → Prop :=
  Relation.ReflTransGen (Growth surroundings)

abbrev Moves (surroundings : Surroundings) : RosterCall β → RosterCall β → Prop :=
  Relation.ReflTransGen (Move surroundings)

variable {surroundings : Surroundings} {call next : RosterCall β}

theorem Upkeeps.growths (upkeeps : Upkeeps call next) : Growths surroundings call next :=
  Relation.ReflTransGen.mono (fun _ _ => Growth.upkeep) _ _ upkeeps

theorem Openings.growths (openings : Openings surroundings call next) :
    Growths surroundings call next :=
  Relation.ReflTransGen.mono (fun _ _ => Growth.opening) _ _ openings

theorem Growths.moves (growths : Growths surroundings call next) : Moves surroundings call next :=
  Relation.ReflTransGen.mono (fun _ _ => Move.growth) _ _ growths

theorem Openings.moves (openings : Openings surroundings call next) :
    Moves surroundings call next :=
  Growths.moves (Openings.growths openings)

theorem Upkeeps.moves (upkeeps : Upkeeps call next) : Moves surroundings call next :=
  Growths.moves (Upkeeps.growths upkeeps)

/-- What is done for every element of a list is a chain, seen through `read`, if it is one for each
element. -/
theorem fold_chain_on {α σ τ : Type} {move : τ → τ → Prop} {step : σ → α → σ} (read : σ → τ)
    (chain : ∀ state element, Relation.ReflTransGen move (read state) (read (step state element)))
    (elements : List α) (state : σ) :
    Relation.ReflTransGen move (read state) (read (elements.foldl step state)) := by
  induction elements generalizing state with
  | nil => exact .refl
  | cons element rest induction => exact (chain state element).trans (induction _)

theorem fold_chain {α σ : Type} {move : σ → σ → Prop} {step : σ → α → σ}
    (chain : ∀ state element, Relation.ReflTransGen move state (step state element))
    (elements : List α) (state : σ) :
    Relation.ReflTransGen move state (elements.foldl step state) :=
  fold_chain_on id chain elements state

end RosterCall

/-! Sets of contacts use the repository through its operations. -/

theorem HandleSet.add_steps (set : HandleSet) (repository : Repository) (handle : Handle) :
    repository.Steps (set.add repository handle).repository := by
  unfold HandleSet.add
  split
  · exact .refl
  · split
    · rename_i next done
      exact .single (.referenced done)
    · exact .refl

theorem HandleSet.remove_steps (set : HandleSet) (repository : Repository) (handle : Handle) :
    repository.Steps (set.remove repository handle).repository := by
  unfold HandleSet.remove
  split
  · split
    · rename_i next done
      exact .single (.dropped done)
    · exact .refl
  · exact .refl

theorem ListView.set_channel (view : ListView) (slot : Slot) (handles : HandleSet) :
    (view.set slot handles).channel = view.channel := by
  cases slot <;> rfl

theorem ListView.take_out_steps (contact : Handle) (slots : List Slot) (view : ListView)
    (repository : Repository) :
    (takeOut contact slots view repository).1.channel = view.channel ∧
      repository.Steps (takeOut contact slots view repository).2 := by
  induction slots generalizing view repository with
  | nil => exact ⟨rfl, .refl⟩
  | cons slot rest induction =>
      have first := HandleSet.remove_steps (view.get slot) repository contact
      have kept := view.set_channel slot (HandleSet.remove (view.get slot) repository contact).set
      unfold takeOut
      dsimp only
      split
      · obtain ⟨same, later⟩ := induction (view.set slot
          (HandleSet.remove (view.get slot) repository contact).set)
          (HandleSet.remove (view.get slot) repository contact).repository
        exact ⟨same.trans kept, first.trans later⟩
      · exact ⟨kept, first⟩

theorem ListView.place_steps (view : ListView) (repository : Repository) (contact : Handle)
    (target : Option Slot) :
    (view.place repository contact target).1.channel = view.channel ∧
      repository.Steps (view.place repository contact target).2 := by
  unfold place
  split
  · exact take_out_steps contact _ view repository
  · rename_i slot
    have first := HandleSet.add_steps (view.get slot) repository contact
    have kept := view.set_channel slot (HandleSet.add (view.get slot) repository contact).set
    dsimp only
    split
    · exact ⟨rfl, .refl⟩
    · obtain ⟨same, later⟩ := take_out_steps contact (othersOf (some slot))
        (view.set slot (HandleSet.add (view.get slot) repository contact).set)
        (HandleSet.add (view.get slot) repository contact).repository
      exact ⟨same.trans kept, first.trans later⟩

namespace RosterCall

variable {β : Type} {surroundings : Surroundings} {call : RosterCall β}

theorem contacts_work (call : RosterCall β) {contacts : Repository}
    (steps : call.repositories.contacts.Steps contacts) :
    Upkeep call (call.withContacts contacts) := by
  have found : call.repositories.get .contact = .ok call.repositories.contacts := rfl
  exact .work call _ (Repositories.steps_on found steps)

theorem emit_upkeep (call : RosterCall β) (event : RosterEvent) :
    Upkeep call (call.emit event) :=
  .note call (call.roster.events.emit event)

theorem emit_opening (call : RosterCall β) (event : RosterEvent) :
    Opening surroundings call (call.emit event) :=
  .note call (call.roster.events.emit event)

theorem emit_change_upkeeps (call : RosterCall β) (change : MembershipChange) (always : Bool) :
    Upkeeps call (call.emitChange change always) := by
  unfold emitChange
  split
  · exact .refl
  · exact .single (call.emit_upkeep _)

theorem update_list_upkeeps [RosterBackend β] (initial : Bool) (contacts : List Handle)
    (call : RosterCall β) (list : ListName) :
    Upkeeps call (updateList initial contacts call list) := by
  unfold updateList
  split
  · exact .refl
  · rename_i view found
    have updated : ∀ (entries : List (Handle × Membership)) (update : ListUpdate),
        (entries.foldl (ListUpdate.step initial) update).view.channel = update.view.channel ∧
          update.repository.Steps (entries.foldl (ListUpdate.step initial) update).repository := by
      intro entries
      induction entries with
      | nil => exact fun update => ⟨rfl, .refl⟩
      | cons entry rest induction =>
          intro update
          have placed := update.view.place_steps update.repository entry.1 entry.2.slot
          have later := induction (update.step initial entry)
          exact ⟨later.1.trans placed.1, placed.2.trans later.2⟩
    obtain ⟨same, steps⟩ := updated
      (contacts.map fun contact => (contact, call.roster.membership list contact))
      ⟨view, call.repositories.contacts, { view := .list list }⟩
    have viewed : Upkeeps call _ := .single (.list found _ same)
    exact (viewed.tail (contacts_work _ steps)).trans (emit_change_upkeeps _ _ _)

theorem step_fields (change : HandleSet → Repository → Handle → HandleSet.Change)
    (update : GroupUpdate) (contact : Handle) :
    (update.step change contact).members = (change update.members update.repository contact).set ∧
      (update.step change contact).repository
        = (change update.members update.repository contact).repository := by
  unfold GroupUpdate.step
  dsimp only
  split <;> exact ⟨rfl, rfl⟩

theorem update_group_steps {change : HandleSet → Repository → Handle → HandleSet.Change}
    (steps : ∀ set (repository : Repository) handle,
      repository.Steps (change set repository handle).repository)
    (handles : List Handle) (update : GroupUpdate) :
    update.repository.Steps (handles.foldl (GroupUpdate.step change) update).repository := by
  induction handles generalizing update with
  | nil => exact .refl
  | cons handle rest induction =>
      have first := steps update.members update.repository handle
      rw [← (step_fields change update handle).2] at first
      exact first.trans (induction _)

theorem change_group_upkeeps (call : RosterCall β) (name : String) (add remove : List Handle)
    (always : Bool) : Upkeeps call (call.changeGroup name add remove always) := by
  unfold changeGroup
  split
  · exact .refl
  · rename_i view found
    let entered := add.foldl GroupUpdate.add
      { members := view.members, repository := call.repositories.contacts }
    let left := remove.foldl GroupUpdate.remove
      { members := entered.members, repository := entered.repository }
    have steps : call.repositories.contacts.Steps left.repository :=
      .trans (update_group_steps HandleSet.add_steps add ⟨view.members, call.repositories.contacts, []⟩)
        (update_group_steps HandleSet.remove_steps remove ⟨entered.members, entered.repository, []⟩)
    have viewed : Upkeeps call _ :=
      .single (.group found { view with members := left.members } rfl)
    exact (viewed.tail (contacts_work _ steps)).trans (emit_change_upkeeps _ _ _)

theorem release_group_eq (call : RosterCall β) (handle : Handle) :
    ∃ repositories, call.repositories.Steps repositories ∧
      call.releaseGroupHandle handle = { call with repositories } := by
  unfold releaseGroupHandle
  split
  · exact ⟨call.repositories, .refl, rfl⟩
  · rename_i repository found
    have dropped : repository.Steps
        (repository.orUnchanged (repository.dropReference handle)) :=
      repository.or_unchanged_steps fun _ done => .dropped done
    exact ⟨_, Repositories.steps_on found dropped, rfl⟩

theorem ensure_group_opened {surroundings : Surroundings} {call : RosterCall β} {name : String}
    {path : ObjectPath} {repository next : Repository} {handle : Handle}
    (absent : call.roster.groups.find? name = none)
    (formed : surroundings.channelPath [groupElement, name] = .ok path)
    (known : call.repositories.get .group = .ok repository)
    (interned : repository.intern name = .ok (handle, next)) :
    call.ensureGroup surroundings name = (.ok true, ({ call with
      repositories := call.repositories.set .group next
      roster := { call.roster with
        groups := call.roster.groups.insert name
          { channel := ⟨path, contactListType, .group, handle⟩ } } }).report
      (.newChannel ⟨path, contactListType, .group, handle⟩ none)) := by
  have closed : ¬ call.roster.groups.contains name = true := by
    rw [Catalog.contains, absent]
    exact Bool.false_ne_true
  unfold ensureGroup
  rw [if_neg closed, formed, known]
  dsimp only [bind, Except.bind]
  rw [interned]

theorem ensure_group_cases (surroundings : Surroundings) (call : RosterCall β) (name : String) :
    (∃ failure, call.ensureGroup surroundings name = (.error failure, call) ∧
        call.roster.groups.find? name = none) ∨
      (∃ view, call.roster.groups.find? name = some view ∧
        call.ensureGroup surroundings name = (.ok false, call)) ∨
      ∃ path repository handle next, call.roster.groups.find? name = none ∧
        surroundings.channelPath [groupElement, name] = .ok path ∧
        call.repositories.get .group = .ok repository ∧
        repository.intern name = .ok (handle, next) ∧
        call.ensureGroup surroundings name
          = (.ok true, ({ call with
              repositories := call.repositories.set .group next
              roster := { call.roster with
                groups := call.roster.groups.insert name
                  { channel := ⟨path, contactListType, .group, handle⟩ } } }).report
              (.newChannel ⟨path, contactListType, .group, handle⟩ none)) := by
  cases found : call.roster.groups.find? name with
  | some view =>
      right
      left
      refine ⟨view, rfl, if_pos ?_⟩
      rw [Catalog.contains, found]
      rfl
  | none =>
      have absent : ¬ call.roster.groups.contains name = true := by
        rw [Catalog.contains, found]
        exact Bool.false_ne_true
      cases reached : surroundings.channelPath [groupElement, name] with
      | error failure =>
          left
          refine ⟨failure, ?_, rfl⟩
          rw [ensureGroup, if_neg absent, reached]
          rfl
      | ok path =>
          cases known : call.repositories.get .group with
          | error failure =>
              left
              refine ⟨failure, ?_, rfl⟩
              rw [ensureGroup, if_neg absent, reached, known]
              rfl
          | ok repository =>
              cases interned : repository.intern name with
              | error failure =>
                  left
                  refine ⟨failure, ?_, rfl⟩
                  rw [ensureGroup, if_neg absent, reached, known]
                  dsimp only [bind, Except.bind]
                  rw [interned]
              | ok given =>
                  obtain ⟨handle, next⟩ := given
                  right
                  right
                  exact ⟨path, repository, handle, next, rfl, rfl, rfl, interned,
                    ensure_group_opened found reached known interned⟩

theorem ensure_group_openings (call : RosterCall β) (name : String) :
    Openings surroundings call (call.ensureGroup surroundings name).2 := by
  rcases ensure_group_cases surroundings call name with ⟨failure, same, _⟩ | ⟨view, _, same⟩ |
    ⟨path, repository, handle, next, absent, reached, found, interned, same⟩
  all_goals rw [same]
  exact .single (.opened absent reached found interned)

theorem drop_group_moves (call : RosterCall β) (name : String) :
    Moves surroundings call (call.dropGroup name).2 := by
  unfold dropGroup
  split
  · exact .refl
  · rename_i view found
    have cleared : call.repositories.contacts.Steps
        (HandleSet.clear view.members call.repositories.contacts) :=
      Repository.try_each_chain _ .dropped _ _
    dsimp only
    obtain ⟨repositories, worked, same⟩ := release_group_eq
      (({ call with roster := { call.roster with groups := call.roster.groups.erase name } }
        ).withContacts (HandleSet.clear view.members call.repositories.contacts)) view.channel.handle
    rw [same]
    have closing : Moves surroundings call _ := .single (.closed found)
    have emptied := closing.tail (.growth (.upkeep (contacts_work _ cleared)))
    exact emptied.tail (.growth (.upkeep (.work _ repositories worked)))

theorem when_received_moves {action : RosterCall β → RosterCall β} (call : RosterCall β)
    (moves : Moves surroundings call (action call)) :
    Moves surroundings call (call.whenReceived action) := by
  unfold whenReceived
  split
  · exact moves
  · exact .refl

theorem contacts_changed_moves [RosterBackend β] (changed removed : List Handle) (call : RosterCall β) :
    Moves surroundings call (contactsChanged changed removed call) := by
  apply when_received_moves
  have updated : Moves surroundings call _ := Upkeeps.moves
    (fold_chain (update_list_upkeeps false (changed ++ removed))
      [ListName.subscribe, .publish, .stored] call)
  dsimp only
  split
  · exact updated
  · exact updated.trans (fold_chain (fun current name =>
      Upkeeps.moves (change_group_upkeeps current name [] removed false)) _ _)

theorem blocking_changed_moves [RosterBackend β] (changed : List Handle) (call : RosterCall β) :
    Moves surroundings call (blockingChanged changed call) :=
  when_received_moves call (Upkeeps.moves (update_list_upkeeps false changed call .deny))

theorem ensure_groups_openings (names : List String) (call : RosterCall β) :
    Openings surroundings call (ensureGroups surroundings names call).2 := by
  refine fold_chain_on Prod.snd (fun state name => ?_) names ([], call)
  have ensured : Openings surroundings state.2 _ := ensure_group_openings state.2 name
  dsimp only
  split
  · rename_i next done
    rw [done] at ensured
    exact ensured
  · rename_i next done
    rw [done] at ensured
    exact ensured

theorem announce_groups_openings (names : List String) (call : RosterCall β) :
    Openings surroundings call (announceGroups surroundings names call) := by
  have created : Openings surroundings call _ := ensure_groups_openings names call
  unfold announceGroups
  dsimp only
  split
  · exact created
  · exact created.tail (emit_opening _ _)

theorem groups_created_moves [RosterBackend β] (names : List String) (call : RosterCall β) :
    Moves surroundings call (groupsCreated surroundings names call) :=
  when_received_moves call (Openings.moves (announce_groups_openings _ call))

theorem remove_group_moves (state : List String × RosterCall β) (name : String) :
    Moves surroundings state.2 (removeGroup state name).2 := by
  have emptied : Moves surroundings state.2 _ := Upkeeps.moves
    (change_group_upkeeps state.2 name [] (state.2.roster.groupMembers name) false)
  have dropped : Moves surroundings _ _ := drop_group_moves
    (state.2.changeGroup name [] (state.2.roster.groupMembers name) false) name
  unfold removeGroup
  dsimp only
  split
  · rename_i next gone
    rw [gone] at dropped
    exact emptied.trans dropped
  · rename_i next gone
    rw [gone] at dropped
    exact emptied.trans dropped

theorem groups_removed_moves [RosterBackend β] (names : List String) (call : RosterCall β) :
    Moves surroundings call (groupsRemoved names call) := by
  apply when_received_moves
  have removed : Moves surroundings call _ := fold_chain_on Prod.snd remove_group_moves
    (names.filterMap call.roster.normalizeGroup) ([], call)
  dsimp only
  split
  · exact removed
  · exact removed.tail (.growth (.upkeep (emit_upkeep _ _)))

/-- The old group is closed before the new one, which has no members yet, gets its members. -/
theorem move_group_moves {old new : String} {oldView newView : GroupView} (different : old ≠ new)
    (foundOld : call.roster.groups.find? old = some oldView)
    (foundNew : call.roster.groups.find? new = some newView) :
    Moves surroundings call (moveGroup old new oldView newView call) := by
  unfold moveGroup
  dsimp only
  obtain ⟨repositories, worked, same⟩ := release_group_eq
    { call with roster := { call.roster with
      groups := (call.roster.groups.erase old).insert new
        { newView with members := oldView.members } } } oldView.channel.handle
  rw [same]
  have closing : Moves surroundings call _ := .single (.closed foundOld)
  have still : (call.roster.groups.erase old).find? new = some newView := by
    rw [Catalog.find_erase, if_neg different.symm, foundNew]
  have channel : ({ newView with members := oldView.members } : GroupView).channel
      = newView.channel := rfl
  have filled := closing.tail (.growth (.upkeep (.group still _ channel)))
  have given := filled.tail (.growth (.upkeep (.work _ repositories worked)))
  exact given.tail (.growth (.upkeep (emit_upkeep _ _)))

theorem rename_group_cases (surroundings : Surroundings) (old new : String) (call : RosterCall β) :
    renameGroup surroundings old new call = call ∨
      ∃ oldView channel next, old ≠ new ∧ call.roster.groups.find? old = some oldView ∧
        call.roster.groups.find? new = none ∧
        call.ensureGroup surroundings new = (.ok true, next) ∧
        next.roster.groups = call.roster.groups.insert new { channel } ∧
        renameGroup surroundings old new call = next.moveGroup old new oldView { channel } := by
  unfold renameGroup
  split
  · rename_i oldView found absent
    have different : old ≠ new := by
      intro same
      rw [same, absent] at found
      cases found
    rcases ensure_group_cases surroundings call new with ⟨failure, same, _⟩ | ⟨view, present, _⟩ |
      ⟨path, _, handle, _, _, _, _, _, same⟩
    · exact .inl (by rw [same])
    · rw [absent] at present
      cases present
    · right
      refine ⟨oldView, _, _, different, found, absent, same, rfl, ?_⟩
      have inserted : (call.roster.groups.insert new
          { channel := ⟨path, contactListType, .group, handle⟩ }).find? new
            = some { channel := ⟨path, contactListType, .group, handle⟩ } := by
        rw [Catalog.find_insert, if_pos rfl]
      rw [same]
      simp only [report, inserted]
  · exact .inl rfl

theorem rename_group_moves (old new : String) (call : RosterCall β) :
    Moves surroundings call (renameGroup surroundings old new call) := by
  rcases rename_group_cases surroundings old new call with
    same | ⟨oldView, channel, next, different, found, _, opened, groups, same⟩
  · rw [same]
  · have opening : Moves surroundings call (call.ensureGroup surroundings new).2 :=
      Growths.moves (Openings.growths (ensure_group_openings call new))
    rw [opened] at opening
    rw [same]
    refine opening.trans (move_group_moves different ?_ ?_)
    · rw [groups, Catalog.find_insert, if_neg different, found]
    · rw [groups, Catalog.find_insert, if_pos rfl]

theorem group_renamed_moves [RosterBackend β] (old new : String) (call : RosterCall β) :
    Moves surroundings call (groupRenamed surroundings old new call) := by
  apply when_received_moves
  split
  · exact rename_group_moves _ _ call
  · exact .refl

theorem groups_changed_moves [RosterBackend β] (contacts : List Handle) (added removed : List String)
    (call : RosterCall β) :
    Moves surroundings call (groupsChanged surroundings contacts added removed call) := by
  apply when_received_moves
  have created : Growths surroundings call _ :=
    Openings.growths (announce_groups_openings (added.filterMap call.roster.normalizeGroup) call)
  have joined := created.trans (Upkeeps.growths (fold_chain (fun current name =>
    change_group_upkeeps current name contacts [] false)
      (added.filterMap call.roster.normalizeGroup) _))
  exact Growths.moves (joined.trans (Upkeeps.growths (fold_chain (fun current name =>
    change_group_upkeeps current name [] contacts false)
      (removed.filterMap call.roster.normalizeGroup) _)))

/-! Requests, and the arrival of the roster after its lists are there. -/

variable [RosterBackend β]

/-- How a request for a group by its name is answered, and what the roster does for it. -/
inductive Answering (surroundings : Surroundings) (call : RosterCall β) (name : String) :
    RequestAnswer × RosterCall β → Prop
  | existing {view : GroupView} (found : call.roster.groups.find? name = some view) :
      Answering surroundings call name (.existing view.channel, call)
  | unavailable : Answering surroundings call name (.notAvailable, call)
  | failed (failure : Failure) : Answering surroundings call name (.failed failure, call)
  | created {path : ObjectPath} {repository next : Repository} {handle : Handle}
      (absent : call.roster.groups.find? name = none)
      (reached : surroundings.channelPath [groupElement, name] = .ok path)
      (found : call.repositories.get .group = .ok repository)
      (interned : repository.intern name = .ok (handle, next)) :
      Answering surroundings call name (.created ⟨path, contactListType, .group, handle⟩,
        (({ call with
          repositories := call.repositories.set .group next
          roster := { call.roster with
            groups := call.roster.groups.insert name
              { channel := ⟨path, contactListType, .group, handle⟩ } } }).report
          (.newChannel ⟨path, contactListType, .group, handle⟩ none)).emit (.groupsCreated [name]))

theorem answer_group_answering (surroundings : Surroundings) (call : RosterCall β) (name : String) :
    Answering surroundings call name (call.answerGroup surroundings name) := by
  unfold answerGroup
  split
  · rename_i view found
    exact .existing found
  · rename_i absent
    split
    · rcases ensure_group_cases surroundings call name with ⟨failure, same, _⟩ |
        ⟨view, present, _⟩ | ⟨path, repository, handle, next, _, reached, found, interned, same⟩
      · rw [same]
        exact .failed failure
      · rw [absent] at present
        cases present
      · have inserted : (call.roster.groups.insert name
            { channel := ⟨path, contactListType, .group, handle⟩ }).find? name
              = some { channel := ⟨path, contactListType, .group, handle⟩ } := by
          rw [Catalog.find_insert, if_pos rfl]
        rw [same]
        simp only [emit, report, inserted]
        exact .created absent reached found interned
    · exact .unavailable

theorem answer_group_openings (call : RosterCall β) (name : String) :
    Openings surroundings call (call.answerGroup surroundings name).2 := by
  have answering := answer_group_answering surroundings call name
  generalize call.answerGroup surroundings name = given at answering ⊢
  cases answering with
  | existing | unavailable | failed => exact .refl
  | created absent reached found interned =>
      exact (Relation.ReflTransGen.single (.opened absent reached found interned)).tail
        (emit_opening _ _)

theorem answer_openings (call : RosterCall β) (request : ChannelRequest) :
    Openings surroundings call (call.answer surroundings request).2 := by
  unfold answer
  split
  · split
    · exact .refl
    · split <;> exact .refl
  · split
    · exact .refl
    · split
      · exact .refl
      · exact answer_group_openings call _
  all_goals exact .refl

theorem finish_queued_openings (call : RosterCall β) (entry : Token × ChannelRequest) :
    Openings surroundings call (call.finishQueued surroundings entry) := by
  have answered : Openings surroundings call _ := answer_openings call entry.2
  unfold finishQueued
  dsimp only
  split
  · exact .refl
  · split
    · exact answered
    · exact answered
    · exact answered
    · exact answered.tail (.failed _ _ _ _)

omit [RosterBackend β] in
theorem receive_group_growths (call : RosterCall β) (entry : String × List Handle) :
    Growths surroundings call (call.receiveGroup surroundings entry) := by
  have ensured : Growths surroundings call _ :=
    Openings.growths (ensure_group_openings call entry.1)
  unfold receiveGroup
  split
  · rename_i failure next refused
    rw [refused] at ensured
    exact ensured
  · rename_i created next opened
    rw [opened] at ensured
    exact ensured.trans (Upkeeps.growths (change_group_upkeeps next entry.1 entry.2 [] true))

theorem receive_groups_growths (contacts : List Handle) (call : RosterCall β) :
    Growths surroundings call (call.receiveGroups surroundings contacts) := by
  unfold receiveGroups
  split
  · split
    · exact .refl
    · exact fold_chain receive_group_growths _ call
  · exact .refl

theorem receive_lists_upkeeps (call : RosterCall β) : Upkeeps call call.receiveLists := by
  unfold receiveLists
  dsimp only
  exact fold_chain (fun current list => update_list_upkeeps true _ current list) _ call

def forgetting (call : RosterCall β) : RosterCall β :=
  { call with roster := { call.roster with queued := [] } }

theorem finish_all_openings (call : RosterCall β) :
    Openings surroundings call.forgetting (call.finishAll surroundings) :=
  fold_chain finish_queued_openings _ _

def postponing (call : RosterCall β) (request : ChannelRequest) (token : Token) : RosterCall β :=
  { call with roster := { call.roster with queued := call.roster.queued ++ [(token, request)] } }

theorem request_cases (call : RosterCall β) (surroundings : Surroundings)
    (request : ChannelRequest) (token : Token) :
    (call.request surroundings request token = (.queued, call.postponing request token) ∧
        call.roster.phase = .waiting ∧ request.channelType = contactListType ∧
        (request.kind = .list ∨ request.kind = .group)) ∨
      (call.request surroundings request token = call.answer surroundings request ∧
        call.roster.phase = .received ∧ request.channelType = contactListType) ∨
      ∃ refusal, call.request surroundings request token = (refusal, call) ∧
        refusal ≠ .queued ∧ (∀ channel, refusal ≠ .created channel) := by
  unfold RosterCall.request
  dsimp only
  split
  · exact .inr (.inr ⟨_, rfl, by decide, by simp⟩)
  · rename_i ours
    have sort : request.channelType = contactListType := by simpa using ours
    split
    · exact .inr (.inr ⟨_, rfl, by simp, by simp⟩)
    · rename_i received
      exact .inr (.inl ⟨rfl, received, sort⟩)
    · rename_i waiting
      split
      · rename_i kind
        split
        · exact .inr (.inr ⟨_, rfl, by simp, by simp⟩)
        · split
          · exact .inl ⟨rfl, waiting, sort, .inl kind⟩
          · exact .inr (.inr ⟨_, rfl, by simp, by simp⟩)
      · rename_i kind
        exact .inl ⟨rfl, waiting, sort, .inr kind⟩
      all_goals exact .inr (.inr ⟨_, rfl, by simp, by simp⟩)

/-! The repositories are used through their operations. -/

omit [RosterBackend β] in
theorem Move.steps {next : RosterCall β} (move : Move surroundings call next) :
    call.repositories.Steps next.repositories := by
  cases move with
  | growth growth =>
      cases growth with
      | upkeep upkeep =>
          cases upkeep with
          | work repositories worked => exact worked
          | note events => exact .refl
          | list found changed same => exact .refl
          | group found changed same => exact .refl
      | opening opening =>
          cases opening with
          | note events => exact .refl
          | opened absent reached found interned =>
              exact Repositories.steps_on found (.single (.interned interned))
          | failed channel failure token => exact .refl
  | closed found => exact .refl

omit [RosterBackend β] in
theorem Moves.steps {next : RosterCall β} (moves : Moves surroundings call next) :
    call.repositories.Steps next.repositories := by
  induction moves with
  | refl => exact .refl
  | tail _ move induction => exact induction.trans move.steps

omit [RosterBackend β] in
theorem drop_group_steps (call : RosterCall β) (name : String) :
    call.repositories.Steps (call.dropGroup name).2.repositories := by
  unfold dropGroup
  split
  · exact .refl
  · rename_i view found
    have cleared : call.repositories.contacts.Steps
        (HandleSet.clear view.members call.repositories.contacts) :=
      Repository.try_each_chain _ .dropped _ _
    have known : call.repositories.get .contact = .ok call.repositories.contacts := rfl
    obtain ⟨repositories, worked, same⟩ := release_group_eq
      (({ call with roster := { call.roster with groups := call.roster.groups.erase name } }
        ).withContacts (HandleSet.clear view.members call.repositories.contacts)) view.channel.handle
    dsimp only
    rw [same]
    exact (Repositories.steps_on known cleared).trans worked

omit [RosterBackend β] in
theorem close_all_steps (call : RosterCall β) :
    call.repositories.Steps call.closeAll.repositories := by
  have cleared : ∀ (views : List ListView) (current : RosterCall β),
      current.repositories.Steps (views.foldl (fun current view =>
        (current.withContacts (view.clear current.repositories.contacts)).report
          (.channelClosed view.channel.path)) current).repositories := by
    intro views
    induction views with
    | nil => exact fun current => .refl
    | cons view rest induction =>
        intro current
        have emptied : current.repositories.contacts.Steps
            (view.clear current.repositories.contacts) :=
          ((Repository.try_each_chain _ .dropped _ _).trans
            (Repository.try_each_chain _ .dropped _ _)).trans
            (Repository.try_each_chain _ .dropped _ _)
        have found : current.repositories.get .contact = .ok current.repositories.contacts := rfl
        have first := Repositories.steps_on found emptied
        exact first.trans (induction ((current.withContacts
          (view.clear current.repositories.contacts)).report (.channelClosed view.channel.path)))
  unfold closeAll
  dsimp only
  have lists := cleared call.roster.lists.values
    { call with roster := { call.roster with queued := [], lists := .empty } }
  exact lists.trans (fold_chain_on RosterCall.repositories drop_group_steps _ _)

end RosterCall

theorem Roster.works {β : Type} [RosterBackend β] :
    Connection.FactoriesWork Repositories.Step (Roster β) where
  request roster request token surroundings repositories := by
    let call : RosterCall β := { roster, repositories }
    change repositories.Steps (call.request surroundings request token).2.repositories
    rcases call.request_cases surroundings request token with
      ⟨same, _⟩ | ⟨same, _⟩ | ⟨refusal, same, _⟩
    · rw [same]
      exact .refl
    · have answered : RosterCall.Openings surroundings call _ := call.answer_openings request
      rw [same]
      exact (RosterCall.Openings.moves answered).steps
    · rw [same]
  hook roster hook surroundings repositories := by
    cases hook with
    | connecting => exact .refl
    | connected => exact .refl
    | disconnected => exact .refl
    | closeAll => exact RosterCall.close_all_steps { roster, repositories }

end ConnectionManager
