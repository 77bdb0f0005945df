import ConnectionManager.Proofs.Roster.Channels

/-!
The arrival of a roster, stage by stage: its lists are created and filled, their channels are
reported, the groups follow, and then the requests that waited are answered.
-/

namespace ConnectionManager.RosterCall

variable {β : Type} [RosterBackend β] {surroundings : Surroundings}

def withLists (call : RosterCall β) (lists : Catalog ListName ListView) : RosterCall β :=
  { call with roster := { call.roster with lists } }

def receiving (call : RosterCall β) : RosterCall β :=
  { call with roster := { call.roster with phase := .received } }

theorem create_lists_ok (surroundings : Surroundings) (names : List ListName)
    (call : RosterCall β) :
    ∃ lists, createLists surroundings names call = (true, call.withLists lists) ∧
      (call.roster.Shaped surroundings → (call.withLists lists).roster.Shaped surroundings) := by
  induction names generalizing call with
  | nil => exact ⟨call.roster.lists, rfl, id⟩
  | cons name rest induction =>
      rw [createLists]
      by_cases supported : call.roster.hasView name = true
      · obtain ⟨path, formed⟩ := list_path_ok surroundings.connectionPath name
        let view : ListView := { channel := ⟨path, contactListType, .list, name.handle⟩ }
        obtain ⟨lists, created, later⟩ := induction
          (call.withLists (call.roster.lists.insert name view))
        rw [if_pos supported, formed]
        refine ⟨lists, created, fun shaped => later ⟨?_, shaped.groups⟩⟩
        intro other found known
        change (call.roster.lists.insert name view).find? other = some found at known
        rw [Catalog.find_insert] at known
        split at known
        · rename_i here
          cases known
          rw [here]
          exact ⟨path, formed, rfl⟩
        · exact shaped.lists other found known
      · rw [if_neg supported]
        exact induction call

omit [RosterBackend β] in
theorem report_lists_eq (call : RosterCall β) :
    call.reportLists = { call with
      reports := call.reports
        ++ call.roster.lists.values.map fun view => .newChannel view.channel none } := by
  have along : ∀ (views : List ListView) (current : RosterCall β),
      views.foldl (fun current view => current.report (.newChannel view.channel none)) current
        = { current with
            reports := current.reports ++ views.map fun view => .newChannel view.channel none } := by
    intro views
    induction views with
    | nil => simp
    | cons view rest induction =>
        intro current
        rw [List.foldl_cons, induction]
        simp [report]
  exact along _ call

/-- The first stages lead to a roster whose lists are filled, and which has told nothing yet. -/
theorem list_received_stages (surroundings : Surroundings) (call : RosterCall β)
    (waiting : call.roster.phase = .waiting) :
    ∃ (filled : RosterCall β) (contacts : List Handle),
      call.listReceived surroundings
        = (filled.reportLists.receiveGroups surroundings contacts).finishAll surroundings ∧
      filled.reports = call.reports ∧ filled.roster.phase = .received ∧
      filled.roster.queued = call.roster.queued ∧
      call.repositories.Steps filled.repositories ∧
      (call.roster.Unopened → (∀ name, filled.roster.groups.find? name = none) ∧
        filled.roster.Shaped surroundings) := by
  obtain ⟨lists, created, shaped⟩ :=
    create_lists_ok surroundings ListName.all call.receiving
  let started := call.receiving.withLists lists
  have upkeeps : Upkeeps started started.receiveLists := started.receive_lists_upkeeps
  have moves : Moves surroundings started started.receiveLists := Upkeeps.moves upkeeps
  obtain ⟨phase, _, queued⟩ := moves.frame
  refine ⟨started.receiveLists, RosterBackend.contacts call.roster.backend, ?_,
    upkeeps.channels.1, phase, queued, moves.steps, ?_⟩
  · have arrived : createLists surroundings ListName.all
        { call with roster := { call.roster with phase := .received } } = (true, started) := created
    unfold listReceived
    rw [if_neg (by simpa using waiting)]
    dsimp only
    rw [arrived]
  · intro unopened
    have still : call.receiving.roster.Unopened := ⟨unopened.lists, unopened.groups⟩
    exact ⟨upkeeps.no_group unopened.groups, moves.shaped (shaped (still.shaped surroundings))⟩

omit [RosterBackend β] in
theorem report_lists_balanced {filled : RosterCall β} (silent : filled.reports = [])
    (bare : ∀ name, filled.roster.groups.find? name = none) : Balanced [] filled.reportLists := by
  intro path
  have groups : filled.roster.groups.entries = [] := List.isEmpty_iff.1
    ((Catalog.is_empty_iff _).2 bare)
  have news : ∀ views : List ListView,
      timesOpened (views.map fun view => .newChannel view.channel none) path
        = (views.map fun view => view.channel.path).count path := by
    intro views
    induction views with
    | nil => rfl
    | cons view rest induction =>
        rw [List.map_cons, List.map_cons, ← List.singleton_append, times_opened_append, times_opened_new,
          induction, ← List.count_append]
        rfl
  have ends : ∀ views : List ListView,
      timesClosed (views.map fun view => .newChannel view.channel none) path = 0 := by
    intro views
    induction views with
    | nil => rfl
    | cons view rest induction => exact induction
  rw [report_lists_eq, silent, List.nil_append, news, ends, Roster.paths_eq, Catalog.values,
    Catalog.values, groups]
  simp

theorem list_received_chain (surroundings : Surroundings) (call : RosterCall β)
    (waiting : call.roster.phase = .waiting) :
    ∃ filled grown : RosterCall β, filled.reports = call.reports ∧
      Growths surroundings filled.reportLists grown ∧
      Openings surroundings grown.forgetting (call.listReceived surroundings) ∧
      call.listReceived surroundings = grown.finishAll surroundings ∧
      grown.roster.phase = .received ∧ grown.roster.queued = call.roster.queued ∧
      call.repositories.Steps filled.repositories ∧
      (call.roster.Unopened → (∀ name, filled.roster.groups.find? name = none) ∧
        filled.roster.Shaped surroundings) := by
  obtain ⟨filled, contacts, same, reports, phase, queued, worked, opened⟩ :=
    list_received_stages surroundings call waiting
  have told : filled.reportLists.roster = filled.roster := by rw [report_lists_eq]
  have growths : Growths surroundings filled.reportLists
      (filled.reportLists.receiveGroups surroundings contacts) := receive_groups_growths contacts _
  obtain ⟨kept, _, left⟩ := (Growths.moves growths).frame
  refine ⟨filled, _, reports, growths, ?_, same, kept.trans (told ▸ phase), left.trans (told ▸ queued),
    worked, opened⟩
  rw [same]
  exact finish_all_openings _

theorem list_received_steps (surroundings : Surroundings) (call : RosterCall β) :
    call.repositories.Steps (call.listReceived surroundings).repositories := by
  by_cases waiting : call.roster.phase = .waiting
  · obtain ⟨filled, grown, _, growths, openings, _, _, _, worked, _⟩ :=
      list_received_chain surroundings call waiting
    have told : filled.reportLists.repositories = filled.repositories := by rw [report_lists_eq]
    exact (worked.trans (told ▸ (Growths.moves growths).steps)).trans (Openings.moves openings).steps
  · have late : call.listReceived surroundings = call := if_pos waiting
    rw [late]

/-- When the roster has arrived, it has told of every channel that it opened, and of no other. -/
theorem list_received_balanced (surroundings : Surroundings) (call : RosterCall β)
    (waiting : call.roster.phase = .waiting) (unopened : call.roster.Unopened)
    (silent : call.reports = []) :
    Balanced [] (call.listReceived surroundings) ∧
      (call.listReceived surroundings).roster.Shaped surroundings ∧
      (call.listReceived surroundings).roster.phase = .received ∧
      (call.listReceived surroundings).roster.queued = [] := by
  obtain ⟨filled, grown, reports, growths, openings, _, phase, _, _, opened⟩ :=
    list_received_chain surroundings call waiting
  obtain ⟨bare, shaped⟩ := opened unopened
  have told : filled.reportLists.roster = filled.roster := by rw [report_lists_eq]
  have balanced : Balanced [] grown :=
    (Growths.moves growths).balanced (report_lists_balanced (reports.trans silent) bare)
  have grownShaped : grown.roster.Shaped surroundings :=
    (Growths.moves growths).shaped (told ▸ shaped)
  have forgotten : grown.forgetting.roster.Shaped surroundings :=
    ⟨grownShaped.lists, grownShaped.groups⟩
  obtain ⟨kept, _, none⟩ := (Openings.moves openings).frame
  exact ⟨(Openings.moves openings).balanced balanced, (Openings.moves openings).shaped forgotten,
    kept.trans phase, none⟩

end ConnectionManager.RosterCall
