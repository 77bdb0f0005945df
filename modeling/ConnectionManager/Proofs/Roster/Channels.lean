import ConnectionManager.Proofs.Catalog
import ConnectionManager.Proofs.Roster.Moves
import ConnectionManager.Proofs.Roster.Paths
import Mathlib.Data.List.Nodup

/-!
The channels of a roster and the reports of its calls. Every view has the channel that its name
says (`Shaped`), so no two channels share a path; and in every call the reports of channels that
opened and closed make up for the difference between the channels before and after (`Balanced`).
-/

namespace ConnectionManager

def timesOpened (reports : List Report) (path : ObjectPath) : Nat :=
  reports.countP fun
    | .newChannel channel _ => channel.path = path
    | _ => false

def timesClosed (reports : List Report) (path : ObjectPath) : Nat :=
  reports.countP fun
    | .channelClosed closed => closed = path
    | _ => false

theorem times_opened_append (first second : List Report) (path : ObjectPath) :
    timesOpened (first ++ second) path = timesOpened first path + timesOpened second path :=
  List.countP_append

theorem times_closed_append (first second : List Report) (path : ObjectPath) :
    timesClosed (first ++ second) path = timesClosed first path + timesClosed second path :=
  List.countP_append

theorem times_opened_new (channel : Channel) (token : Option Token) (path : ObjectPath) :
    timesOpened [.newChannel channel token] path = [channel.path].count path := by
  by_cases same : channel.path = path <;> simp [timesOpened, same]

theorem times_closed_closed (closed path : ObjectPath) :
    timesClosed [.channelClosed closed] path = [closed].count path := by
  by_cases same : closed = path <;> simp [timesClosed, same]

namespace Roster

variable {β : Type}

def withGroups (roster : Roster β) (groups : Catalog String GroupView) : Roster β :=
  { roster with groups }

def paths (roster : Roster β) : List ObjectPath := roster.channels.map Channel.path

/-- Every view has the channel that its name says. -/
structure Shaped (surroundings : Surroundings) (roster : Roster β) : Prop where
  lists : ∀ name view, roster.lists.find? name = some view →
    ∃ path, listPath surroundings.connectionPath name = .ok path ∧
      view.channel = ⟨path, contactListType, .list, name.handle⟩
  groups : ∀ name view, roster.groups.find? name = some view →
    ∃ path handle, surroundings.channelPath [RosterCall.groupElement, name] = .ok path ∧
      view.channel = ⟨path, contactListType, .group, handle⟩

/-- Nothing is open, as before the roster arrives. -/
structure Unopened (roster : Roster β) : Prop where
  lists : ∀ name, roster.lists.find? name = none
  groups : ∀ name, roster.groups.find? name = none

theorem paths_eq (roster : Roster β) :
    roster.paths = (roster.lists.values.map fun view => view.channel.path)
      ++ roster.groups.values.map fun view => view.channel.path := by
  unfold paths channels
  rw [List.map_append, List.map_map, List.map_map]
  rfl

theorem Unopened.paths {roster : Roster β} (unopened : roster.Unopened) : roster.paths = [] := by
  have lists : roster.lists.entries = [] := List.isEmpty_iff.1
    ((Catalog.is_empty_iff _).2 unopened.lists)
  have groups : roster.groups.entries = [] := List.isEmpty_iff.1
    ((Catalog.is_empty_iff _).2 unopened.groups)
  rw [paths_eq, Catalog.values, Catalog.values, lists, groups]
  rfl

theorem Unopened.shaped {roster : Roster β} (unopened : roster.Unopened)
    (surroundings : Surroundings) : roster.Shaped surroundings where
  lists name view found := by
    rw [unopened.lists] at found
    cases found
  groups name view found := by
    rw [unopened.groups] at found
    cases found

theorem mem_values {κ ν : Type} [Ord κ] [Std.TransOrd κ] [Std.LawfulEqOrd κ]
    (catalog : Catalog κ ν) (value : ν) :
    value ∈ catalog.values ↔ ∃ key, catalog.find? key = some value := by
  rw [Catalog.values, List.mem_map]
  constructor
  · rintro ⟨⟨key, other⟩, member, rfl⟩
    exact ⟨key, (catalog.find_iff_mem key other).2 member⟩
  · rintro ⟨key, found⟩
    exact ⟨(key, value), (catalog.find_iff_mem key value).1 found, rfl⟩

theorem values_nodup {κ ν α : Type} [Ord κ] [Std.TransOrd κ] [Std.LawfulEqOrd κ]
    {catalog : Catalog κ ν} {read : ν → α}
    (apart : ∀ left right first second, catalog.find? left = some first →
      catalog.find? right = some second → read first = read second → left = right) :
    (catalog.values.map read).Nodup := by
  have entries : catalog.entries.Nodup := by
    refine catalog.ascending.imp ?_
    rintro left _ below rfl
    have itself : compare left.1 left.1 = .eq := Std.ReflCmp.compare_self
    rw [itself] at below
    cases below
  rw [Catalog.values, List.map_map]
  apply entries.map_on
  rintro ⟨left, first⟩ leftMember ⟨right, second⟩ rightMember same
  have foundLeft := (catalog.find_iff_mem left first).2 leftMember
  have foundRight := (catalog.find_iff_mem right second).2 rightMember
  have keys := apart left right first second foundLeft foundRight same
  subst keys
  rw [foundLeft] at foundRight
  cases foundRight
  rfl

theorem Shaped.paths_nodup {surroundings : Surroundings} {roster : Roster β}
    (shaped : roster.Shaped surroundings) : roster.paths.Nodup := by
  rw [paths_eq]
  refine List.Nodup.append (values_nodup ?_) (values_nodup ?_) ?_
  · intro left right first second foundLeft foundRight same
    obtain ⟨path, formed, channel⟩ := shaped.lists left first foundLeft
    obtain ⟨other, otherFormed, otherChannel⟩ := shaped.lists right second foundRight
    rw [channel, otherChannel] at same
    change path = other at same
    subst same
    exact list_path_injective formed otherFormed
  · intro left right first second foundLeft foundRight same
    obtain ⟨path, handle, formed, channel⟩ := shaped.groups left first foundLeft
    obtain ⟨other, otherHandle, otherFormed, otherChannel⟩ := shaped.groups right second foundRight
    rw [channel, otherChannel] at same
    change path = other at same
    subst same
    exact group_path_injective formed otherFormed
  · intro path listed grouped
    obtain ⟨view, member, same⟩ := List.mem_map.1 listed
    obtain ⟨name, found⟩ := (mem_values _ _).1 member
    obtain ⟨groupView, groupMember, groupSame⟩ := List.mem_map.1 grouped
    obtain ⟨groupName, groupFound⟩ := (mem_values _ _).1 groupMember
    obtain ⟨first, formed, channel⟩ := shaped.lists name view found
    obtain ⟨second, handle, groupFormed, groupChannel⟩ := shaped.groups groupName groupView groupFound
    rw [channel] at same
    rw [groupChannel] at groupSame
    exact list_path_ne_group_path formed groupFormed (same.trans groupSame.symm)

end Roster

namespace RosterCall

variable {β : Type} {surroundings : Surroundings} {call next : RosterCall β}

/-- The reports make up for what is open now and was not among `before`, and the other way round. -/
def Balanced (before : List ObjectPath) (call : RosterCall β) : Prop :=
  ∀ path, timesOpened call.reports path + before.count path
    = timesClosed call.reports path + call.roster.paths.count path

theorem Upkeep.channels (upkeep : Upkeep call next) :
    next.reports = call.reports ∧ next.roster.channels.Perm call.roster.channels := by
  cases upkeep with
  | work repositories worked => exact ⟨rfl, .refl _⟩
  | note events => exact ⟨rfl, .refl _⟩
  | list found changed same => exact ⟨rfl, (Catalog.values_replace_perm found same).append_right _⟩
  | group found changed same => exact ⟨rfl, (Catalog.values_replace_perm found same).append_left _⟩

theorem Upkeeps.channels (upkeeps : Upkeeps call next) :
    next.reports = call.reports ∧ next.roster.channels.Perm call.roster.channels := by
  induction upkeeps with
  | refl => exact ⟨rfl, .refl _⟩
  | tail _ move induction =>
      exact ⟨move.channels.1.trans induction.1, move.channels.2.trans induction.2⟩

theorem opened_channels {roster : Roster β} {name : String}
    (absent : roster.groups.find? name = none) (view : GroupView) :
    (roster.withGroups (roster.groups.insert name view)).channels.Perm
      (view.channel :: roster.channels) :=
  ((Catalog.values_insert_perm absent GroupView.channel).append_left _).trans List.perm_middle

theorem closed_channels {roster : Roster β} {name : String} {view : GroupView}
    (found : roster.groups.find? name = some view) :
    roster.channels.Perm
      (view.channel :: (roster.withGroups (roster.groups.erase name)).channels) :=
  ((Catalog.values_erase_perm found GroupView.channel).append_left _).trans List.perm_middle

theorem Move.balanced {before : List ObjectPath} (move : Move surroundings call next)
    (balanced : Balanced before call) : Balanced before next := by
  intro path
  have even := balanced path
  cases move with
  | growth growth =>
      cases growth with
      | upkeep upkeep =>
          obtain ⟨reports, channels⟩ := upkeep.channels
          have paths : next.roster.paths.count path = call.roster.paths.count path :=
            (channels.map Channel.path).count_eq path
          rw [reports, paths]
          exact even
      | opening opening =>
          cases opening with
          | note events => exact even
          | @opened name opened repository after handle absent reached found interned =>
              let channel : Channel := ⟨opened, contactListType, .group, handle⟩
              have paths := ((opened_channels absent { channel }).map Channel.path).count_eq path
              rw [List.map_cons, ← List.singleton_append, List.count_append] at paths
              have news := times_opened_new channel none path
              have ends : timesClosed [.newChannel channel none] path = 0 := rfl
              have grown : timesOpened (call.reports ++ [.newChannel channel none]) path
                  + before.count path
                  = timesClosed (call.reports ++ [.newChannel channel none]) path
                    + (call.roster.withGroups
                        (call.roster.groups.insert name { channel })).paths.count path := by
                rw [times_opened_append, times_closed_append, news, ends, Roster.paths, paths]
                rw [Roster.paths] at even
                dsimp only
                omega
              exact grown
          | failed channel failure token =>
              have news : timesOpened [.channelError channel failure (some token)] path = 0 := rfl
              have ends : timesClosed [.channelError channel failure (some token)] path = 0 := rfl
              rw [report, times_opened_append, times_closed_append, news, ends]
              exact even
  | @closed name view found =>
      have paths := ((closed_channels found).map Channel.path).count_eq path
      rw [List.map_cons, ← List.singleton_append, List.count_append] at paths
      have news : timesOpened [.channelClosed view.channel.path] path = 0 := rfl
      have ends := times_closed_closed view.channel.path path
      have shrunk : timesOpened (call.reports ++ [.channelClosed view.channel.path]) path
          + before.count path
          = timesClosed (call.reports ++ [.channelClosed view.channel.path]) path
            + (call.roster.withGroups (call.roster.groups.erase name)).paths.count path := by
        rw [times_opened_append, times_closed_append, news, ends, Roster.paths]
        rw [Roster.paths] at even
        omega
      exact shrunk

theorem Moves.balanced {before : List ObjectPath} (moves : Moves surroundings call next)
    (balanced : Balanced before call) : Balanced before next := by
  induction moves with
  | refl => exact balanced
  | tail _ move induction => exact move.balanced induction

theorem Move.shaped (move : Move surroundings call next) (shaped : call.roster.Shaped surroundings) :
    next.roster.Shaped surroundings := by
  cases move with
  | growth growth =>
      cases growth with
      | upkeep upkeep =>
          cases upkeep with
          | work repositories worked => exact shaped
          | note events => exact ⟨shaped.lists, shaped.groups⟩
          | list found changed same =>
              refine ⟨?_, shaped.groups⟩
              intro name view known
              rw [Catalog.find_insert] at known
              split at known
              · rename_i here
                cases known
                rw [same, here]
                exact shaped.lists _ _ found
              · exact shaped.lists name view known
          | group found changed same =>
              refine ⟨shaped.lists, ?_⟩
              intro name view known
              rw [Catalog.find_insert] at known
              split at known
              · rename_i here
                cases known
                rw [same, here]
                exact shaped.groups _ _ found
              · exact shaped.groups name view known
      | opening opening =>
          cases opening with
          | note events => exact ⟨shaped.lists, shaped.groups⟩
          | @opened name path repository after handle absent reached found interned =>
              refine ⟨shaped.lists, ?_⟩
              intro other view known
              change (call.roster.groups.insert name _).find? other = some view at known
              rw [Catalog.find_insert] at known
              split at known
              · rename_i here
                cases known
                rw [here]
                exact ⟨path, handle, reached, rfl⟩
              · exact shaped.groups other view known
          | failed channel failure token => exact shaped
  | closed found =>
      refine ⟨shaped.lists, ?_⟩
      intro other view known
      change (call.roster.groups.erase _).find? other = some view at known
      rw [Catalog.find_erase] at known
      split at known
      · cases known
      · exact shaped.groups other view known

theorem Moves.shaped (moves : Moves surroundings call next)
    (shaped : call.roster.Shaped surroundings) : next.roster.Shaped surroundings := by
  induction moves with
  | refl => exact shaped
  | tail _ move induction => exact move.shaped induction

theorem Move.frame (move : Move surroundings call next) :
    next.roster.phase = call.roster.phase ∧ next.roster.backend = call.roster.backend ∧
      next.roster.queued = call.roster.queued := by
  cases move with
  | growth growth =>
      cases growth with
      | upkeep upkeep => cases upkeep <;> exact ⟨rfl, rfl, rfl⟩
      | opening opening => cases opening <;> exact ⟨rfl, rfl, rfl⟩
  | closed found => exact ⟨rfl, rfl, rfl⟩

theorem Moves.frame (moves : Moves surroundings call next) :
    next.roster.phase = call.roster.phase ∧ next.roster.backend = call.roster.backend ∧
      next.roster.queued = call.roster.queued := by
  induction moves with
  | refl => exact ⟨rfl, rfl, rfl⟩
  | tail _ move induction =>
      obtain ⟨phase, backend, queued⟩ := move.frame
      obtain ⟨earlierPhase, earlierBackend, earlierQueued⟩ := induction
      exact ⟨phase.trans earlierPhase, backend.trans earlierBackend, queued.trans earlierQueued⟩

theorem Upkeeps.no_group (upkeeps : Upkeeps call next)
    (none : ∀ name, call.roster.groups.find? name = none) :
    ∀ name, next.roster.groups.find? name = .none := by
  induction upkeeps with
  | refl => exact none
  | tail _ move induction =>
      cases move with
      | work repositories worked => exact induction
      | note events => exact induction
      | list found changed same => exact induction
      | group found changed same =>
          rw [induction] at found
          cases found

end RosterCall

end ConnectionManager
