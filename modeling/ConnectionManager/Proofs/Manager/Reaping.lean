import ConnectionManager.Proofs.Connection.Calls
import ConnectionManager.Proofs.Manager.Ownership

/-!
What a manager knows of its connections. A message of a watcher says no more than a bus name, so one
that was sent late can concern a connection that came under the same name meanwhile. A connection is
shadowed if it was made while the watcher of an earlier one under its name had still to send. Any
other connection that has not shut down is known to the manager, whatever is requested, shut down,
sent and looked at in whatever order, and the manager says that there are no more connections only
when there is no such one.
-/

namespace ConnectionManager

namespace Manager

variable {φ : Type} {manager before middle after : Manager φ} {context : Context}
  {place : Nat} {name : String} {managed changed : ManagedConnection φ}

def marks (manager : Manager φ) : List (String × Bool) := manager.made.map ManagedConnection.mark

/-- The connection at a place has this name and has not shut down. -/
def GoesOn (manager : Manager φ) (place : Nat) (name : String) : Prop :=
  manager.marks[place]? = some (name, false)

instance : Decidable (manager.GoesOn place name) :=
  inferInstanceAs (Decidable (manager.marks[place]? = some (name, false)))

theorem goes_on_iff : manager.GoesOn place name ↔
    ∃ managed, manager.made[place]? = some managed ∧ managed.busName = name ∧
      managed.connection.finished = false := by
  simp [GoesOn, marks, ManagedConnection.mark]

def awaits (manager : Manager φ) (busName : String) : Bool :=
  manager.watchers.any fun watcher => watcher.busName = busName

def farewells (manager : Manager φ) : Nat := manager.events.count .noMoreConnections

theorem farewells_record {act : ManagerAct} (other : act ≠ .announced .noMoreConnections) :
    (manager.record act).farewells = manager.farewells := by
  unfold farewells events record Journal.emit
  cases act with
  | consulted => simp
  | announced event =>
      cases event with
      | newConnection => simp
      | noMoreConnections => exact absurd rfl other

theorem farewells_congr (same : after.acts = before.acts) : after.farewells = before.farewells := by
  rw [farewells, farewells, events, events, same]

/-- A connection does not come back to life. -/
theorem GoesOn.of_set {other : Nat}
    (going : GoesOn { manager with made := manager.made.set place changed } other name)
    (found : manager.made[place]? = some managed) (same : changed.busName = managed.busName)
    (unfinished : changed.connection.finished = false → managed.connection.finished = false) :
    manager.GoesOn other name := by
  obtain ⟨second, present, called, waits⟩ := goes_on_iff.1 going
  apply goes_on_iff.2
  rcases NamesOwned.set_cases present with ⟨rfl, rfl⟩ | ⟨_, old⟩
  · exact ⟨managed, found, same ▸ called, unfinished waits⟩
  · exact ⟨second, old, called, waits⟩

/-- A manager knows the connection at a place by its name, and no message about another one is
waiting or to come. -/
structure Minds (manager : Manager φ) (place : Nat) (name : String) : Prop where
  known : manager.connections.find? name = some place
  watched : ∀ watcher ∈ manager.watchers, watcher.busName = name → watcher.place = place
  unsent : name ∉ manager.mailbox

/-- Nothing is left to be done for a name, except for connections that are shadowed. -/
def Vacant (manager : Manager φ) (shadowed : List Nat) (name : String) : Prop :=
  ∀ place, manager.GoesOn place name → place ∈ shadowed

/-- What a look at messages leaves alone, and what a farewell means. -/
structure Reaped (before after : Manager φ) : Prop where
  marks : after.marks = before.marks
  watchers : after.watchers = before.watchers
  mailbox : after.mailbox = before.mailbox
  emptied : before.connections.isEmpty = true → after.connections.isEmpty = true
  farewell : after.farewells ≠ before.farewells → after.connections.isEmpty = true

theorem Reaped.refl (manager : Manager φ) : Reaped manager manager :=
  ⟨rfl, rfl, rfl, id, fun different => absurd rfl different⟩

theorem Reaped.trans (first : Reaped before middle) (second : Reaped middle after) :
    Reaped before after := by
  refine ⟨second.marks.trans first.marks, second.watchers.trans first.watchers,
    second.mailbox.trans first.mailbox, fun nothing => second.emptied (first.emptied nothing), ?_⟩
  intro different
  by_cases later : after.farewells = middle.farewells
  · exact second.emptied (first.farewell (later ▸ different))
  · exact second.farewell later

theorem let_go_eq (manager : Manager φ) (context : Context) (place : Nat) :
    ∃ made, (manager.letGo context place).1 = { manager with made } ∧
      made.map ManagedConnection.mark = manager.marks := by
  unfold letGo changeAt
  split
  · exact ⟨manager.made, rfl, rfl⟩
  · rename_i managed found
    refine ⟨_, rfl, ?_⟩
    obtain ⟨below, same⟩ := List.getElem?_eq_some_iff.1 found
    have unchanged := List.set_getElem_self
      (show place < manager.marks.length by simpa [marks] using below)
    rw [List.map_set, (managed.forget_changed context).2, ← same]
    simpa [marks] using unchanged

theorem reap_reaped (manager : Manager φ) (context : Context) (name : String) :
    Reaped manager (manager.reap context name).1 := by
  unfold reap
  split
  · exact .refl manager
  · rename_i place known
    dsimp only
    obtain ⟨made, same, marks⟩ :=
      let_go_eq { manager with connections := manager.connections.erase name } context place
    rw [same]
    have nonempty : manager.connections.isEmpty ≠ true := by
      intro nothing
      have absent := (Catalog.is_empty_iff _).1 nothing name
      rw [known] at absent
      cases absent
    split
    · rename_i last
      exact ⟨marks, rfl, rfl, fun nothing => absurd nothing nonempty, fun _ => last⟩
    · exact ⟨marks, rfl, rfl, fun nothing => absurd nothing nonempty,
        fun different => absurd rfl different⟩

/-! ### The list of connections -/

/-- Whatever is listed under a name was made under this name and has not been forgotten. -/
def Listed (manager : Manager φ) : Prop :=
  ∀ ⦃place : Nat⦄ ⦃name : String⦄, manager.connections.find? name = some place →
    ∃ managed, manager.made[place]? = some managed ∧ managed.busName = name ∧
      managed.forgotten = false

namespace Listed

theorem set (listed : manager.Listed) (found : manager.made[place]? = some managed)
    (same : changed.busName = managed.busName) (kept : changed.forgotten = managed.forgotten) :
    Listed { manager with made := manager.made.set place changed } := by
  intro other name known
  obtain ⟨second, present, called, remembered⟩ := listed known
  by_cases here : other = place
  · subst here
    rw [found] at present
    cases present
    exact ⟨changed, List.getElem?_set_self (List.getElem?_eq_some_iff.1 found).1,
      same.trans called, kept.trans remembered⟩
  · exact ⟨second, by rw [List.getElem?_set_ne (Ne.symm here), present], called, remembered⟩

theorem erase (listed : manager.Listed) (name : String) :
    Listed { manager with connections := manager.connections.erase name } := by
  intro place other known
  rw [Catalog.find_erase] at known
  split at known
  · cases known
  · exact listed known

theorem erased (listed : manager.Listed) (known : manager.connections.find? name = some place)
    (other : String) : (manager.connections.erase name).find? other ≠ some place := by
  intro still
  obtain ⟨managed, present, same, _⟩ := listed known
  obtain ⟨second, presentToo, sameToo, _⟩ := listed.erase name still
  rw [present] at presentToo
  cases presentToo
  simp [Catalog.find_erase, ← same, ← sameToo] at still

theorem letGo (listed : manager.Listed) (context : Context)
    (unlisted : ∀ name, manager.connections.find? name ≠ some place) :
    (manager.letGo context place).1.Listed := by
  unfold Manager.letGo changeAt
  split
  · exact listed
  · intro other name known
    obtain ⟨second, present, rest⟩ := listed known
    have apart : other ≠ place := fun same => unlisted name (same ▸ known)
    exact ⟨second, by rw [List.getElem?_set_ne apart.symm, present], rest⟩

theorem insert (listed : manager.Listed) (connection : Connection φ) (watchers : List Watcher) :
    Listed { manager with
      made := manager.made ++ [{ connection }]
      watchers
      connections := manager.connections.insert connection.names.busName manager.made.length } := by
  intro place name known
  rw [Catalog.find_insert] at known
  split at known
  · rename_i same
    cases known
    exact ⟨{ connection }, List.getElem?_concat_length, same.symm, rfl⟩
  · obtain ⟨managed, found, rest⟩ := listed known
    have below := (List.getElem?_eq_some_iff.1 found).1
    exact ⟨managed, by rw [List.getElem?_append_left below, found], rest⟩

theorem replaced (listed : manager.Listed) (known : manager.connections.find? name = some place)
    (other : String) :
    (manager.connections.insert name manager.made.length).find? other ≠ some place := by
  intro still
  obtain ⟨managed, found, same, _⟩ := listed known
  rw [Catalog.find_insert] at still
  split at still
  · have below := (List.getElem?_eq_some_iff.1 found).1
    have last := Option.some.inj still
    omega
  · rename_i apart
    obtain ⟨second, foundToo, sameToo, _⟩ := listed still
    rw [found] at foundToo
    cases foundToo
    exact apart (sameToo.symm.trans same)

end Listed

end Manager

/-- What holds of a manager and the bus at any time. -/
structure Tended {φ : Type} (manager : Manager φ) (context : Context) (shadowed : List Nat) :
    Prop where
  owned : NamesOwned manager.made context
  listed : ∀ {place : Nat} {name : String}, manager.connections.find? name = some place →
    ∃ managed, manager.made[place]? = some managed ∧ managed.busName = name ∧
      managed.forgotten = false
  minded : ∀ {place : Nat} {name : String}, manager.GoesOn place name → place ∉ shadowed →
    manager.Minds place name

namespace Tended

open Manager

variable {φ : Type} {manager : Manager φ} {context next : Context} {shadowed : List Nat}
  {place : Nat} {name : String} {managed changed : ManagedConnection φ}

theorem known (tended : Tended manager context shadowed) : manager.Listed :=
  fun _ _ known => tended.listed known

theorem change (tended : Tended manager context shadowed)
    (found : manager.made[place]? = some managed) (change : managed.Changed context changed next)
    (forgotten : changed.forgotten = managed.forgotten)
    (unfinished : changed.connection.finished = false → managed.connection.finished = false) :
    Tended { manager with made := manager.made.set place changed } next shadowed := by
  constructor
  · exact tended.owned.change found change
  · exact fun known => tended.known.set found change.busName forgotten known
  · intro other name going bright
    obtain ⟨known, watched, unsent⟩ :=
      tended.minded (going.of_set found change.busName unfinished) bright
    exact ⟨known, watched, unsent⟩

theorem letGo (tended : Tended manager context shadowed)
    (unlisted : ∀ name, manager.connections.find? name ≠ some place) :
    Tended (manager.letGo context place).1 (manager.letGo context place).2 shadowed := by
  have listed := tended.known.letGo context unlisted
  unfold Manager.letGo changeAt at listed ⊢
  split
  · exact tended
  · rename_i managed found
    rw [found] at listed
    obtain ⟨change, mark⟩ := managed.forget_changed context
    have unfinished : (managed.forget context).1.connection.finished = managed.connection.finished :=
      congrArg Prod.snd mark
    constructor
    · exact tended.owned.change found change
    · exact fun known => listed known
    · intro other name going bright
      obtain ⟨known, watched, unsent⟩ := tended.minded
        (going.of_set found change.busName fun waits => unfinished ▸ waits) bright
      exact ⟨known, watched, unsent⟩

/-- A name under which nothing is left to be done can be struck off the list. -/
theorem erase (tended : Tended manager context shadowed) (vacant : manager.Vacant shadowed name) :
    Tended { manager with connections := manager.connections.erase name } context shadowed := by
  constructor
  · exact tended.owned
  · exact fun known => tended.known.erase name known
  · intro place other going bright
    obtain ⟨known, watched, unsent⟩ := tended.minded going bright
    have apart : other ≠ name := fun same => bright (vacant place (same ▸ going))
    exact ⟨by rw [Catalog.find_erase, if_neg apart, known], watched, unsent⟩

theorem record (tended : Tended manager context shadowed) (act : ManagerAct) :
    Tended (manager.record act) context shadowed := by
  constructor
  · exact tended.owned
  · exact tended.listed
  · intro place name going bright
    obtain ⟨known, watched, unsent⟩ := tended.minded going bright
    exact ⟨known, watched, unsent⟩

theorem reap (tended : Tended manager context shadowed) (vacant : manager.Vacant shadowed name) :
    Tended (manager.reap context name).1 (manager.reap context name).2 shadowed := by
  unfold Manager.reap
  split
  · exact tended
  · rename_i place known
    have gone := (tended.erase vacant).letGo (tended.known.erased known)
    dsimp only
    split
    · exact gone.record _
    · exact gone

theorem reap_each (messages : List String) (tended : Tended manager context shadowed)
    (vacant : ∀ name ∈ messages, manager.Vacant shadowed name) :
    let seen := messages.foldl (fun scene busName => scene.1.reap scene.2 busName)
      (manager, context)
    Tended seen.1 seen.2 shadowed ∧ Reaped manager seen.1 := by
  induction messages generalizing manager context with
  | nil => exact ⟨tended, .refl manager⟩
  | cons name rest induction =>
      have reaped := manager.reap_reaped context name
      have still : ∀ other ∈ rest, (manager.reap context name).1.Vacant shadowed other := by
        intro other member place going
        rw [GoesOn, reaped.marks] at going
        exact vacant other (List.mem_cons_of_mem name member) place going
      obtain ⟨last, more⟩ := induction (tended.reap (vacant name List.mem_cons_self)) still
      exact ⟨last, reaped.trans more⟩

/-- A message is about a name under which nothing is left to be done. -/
theorem poll (tended : Tended manager context shadowed) :
    Tended (manager.poll context).1 (manager.poll context).2 shadowed ∧
      Reaped { manager with mailbox := [] } (manager.poll context).1 := by
  have taken : Tended { manager with mailbox := [] } context shadowed := by
    refine ⟨tended.owned, tended.listed, fun going bright => ?_⟩
    obtain ⟨known, watched, _⟩ := tended.minded going bright
    exact ⟨known, watched, List.not_mem_nil⟩
  refine taken.reap_each manager.mailbox fun name member place going => ?_
  by_contra bright
  exact (tended.minded going bright).unsent member

theorem deliver (tended : Tended manager context shadowed) (index : Nat) :
    Tended (manager.deliver index) context shadowed := by
  unfold Manager.deliver
  split
  · exact tended
  · rename_i watcher sender
    split
    · rename_i ended
      refine ⟨tended.owned, tended.listed, fun {place name} going bright => ?_⟩
      obtain ⟨known, watched, unsent⟩ := tended.minded going bright
      refine ⟨known, fun other member => watched other (List.mem_of_mem_eraseIdx member), ?_⟩
      intro sent
      rcases List.mem_append.1 sent with old | new
      · exact unsent old
      · have same := watched watcher (List.mem_of_getElem? sender) (List.mem_singleton.1 new).symm
        obtain ⟨managed, present, _, kept⟩ := tended.listed known
        obtain ⟨second, found, _, waits⟩ := goes_on_iff.1 going
        rw [present] at found
        cases found
        simp [Manager.hasEnded, same, present, ManagedConnection.hasEnded,
          ManagedConnection.isGone, kept, waits] at ended
    · exact tended

theorem share (tended : Tended manager context shadowed) (name : String) :
    Tended (manager.share name) context shadowed := by
  unfold Manager.share
  split
  · exact tended
  · rename_i place known
    obtain ⟨managed, found, same, kept⟩ := tended.listed known
    have change : managed.Changed context { managed with shared := true } context := by
      refine ⟨rfl, .inl ⟨?_, rfl, rfl⟩⟩
      simp [ManagedConnection.hasEnded, ManagedConnection.isGone, kept]
    rw [List.modify_eq_set_getElem?, found]
    exact tended.change found change rfl id

theorem unshare (tended : Tended manager context shadowed) (place : Nat) :
    Tended (manager.unshare context place).1 (manager.unshare context place).2 shadowed := by
  unfold Manager.unshare changeAt
  split
  · exact tended
  · rename_i managed found
    obtain ⟨change, mark, forgotten⟩ := managed.unshare_changed context
    have unfinished : (managed.unshare context).1.connection.finished
        = managed.connection.finished := congrArg Prod.snd mark
    exact tended.change found change forgotten fun waits => unfinished ▸ waits

/-- The bus may go on as it likes as long as it leaves the names with their owners. -/
theorem elsewhere (tended : Tended manager context shadowed)
    (owns : ∀ name, context.Owns name → next.Owns name) : Tended manager next shadowed := by
  refine ⟨⟨?_, tended.owned.returned, tended.owned.alone⟩, tended.listed, tended.minded⟩
  intro managed member waits
  obtain ⟨registered, owned⟩ := tended.owned.claimed managed member waits
  exact ⟨registered, owns _ owned⟩

/-- The places of connections that are shadowed once one has been made under a name. -/
def shadow (manager : Manager φ) (shadowed : List Nat) (name : String) : List Nat :=
  if manager.awaits name then manager.made.length :: shadowed else shadowed

/-- A connection is listed that was made under a name that nobody owned. -/
theorem insert {connection : Connection φ} (tended : Tended manager context shadowed)
    (looked : manager.mailbox = []) (claimed : connection.names.Claimed context next)
    (registered : connection.registered = true) (waits : connection.finished = false) :
    Tended { manager with
        made := manager.made ++ [{ connection }]
        watchers := manager.watchers ++ [⟨connection.names.busName, manager.made.length⟩]
        connections := manager.connections.insert connection.names.busName manager.made.length }
      next (shadow manager shadowed connection.names.busName) := by
  constructor
  · apply tended.owned.append claimed registered
    simpa [ManagedConnection.hasEnded, ManagedConnection.isGone] using waits
  · exact fun known => tended.known.insert connection _ known
  · intro place name going bright
    obtain ⟨managed, present, same, unfinished⟩ := goes_on_iff.1 going
    rcases NamesOwned.append_cases present with ⟨rfl, rfl⟩ | ⟨below, old⟩
    · subst same
      refine ⟨by simp [Catalog.find_insert, ManagedConnection.busName], ?_, by simp [looked]⟩
      intro watcher member called
      rcases List.mem_append.1 member with early | new
      · have awaited : manager.awaits connection.names.busName = true :=
          List.any_eq_true.2 ⟨watcher, early, decide_eq_true called⟩
        simp [shadow, awaited] at bright
      · rw [List.mem_singleton.1 new]
    · have dark : place ∉ shadowed := by
        intro member
        apply bright
        unfold shadow
        split
        · exact List.mem_cons_of_mem _ member
        · exact member
      obtain ⟨known, watched, _⟩ := tended.minded (goes_on_iff.2 ⟨managed, old, same, unfinished⟩) dark
      obtain ⟨_, found, _, kept⟩ := tended.listed known
      rw [old] at found
      cases found
      have apart : name ≠ connection.names.busName := by
        rw [← same]
        apply tended.owned.claimed_apart claimed (List.mem_of_getElem? old)
        simp [ManagedConnection.hasEnded, ManagedConnection.isGone, kept, unfinished]
      refine ⟨by rw [Catalog.find_insert, if_neg apart, known], ?_, by simp [looked]⟩
      intro watcher member called
      rcases List.mem_append.1 member with early | new
      · exact watched watcher early called
      · rw [List.mem_singleton.1 new] at called
        exact absurd called.symm apart

theorem adopt {connection : Connection φ} (tended : Tended manager context shadowed)
    (looked : manager.mailbox = []) (claimed : connection.names.Claimed context next)
    (registered : connection.registered = true) (waits : connection.finished = false)
    (protocol : String) :
    Tended (manager.adopt connection protocol next).1 (manager.adopt connection protocol next).2
      (shadow manager shadowed connection.names.busName) := by
  have listed := tended.insert looked claimed registered waits
  unfold Manager.adopt
  dsimp only
  split
  · rename_i replaced known
    exact (listed.letGo (tended.known.replaced known)).record _
  · exact listed.record _

theorem adopt_farewells (manager : Manager φ) (connection : Connection φ) (protocol : String)
    (context : Context) :
    (manager.adopt connection protocol context).1.farewells = manager.farewells := by
  unfold Manager.adopt
  dsimp only [announceEvent]
  rw [farewells_record (by simp)]
  split
  · obtain ⟨made, same, _⟩ := let_go_eq _ _ _
    rw [same]
    rfl
  · rfl

/-- What opening a connection does: under a name that was free there is one more, or it fails. -/
theorem openConnection (tended : Tended manager context shadowed) (looked : manager.mailbox = [])
    (plugin : ProtocolPlugin φ) (protocol : String) (parameters : Dictionary) :
    let call := manager.openConnection plugin protocol parameters context
    call.manager.farewells = manager.farewells ∧
      Tended call.manager call.context (match call.answer with
        | .ok names => shadow manager shadowed names.busName
        | .error _ => shadowed) := by
  unfold Manager.openConnection
  split
  · exact ⟨rfl, tended⟩
  · rename_i account _
    have onward : Tended manager (Connection.build (manager.plan protocol account)
        account.transport account.factories context).2 shadowed := by
      refine tended.elsewhere fun name owns => ?_
      rwa [Context.Owns, Connection.build_bus (Prod.eta _).symm]
    split
    · rename_i failed
      rw [failed] at onward
      exact ⟨rfl, onward⟩
    · rename_i connection next built
      rw [built] at onward
      have unfinished := (Connection.build_fresh (congrArg Prod.fst built)).2.2
      rcases connection.register_cases next with
        ⟨failure, failed⟩ | ⟨claimant, last, done, claimed, registered, alike⟩
      · rw [failed]
        exact ⟨rfl, onward⟩
      · rw [done]
        exact ⟨adopt_farewells ..,
          onward.adopt looked claimed registered (alike.trans unfinished) protocol⟩

theorem shadow_reaped {before after : Manager φ} (reaped : Reaped before after)
    (shadowed : List Nat) (name : String) :
    shadow after shadowed name = shadow before shadowed name := by
  have length : after.made.length = before.made.length := by
    simpa [marks] using congrArg List.length reaped.marks
  unfold shadow awaits
  rw [reaped.watchers, length]

theorem requestConnection (tended : Tended manager context shadowed) (protocol : String)
    (supplied : Dictionary) :
    let call := manager.requestConnection protocol supplied context
    call.manager.farewells = (manager.poll context).1.farewells ∧
      Tended call.manager call.context (match call.answer with
        | .ok names => shadow manager shadowed names.busName
        | .error _ => shadowed) := by
  obtain ⟨looked, reaped⟩ := tended.poll
  unfold Manager.requestConnection
  dsimp only
  split
  · exact ⟨rfl, looked⟩
  · rename_i plugin _
    split
    · exact ⟨rfl, looked⟩
    · rename_i parameters _
      obtain ⟨farewells, opened⟩ := (looked.record (.consulted protocol parameters)).openConnection
        reaped.mailbox plugin protocol parameters
      have alike : ∀ name, shadow ((manager.poll context).1.record (.consulted protocol parameters))
          shadowed name = shadow manager shadowed name := shadow_reaped reaped shadowed
      simp only [alike] at opened
      exact ⟨farewells.trans (farewells_record (by simp)), opened⟩

end Tended

/-- A manager, the bus, and the places of the connections that are shadowed. -/
structure ManagerScene (φ : Type) where
  manager : Manager φ
  context : Context
  shadowed : List Nat := []

namespace ManagerScene

variable {φ : Type} {start scene before after : ManagerScene φ} {config : ManagerConfig}
  {context : Context}

/-- A request for a connection. What it makes is shadowed if a watcher has still to send its
name. -/
def requested (scene : ManagerScene φ) (protocol : String) (supplied : Dictionary) :
    ManagerScene φ :=
  let call := scene.manager.requestConnection protocol supplied scene.context
  ⟨call.manager, call.context, match call.answer with
    | .ok names => Tended.shadow scene.manager scene.shadowed names.busName
    | .error _ => scene.shadowed⟩

def polled (scene : ManagerScene φ) : ManagerScene φ :=
  let (manager, context) := scene.manager.poll scene.context
  { scene with manager, context }

def visited (scene : ManagerScene φ) (place : Nat) (managed : ManagedConnection φ)
    (connection : Connection φ) (next : Context) : ManagerScene φ :=
  { scene with
    manager := { scene.manager with
      made := scene.manager.made.set place { managed with connection } }
    context := next }

variable [ChannelFactory φ]

/-- One thing that happens, in whatever order. Other code on the bus may do anything that leaves the
names of this process alone. -/
inductive Step (scene : ManagerScene φ) : ManagerScene φ → Prop
  | request (protocol : String) (supplied : Dictionary) :
      Step scene (scene.requested protocol supplied)
  | visit {place : Nat} {managed : ManagedConnection φ} {connection : Connection φ} {next : Context}
      (found : scene.manager.made[place]? = some managed)
      (visit : managed.connection.Visit scene.context connection next) :
      Step scene (scene.visited place managed connection next)
  | deliver (index : Nat) : Step scene { scene with manager := scene.manager.deliver index }
  | poll : Step scene scene.polled
  | share (name : String) : Step scene { scene with manager := scene.manager.share name }
  | unshare (place : Nat) : Step scene { scene with
      manager := (scene.manager.unshare scene.context place).1
      context := (scene.manager.unshare scene.context place).2 }
  | addProtocol (plugin : ProtocolPlugin φ) :
      Step scene { scene with manager := scene.manager.addProtocol plugin }
  | elsewhere {next : Context} (owns : ∀ name, scene.context.Owns name → next.Owns name) :
      Step scene { scene with context := next }

/-- What happens from the start of a manager on. -/
inductive Run (config : ManagerConfig) (context : Context) : ManagerScene φ → Prop
  | start : Run config context ⟨{ config }, context, []⟩
  | next {before after : ManagerScene φ} (run : Run config context before)
      (step : Step before after) : Run config context after

def Fit (scene : ManagerScene φ) : Prop := Tended scene.manager scene.context scene.shadowed

theorem Step.fit (step : Step before after) (fit : before.Fit) : after.Fit := by
  cases step with
  | request protocol supplied => exact (Tended.requestConnection fit protocol supplied).2
  | visit found visit =>
      have changed := ManagedConnection.visit_changed visit
      refine Tended.change fit found changed rfl fun waits => ?_
      rcases visit.conducted.course with ⟨stays, _⟩ | ⟨_, finished, _⟩
      · rw [← stays.finished, waits]
      · rw [finished] at waits
        cases waits
  | deliver index => exact Tended.deliver fit index
  | poll => exact (Tended.poll fit).1
  | share name => exact Tended.share fit name
  | unshare place => exact Tended.unshare fit place
  | addProtocol plugin =>
      refine ⟨fit.owned, fit.listed, fun going bright => ?_⟩
      obtain ⟨known, watched, unsent⟩ := fit.minded going bright
      exact ⟨known, watched, unsent⟩
  | elsewhere owns => exact Tended.elsewhere fit owns

theorem Run.fit (run : Run config context scene) : scene.Fit := by
  induction run with
  | start =>
      refine ⟨⟨?_, ?_, ?_⟩, ?_, ?_⟩
      · exact fun _ member => absurd member List.not_mem_nil
      · exact fun _ member => absurd member List.not_mem_nil
      · exact fun present => absurd present (by simp)
      · exact fun known => absurd known (by simp)
      · exact fun going => absurd going (by simp [Manager.GoesOn, Manager.marks])
  | next run step induction => exact step.fit induction

theorem Step.looks (step : Step before after) (fit : before.Fit)
    (farewell : after.manager.farewells ≠ before.manager.farewells) :
    before.polled.manager.farewells ≠ before.manager.farewells := by
  cases step with
  | request protocol supplied =>
      have alike := (Tended.requestConnection fit protocol supplied).1
      exact fun same => farewell (alike.trans same)
  | poll => exact farewell
  | deliver index =>
      refine absurd (Manager.farewells_congr ?_) farewell
      dsimp only
      unfold Manager.deliver
      split
      · rfl
      · split <;> rfl
  | share name =>
      refine absurd (Manager.farewells_congr ?_) farewell
      dsimp only
      unfold Manager.share
      split <;> rfl
  | unshare place =>
      refine absurd (Manager.farewells_congr ?_) farewell
      dsimp only
      unfold Manager.unshare Manager.changeAt
      split <;> rfl
  | visit | addProtocol | elsewhere => exact absurd rfl farewell

/-- Every connection that has not shut down and is not shadowed is listed under its name, whatever
has happened. When the manager says that there are no more connections, there is no such one. -/
theorem live_connections_kept (run : Run config context scene) :
    (∀ place managed, scene.manager.made[place]? = some managed →
      managed.connection.finished = false → place ∉ scene.shadowed →
      scene.manager.connections.find? managed.busName = some place) ∧
    ∀ after, Step scene after → after.manager.farewells ≠ scene.manager.farewells →
      ∀ place managed, scene.manager.made[place]? = some managed →
        managed.connection.finished = false → place ∈ scene.shadowed := by
  have fit := run.fit
  refine ⟨fun place managed found waits bright => ?_, ?_⟩
  · exact (fit.minded (Manager.goes_on_iff.2 ⟨managed, found, rfl, waits⟩) bright).known
  · intro after step farewell place managed found waits
    by_contra bright
    obtain ⟨looked, reaped⟩ := Tended.poll fit
    have nothing := reaped.farewell (step.looks fit farewell)
    have going : scene.polled.manager.GoesOn place managed.busName := by
      rw [Manager.GoesOn]
      exact reaped.marks ▸ Manager.goes_on_iff.2 ⟨managed, found, rfl, waits⟩
    have known := (looked.minded going bright).known
    rw [(Catalog.is_empty_iff _).1 nothing] at known
    cases known

/-- A protocol without parameters, all of whose connections are for the same account. -/
def rehearsedPlugin : ProtocolPlugin Connection.Postponer where
  descriptor := { name := "echo", validName := by decide }
  account _ := .ok { transport := { uniqueName := some "a", connecting := some (.ok "a") } }

def rehearsedFirst : ManagerScene Connection.Postponer :=
  ManagerScene.requested ⟨Manager.addProtocol { config := {} } rehearsedPlugin, .start, []⟩ "echo"
    .empty

theorem rehearsed_first_run : Run {} .start rehearsedFirst :=
  (Run.start.next (.addProtocol rehearsedPlugin)).next (.request "echo" .empty)

theorem live_connections_kept_rehearsed : Run {} .start rehearsedFirst ∧
    ∃ managed, rehearsedFirst.manager.made[0]? = some managed ∧
      rehearsedFirst.manager.connections.find? managed.busName = some 0 := by
  have first : rehearsedFirst.manager.GoesOn 0
      "org.freedesktop.Telepathy.Connection.example.echo.a" := by decide +kernel
  obtain ⟨managed, found, _, waits⟩ := Manager.goes_on_iff.1 first
  have bright : rehearsedFirst.shadowed = [] := by decide +kernel
  refine ⟨rehearsed_first_run, managed, found, ?_⟩
  apply (live_connections_kept rehearsed_first_run).1 0 managed found waits
  simp [bright]

/-- The account has been disconnected and requested again before the watcher of the first
connection sent anything; then it sends. -/
def rehearsedLate : ManagerScene Connection.Postponer :=
  let managed := (rehearsedFirst.manager.made[0]?).get (by decide +kernel)
  let ended := managed.connection.disconnect rehearsedFirst.context
  let again := (rehearsedFirst.visited 0 managed ended.connection ended.context).requested "echo"
    .empty
  { again with manager := again.manager.deliver 0 }

theorem rehearsed_late_run : Run {} .start rehearsedLate :=
  ((rehearsed_first_run.next (.visit (Option.some_get _).symm .disconnect)).next
    (.request "echo" .empty)).next (.deliver 0)

/-- The message is taken to be about the second connection, which goes on. It is no longer listed,
and the manager says that there are no more connections. -/
theorem late_message_forgets_live_connection : Run {} .start rehearsedLate ∧
    Step rehearsedLate rehearsedLate.polled ∧
    (∃ managed, rehearsedLate.polled.manager.made[1]? = some managed ∧
      managed.connection.finished = false ∧
      rehearsedLate.polled.manager.connections.find? managed.busName = none) ∧
    rehearsedLate.polled.manager.farewells ≠ rehearsedLate.manager.farewells := by
  have second : rehearsedLate.polled.manager.GoesOn 1
      "org.freedesktop.Telepathy.Connection.example.echo.a" := by decide +kernel
  have nothing : rehearsedLate.polled.manager.connections.isEmpty = true := by decide +kernel
  obtain ⟨managed, found, _, waits⟩ := Manager.goes_on_iff.1 second
  refine ⟨rehearsed_late_run, .poll, ⟨managed, found, waits, ?_⟩, by decide +kernel⟩
  exact (Catalog.is_empty_iff _).1 nothing _

end ManagerScene

end ConnectionManager
