import ConnectionManager.Bus.Basic
import ConnectionManager.Proofs.Catalog
import ConnectionManager.Proofs.Number.Decimal
import Mathlib.Data.List.Count
import Mathlib.Data.List.Nodup

/-!
What can be learned about a bus from its announcements. Whatever clients do, an operation leaves the
owner of a name alone and says nothing about it, or changes the owner and says so once
(`Step.announced`). So whoever listens from the start knows the owner of every name by following its
changes one after the other (`owner_changes_replay`). The names of a client that leaves are released
in no particular order, so all orders are allowed for.
-/

namespace ConnectionManager.Bus

variable {bus before after : Bus} {issued later order : List String} {client name : String}

/-- A name of the kind that is claimed and given back, unlike the unique name of a client. -/
def IsWellKnown (name : String) : Prop := name.toList.head? ≠ some ':'

instance (name : String) : Decidable (IsWellKnown name) :=
  inferInstanceAs (Decidable (name.toList.head? ≠ some ':'))

/-! ### Owners and announcements -/

/-- A client owns a name: it is connected and the name is its unique name, or it has claimed the
name. -/
def Owned (bus : Bus) (client name : String) : Prop :=
  (client = name ∧ client ∈ bus.clients) ∨ (name, client) ∈ bus.owners.entries

def ownerText (bus : Bus) (name : String) : String := (bus.nameOwner? name).getD ""

/-- The first subscription of a new bus, and the bus with it. -/
def listened : Subscription × Bus :=
  let (listener, changes) := start.changes.subscribe
  (listener, { start with changes })

def heard (bus : Bus) : List OwnerChange := bus.changes.unread listened.1

def changesOf (bus : Bus) (name : String) : List OwnerChange :=
  bus.heard.filter fun change => change.name = name

/-- Follows the owner of a name through its changes: each begins with the owner at its time and ends
with another one. -/
def followOwner (owner : String) : List OwnerChange → Option String
  | [] => some owner
  | change :: rest =>
      if change.oldOwner = owner ∧ change.newOwner ≠ owner then followOwner change.newOwner rest
      else none

/-- Who owns a name on a new bus: this process its unique name, and nobody any other name. -/
def firstOwner (name : String) : String := if name = start.ownName then name else ""

theorem follow_append (owner : String) (changes : List OwnerChange) (change : OwnerChange) :
    followOwner owner (changes ++ [change]) = (followOwner owner changes).bind fun last =>
      if change.oldOwner = last ∧ change.newOwner ≠ last then some change.newOwner else none := by
  induction changes generalizing owner with
  | nil => rfl
  | cons first rest induction =>
      rw [List.cons_append, followOwner, followOwner]
      split
      · exact induction first.newOwner
      · rfl

theorem follow_apart {owner last : String} {changes : List OwnerChange}
    (followed : followOwner owner changes = some last) :
    ∀ change ∈ changes, change.oldOwner ≠ change.newOwner := by
  induction changes generalizing owner with
  | nil => exact fun _ member => absurd member List.not_mem_nil
  | cons first rest induction =>
      rw [followOwner] at followed
      split at followed
      · rename_i turns
        refine List.forall_mem_cons.2 ⟨?_, induction followed⟩
        rw [turns.1]
        exact turns.2.symm
      · cases followed

@[simp] theorem heard_announce (bus : Bus) (name oldOwner newOwner : String) :
    (bus.announce name oldOwner newOwner).heard = bus.heard ++ [⟨name, oldOwner, newOwner⟩] := rfl

@[simp] theorem changes_of_announce (bus : Bus) (other oldOwner newOwner name : String) :
    (bus.announce other oldOwner newOwner).changesOf name
      = bus.changesOf name ++ if other = name then [⟨name, oldOwner, newOwner⟩] else [] := by
  rw [changesOf, heard_announce, List.filter_append, changesOf]
  by_cases same : other = name <;> simp [same]

/-! ### Names of a client that leaves -/

theorem mem_names_of : name ∈ bus.namesOf client ↔ bus.owners.find? name = some client := by
  rw [namesOf, Catalog.mem_keys, Catalog.find_filter, Option.isSome_iff_exists]
  constructor
  · rintro ⟨owner, found⟩
    obtain ⟨owned, same⟩ := Option.filter_eq_some_iff.1 found
    rw [owned, of_decide_eq_true same]
  · intro owned
    exact ⟨client, by simp [owned]⟩

theorem names_of_nodup (bus : Bus) (client : String) : (bus.namesOf client).Nodup :=
  Catalog.keys_nodup _

theorem drop_names_eq (bus : Bus) (client : String) (names : List String) :
    ∃ owners, names.foldl (fun current name => current.dropName client name) bus
        = { bus with
            owners
            changes := { bus.changes with
              entries := bus.changes.entries ++ names.map fun name => ⟨name, client, ""⟩ } } ∧
      ∀ name, owners.find? name = if name ∈ names then none else bus.owners.find? name := by
  induction names generalizing bus with
  | nil => exact ⟨bus.owners, by simp, by simp⟩
  | cons first rest induction =>
      obtain ⟨owners, dropped, found⟩ := induction (bus.dropName client first)
      refine ⟨owners, ?_, fun name => ?_⟩
      · rw [List.foldl_cons, dropped]
        simp [dropName, announce, Journal.emit]
      · rw [found]
        by_cases later : name ∈ rest
        · simp [later]
        · by_cases same : name = first <;>
            simp [later, same, dropName, announce, Catalog.find_erase]

theorem disconnect_in_eq (connected : client ∈ bus.clients) (all : order.Perm (bus.namesOf client)) :
    ∃ owners, bus.disconnectIn client order
        = { bus with
            owners
            clients := bus.clients.filter fun other => other ≠ client
            changes := { bus.changes with
              entries := bus.changes.entries ++ order.map (fun name => ⟨name, client, ""⟩)
                ++ [⟨client, client, ""⟩] } } ∧
      ∀ name, owners.find? name
        = if bus.owners.find? name = some client then none else bus.owners.find? name := by
  obtain ⟨owners, dropped, found⟩ := drop_names_eq
    { bus with clients := bus.clients.filter fun other => other ≠ client } client order
  refine ⟨owners, ?_, fun name => ?_⟩
  · rw [disconnectIn, if_pos (List.contains_iff_mem.2 connected)]
    dsimp only
    rw [dropped]
    rfl
  · rw [found]
    simp only [all.mem_iff, mem_names_of]

/-! ### Operations -/

/-- An operation on a bus, with the unique names that were handed out until then. -/
inductive Step (issued : List String) (bus : Bus) : List String → Bus → Prop
  | connect : Step issued bus (issued ++ [bus.connectClient.1]) bus.connectClient.2
  | disconnect (client : String) : Step issued bus issued (bus.disconnectClient client)
  | disconnectIn (client : String) {order : List String} (all : order.Perm (bus.namesOf client)) :
      Step issued bus issued (bus.disconnectIn client order)
  | requestFor {client name : String} (handedOut : client ∈ issued) (known : IsWellKnown name) :
      Step issued bus issued (bus.requestNameFor client name).2
  | request {name : String} (known : IsWellKnown name) :
      Step issued bus issued (bus.requestName name).2
  | release (name : String) : Step issued bus issued (bus.releaseName name).2

/-- Any operations on a new bus that is listened to, and all unique names that were handed out. -/
inductive Run : List String → Bus → Prop
  | start : Run [start.ownName] listened.2
  | next {issued later : List String} {before after : Bus} (run : Run issued before)
      (step : Step issued before later after) : Run later after

/-- Unique names are counted, and only they are names of clients; what is owned besides them is
well known. -/
structure Orderly (issued : List String) (bus : Bus) : Prop where
  counted : issued = (List.range bus.nextClient).map fun number => uniqueName (number + 1)
  own : bus.ownName ∈ issued
  clients : ∀ client ∈ bus.clients, client ∈ issued
  owners : ∀ {name client : String}, bus.owners.find? name = some client →
    IsWellKnown name ∧ client ∈ issued

theorem unique_name_first (number : Nat) : (uniqueName number).toList.head? = some ':' := by
  have written : uniqueName number = ":1." ++ toString number := rfl
  rw [written, String.toList_append]
  rfl

theorem unique_name_injective {left right : Nat} (same : uniqueName left = uniqueName right) :
    left = right := by
  have written : ∀ number, (uniqueName number).toList
      = [':', '1', '.'] ++ Number.naturalText number := by
    intro number
    have text : uniqueName number = ":1." ++ toString number := rfl
    rw [text, String.toList_append]
    simp [Number.naturalText]
  have characters := congrArg String.toList same
  rw [written, written, List.append_cancel_left_eq] at characters
  exact Number.natural_text_injective characters

namespace Orderly

theorem issued_nodup (orderly : Orderly issued bus) : issued.Nodup := by
  rw [orderly.counted]
  refine List.nodup_range.map fun left right same => ?_
  have := unique_name_injective same
  omega

theorem mem_issued_iff (orderly : Orderly issued bus) :
    client ∈ issued ↔ ∃ number < bus.nextClient, uniqueName (number + 1) = client := by
  rw [orderly.counted]
  simp

theorem unknown (orderly : Orderly issued bus) (handedOut : client ∈ issued) :
    ¬ IsWellKnown client := by
  obtain ⟨number, _, rfl⟩ := orderly.mem_issued_iff.1 handedOut
  exact fun known => known (unique_name_first (number + 1))

theorem nonempty (orderly : Orderly issued bus) (handedOut : client ∈ issued) : client ≠ "" := by
  rintro rfl
  exact orderly.unknown handedOut (by simp [IsWellKnown])

theorem fresh (orderly : Orderly issued bus) : uniqueName (bus.nextClient + 1) ∉ issued := by
  intro member
  obtain ⟨number, below, same⟩ := orderly.mem_issued_iff.1 member
  have := unique_name_injective same
  omega

theorem not_client (orderly : Orderly issued bus) (known : IsWellKnown name) :
    name ∉ bus.clients :=
  fun member => orderly.unknown (orderly.clients name member) known

theorem unclaimed (orderly : Orderly issued bus) (unknown : ¬ IsWellKnown name) :
    bus.owners.find? name = none := by
  cases found : bus.owners.find? name with
  | none => rfl
  | some owner => exact absurd (orderly.owners found).1 unknown

theorem known_owner (orderly : Orderly issued bus) (known : IsWellKnown name) :
    bus.ownerText name = (bus.owners.find? name).getD "" := by
  rw [ownerText, nameOwner?, if_neg]
  rw [List.contains_iff_mem]
  exact orderly.not_client known

theorem unknown_owner (orderly : Orderly issued bus) (unknown : ¬ IsWellKnown name) :
    bus.ownerText name = if name ∈ bus.clients then name else "" := by
  rw [ownerText, nameOwner?, orderly.unclaimed unknown]
  by_cases connected : name ∈ bus.clients <;> simp [connected]

theorem owned_iff (orderly : Orderly issued bus) :
    bus.Owned client name ↔ bus.nameOwner? name = some client := by
  rw [Owned, ← Catalog.find_iff_mem, nameOwner?]
  by_cases connected : name ∈ bus.clients
  · have unclaimed := orderly.unclaimed (orderly.unknown (orderly.clients name connected))
    rw [if_pos (List.contains_iff_mem.2 connected), unclaimed]
    constructor
    · rintro (⟨same, _⟩ | claimed)
      · rw [same]
      · cases claimed
    · intro same
      cases same
      exact .inl ⟨rfl, connected⟩
  · rw [if_neg (by rwa [List.contains_iff_mem])]
    refine ⟨fun owned => owned.resolve_left ?_, .inr⟩
    rintro ⟨rfl, member⟩
    exact connected member

end Orderly

/-! ### The order of the tables -/

namespace Orderly

theorem start : Orderly [start.ownName] listened.2 := by
  refine ⟨rfl, List.mem_singleton_self _, fun client member => member, fun found => ?_⟩
  cases found

theorem connect (orderly : Orderly issued bus) :
    Orderly (issued ++ [bus.connectClient.1]) bus.connectClient.2 := by
  constructor
  · have numbers : bus.connectClient.2.nextClient = bus.nextClient + 1 := rfl
    rw [numbers, List.range_succ, List.map_append, ← orderly.counted]
    rfl
  · exact List.mem_append_left _ orderly.own
  · intro client member
    rcases List.mem_append.1 member with old | new
    · exact List.mem_append_left _ (orderly.clients client old)
    · exact List.mem_append_right _ new
  · intro name client found
    obtain ⟨known, handedOut⟩ := orderly.owners found
    exact ⟨known, List.mem_append_left _ handedOut⟩

theorem disconnectIn (orderly : Orderly issued bus) (all : order.Perm (bus.namesOf client)) :
    Orderly issued (bus.disconnectIn client order) := by
  by_cases connected : client ∈ bus.clients
  · obtain ⟨owners, left, found⟩ := disconnect_in_eq connected all
    rw [left]
    refine ⟨orderly.counted, orderly.own, fun other member => ?_, fun {name other} owned => ?_⟩
    · exact orderly.clients other (List.mem_of_mem_filter member)
    · rw [found] at owned
      split at owned
      · cases owned
      · exact orderly.owners owned
  · rwa [Bus.disconnectIn, if_neg (by rwa [List.contains_iff_mem])]

theorem requestFor (orderly : Orderly issued bus) (handedOut : client ∈ issued)
    (known : IsWellKnown name) : Orderly issued (bus.requestNameFor client name).2 := by
  unfold requestNameFor
  split
  · exact orderly
  · refine ⟨orderly.counted, orderly.own, orderly.clients, fun {other owner} found => ?_⟩
    rw [announce, Catalog.find_insert] at found
    split at found
    · rename_i same
      cases found
      exact ⟨same ▸ known, handedOut⟩
    · exact orderly.owners found

theorem release (orderly : Orderly issued bus) (name : String) :
    Orderly issued (bus.releaseName name).2 := by
  unfold releaseName
  split
  · refine ⟨orderly.counted, orderly.own, orderly.clients, fun {other owner} found => ?_⟩
    rw [dropName, announce, Catalog.find_erase] at found
    split at found
    · cases found
    · exact orderly.owners found
  · exact orderly

end Orderly

theorem Step.orderly (step : Step issued before later after) (orderly : Orderly issued before) :
    Orderly later after := by
  cases step with
  | connect => exact orderly.connect
  | disconnect client => exact orderly.disconnectIn (.refl _)
  | disconnectIn client all => exact orderly.disconnectIn all
  | requestFor handedOut known => exact orderly.requestFor handedOut known
  | request known => exact orderly.requestFor orderly.own known
  | release name => exact orderly.release name

theorem Run.orderly (run : Run issued bus) : Orderly issued bus := by
  induction run with
  | start => exact .start
  | next run step induction => exact step.orderly induction

/-! ### What an operation announces -/

/-- An operation leaves the owner of a name alone and says nothing about the name, or it changes the
owner and says so. -/
def Announced (before after : Bus) (name : String) : Prop :=
  (after.changesOf name = before.changesOf name ∧ after.ownerText name = before.ownerText name) ∨
  (after.changesOf name
      = before.changesOf name ++ [⟨name, before.ownerText name, after.ownerText name⟩] ∧
    before.ownerText name ≠ after.ownerText name)

theorem owner_text_congr (connected : name ∈ after.clients ↔ name ∈ before.clients)
    (claimed : after.owners.find? name = before.owners.find? name) :
    after.ownerText name = before.ownerText name := by
  rw [ownerText, ownerText, nameOwner?, nameOwner?, claimed]
  by_cases member : name ∈ before.clients
  · simp [member, connected.2 member]
  · simp [member, mt connected.1 member]

theorem announced_change {oldOwner newOwner : String}
    (changes : after.changesOf name = before.changesOf name ++ [⟨name, oldOwner, newOwner⟩])
    (old : before.ownerText name = oldOwner) (new : after.ownerText name = newOwner)
    (different : oldOwner ≠ newOwner) : Announced before after name := by
  subst old new
  exact .inr ⟨changes, different⟩

theorem announced_claim (owner newOwner : Option String) (orderly : Orderly issued before)
    (next : Orderly issued after) (known : IsWellKnown name)
    (changes : after.changesOf name
      = before.changesOf name ++ [⟨name, owner.getD "", newOwner.getD ""⟩])
    (old : before.owners.find? name = owner) (new : after.owners.find? name = newOwner)
    (different : owner.getD "" ≠ newOwner.getD "") : Announced before after name := by
  refine announced_change changes ?_ ?_ different
  · rw [orderly.known_owner known, old]
  · rw [next.known_owner known, new]

theorem connect_announced (orderly : Orderly issued bus) (name : String) :
    Announced bus bus.connectClient.2 name := by
  have fresh : bus.connectClient.1 ∉ issued := orderly.fresh
  have changes : bus.connectClient.2.changesOf name = bus.changesOf name
      ++ if bus.connectClient.1 = name then [⟨name, "", bus.connectClient.1⟩] else [] :=
    changes_of_announce _ _ _ _ name
  have clients : bus.connectClient.2.clients = bus.clients ++ [bus.connectClient.1] := rfl
  by_cases new : bus.connectClient.1 = name
  · have unknown : ¬ IsWellKnown name := fun known => known (new ▸ unique_name_first _)
    rw [if_pos new, new] at changes
    rw [new] at clients fresh
    refine announced_change changes ?_ ?_ (fun same => ?_)
    · rw [orderly.unknown_owner unknown, if_neg fun member => fresh (orderly.clients name member)]
    · rw [orderly.connect.unknown_owner unknown, if_pos (by simp [clients])]
    · exact orderly.connect.nonempty (List.mem_append_right _ (by simp [new])) same.symm
  · rw [if_neg new, List.append_nil] at changes
    refine .inl ⟨changes, owner_text_congr ?_ rfl⟩
    simp [clients, Ne.symm new]

theorem request_for_announced (orderly : Orderly issued bus) (handedOut : client ∈ issued)
    {claimed : String} (known : IsWellKnown claimed) (name : String) :
    Announced bus (bus.requestNameFor client claimed).2 name := by
  have next := orderly.requestFor handedOut known
  unfold requestNameFor at next ⊢
  split
  · exact .inl ⟨rfl, rfl⟩
  · rename_i unowned
    rw [unowned] at next
    by_cases same : claimed = name
    · subst same
      refine announced_claim none (some client) orderly next known ?_ unowned
        ?_ (orderly.nonempty handedOut).symm
      · simp
        rfl
      · simp [announce, Catalog.find_insert]
    · refine .inl ⟨?_, owner_text_congr .rfl ?_⟩
      · simp [same]
        rfl
      · simp [announce, Catalog.find_insert, Ne.symm same]

theorem release_announced (orderly : Orderly issued bus) (released name : String) :
    Announced bus (bus.releaseName released).2 name := by
  have next := orderly.release released
  unfold releaseName at next ⊢
  split
  · rename_i owned
    rw [if_pos owned] at next
    by_cases same : released = name
    · subst same
      refine announced_claim (some bus.ownName) none orderly next
        (orderly.owners owned).1 ?_ owned ?_ (orderly.nonempty orderly.own)
      · simp [dropName]
        rfl
      · simp [dropName, announce, Catalog.find_erase]
    · refine .inl ⟨?_, owner_text_congr .rfl ?_⟩
      · simp [dropName, same]
        rfl
      · simp [dropName, announce, Catalog.find_erase, Ne.symm same]
  · exact .inl ⟨rfl, rfl⟩

/-- Each name that a client loses is mentioned once. -/
theorem lost_changes (distinct : order.Nodup) (client name : String) :
    (order.map fun lost => (⟨lost, client, ""⟩ : OwnerChange)).filter
        (fun change => change.name = name)
      = if name ∈ order then [⟨name, client, ""⟩] else [] := by
  induction order with
  | nil => rfl
  | cons first rest induction =>
      obtain ⟨apart, others⟩ := List.nodup_cons.1 distinct
      rw [List.map_cons, List.filter_cons, induction others]
      by_cases same : first = name
      · subst same
        simp [apart]
      · simp [same, Ne.symm same]

theorem disconnect_in_announced (orderly : Orderly issued bus)
    (all : order.Perm (bus.namesOf client)) (name : String) :
    Announced bus (bus.disconnectIn client order) name := by
  have next := orderly.disconnectIn all
  by_cases connected : client ∈ bus.clients
  · have handedOut := orderly.clients client connected
    have unknown := orderly.unknown handedOut
    have distinct : order.Nodup := all.nodup_iff.2 (names_of_nodup bus client)
    obtain ⟨owners, left, found⟩ := disconnect_in_eq connected all
    have claimed := found name
    have changes : (bus.disconnectIn client order).changesOf name = bus.changesOf name
        ++ (if bus.owners.find? name = some client then [⟨name, client, ""⟩] else [])
        ++ if client = name then [⟨client, client, ""⟩] else [] := by
      have heard : (bus.disconnectIn client order).heard = bus.heard
          ++ order.map (fun lost => (⟨lost, client, ""⟩ : OwnerChange)) ++ [⟨client, client, ""⟩] := by
        rw [left]
        rfl
      rw [changesOf, heard, List.filter_append, List.filter_append, lost_changes distinct]
      simp only [all.mem_iff, mem_names_of]
      by_cases same : client = name <;> simp [same, changesOf]
    by_cases same : client = name
    · -- The unique name is announced last, and it is not among the names that were claimed.
      subst same
      rw [orderly.unclaimed unknown, if_neg (Option.some_ne_none client).symm, List.append_nil,
        if_pos rfl] at changes
      refine announced_change changes ?_ ?_ (orderly.nonempty handedOut)
      · rw [orderly.unknown_owner unknown, if_pos connected]
      · rw [next.unknown_owner unknown, if_neg]
        rw [left]
        simp
    · rw [if_neg same, List.append_nil] at changes
      by_cases owned : bus.owners.find? name = some client
      · rw [if_pos owned] at changes claimed
        exact announced_claim (some client) none orderly next
          (orderly.owners owned).1 changes owned (left ▸ claimed) (orderly.nonempty handedOut)
      · rw [if_neg owned] at changes claimed
        rw [List.append_nil] at changes
        refine .inl ⟨changes, owner_text_congr ?_ (left ▸ claimed)⟩
        rw [left]
        simp [Ne.symm same]
  · rw [disconnectIn, if_neg (by rwa [List.contains_iff_mem])]
    exact .inl ⟨rfl, rfl⟩

theorem Step.announced (step : Step issued before later after) (orderly : Orderly issued before)
    (name : String) : Announced before after name := by
  cases step with
  | connect => exact connect_announced orderly name
  | disconnect client => exact disconnect_in_announced orderly (.refl _) name
  | disconnectIn client all => exact disconnect_in_announced orderly all name
  | requestFor handedOut known => exact request_for_announced orderly handedOut known name
  | request known => exact request_for_announced orderly orderly.own known name
  | release released => exact release_announced orderly released name

/-- Whoever follows the changes of a name knows its owner. -/
theorem Run.followed (run : Run issued bus) (name : String) :
    followOwner (firstOwner name) (bus.changesOf name) = some (bus.ownerText name) := by
  induction run with
  | start =>
      have first : listened.2.ownerText name = firstOwner name := by
        rw [ownerText, firstOwner]
        by_cases own : name = Bus.start.ownName
        · subst own
          rfl
        · rw [if_neg own, nameOwner?, if_neg]
          · rfl
          · rw [List.contains_iff_mem]
            exact fun member => own (List.mem_singleton.1 member)
      rw [first]
      rfl
  | next run step induction =>
      rcases step.announced run.orderly name with ⟨silent, same⟩ | ⟨told, different⟩
      · rw [silent, same]
        exact induction
      · rw [told, follow_append, induction, Option.bind_some, if_pos ⟨rfl, different.symm⟩]

/-- A client that has left owns nothing any more. -/
theorem nothing_owned (connected : client ∈ bus.clients) (all : order.Perm (bus.namesOf client))
    (name : String) : ¬ (bus.disconnectIn client order).Owned client name := by
  obtain ⟨owners, left, found⟩ := disconnect_in_eq connected all
  rw [left]
  rintro (⟨_, member⟩ | claimed)
  · simp at member
  · have still := (Catalog.find_iff_mem owners name client).2 claimed
    rw [found] at still
    split at still
    · cases still
    · rename_i other
      exact other still

/-- Whoever listens from the start can replay who owns what. The changes of every name that were heard
follow each other, from its first owner to the one that it has now, and each is a change indeed. A name
never has two owners, no unique name is handed out twice, and a connected client that leaves owns
nothing from then on, in whatever order it loses its names. -/
theorem owner_changes_replay (run : Run issued bus) :
    (∀ name, followOwner (firstOwner name) (bus.changesOf name)
      = some ((bus.nameOwner? name).getD "")) ∧
    (∀ change ∈ bus.heard, change.oldOwner ≠ change.newOwner) ∧
    (∀ name client, bus.Owned client name ↔ bus.nameOwner? name = some client) ∧
    (∀ name first second, bus.Owned first name → bus.Owned second name → first = second) ∧
    issued.Nodup ∧
    ∀ client ∈ bus.clients, ∀ name, ¬ (bus.disconnectClient client).Owned client name ∧
      ∀ order : List String, order.Perm (bus.namesOf client) →
        ¬ (bus.disconnectIn client order).Owned client name := by
  have orderly := run.orderly
  refine ⟨run.followed, fun change member => ?_, fun name client => orderly.owned_iff,
    fun name first second owned ownedToo => ?_, orderly.issued_nodup,
    fun client connected name => ⟨nothing_owned connected (.refl _) name,
      fun order all => nothing_owned connected all name⟩⟩
  · apply follow_apart (run.followed change.name)
    exact List.mem_filter.2 ⟨member, decide_eq_true rfl⟩
  · have found := orderly.owned_iff.1 owned
    rw [orderly.owned_iff.1 ownedToo] at found
    exact (Option.some.inj found).symm

/-- A client has claimed two names, one of which the process wanted too. -/
def rehearsedBus : Bus :=
  ((((listened.2.connectClient.2.requestNameFor ":1.2" "a.b").2.requestName "a.b").2.requestNameFor
    ":1.2" "c.d").2)

theorem rehearsed_bus_run : Run [":1.1", ":1.2"] rehearsedBus :=
  (((Run.start.next .connect).next (.requestFor (by decide) (by decide))).next
    (.request (by decide))).next (.requestFor (by decide) (by decide))

/-- The client leaves, and the process gets the name that it wanted. -/
theorem owner_changes_replay_rehearsed :
    Run [":1.1", ":1.2"] ((rehearsedBus.disconnectClient ":1.2").requestName "a.b").2 ∧
    followOwner "" [⟨"a.b", "", ":1.2"⟩, ⟨"a.b", ":1.2", ""⟩, ⟨"a.b", "", ":1.1"⟩] = some ":1.1" ∧
    ((rehearsedBus.disconnectClient ":1.2").requestName "a.b").2.nameOwner? "a.b" = some ":1.1" ∧
    (rehearsedBus.Owned ":1.2" "c.d" ∧ ¬ (rehearsedBus.disconnectClient ":1.2").Owned ":1.2" "c.d") ∧
    ["c.d", "a.b"].Perm (rehearsedBus.namesOf ":1.2") ∧
    ¬ (rehearsedBus.disconnectIn ":1.2" ["c.d", "a.b"]).Owned ":1.2" "c.d" := by
  have all : ["c.d", "a.b"].Perm (rehearsedBus.namesOf ":1.2") := by decide +kernel
  have run : Run [":1.1", ":1.2"] ((rehearsedBus.disconnectClient ":1.2").requestName "a.b").2 :=
    (rehearsed_bus_run.next (.disconnect ":1.2")).next (.request (by decide))
  have owner : ((rehearsedBus.disconnectClient ":1.2").requestName "a.b").2.nameOwner? "a.b"
      = some ":1.1" := by
    decide +kernel
  have heard : ((rehearsedBus.disconnectClient ":1.2").requestName "a.b").2.changesOf "a.b"
      = [⟨"a.b", "", ":1.2"⟩, ⟨"a.b", ":1.2", ""⟩, ⟨"a.b", "", ":1.1"⟩] := by
    decide +kernel
  have replayed := (owner_changes_replay run).1 "a.b"
  rw [heard, owner] at replayed
  obtain ⟨_, _, owned, _, _, left⟩ := owner_changes_replay rehearsed_bus_run
  obtain ⟨alone, anyhow⟩ := left ":1.2" (by decide +kernel) "c.d"
  exact ⟨run, replayed, owner, ⟨(owned "c.d" ":1.2").2 (by decide +kernel), alone⟩, all,
    anyhow _ all⟩

end ConnectionManager.Bus
