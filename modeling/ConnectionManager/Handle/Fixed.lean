import ConnectionManager.Handle.Dynamic

/-!
Repositories of a fixed list of names. The handles are the positions, counted from one; nothing
has to keep them alive, but holds of clients are counted all the same.
-/

namespace ConnectionManager

structure HoldKey where
  handle : Handle
  client : String
deriving DecidableEq

namespace HoldKey

instance : Ord HoldKey :=
  ⟨compareLex (compareOn HoldKey.handle) (compareOn HoldKey.client)⟩

instance : Std.TransOrd HoldKey :=
  inferInstanceAs (Std.TransCmp (compareLex (compareOn HoldKey.handle) (compareOn HoldKey.client)))

instance : Std.LawfulEqOrd HoldKey where
  compare_self {key} := by
    change (compare key.handle key.handle).then (compare key.client key.client) = .eq
    rw [Ordering.then_eq_eq]
    exact ⟨@Std.ReflCmp.compare_self Handle compare _ _, @Std.ReflCmp.compare_self String compare _ _⟩
  eq_of_compare {left right} same := by
    obtain ⟨leftHandle, leftClient⟩ := left
    obtain ⟨rightHandle, rightClient⟩ := right
    have both : (compare leftHandle rightHandle).then (compare leftClient rightClient) = .eq := same
    rw [Ordering.then_eq_eq] at both
    have handles := Std.LawfulEqCmp.eq_of_compare both.1
    have clients := Std.LawfulEqCmp.eq_of_compare both.2
    subst handles clients
    rfl

end HoldKey

structure FixedRepository where
  kind : HandleKind
  names : List String
  holders : Catalog HoldKey Nat := .empty
  invalid : Bool := false

namespace FixedRepository

def lists : FixedRepository := { kind := .list, names := ListName.all.map ListName.name }

def isValid (repository : FixedRepository) (handle : Handle) : Bool :=
  !repository.invalid && 1 ≤ handle && handle ≤ repository.names.length

def check (repository : FixedRepository) (handle : Handle) : Outcome Unit :=
  if repository.invalid then .error (HandleFailure.unusable repository.kind)
  else if repository.isValid handle then .ok ()
  else .error (HandleFailure.invalidHandle repository.kind handle)

def inspect (repository : FixedRepository) (handle : Handle) : Outcome String := do
  repository.check handle
  .ok ((repository.names[handle - 1]?).getD "")

def lookup (repository : FixedRepository) (id : String) : Outcome Handle :=
  if repository.invalid then .error (HandleFailure.unusable repository.kind)
  else match repository.names.findIdx? fun name => name = id with
    | some index => .ok (index + 1)
    | none => .ok Handle.none

def intern (repository : FixedRepository) (id : String) : Outcome Handle := do
  let handle ← repository.lookup id
  if Handle.isNone handle then .error (HandleFailure.unknownName repository.kind id) else .ok handle

def holds (repository : FixedRepository) (handle : Handle) (client : String) : Nat :=
  (repository.holders.find? ⟨handle, client⟩).getD 0

def hold (repository : FixedRepository) (handle : Handle) (client : String) :
    Outcome FixedRepository := do
  repository.check handle
  .ok { repository with
    holders := repository.holders.insert ⟨handle, client⟩ (repository.holds handle client + 1) }

def release (repository : FixedRepository) (handle : Handle) (client : String) :
    Outcome FixedRepository := do
  repository.check handle
  match repository.holders.find? ⟨handle, client⟩ with
  | none => .error (HandleFailure.notHeld client repository.kind handle)
  | some count =>
      let holders := if count ≤ 1 then repository.holders.erase ⟨handle, client⟩
        else repository.holders.insert ⟨handle, client⟩ (count - 1)
      .ok { repository with holders }

def clientVanished (repository : FixedRepository) (client : String) : FixedRepository :=
  { repository with holders := repository.holders.filter fun key _ => key.client != client }

def invalidate (repository : FixedRepository) : FixedRepository :=
  { repository with invalid := true, holders := .empty }

end FixedRepository

end ConnectionManager
