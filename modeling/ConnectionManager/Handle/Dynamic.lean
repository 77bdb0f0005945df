import ConnectionManager.Catalog
import ConnectionManager.Handle.Basic

/-!
Repositories that intern arbitrary identifiers. A handle lives while something keeps it alive: an
internal reference, or a hold of a bus client. Freed numbers are used again, the smallest first;
freeing the greatest one lowers the cursor instead, so the free numbers and the live handles
together are always the numbers below the cursor.

An operation that fails returns no repository, so its caller goes on with the one it had.
-/

namespace ConnectionManager

abbrev HandleSet := Catalog Handle Unit

/-- A live handle. Its counts are numbers without an upper bound, not words of thirty-two bits. -/
structure HandleEntry where
  id : String
  references : Nat
  holders : Catalog String Nat
deriving DecidableEq

namespace HandleEntry

def isUnused (entry : HandleEntry) : Bool := entry.references == 0 && entry.holders.isEmpty

def holds (entry : HandleEntry) (client : String) : Nat := (entry.holders.find? client).getD 0

end HandleEntry

structure DynamicRepository where
  kind : HandleKind
  /-- The form under which an identifier is stored, or why it is refused. -/
  normalize : String → Outcome String
  entries : Catalog Handle HandleEntry := .empty
  byId : Catalog String Handle := .empty
  free : HandleSet := .empty
  next : Handle := 1
  invalid : Bool := false

namespace HandleFailure

def unusable (kind : HandleKind) : Failure :=
  ⟨.disconnected, s!"{kind.name} handle repository is no longer usable"⟩

def invalidHandle (kind : HandleKind) (handle : Handle) : Failure :=
  ⟨.invalidHandle, s!"{kind.name} handle {handle} is not valid"⟩

def exhausted (kind : HandleKind) : Failure :=
  ⟨.notAvailable, s!"{kind.name} handle space exhausted"⟩

def noReferences (handle : Handle) : Failure :=
  ⟨.inconsistent, s!"{handle} has no internal references"⟩

def notHeld (client : String) (kind : HandleKind) (handle : Handle) : Failure :=
  ⟨.notYours, s!"{client} does not hold {kind.name} handle {handle}"⟩

def emptyIdentifier : Failure := ⟨.invalidHandle, "empty identifier"⟩

def unknownName (kind : HandleKind) (id : String) : Failure :=
  ⟨.invalidHandle, s!"{Text.quoted id} is not a {kind.name} name"⟩

end HandleFailure

namespace DynamicRepository

def plainIdentifier (id : String) : Outcome String :=
  if id = "" then .error HandleFailure.emptyIdentifier else .ok id

def plain (kind : HandleKind) : DynamicRepository := { kind, normalize := plainIdentifier }

def size (repository : DynamicRepository) : Nat := repository.entries.size

def isValid (repository : DynamicRepository) (handle : Handle) : Bool :=
  !repository.invalid && repository.entries.contains handle

def entry (repository : DynamicRepository) (handle : Handle) : Outcome HandleEntry :=
  if repository.invalid then .error (HandleFailure.unusable repository.kind)
  else match repository.entries.find? handle with
    | some entry => .ok entry
    | none => .error (HandleFailure.invalidHandle repository.kind handle)

def inspect (repository : DynamicRepository) (handle : Handle) : Outcome String :=
  (repository.entry handle).map HandleEntry.id

def lookup (repository : DynamicRepository) (id : String) : Outcome Handle :=
  if repository.invalid then .error (HandleFailure.unusable repository.kind)
  else match repository.normalize id with
    | .error _ => .ok Handle.none
    | .ok normal => .ok ((repository.byId.find? normal).getD Handle.none)

def setEntry (repository : DynamicRepository) (handle : Handle) (entry : HandleEntry) :
    DynamicRepository :=
  { repository with entries := repository.entries.insert handle entry }

/-- Takes the smallest number that is not in use. -/
def allocate (repository : DynamicRepository) : Outcome (Handle × DynamicRepository) :=
  match repository.free.first? with
  | some (handle, _) => .ok (handle, { repository with free := repository.free.erase handle })
  | none =>
      if repository.next + 1 = Handle.limit then .error (HandleFailure.exhausted repository.kind)
      else .ok (repository.next, { repository with next := repository.next + 1 })

/-- The handle of an identifier with one more internal reference, allocated if need be. -/
def intern (repository : DynamicRepository) (id : String) :
    Outcome (Handle × DynamicRepository) := do
  if repository.invalid then .error (HandleFailure.unusable repository.kind)
  else
    let normal ← repository.normalize id
    match repository.byId.find? normal with
    | some handle =>
        let entry ← repository.entry handle
        .ok (handle, repository.setEntry handle { entry with references := entry.references + 1 })
    | none =>
        let (handle, allocated) ← repository.allocate
        .ok (handle, { allocated with
          entries := allocated.entries.insert handle ⟨normal, 1, .empty⟩
          byId := allocated.byId.insert normal handle })

/-- Lowers a cursor past the free numbers directly below it. -/
def lowerCursor (free : HandleSet) : Nat → HandleSet × Nat
  | 0 => (free, 0)
  | 1 => (free, 1)
  | below + 2 =>
      if free.contains (below + 1) then lowerCursor (free.erase (below + 1)) (below + 1)
      else (free, below + 2)

def giveBack (repository : DynamicRepository) (handle : Handle) : DynamicRepository :=
  if handle + 1 = repository.next then
    let (free, next) := lowerCursor repository.free handle
    { repository with free, next }
  else { repository with free := repository.free.insert handle () }

def releaseIfUnused (repository : DynamicRepository) (handle : Handle) : DynamicRepository :=
  match repository.entries.find? handle with
  | some entry =>
      if entry.isUnused then
        giveBack { repository with
          entries := repository.entries.erase handle
          byId := repository.byId.erase entry.id } handle
      else repository
  | none => repository

def addReference (repository : DynamicRepository) (handle : Handle) :
    Outcome DynamicRepository := do
  let entry ← repository.entry handle
  .ok (repository.setEntry handle { entry with references := entry.references + 1 })

def dropReference (repository : DynamicRepository) (handle : Handle) :
    Outcome DynamicRepository := do
  let entry ← repository.entry handle
  if entry.references = 0 then .error (HandleFailure.noReferences handle)
  else
    let changed := repository.setEntry handle { entry with references := entry.references - 1 }
    .ok (changed.releaseIfUnused handle)

def hold (repository : DynamicRepository) (handle : Handle) (client : String) :
    Outcome DynamicRepository := do
  let entry ← repository.entry handle
  .ok (repository.setEntry handle
    { entry with holders := entry.holders.insert client (entry.holds client + 1) })

/-- Takes one hold from a holder; the last one takes the holder off. -/
def lessHeld (holders : Catalog String Nat) (client : String) (count : Nat) :
    Catalog String Nat :=
  if count ≤ 1 then holders.erase client else holders.insert client (count - 1)

def release (repository : DynamicRepository) (handle : Handle) (client : String) :
    Outcome DynamicRepository := do
  let entry ← repository.entry handle
  match entry.holders.find? client with
  | none => .error (HandleFailure.notHeld client repository.kind handle)
  | some count =>
      let changed := repository.setEntry handle
        { entry with holders := lessHeld entry.holders client count }
      .ok (changed.releaseIfUnused handle)

def holds (repository : DynamicRepository) (handle : Handle) (client : String) : Nat :=
  match repository.entries.find? handle with
  | some entry => entry.holds client
  | none => 0

/-- Drops every hold of a client and frees what it alone kept alive. -/
def clientVanished (repository : DynamicRepository) (client : String) : DynamicRepository :=
  if repository.invalid then repository
  else
    let held := (repository.entries.filter fun _ entry => entry.holders.contains client).keys
    let dropped := { repository with
      entries := repository.entries.mapValues fun _ entry =>
        { entry with holders := entry.holders.erase client } }
    held.foldl releaseIfUnused dropped

def invalidate (repository : DynamicRepository) : DynamicRepository :=
  { repository with invalid := true, entries := .empty, byId := .empty, free := .empty }

def description (repository : DynamicRepository) : String :=
  "DynamicRepo \x7b kind: " ++ repository.kind.title ++ ", live: " ++ toString repository.size
    ++ ", next: " ++ toString repository.next ++ ", invalid: " ++ toString repository.invalid
    ++ " \x7d"

end DynamicRepository

end ConnectionManager
