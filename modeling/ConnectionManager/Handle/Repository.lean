import ConnectionManager.Handle.Fixed

/-!
Repositories of either form behind one set of operations, and all the repositories of a
connection by kind. Contacts always have a repository.
-/

namespace ConnectionManager

inductive Repository
  | dynamic (repository : DynamicRepository)
  | fixed (repository : FixedRepository)
  /-- Interns like a dynamic one, but lets no client hold one particular handle. -/
  | guarded (repository : DynamicRepository) (refused : Handle)

namespace Repository

def kind : Repository → HandleKind
  | .dynamic repository | .guarded repository _ => repository.kind
  | .fixed repository => repository.kind

def isValid (repository : Repository) (handle : Handle) : Bool :=
  match repository with
  | .dynamic repository | .guarded repository _ => repository.isValid handle
  | .fixed repository => repository.isValid handle

def inspect (repository : Repository) (handle : Handle) : Outcome String :=
  match repository with
  | .dynamic repository | .guarded repository _ => repository.inspect handle
  | .fixed repository => repository.inspect handle

def lookup (repository : Repository) (id : String) : Outcome Handle :=
  match repository with
  | .dynamic repository | .guarded repository _ => repository.lookup id
  | .fixed repository => repository.lookup id

def intern (repository : Repository) (id : String) : Outcome (Handle × Repository) :=
  match repository with
  | .dynamic repository => (repository.intern id).map fun (handle, next) => (handle, .dynamic next)
  | .guarded repository refused =>
      (repository.intern id).map fun (handle, next) => (handle, .guarded next refused)
  | .fixed repository => (repository.intern id).map fun handle => (handle, .fixed repository)

def addReference (repository : Repository) (handle : Handle) : Outcome Repository :=
  match repository with
  | .dynamic repository => (repository.addReference handle).map .dynamic
  | .guarded repository refused =>
      (repository.addReference handle).map fun next => .guarded next refused
  | .fixed repository => (repository.check handle).map fun _ => .fixed repository

def dropReference (repository : Repository) (handle : Handle) : Outcome Repository :=
  match repository with
  | .dynamic repository => (repository.dropReference handle).map .dynamic
  | .guarded repository refused =>
      (repository.dropReference handle).map fun next => .guarded next refused
  | .fixed repository => (repository.check handle).map fun _ => .fixed repository

def hold (repository : Repository) (handle : Handle) (client : String) : Outcome Repository :=
  match repository with
  | .dynamic repository => (repository.hold handle client).map .dynamic
  | .guarded repository refused =>
      if handle = refused then .error ⟨.inconsistent, "hold refused"⟩
      else (repository.hold handle client).map fun next => .guarded next refused
  | .fixed repository => (repository.hold handle client).map .fixed

def release (repository : Repository) (handle : Handle) (client : String) : Outcome Repository :=
  match repository with
  | .dynamic repository => (repository.release handle client).map .dynamic
  | .guarded repository refused =>
      (repository.release handle client).map fun next => .guarded next refused
  | .fixed repository => (repository.release handle client).map .fixed

def holds (repository : Repository) (handle : Handle) (client : String) : Nat :=
  match repository with
  | .dynamic repository | .guarded repository _ => repository.holds handle client
  | .fixed repository => repository.holds handle client

def clientVanished (repository : Repository) (client : String) : Repository :=
  match repository with
  | .dynamic repository => .dynamic (repository.clientVanished client)
  | .guarded repository refused => .guarded (repository.clientVanished client) refused
  | .fixed repository => .fixed (repository.clientVanished client)

def invalidate : Repository → Repository
  | .dynamic repository => .dynamic repository.invalidate
  | .guarded repository refused => .guarded repository.invalidate refused
  | .fixed repository => .fixed repository.invalidate

/-- Checks a batch of handles; the first that is not valid is reported. Zero may be tolerated. -/
def validate (repository : Repository) (allowZero : Bool) : List Handle → Outcome Unit
  | [] => .ok ()
  | handle :: rest =>
      if (allowZero && Handle.isNone handle) || repository.isValid handle then
        validate repository allowZero rest
      else .error (HandleFailure.invalidHandle repository.kind handle)

/-- Does what succeeds and otherwise leaves the repository alone. -/
def orUnchanged (repository : Repository) : Outcome Repository → Repository
  | .ok next => next
  | .error _ => repository

/-- Does one operation on handles in turn, passing over those on which it fails. -/
def tryEach (repository : Repository) (operation : Repository → Handle → Outcome Repository)
    (handles : List Handle) : Repository :=
  handles.foldl (fun current handle => current.orUnchanged (operation current handle)) repository

end Repository

structure Repositories where
  contacts : Repository
  others : Catalog HandleKind Repository := .empty

namespace Repositories

/-- Adds the repository for its kind, or replaces the one there is. -/
def add (repositories : Repositories) (repository : Repository) : Repositories :=
  if repository.kind = .contact then { repositories with contacts := repository }
  else { repositories with others := repositories.others.insert repository.kind repository }

def withContactLists (contacts : Repository) : Repositories :=
  ((⟨contacts, .empty⟩ : Repositories).add (.fixed .lists)).add (.dynamic (.plain .group))

def standard : Repositories := withContactLists (.dynamic (.plain .contact))

def supports (repositories : Repositories) (kind : HandleKind) : Bool :=
  kind = .contact || repositories.others.contains kind

def get (repositories : Repositories) (kind : HandleKind) : Outcome Repository :=
  if kind = .contact then .ok repositories.contacts
  else match repositories.others.find? kind with
    | some repository => .ok repository
    | none => .error ⟨.notImplemented, s!"handle type {kind.name} is not supported"⟩

/-- Stores the next state of the repository that `get` gave for a kind. -/
def set (repositories : Repositories) (kind : HandleKind) (repository : Repository) :
    Repositories :=
  if kind = .contact then { repositories with contacts := repository }
  else if repositories.others.contains kind then
    { repositories with others := repositories.others.insert kind repository }
  else repositories

def clientVanished (repositories : Repositories) (client : String) : Repositories :=
  ⟨repositories.contacts.clientVanished client,
    repositories.others.mapValues fun _ repository => repository.clientVanished client⟩

def invalidateAll (repositories : Repositories) : Repositories :=
  ⟨repositories.contacts.invalidate,
    repositories.others.mapValues fun _ repository => repository.invalidate⟩

def description (repositories : Repositories) : String :=
  "HandleRepos \x7b extra_kinds: ["
    ++ ", ".intercalate (repositories.others.keys.map HandleKind.title) ++ "] \x7d"

end Repositories

end ConnectionManager
