import ConnectionManager.Handle.Repository

/-!
Operations of a client on several handles at once. Each is done completely or not at all, as far
as the repository lets itself be put back.
-/

namespace ConnectionManager

namespace Repository

structure Batch (α : Type) where
  outcome : Outcome α
  repository : Repository

/-- Holds handles in turn; at the first failure those held so far are released again. -/
def holdFrom (repository : Repository) (client : String) (held : List Handle) :
    List Handle → Batch Unit
  | [] => ⟨.ok (), repository⟩
  | handle :: rest =>
      match repository.hold handle client with
      | .ok next => holdFrom next client (held ++ [handle]) rest
      | .error failure => ⟨.error failure, repository.tryEach (·.release · client) held⟩

def holdAll (repository : Repository) (client : String) (handles : List Handle) : Batch Unit :=
  match repository.validate false handles with
  | .error failure => ⟨.error failure, repository⟩
  | .ok () => repository.holdFrom client [] handles

/-- A handle that is to be released more often than the client holds it. -/
def overReleased? (repository : Repository) (client : String) (handles : List Handle) :
    Option Handle :=
  handles.find? fun handle => repository.holds handle client < handles.count handle

/-- Does one operation on handles in turn, up to the first failure. -/
def inTurn (repository : Repository) (operation : Repository → Handle → Outcome Repository) :
    List Handle → Batch Unit
  | [] => ⟨.ok (), repository⟩
  | handle :: rest =>
      match operation repository handle with
      | .ok next => inTurn next operation rest
      | .error failure => ⟨.error failure, repository⟩

/-- Releases all of some handles or none of them. A refusal names the kind that was asked for. -/
def releaseAll (repository : Repository) (kind : HandleKind) (client : String)
    (handles : List Handle) : Batch Unit :=
  match repository.validate false handles with
  | .error failure => ⟨.error failure, repository⟩
  | .ok () =>
      match repository.overReleased? client handles with
      | some handle => ⟨.error (HandleFailure.notHeld client kind handle), repository⟩
      | none => repository.inTurn (·.release · client) handles

def inspectAll (repository : Repository) (handles : List Handle) : Outcome (List String) := do
  repository.validate false handles
  handles.mapM repository.inspect

/-- Interns identifiers in turn; at the first failure the references taken so far are dropped. -/
def internFrom (repository : Repository) (interned : List Handle) :
    List String → Batch (List Handle)
  | [] => ⟨.ok interned, repository⟩
  | id :: rest =>
      match repository.intern id with
      | .ok (handle, next) => internFrom next (interned ++ [handle]) rest
      | .error failure => ⟨.error failure, repository.tryEach (·.dropReference ·) interned⟩

/-- Interns identifiers and lets a client hold their handles. The references taken on the way are
dropped once the holds keep the handles alive. -/
def requestAll (repository : Repository) (client : String) (ids : List String) :
    Batch (List Handle) :=
  match repository.internFrom [] ids with
  | ⟨.error failure, next⟩ => ⟨.error failure, next⟩
  | ⟨.ok handles, interned⟩ =>
      match interned.inTurn (·.hold · client) handles with
      | ⟨.error failure, next⟩ => ⟨.error failure, next⟩
      | ⟨.ok (), held⟩ =>
          match held.inTurn (·.dropReference ·) handles with
          | ⟨.error failure, next⟩ => ⟨.error failure, next⟩
          | ⟨.ok (), next⟩ => ⟨.ok handles, next⟩

end Repository

end ConnectionManager
