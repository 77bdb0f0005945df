import ConnectionManager.Handle.Repository

/-!
Sets of handles that keep their members alive: one internal reference for every member. Taking a
member out counts even when the repository refuses to take its reference back.
-/

namespace ConnectionManager

namespace HandleSet

def toList (set : HandleSet) : List Handle := Catalog.keys set

/-- A change of a set: whether it changed anything, or why its repository refused. -/
structure Change where
  result : Outcome Bool
  set : HandleSet
  repository : Repository

def add (set : HandleSet) (repository : Repository) (handle : Handle) : Change :=
  if Catalog.contains set handle then ⟨.ok false, set, repository⟩
  else match repository.addReference handle with
    | .ok next => ⟨.ok true, Catalog.insert set handle (), next⟩
    | .error failure => ⟨.error failure, set, repository⟩

def remove (set : HandleSet) (repository : Repository) (handle : Handle) : Change :=
  if Catalog.contains set handle then
    match repository.dropReference handle with
    | .ok next => ⟨.ok true, Catalog.erase set handle, next⟩
    | .error failure => ⟨.error failure, Catalog.erase set handle, repository⟩
  else ⟨.ok false, set, repository⟩

def clear (set : HandleSet) (repository : Repository) : Repository :=
  repository.tryEach (·.dropReference ·) (toList set)

end HandleSet

end ConnectionManager
