import ConnectionManager.Handle.Dynamic

/-!
Forms of identifiers that services use, for repositories that are tried out without one.
-/

namespace ConnectionManager.Rehearsal

/-- Addresses have a sign between two parts, and capitals do not tell them apart. -/
def addressIdentifier (id : String) : Outcome String :=
  if id.toList.contains '@' then .ok (String.ofList (id.toList.map Char.toLower))
  else .error ⟨.invalidHandle, "<" ++ id ++ "> is not an address"⟩

def roomIdentifier (id : String) : Outcome String :=
  match id.toList with
  | ['#'] => .error ⟨.invalidArgument, "empty room"⟩
  | '#' :: name => .ok (String.ofList name)
  | _ => .ok id

def noIdentifier (_ : String) : Outcome String := .error ⟨.notAvailable, "rejected"⟩

end ConnectionManager.Rehearsal
