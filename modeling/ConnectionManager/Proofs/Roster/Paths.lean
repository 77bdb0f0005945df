import ConnectionManager.Proofs.Failure
import ConnectionManager.Proofs.ObjectPath
import ConnectionManager.Proofs.Text.Identifier
import ConnectionManager.Roster.Groups
import ConnectionManager.Roster.Lists

/-!
Object paths of the views of a roster. The path of a view can always be formed, and no two views of
a roster have the same path.
-/

namespace ConnectionManager

theorem list_path_ok (connection : ObjectPath) (list : ListName) :
    ∃ path, listPath connection list = .ok path := by
  obtain ⟨below, first⟩ := @ObjectPath.child_valid connection "ContactList" (by decide)
  obtain ⟨path, second⟩ := @ObjectPath.child_valid below list.name (by cases list <;> decide)
  refine ⟨path, ?_⟩
  rw [listPath, first]
  exact second

theorem group_path_ok (surroundings : Surroundings) (name : String) :
    ∃ path, surroundings.channelPath [RosterCall.groupElement, name] = .ok path := by
  obtain ⟨below, first⟩ := @ObjectPath.child_valid surroundings.connectionPath
    (Text.escapeIdentifier RosterCall.groupElement) (Text.escape_identifier_element _)
  obtain ⟨path, second⟩ := @ObjectPath.child_valid below (Text.escapeIdentifier name)
    (Text.escape_identifier_element name)
  refine ⟨path, ?_⟩
  rw [Surroundings.channelPath, List.foldlM_cons, first]
  change below.child (Text.escapeIdentifier name) >>= _ = _
  rw [second]
  rfl

theorem list_path_text {connection path : ObjectPath} {list : ListName}
    (formed : listPath connection list = .ok path) :
    path.text = connection.stem ++ "ContactList" ++ "/" ++ list.name := by
  obtain ⟨below, first, second⟩ := Outcome.bind_eq_ok.1 formed
  rw [ObjectPath.child_text second, ObjectPath.stem_below (by decide) first,
    ObjectPath.child_text first]

theorem group_path_text {surroundings : Surroundings} {path : ObjectPath} {name : String}
    (formed : surroundings.channelPath [RosterCall.groupElement, name] = .ok path) :
    path.text = surroundings.connectionPath.stem ++ "ContactGroup" ++ "/"
      ++ Text.escapeIdentifier name := by
  have plain : Text.escapeIdentifier RosterCall.groupElement = "ContactGroup" := by decide
  unfold Surroundings.channelPath at formed
  rw [List.foldlM_cons, plain] at formed
  obtain ⟨below, first, formed⟩ := Outcome.bind_eq_ok.1 formed
  obtain ⟨child, second, last⟩ := Outcome.bind_eq_ok.1 formed
  cases last
  rw [ObjectPath.child_text second, ObjectPath.stem_below (by decide) first,
    ObjectPath.child_text first]

theorem append_left_cancel {start left right : String} (same : start ++ left = start ++ right) :
    left = right := by
  have characters := congrArg String.toList same
  rw [String.toList_append, String.toList_append] at characters
  exact String.toList_inj.1 (List.append_cancel_left characters)

theorem list_path_injective {connection path : ObjectPath} {left right : ListName}
    (leftPath : listPath connection left = .ok path)
    (rightPath : listPath connection right = .ok path) : left = right := by
  have texts := (list_path_text leftPath).symm.trans (list_path_text rightPath)
  have names := append_left_cancel texts
  revert names
  cases left <;> cases right <;> decide

theorem group_path_injective {surroundings : Surroundings} {path : ObjectPath}
    {left right : String}
    (leftPath : surroundings.channelPath [RosterCall.groupElement, left] = .ok path)
    (rightPath : surroundings.channelPath [RosterCall.groupElement, right] = .ok path) :
    left = right := by
  have texts := (group_path_text leftPath).symm.trans (group_path_text rightPath)
  exact Text.escape_identifier_injective (append_left_cancel texts)

theorem list_path_ne_group_path {surroundings : Surroundings} {listed grouped : ObjectPath}
    {list : ListName} {name : String}
    (listFormed : listPath surroundings.connectionPath list = .ok listed)
    (groupFormed : surroundings.channelPath [RosterCall.groupElement, name] = .ok grouped) :
    listed ≠ grouped := by
  intro same
  have texts := (list_path_text listFormed).symm.trans (same ▸ group_path_text groupFormed)
  rw [String.append_assoc, String.append_assoc, String.append_assoc, String.append_assoc] at texts
  have tails := congrArg String.toList (append_left_cancel texts)
  simp only [String.toList_append] at tails
  have eighth := congrArg (fun characters => characters[7]?) tails
  rw [List.getElem?_append_left (by decide), List.getElem?_append_left (by decide)] at eighth
  exact absurd eighth (by decide)

end ConnectionManager
