import ConnectionManager.Proofs.KeyFile.Grammar
import ConnectionManager.Proofs.Manifest.Descriptions

/-!
Which texts are manifests: all key files, and nothing else. What the groups of a key file say about
protocols is never refused, because the name of a protocol is looked at before it is described, and
everything else has a default. So a manifest is malformed just where its key file is.
-/

namespace ConnectionManager.Manifest

open Text
open KeyFile (Means StopsAt WellFormed)

variable {file : KeyFile} {group : KeyFile.Group} {error : ManifestError}

theorem read_protocol_accepted : readProtocol? file group ≠ some (.error error) := by
  cases heading : afterPrefix? protocolHeading.toList group.name with
  | none => simp [readProtocol?, heading]
  | some beginning =>
      by_cases valid : Protocol.isValidName (String.ofList beginning) = true
      · simp [read_protocol heading valid]
      · simp [readProtocol?, heading, valid]

theorem collect_accepted {results : List (Except ManifestError Section)}
    (accepted : ∀ error, .error error ∉ results) : ∃ protocols, collect results = .ok protocols := by
  induction results with
  | nil => exact ⟨[], rfl⟩
  | cons result rest induction =>
      obtain ⟨others, later⟩ := induction fun error member =>
        accepted error (List.mem_cons_of_mem result member)
      cases result with
      | error error => exact absurd List.mem_cons_self (accepted error)
      | ok protocol => exact ⟨protocol :: others, by rw [collect, later]; rfl⟩

theorem of_key_file_accepted (file : KeyFile) : ∃ manifest, ofKeyFile file = .ok manifest := by
  obtain ⟨protocols, collected⟩ : ∃ protocols,
      collect (file.groups.filterMap (readProtocol? file)) = .ok protocols := by
    apply collect_accepted
    intro error member
    obtain ⟨group, _, refused⟩ := List.mem_filterMap.1 member
    exact read_protocol_accepted refused
  exact ⟨_, by rw [ofKeyFile, collected]; rfl⟩

theorem read_error_iff {text : List Char} : read text = .error error ↔
    ∃ stop, error = .malformed stop ∧ KeyFile.read text = .error stop := by
  rw [read]
  cases done : KeyFile.read text with
  | error stop => simp [eq_comm]
  | ok file =>
      obtain ⟨manifest, accepted⟩ := of_key_file_accepted file
      simp [accepted]

/-- A text is a manifest if every line of it that counts is a header, or an entry with a header above
it. Otherwise the first line that is neither is named, by the key file and by the manifest alike. The
groups are those of the sections that the lines make up, and every valid name gets a description from
any of them. -/
theorem read_by_grammar (text : List Char) :
    ((∃ file, KeyFile.read text = .ok file) ↔ WellFormed (lines text)) ∧
    (∀ stop, KeyFile.read text = .error stop → StopsAt (lines text) stop) ∧
    (∀ file, KeyFile.read text = .ok file → ∃ said, List.Forall₂ Means (lines text) said ∧
      file = KeyFile.ofSections (KeyFile.sections said)) ∧
    (∀ error, read text = .error error ↔
      ∃ stop, error = .malformed stop ∧ KeyFile.read text = .error stop) ∧
    (∀ file, KeyFile.read text = .ok file → ∀ group ∈ file.groups, ∀ name,
      Protocol.isValidName name = true →
        ∃ descriptor, Descriptor.ofProperties name (protocolProperties file group)
          = .ok descriptor) := by
  refine ⟨KeyFile.read_ok_iff, fun stop => KeyFile.read_error_stops,
    fun file => KeyFile.read_ok_sections, fun error => read_error_iff, ?_⟩
  intro file _ group _ name valid
  exact ⟨_, of_protocol_properties valid⟩

end ConnectionManager.Manifest
