import Rewind.Loading
import Rewind.Proofs.Utf8

/-!
# Refused files

Loading a trace is documented to end with a trace or with a refusal (`Documented`).  It does so at
all files but those that `Files.Escapes` describes by what is in them: files whose bytes are no text,
JSON text with an integer or a nesting beyond what is read, and YAML text with a scalar that does not
fit its sort.  Their failures are let through as they are (`load_documented_iff`).  What is refused
is refused with the path in front, and with nothing in the journal (`refusal_names_path`,
`load_entries`).
-/

namespace Rewind

/-- A refusal names the path. -/
theorem FileFailure.refusal_names_path {path : Path} {e : FileFailure} {words : String}
    (h : e.refusal? path = some words) : ∃ before after, words = before ++ path.text ++ after := by
  cases e with
  | unreadable fault =>
    cases fault with
    | endsEarly => cases h
    | missing | isDirectory | notDirectory | nameTooLong =>
      cases h
      exact ⟨"Cannot read trace file ", _, String.append_assoc ..⟩
  | badJson mistake =>
    cases h
    exact ⟨"Cannot parse trace file ", _, String.append_assoc ..⟩
  | badYaml e =>
    cases e with
    | malformed =>
      cases h
      exact ⟨"Cannot parse trace file ", ": ", rfl⟩
    | _ => cases h
  | noMap =>
    cases h
    exact ⟨"Trace file ", _, rfl⟩
  | invalid issues =>
    cases h
    exact ⟨"Invalid trace file ", ": ", rfl⟩
  | undecodable | oversizedInteger | tooDeep => cases h

namespace Files

variable {files : Files} {path : Path}

/-- The file at a path, if it can be read and decoded at all, has no data for a reason that is not
refused. -/
inductive Escapes (files : Files) (path : Path) : Prop
  /-- The path holds the character that ends a path. -/
  | endsEarly (h : files path.text = .error .endsEarly)
  /-- The bytes are those of no text. -/
  | undecodable {bytes : List UInt8} (h : files path.text = .ok bytes)
    (hbytes : ∀ cs : List Char, bytes ≠ cs.flatMap String.utf8EncodeChar)
  /-- The text is JSON with an integer that has too many digits. -/
  | oversizedInteger {text : String} (h : files.text path.text = .ok text)
    (hjson : path.isJson = true)
    (hread : Json.ofText files.jsonDepth text = .error .oversizedInteger)
  /-- The text is JSON that is nested deeper than there is room for. -/
  | tooDeep {text : String} (h : files.text path.text = .ok text)
    (hjson : path.isJson = true)
    (hread : Json.ofText files.jsonDepth text = .error .tooDeep)
  /-- The text is no YAML, although it does not break the grammar. -/
  | badYaml {text : String} {e : Yaml.Error} (h : files.text path.text = .ok text)
    (hjson : path.isJson = false) (hread : Yaml.ofText files.yamlDepth text = .error e)
    (he : e ≠ .malformed)

theorem text_of_bytes {bytes : List UInt8} {words : String} (h : files path.text = .ok bytes)
    (hdecode : textOfBytes? bytes = some words) : files.text path.text = .ok words := by
  simp [text, h, hdecode]

theorem textOfBytes?_eq_none_iff {bytes : List UInt8} :
    textOfBytes? bytes = none ↔ ∀ cs : List Char, bytes ≠ cs.flatMap String.utf8EncodeChar := by
  rw [← decodeUtf8?_eq_none_iff, textOfBytes?, Option.map_eq_none_iff]

theorem data_of_text {text : String} (h : files.text path.text = .ok text) :
    files.data path =
      if path.isJson then ofJson files.jsonDepth text else ofYaml files.yamlDepth text := by
  unfold data
  rw [h]

theorem ofYaml_of_error {d : Nat} {text : String} {e : Yaml.Error}
    (h : Yaml.ofText d text = .error e) : ofYaml d text = .error (.badYaml e) := by
  unfold ofYaml
  rw [h]
  rfl

/-- Where a failure escapes, it is one that is not refused. -/
theorem Escapes.data (h : files.Escapes path) :
    ∃ e, files.data path = .error e ∧ e.refusal? path = none := by
  cases h with
  | endsEarly h =>
    refine ⟨.unreadable .endsEarly, ?_, rfl⟩
    simp [Files.data, text, h]
  | undecodable h hbytes =>
    refine ⟨.undecodable, ?_, rfl⟩
    simp [Files.data, text, h, textOfBytes?_eq_none_iff.mpr hbytes]
  | oversizedInteger h hjson hread =>
    refine ⟨.oversizedInteger, ?_, rfl⟩
    simp [data_of_text h, hjson, ofJson, hread]
  | tooDeep h hjson hread =>
    refine ⟨.tooDeep, ?_, rfl⟩
    simp [data_of_text h, hjson, ofJson, hread]
  | @badYaml text e h hjson hread he =>
    refine ⟨.badYaml e, ?_, ?_⟩
    · simp [data_of_text h, hjson, ofYaml_of_error hread]
    · cases e with
      | malformed => exact absurd rfl he
      | _ => rfl

end Files

namespace Trace

variable {files : Files} {path : Path}

theorem load_result (files : Files) (path : Path) :
    (load files path).result = (files.data path).bind ofData := by
  unfold load
  cases (files.data path).bind ofData <;>
    simp [bind, pure, Journaled.andThen, Journaled.of, Journaled.note]

/-- The journal says that a trace has been loaded, and nothing of a file that gives none. -/
theorem load_entries (files : Files) (path : Path) :
    (load files path).entries = match (load files path).result with
      | .ok trace => [loadedEntry path trace]
      | .error _ => [] := by
  unfold load
  cases (files.data path).bind ofData <;>
    simp [bind, pure, Journaled.andThen, Journaled.of, Journaled.note]

end Trace

end Rewind
