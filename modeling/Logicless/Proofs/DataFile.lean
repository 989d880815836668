import Logicless.DataFile
import Logicless.Proofs.Files.Tree

namespace Logicless.DataFile

variable {fs other : Files} {path : String} {error : TemplateError}

/-- What is wrong with a data file: it cannot be read, or its text is not the document that its
extension promises. -/
inductive Fails (fs : Files) (path : String) : TemplateError → Prop
  | read {fault : FileFault} (h : fs.readText path = .error fault) : Fails fs path (.file fault)
  | json {text : String} (hextension : Path.extension? path = some "json")
      (htext : fs.readText path = .ok text) (h : Json.parse? text = none) : Fails fs path .json
  | yaml {text : String} (hextension : Path.extension? path ≠ some "json")
      (htext : fs.readText path = .ok text) (h : Yaml.parse? text = none) : Fails fs path .yaml

theorem parse_eq_error_iff {text : String} :
    parse path text = .error error ↔
      Path.extension? path = some "json" ∧ Json.parse? text = none ∧ error = .json ∨
        Path.extension? path ≠ some "json" ∧ Yaml.parse? text = none ∧ error = .yaml := by
  rw [parse, isJson]
  by_cases hextension : Path.extension? path = some "json"
  · rw [hextension]
    cases Json.parse? text <;> simp [eq_comm]
  · rw [beq_eq_false_iff_ne.2 hextension]
    cases Yaml.parse? text <;> simp [hextension, eq_comm]

theorem load_eq_error_iff : load fs path = .error error ↔ Fails fs path error := by
  constructor
  · intro h
    rw [load] at h
    split at h
    · next fault hfault =>
      cases h
      exact .read hfault
    · next text htext =>
      obtain ⟨hextension, hparse, rfl⟩ | ⟨hextension, hparse, rfl⟩ := parse_eq_error_iff.1 h
      · exact .json hextension htext hparse
      · exact .yaml hextension htext hparse
  · intro h
    cases h with
    | read h => rw [load, h]
    | json hextension htext h =>
      rw [load, htext]
      exact parse_eq_error_iff.2 (.inl ⟨hextension, h, rfl⟩)
    | yaml hextension htext h =>
      rw [load, htext]
      exact parse_eq_error_iff.2 (.inr ⟨hextension, h, rfl⟩)

theorem load_congr (h : fs.entry path = other.entry path) : load fs path = load other path := by
  rw [load, load, Files.readText_congr h]

end Logicless.DataFile
