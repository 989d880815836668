import Mathlib
import Logicless.Proofs.CommandLine.Render
import Logicless.Proofs.Files.Write

namespace Logicless.CommandLine

variable {fs : Files} {c : RenderCommand} {f : Failure} {text : String}

/-- The data to render with: what the data file holds, or the empty mapping without one. -/
inductive RenderCommand.HasData (fs : Files) (c : RenderCommand) : Value → Prop
  | none (h : c.data = none) : HasData fs c .empty
  | file {path : String} {data : Value} (hpath : c.data = some path)
      (h : DataFile.load fs path = .ok data) : HasData fs c data

inductive RenderCommand.HasPartials (fs : Files) (c : RenderCommand) : Resolver → Prop
  | none (h : c.partials = none) : HasPartials fs c .none
  | directory {path : String} {directory : PartialsDirectory} (hpath : c.partials = some path)
      (h : PartialsDirectory.load fs path = .ok directory) :
      HasPartials fs c directory.partials.resolve

def RenderCommand.Renders (fs : Files) (c : RenderCommand) (text : String) : Prop :=
  ∃ t data resolve, c.Compiles fs t ∧ c.HasData fs data ∧ c.HasPartials fs resolve ∧
    text = t.render resolve ⟨c.maxPartialDepth⟩ data

/-- What a render that succeeds leaves behind: its text, printed or in the file to write. -/
inductive RenderCommand.Delivers (fs : FileTree) (c : RenderCommand) (text : String) :
    Effect → Prop
  | printed (h : c.output = none) : Delivers fs c text ⟨0, text, "", fs⟩
  | written {path : String} {after : FileTree} {names : List String} (hpath : c.output = some path)
      (h : Files.Replaced fs path text after names) : Delivers fs c text ⟨0, "", "", after⟩

theorem loadData_eq_ok_iff {data : Value} : c.loadData fs = .ok data ↔ c.HasData fs data := by
  constructor
  · intro h
    rw [RenderCommand.loadData] at h
    split at h
    · next hnone =>
      cases h
      exact .none hnone
    · next path hpath => exact .file hpath (mapError_eq_ok_iff.1 h)
  · intro h
    cases h with
    | none h => rw [RenderCommand.loadData, h]
    | file hpath h =>
      rw [RenderCommand.loadData, hpath]
      exact mapError_eq_ok_iff.2 h

theorem loadPartials_eq_ok_iff {resolve : Resolver} :
    (∃ directory, c.loadPartials fs = .ok directory ∧ directory.partials.resolve = resolve) ↔
      c.HasPartials fs resolve := by
  constructor
  · rintro ⟨directory, h, rfl⟩
    rw [RenderCommand.loadPartials] at h
    split at h
    · next hnone =>
      cases h
      exact .none hnone
    · next path hpath => exact .directory hpath (mapError_eq_ok_iff.1 h)
  · intro h
    cases h with
    | none h => exact ⟨.empty "", by rw [RenderCommand.loadPartials, h], rfl⟩
    | directory hpath h =>
      refine ⟨_, ?_, rfl⟩
      rw [RenderCommand.loadPartials, hpath]
      exact mapError_eq_ok_iff.2 h

theorem text_eq_ok_iff : c.text fs = .ok text ↔ c.Renders fs text := by
  constructor
  · intro h
    obtain ⟨source, hsource, hcompile⟩ := bind_eq_ok_iff.1 h
    obtain ⟨t, ht, -⟩ := bind_eq_ok_iff.1 hcompile
    rw [mapError_eq_ok_iff] at hsource ht
    have hcompiles : c.Compiles fs t := ⟨source, hsource, ht⟩
    rw [hcompiles.text_eq] at h
    obtain ⟨data, hdata, h⟩ := bind_eq_ok_iff.1 h
    obtain ⟨directory, hdirectory, h⟩ := bind_eq_ok_iff.1 h
    cases h
    exact ⟨t, data, _, hcompiles, loadData_eq_ok_iff.1 hdata,
      loadPartials_eq_ok_iff.1 ⟨directory, hdirectory, rfl⟩, rfl⟩
  · rintro ⟨t, data, resolve, ht, hdata, hpartials, rfl⟩
    obtain ⟨directory, hdirectory, rfl⟩ := loadPartials_eq_ok_iff.2 hpartials
    rw [ht.text_eq, loadData_eq_ok_iff.2 hdata, hdirectory]
    rfl

theorem run_eq_failed (h : (c.run fs).failure = some f) : c.run fs = .failed fs f := by
  rw [RenderCommand.run] at h ⊢
  split at h
  · cases h
    rfl
  · next text htext =>
    split at h
    · cases h
    · next path hpath =>
      split at h
      · cases h
        rfl
      · cases h

theorem RenderCommand.Fails.effect_eq (h : c.Fails fs f) :
    (c.run fs).effect = ⟨f.exitCode, "", f.report, fs⟩ := by
  have hfailure := h.failure_eq
  rw [Outcome.effect, Outcome.exitCode_eq hfailure, Outcome.errorOutput_eq hfailure,
    run_eq_failed hfailure]
  rfl

theorem exists_delivers {fs : FileTree} (h : (c.run fs).failure = none) :
    ∃ text, c.Renders fs text ∧ c.Delivers fs text (c.run fs).effect := by
  rw [RenderCommand.run] at h ⊢
  split at h
  · cases h
  · next text htext =>
    refine ⟨text, text_eq_ok_iff.1 htext, ?_⟩
    split at h
    · next hnone => exact .printed hnone
    · next path hpath =>
      split at h
      · cases h
      · next after hwrite =>
        obtain ⟨after, names, rfl, hreplaced⟩ := Files.exists_replaced_of_write hwrite
        exact .written hpath hreplaced

theorem run_render_exitCode_ne_zero_iff : (c.run fs).exitCode ≠ 0 ↔ ∃ f, c.Fails fs f := by
  constructor
  · intro h
    cases hfailure : (c.run fs).failure with
    | none =>
      rw [Outcome.exitCode, hfailure] at h
      exact absurd rfl h
    | some f => exact ⟨f, failure_eq_some_iff.1 hfailure⟩
  · rintro ⟨f, hf⟩
    rw [hf.exitCode_run]
    exact hf.exitCode_ne_zero

/-- A render fails if and only if one of its steps does. It then reports the first one that does,
prints nothing and leaves all files as they are. Otherwise its text is that of what the files held
before, and it is printed with no change of files, or it comes into one file and nothing is
printed. -/
theorem run_render_all_or_nothing {fs : FileTree} {environment : Option String}
    {words : List String} (hwords : Reading.ofWords environment words = .command (.render c)) :
    ((run fs environment words).exitCode ≠ 0 ↔ ∃ f, c.Fails fs f) ∧
      (∀ f, c.Fails fs f → run fs environment words = ⟨f.exitCode, "", f.report, fs⟩) ∧
      ((run fs environment words).exitCode = 0 →
        ∃ text, c.Renders fs text ∧ c.Delivers fs text (run fs environment words)) := by
  rw [run_of_command fs hwords]
  refine ⟨run_render_exitCode_ne_zero_iff, fun f hf => hf.effect_eq, ?_⟩
  intro hzero
  apply exists_delivers
  cases hfailure : (c.run fs).failure with
  | none => rfl
  | some f =>
    have hf := failure_eq_some_iff.1 hfailure
    exact absurd hzero (run_render_exitCode_ne_zero_iff.2 ⟨f, hf⟩)

def commentedFiles : FileTree where
  root := [("note", .file "n".toUTF8), ("t.mustache", .file "\x7b\x7b!c\x7d\x7dx".toUTF8)]
  workingDirectory := []
  wellFormed := by
    simp only [Entry.WellFormed.cons_iff, Entry.WellFormed.nil, Entry.WellFormed.file, and_true,
      true_and]
    decide

def renderOver : RenderCommand :=
  ⟨"t.mustache", none, none, some "t.mustache", 64⟩

theorem renders_renderOver : renderOver.Renders commentedFiles "x" := by
  have hnodes : Node.ofSource "\x7b\x7b!c\x7d\x7dx" = .ok [.text "x"] := by cbv
  have hsource : commentedFiles.readText renderOver.template = .ok "\x7b\x7b!c\x7d\x7dx" := by
    rfl
  have htext : Template.render ⟨_, _, hnodes⟩ Resolver.none ⟨64⟩ .empty = "x" := by
    simp [Template.render, Node.render, Node.writeAll, Node.write, Rendering.write]
  exact ⟨⟨_, _, hnodes⟩, .empty, .none, ⟨_, hsource, Template.compile_eq_ok_iff.2 rfl⟩, .none rfl,
    .none rfl, htext.symm⟩

theorem exitCode_renderOver : (renderOver.run commentedFiles).exitCode = 0 := by
  rw [RenderCommand.run, text_eq_ok_iff.2 renders_renderOver]
  rfl

theorem run_render_over_template :
    (run commentedFiles none ["render", "t.mustache", "-o", "t.mustache"]).output = "" ∧
      (run commentedFiles none ["render", "t.mustache", "-o", "t.mustache"]).files.readText
        "t.mustache" = .ok "x" := by
  have hwords : Reading.ofWords none ["render", "t.mustache", "-o", "t.mustache"] =
      .command (.render renderOver) := by
    rfl
  have hcode : (run commentedFiles none ["render", "t.mustache", "-o", "t.mustache"]).exitCode =
      0 := by
    rw [run_of_command _ hwords]
    exact exitCode_renderOver
  obtain ⟨-, -, hdelivers⟩ := run_render_all_or_nothing hwords
  obtain ⟨text, htext, hdelivers⟩ := hdelivers hcode
  have hx := text_eq_ok_iff.2 renders_renderOver
  rw [text_eq_ok_iff.2 htext] at hx
  cases hx
  generalize run commentedFiles none _ = effect at hdelivers
  cases hdelivers with
  | printed h => cases h
  | written hpath h =>
    cases hpath
    exact ⟨rfl, h.readText_eq⟩

end Logicless.CommandLine
