import Logicless.Proofs.CommandLine.Render
import Logicless.Proofs.CommandLine.Words
import Logicless.Proofs.Example
import Logicless.Proofs.Preset

namespace Logicless

open CommandLine

variable {fs : Files} {path : String} {e : Example}

def Example.settings (e : Example) : Preset.Settings :=
  ⟨some e.template, e.data, e.partials.partials.resolve, .default⟩

def Example.setUp (e : Example) (name : String) : List Workshop.Step :=
  [.create name, .setTemplate name e.template, .setData name e.data,
    .setPartials name e.partials.partials.resolve]

/-- What comes of an example, what a command has done with the template in its file, and what the
caller of a preset gets: the same text, or the same error. -/
inductive Example.Agree (fs : Files) (file : String) :
    Except CompileError String → CommandLine.Effect → Workshop.Outcome → Prop
  | text (text : String) : Agree fs file (.ok text) ⟨0, text, "", fs⟩ (.rendered (.ok text))
  | broken (error : CompileError) : Agree fs file (.error error)
      ⟨4, "", "❌ Error: " ++ (Failure.compile file error).message ++ "\n", fs⟩
      (.rendered (.error (.compile error)))

namespace Example

theorem loadData_eq_ok {files : List String} {data : Value}
    (h : loadData fs path files = .ok data) :
    files = files.head?.toList ∧
      ∀ c : RenderCommand, c.data = files.head? → c.loadData fs = .ok data := by
  match files, h with
  | [], h =>
    cases h
    refine ⟨rfl, fun c hc => ?_⟩
    rw [RenderCommand.loadData, hc]
    rfl
  | [file], h =>
    refine ⟨rfl, fun c hc => ?_⟩
    rw [RenderCommand.loadData, hc]
    exact mapError_eq_ok_iff.2 h

/-- The command for an example takes the files that the example is loaded from, and finds in them
what the example has. -/
structure Found (fs : Files) (path : String) (e : Example) (c : RenderCommand) : Prop where
  templates_eq : (ExampleFiles.ofDirectory fs path).templates = [c.template]
  data_eq : (ExampleFiles.ofDirectory fs path).data = c.data.toList
  readText_eq : fs.readText c.template = .ok e.template
  loadData_eq : c.loadData fs = .ok e.data
  loadPartials_eq : c.loadPartials fs = .ok e.partials

theorem found_ofExample (he : ofDirectory fs path = .ok e) :
    Found fs path e (.ofExample fs path) := by
  obtain ⟨file, _, hloaded⟩ := exists_loadedFrom he
  have hfile : (RenderCommand.ofExample fs path).template = file := by
    rw [RenderCommand.ofExample, hloaded.templates_eq]
    rfl
  obtain ⟨hfiles, hload⟩ := loadData_eq_ok hloaded.loadData_eq
  exact
    { templates_eq := by rw [hfile, hloaded.templates_eq]
      data_eq := hfiles
      readText_eq := by rw [hfile, hloaded.readTemplate_eq]
      loadData_eq := hload _ rfl
      loadPartials_eq := mapError_eq_ok_iff.2 hloaded.loadPartials_eq }

theorem isPath_of_mem_children (hpath : path.toList.head? ≠ some '-') {file : String}
    (h : file ∈ fs.children path) : IsPath file := by
  obtain ⟨name, entry, hfind, rfl⟩ := Files.mem_children_iff.1 h
  exact isPath_join (Files.ne_empty_of_entry (Files.entry_of_find? hfind)) hpath name

theorem ne_empty_of_mem_children {file : String} (h : file ∈ fs.children path) : file ≠ "" := by
  obtain ⟨name, entry, hfind, rfl⟩ := Files.mem_children_iff.1 h
  exact Path.join_ne_empty (Files.ne_empty_of_entry (Files.entry_of_find? hfind)) name

namespace Found

variable {c : RenderCommand}

theorem template_mem_children (h : Found fs path e c) : c.template ∈ fs.children path := by
  have hmem : c.template ∈ (ExampleFiles.ofDirectory fs path).templates := by
    rw [h.templates_eq]
    exact .head _
  exact List.mem_of_mem_filter (List.mem_of_mem_filter hmem)

theorem mem_children_of_data (h : Found fs path e c) {file : String} (hfile : file ∈ c.data) :
    file ∈ fs.children path := by
  have hmem : file ∈ (ExampleFiles.ofDirectory fs path).data := by
    rw [h.data_eq]
    exact Option.mem_toList.2 hfile
  exact List.mem_of_mem_filter (List.mem_of_mem_filter hmem)

theorem path_ne_empty (h : Found fs path e c) : path ≠ "" := by
  obtain ⟨name, entry, hfind, -⟩ := Files.mem_children_iff.1 h.template_mem_children
  exact Files.ne_empty_of_entry (Files.entry_of_find? hfind)

theorem ofWords_words (h : Found fs path e (.ofExample fs path))
    (hpath : path.toList.head? ≠ some '-') (environment : Option String) :
    Reading.ofWords environment (RenderCommand.ofExample fs path).words =
      .command (.render (.ofExample fs path)) := by
  apply CommandLine.ofWords_words rfl rfl
  · exact isPath_of_mem_children hpath h.template_mem_children
  · intro file hfile
    exact isPath_of_mem_children hpath (h.mem_children_of_data hfile)
  · intro file hfile
    cases hfile
    exact isPath_join h.path_ne_empty hpath "partials"

theorem ofWords_guardedWords (h : Found fs path e (.ofExample fs path))
    (environment : Option String) :
    Reading.ofWords environment (RenderCommand.ofExample fs path).guardedWords =
      .command (.render (.ofExample fs path)) := by
  apply CommandLine.ofWords_guardedWords rfl rfl
  · exact ne_empty_of_mem_children h.template_mem_children
  · intro file hfile
    exact ne_empty_of_mem_children (h.mem_children_of_data hfile)
  · intro file hfile
    cases hfile
    exact Path.join_ne_empty h.path_ne_empty "partials"

theorem text_eq (h : Found fs path e c)
    (hdepth : c.maxPartialDepth = RenderOptions.default.maxPartialDepth) :
    c.text fs = e.run.actual.mapError (.compile c.template) := by
  rw [Example.run]
  cases hcompile : Template.compile e.template with
  | error error => exact RenderCommand.text_of_compile_error h.readText_eq hcompile
  | ok t =>
    have hcompiles : c.Compiles fs t := ⟨e.template, h.readText_eq, hcompile⟩
    rw [hcompiles.text_eq, h.loadData_eq, h.loadPartials_eq, hdepth]
    rfl

end Found

theorem render_settings (e : Example) :
    e.settings.render none none = e.run.actual.mapError .compile := by
  rw [Preset.Settings.render, settings, Example.run]
  dsimp only [Option.or]
  cases Template.compile e.template with
  | error error => rfl
  | ok t => rfl

theorem Found.agree {c : RenderCommand} (h : Found fs path e c) (houtput : c.output = none)
    (hdepth : c.maxPartialDepth = RenderOptions.default.maxPartialDepth) :
    Agree fs c.template e.run.actual (c.run fs).effect
      (.rendered (e.settings.render none none)) := by
  rw [RenderCommand.run, h.text_eq hdepth, e.render_settings]
  cases e.run.actual with
  | error error => exact .broken error
  | ok text =>
    dsimp only [Except.mapError]
    rw [houtput]
    exact .text text

section

variable {file : String} {effect : CommandLine.Effect} {outcome : Workshop.Outcome}
  (h : Agree fs file e.run.actual effect outcome)
include h

theorem Agree.passed_iff : e.run.passed = true ↔ effect = ⟨0, e.expected, "", fs⟩ := by
  generalize hactual : e.run.actual = actual at h
  cases h with
  | text text =>
    rw [ExampleOutcome.passed, hactual]
    constructor
    · intro heq
      rw [beq_iff_eq.1 heq]
      rfl
    · intro heq
      exact beq_iff_eq.2 (congrArg CommandLine.Effect.output heq)
  | broken error =>
    rw [ExampleOutcome.passed, hactual]
    apply iff_of_false Bool.false_ne_true
    intro heq
    exact Nat.succ_ne_zero 3 (congrArg CommandLine.Effect.exitCode heq)

theorem Agree.passed_iff_output (hne : e.expected ≠ "") :
    e.run.passed = true ↔ effect.output = e.expected := by
  generalize hactual : e.run.actual = actual at h
  cases h with
  | text text =>
    rw [ExampleOutcome.passed, hactual]
    exact beq_iff_eq
  | broken error =>
    rw [ExampleOutcome.passed, hactual]
    exact iff_of_false Bool.false_ne_true hne.symm

end

theorem settings_setUp (e : Example) (steps : List Workshop.Step) (name : String) :
    ((Workshop.empty.run (steps ++ e.setUp name)).1.preset? name).map Preset.settings =
      some e.settings := by
  rw [← (Workshop.Represents.empty.run (steps ++ e.setUp name)).1.find?_eq, List.foldl_append]
  generalize steps.foldl Preset.Settings.step .empty = t
  simp [setUp, Preset.Settings.step, Preset.Settings.change, Table.find?_insert_self,
    Preset.Settings.initial, settings]

theorem outcome_render {steps : List Workshop.Step} {name : String} {s : Preset.Settings}
    (h : ((Workshop.empty.run steps).1.preset? name).map Preset.settings = some s) :
    ((Workshop.empty.run steps).1.step (.render name none none)).2.outcome =
      .rendered (s.render none none) := by
  have hrepresents := (Workshop.Represents.empty.run steps).1
  rw [(hrepresents.render name none none).2, Preset.Settings.ask, hrepresents.find?_eq, h]
  rfl

/-- The ways to the text of the example in a directory. -/
structure Ways (fs : Files) (path : String) (e : Example) (c : RenderCommand) : Prop where
  templates_eq : (ExampleFiles.ofDirectory fs path).templates = [c.template]
  data_eq : (ExampleFiles.ofDirectory fs path).data = c.data.toList
  partials_eq : c.partials = some (Path.join path "partials")
  ofWords_words : path.toList.head? ≠ some '-' → ∀ environment,
    Reading.ofWords environment c.words = .command (.render c)
  ofWords_guardedWords : ∀ environment,
    Reading.ofWords environment c.guardedWords = .command (.render c)
  settings_setUp : ∀ steps name,
    ((Workshop.empty.run (steps ++ e.setUp name)).1.preset? name).map Preset.settings =
      some e.settings
  agree : ∀ environment words, Reading.ofWords environment words = .command (.render c) →
    ∀ steps name,
      ((Workshop.empty.run steps).1.preset? name).map Preset.settings = some e.settings →
        Agree fs c.template e.run.actual (CommandLine.run fs environment words)
          ((Workshop.empty.run steps).1.step (.render name none none)).2.outcome
  passed_iff : ∀ environment words, Reading.ofWords environment words = .command (.render c) →
    (e.run.passed = true ↔ CommandLine.run fs environment words = ⟨0, e.expected, "", fs⟩)
  passed_iff_output : ∀ environment words,
    Reading.ofWords environment words = .command (.render c) → e.expected ≠ "" →
      (e.run.passed = true ↔ (CommandLine.run fs environment words).output = e.expected)

/-- Where a directory holds an example, the command for its files and a preset with its contents
give the text that running the example gives, or fail with the same error. So the example passes
exactly if the command line prints the expected output. -/
theorem ways_agree (he : ofDirectory fs path = .ok e) : Ways fs path e (.ofExample fs path) := by
  have hfound := found_ofExample he
  have hagree := hfound.agree rfl rfl
  exact
    { templates_eq := hfound.templates_eq
      data_eq := hfound.data_eq
      partials_eq := rfl
      ofWords_words := hfound.ofWords_words
      ofWords_guardedWords := hfound.ofWords_guardedWords
      settings_setUp := e.settings_setUp
      agree := by
        intro environment words hwords steps name hsettings
        rw [run_of_command fs hwords, outcome_render hsettings]
        exact hagree
      passed_iff := by
        intro environment words hwords
        rw [run_of_command fs hwords]
        exact hagree.passed_iff
      passed_iff_output := by
        intro environment words hwords
        rw [run_of_command fs hwords]
        exact hagree.passed_iff_output }

theorem ways_agree_without_partials :
    (sample "good" "x").run.passed = true ∧
      CommandLine.run sampleFiles none
        ["render", "examples/good/t.mustache", "--partials", "examples/good/partials"] =
          ⟨0, "x", "", sampleFiles⟩ := by
  have hload : ofDirectory sampleFiles "examples/good" = .ok (sample "good" "x") := by
    rfl
  have hways := ways_agree hload
  have hwords : ["render", "examples/good/t.mustache", "--partials", "examples/good/partials"] =
      (RenderCommand.ofExample sampleFiles "examples/good").words := by
    rfl
  have hnodes : Node.ofSource "x" = .ok [.text "x"] := by cbv
  have hcompile : Template.compile (sample "good" "x").template = .ok ⟨"x", _, hnodes⟩ :=
    Template.compile_eq_ok_iff.2 rfl
  have hpassed : (sample "good" "x").run.passed = true := by
    rw [ExampleOutcome.passed, Example.run, hcompile]
    cbv
  have hread := hways.ofWords_words (by decide) none
  rw [← hwords] at hread
  exact ⟨hpassed, (hways.passed_iff none _ hread).1 hpassed⟩

end Example

end Logicless
