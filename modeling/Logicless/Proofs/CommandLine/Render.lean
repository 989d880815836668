import Logicless.Proofs.CommandLine.Failure
import Logicless.Proofs.DataFile
import Logicless.Proofs.Partials.Directory

namespace Logicless

open CommandLine

variable {fs : Files} {c : RenderCommand} {f : Failure}

namespace PartialsDirectory

theorem error_of_binding {file : String} {e : TemplateError} (h : binding fs file = .error e) :
    (∃ fault, e = .file fault) ∨ ∃ name error, e = .inclusion name error := by
  rw [binding] at h
  cases htext : fs.readText file with
  | error fault =>
    rw [htext] at h
    cases h
    exact .inl ⟨fault, rfl⟩
  | ok source =>
    rw [htext] at h
    obtain ⟨error, -, he⟩ := mapError_eq_error_iff.1 h
    exact .inr ⟨_, error, he.symm⟩

theorem error_of_load {path : String} {e : TemplateError} (h : load fs path = .error e) :
    (∃ fault, e = .file fault) ∨ ∃ name error, e = .inclusion name error := by
  rw [load, ofEntries] at h
  obtain ⟨bindings, -, hfold⟩ | ⟨file, -, e', he', hfold⟩ :=
    foldlM_addFile_cases fs ((fs.children path).filter fs.isTemplate) .empty
  · rw [hfold] at h
    cases h
  · rw [hfold] at h
    cases h
    exact error_of_binding he'

end PartialsDirectory

namespace CommandLine

def RenderCommand.Compiles (fs : Files) (c : RenderCommand) (t : Template) : Prop :=
  ∃ source, fs.readText c.template = .ok source ∧ Template.compile source = .ok t

/-- How rendering fails, at the first step that does. -/
inductive RenderCommand.Fails (fs : Files) (c : RenderCommand) : Failure → Prop
  | template {fault : FileFault} (h : fs.readText c.template = .error fault) :
      Fails fs c (.template c.template fault)
  | compile {source : String} {error : CompileError} (hsource : fs.readText c.template = .ok source)
      (h : Template.compile source = .error error) : Fails fs c (.compile c.template error)
  | data {t : Template} {path : String} {error : TemplateError} (ht : c.Compiles fs t)
      (hpath : c.data = some path) (h : DataFile.load fs path = .error error) :
      Fails fs c (.data path error)
  | partials {t : Template} {data : Value} {path : String} {error : TemplateError}
      (ht : c.Compiles fs t) (hdata : c.loadData fs = .ok data) (hpath : c.partials = some path)
      (h : PartialsDirectory.load fs path = .error error) : Fails fs c (.partials path error)
  | output {text path : String} {fault : FileFault} (htext : c.text fs = .ok text)
      (hpath : c.output = some path) (h : fs.write path text = .error fault) :
      Fails fs c (.output path fault)

theorem fails_of_text_eq_error (h : c.text fs = .error f) : c.Fails fs f := by
  obtain h | ⟨source, hsource, h⟩ := bind_eq_error_iff.1 h
  · obtain ⟨fault, hfault, rfl⟩ := mapError_eq_error_iff.1 h
    exact .template hfault
  rw [mapError_eq_ok_iff] at hsource
  obtain h | ⟨t, ht, h⟩ := bind_eq_error_iff.1 h
  · obtain ⟨error, herror, rfl⟩ := mapError_eq_error_iff.1 h
    exact .compile hsource herror
  rw [mapError_eq_ok_iff] at ht
  obtain h | ⟨data, hdata, h⟩ := bind_eq_error_iff.1 h
  · rw [RenderCommand.loadData] at h
    split at h
    · cases h
    · next path hpath =>
      obtain ⟨error, herror, rfl⟩ := mapError_eq_error_iff.1 h
      exact .data ⟨source, hsource, ht⟩ hpath herror
  obtain h | ⟨directory, -, h⟩ := bind_eq_error_iff.1 h
  · rw [RenderCommand.loadPartials] at h
    split at h
    · cases h
    · next path hpath =>
      obtain ⟨error, herror, rfl⟩ := mapError_eq_error_iff.1 h
      exact .partials ⟨source, hsource, ht⟩ hdata hpath herror
  · cases h

theorem RenderCommand.Compiles.text_eq {t : Template} (h : c.Compiles fs t) :
    c.text fs = do
      let data ← c.loadData fs
      let directory ← c.loadPartials fs
      return t.render directory.partials.resolve ⟨c.maxPartialDepth⟩ data := by
  obtain ⟨source, hsource, ht⟩ := h
  unfold RenderCommand.text
  rw [hsource, Except.mapError]
  dsimp only [Bind.bind, Except.bind]
  rw [ht]
  rfl

theorem RenderCommand.text_of_compile_error {source : String} {error : CompileError}
    (hsource : fs.readText c.template = .ok source) (h : Template.compile source = .error error) :
    c.text fs = .error (.compile c.template error) := by
  unfold RenderCommand.text
  rw [hsource, Except.mapError]
  dsimp only [Bind.bind, Except.bind]
  rw [h]
  rfl

theorem failure_of_text_eq_error (h : c.text fs = .error f) : (c.run fs).failure = some f := by
  rw [RenderCommand.run, h]
  rfl

theorem RenderCommand.Fails.failure_eq (h : c.Fails fs f) : (c.run fs).failure = some f := by
  cases h with
  | template h =>
    apply failure_of_text_eq_error
    rw [RenderCommand.text, h]
    rfl
  | compile hsource h =>
    exact failure_of_text_eq_error (RenderCommand.text_of_compile_error hsource h)
  | data ht hpath h =>
    apply failure_of_text_eq_error
    rw [ht.text_eq, RenderCommand.loadData, hpath]
    dsimp only
    rw [h]
    rfl
  | partials ht hdata hpath h =>
    apply failure_of_text_eq_error
    rw [ht.text_eq, hdata, RenderCommand.loadPartials, hpath]
    dsimp only [Bind.bind, Except.bind]
    rw [h]
    rfl
  | output htext hpath h =>
    rw [RenderCommand.run, htext, hpath]
    dsimp only
    rw [h]
    rfl

theorem failure_eq_some_iff : (c.run fs).failure = some f ↔ c.Fails fs f := by
  constructor
  · intro h
    cases htext : c.text fs with
    | error e =>
      rw [failure_of_text_eq_error htext] at h
      cases h
      exact fails_of_text_eq_error htext
    | ok text =>
      rw [RenderCommand.run, htext] at h
      dsimp only at h
      split at h
      · cases h
      · next path hpath =>
        split at h
        · next fault hfault =>
          cases h
          exact .output htext hpath hfault
        · cases h
  · exact RenderCommand.Fails.failure_eq

namespace Failure

/-- The exit code of the kind of a failure to render, whatever the paths are. -/
def codeOfKind : Failure → Nat
  | template _ _ => 2
  | compile _ _ | partials _ (.inclusion _ _) => 4
  | _ => 1

def path? : Failure → Option String
  | data path _ | partials path _ | output path _ => some path
  | _ => none

theorem codeOfKind_ne_zero (f : Failure) : f.codeOfKind ≠ 0 := by
  unfold codeOfKind
  split <;> decide

theorem exitCode_of_quoted {f : Failure} {before path : String} (h : f.codeOfCause? = none)
    (hheadline : f.headline = before ++ Text.quoted path)
    (hbefore : ∀ word ∈ ["argument", "not found", "example"], mentions before word = false) :
    f.exitCode = codeOfHeadline (Text.quoted path) := by
  rw [exitCode_of_codeOfCause?_eq_none h, hheadline, codeOfHeadline_append_quoted hbefore]

end Failure

theorem RenderCommand.Fails.exitCode_eq (h : c.Fails fs f) :
    (f.codeOfKind ≠ 1 → f.exitCode = f.codeOfKind) ∧
      (f.codeOfKind = 1 → ∃ path, f.path? = some path ∧
        f.exitCode = Failure.codeOfHeadline (Text.quoted path)) := by
  cases h with
  | template h => exact ⟨fun _ => Failure.exitCode_template _ _, nofun⟩
  | compile hsource h => exact ⟨fun _ => rfl, nofun⟩
  | data ht hpath h =>
    refine ⟨fun hkind => absurd rfl hkind, fun _ => ⟨_, rfl, ?_⟩⟩
    cases DataFile.load_eq_error_iff.1 h
    all_goals exact Failure.exitCode_of_quoted rfl rfl (by decide)
  | partials ht hdata hpath h =>
    obtain ⟨fault, rfl⟩ | ⟨name, error, rfl⟩ := PartialsDirectory.error_of_load h
    · refine ⟨fun hkind => absurd rfl hkind, fun _ => ⟨_, rfl, ?_⟩⟩
      exact Failure.exitCode_of_quoted rfl rfl (by decide)
    · exact ⟨fun _ => rfl, nofun⟩
  | output htext hpath h =>
    refine ⟨fun hkind => absurd rfl hkind, fun _ => ⟨_, rfl, ?_⟩⟩
    exact Failure.exitCode_of_quoted rfl rfl (by decide)

theorem RenderCommand.Fails.exitCode_ne_zero (h : c.Fails fs f) : f.exitCode ≠ 0 := by
  by_cases hkind : f.codeOfKind = 1
  · obtain ⟨path, -, hcode⟩ := h.exitCode_eq.2 hkind
    rw [hcode]
    exact Failure.codeOfHeadline_ne_zero _
  · rw [h.exitCode_eq.1 hkind]
    exact f.codeOfKind_ne_zero

theorem RenderCommand.Fails.exitCode_run (h : c.Fails fs f) :
    (c.run fs).exitCode = f.exitCode := by
  rw [Outcome.exitCode, h.failure_eq]
  rfl

/-- Rendering succeeds unless a step fails, and the exit code is then that of the kind of failure.
Where that is the general one, words in the path can still make it look like another. -/
theorem run_render_exitCode {environment : Option String} {words : List String}
    (hwords : Reading.ofWords environment words = .command (.render c)) :
    ((run fs environment words).exitCode = 0 ↔ ∀ f, ¬ c.Fails fs f) ∧
      ∀ f, c.Fails fs f →
        (f.codeOfKind ≠ 1 → (run fs environment words).exitCode = f.codeOfKind) ∧
        (f.codeOfKind = 1 → ∃ path, f.path? = some path ∧
          (run fs environment words).exitCode = Failure.codeOfHeadline (Text.quoted path)) := by
  have hrun : (run fs environment words).exitCode = (c.run fs).exitCode := by
    rw [run_of_command fs hwords]
    rfl
  rw [hrun]
  refine ⟨⟨?_, ?_⟩, ?_⟩
  · intro hzero f hf
    rw [hf.exitCode_run] at hzero
    exact hf.exitCode_ne_zero hzero
  · intro hnone
    cases hfailure : (c.run fs).failure with
    | none =>
      rw [Outcome.exitCode, hfailure]
      rfl
    | some f => exact absurd (failure_eq_some_iff.1 hfailure) (hnone f)
  · intro f hf
    rw [hf.exitCode_run]
    exact hf.exitCode_eq

def singleTemplate : Files :=
  ⟨[("t.mustache", .file "x".toUTF8)], []⟩

def renderSample (data : String) : RenderCommand :=
  ⟨"t.mustache", some data, none, none, 64⟩

theorem fails_renderSample {data : String} (h : singleTemplate.readText data = .error .notFound) :
    (renderSample data).Fails singleTemplate (.data data (.file .notFound)) := by
  have hnodes : Node.ofSource "x" = .ok [.text "x"] := by cbv
  have hsource : singleTemplate.readText "t.mustache" = .ok "x" := by
    rfl
  have ht : (renderSample data).Compiles singleTemplate ⟨"x", _, hnodes⟩ :=
    ⟨"x", hsource, Template.compile_eq_ok_iff.2 rfl⟩
  apply RenderCommand.Fails.data ht rfl
  rw [DataFile.load, h]

theorem run_render_exitCode_missing_data :
    (run singleTemplate none ["render", "t.mustache", "-d", "sample.json"]).exitCode = 1 := by
  have hwords : Reading.ofWords none ["render", "t.mustache", "-d", "sample.json"] =
      .command (.render (renderSample "sample.json")) := by
    rfl
  have hmissing : singleTemplate.readText "sample.json" = .error .notFound := by
    rfl
  obtain ⟨-, hcodes⟩ := @run_render_exitCode singleTemplate _ none _ hwords
  obtain ⟨path, hpath, hcode⟩ := (hcodes _ (fails_renderSample hmissing)).2 rfl
  cases hpath
  rw [hcode]
  decide

/-- The name of the missing file makes the failure look like one of examples. -/
theorem run_render_missing_example :
    (∃ f, (renderSample "example.json").Fails singleTemplate f ∧ f.codeOfKind = 1) ∧
      (run singleTemplate none ["render", "t.mustache", "-d", "example.json"]).exitCode = 3 := by
  have hwords : Reading.ofWords none ["render", "t.mustache", "-d", "example.json"] =
      .command (.render (renderSample "example.json")) := by
    rfl
  have hmissing : singleTemplate.readText "example.json" = .error .notFound := by
    rfl
  have hfails := fails_renderSample hmissing
  refine ⟨⟨_, hfails, rfl⟩, ?_⟩
  obtain ⟨path, hpath, hcode⟩ := hfails.exitCode_eq.2 rfl
  cases hpath
  rw [run_of_command singleTemplate hwords]
  apply (hfails.exitCode_run.trans hcode).trans
  decide

end CommandLine

end Logicless
