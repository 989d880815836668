import Logicless.Proofs.CommandLine.Render
import Logicless.Proofs.CommandLine.Words

namespace Logicless.CommandLine

variable {fs : Files} {path : String} {paths : List String}

def HoldsTemplate (fs : Files) (path : String) : Prop :=
  ∃ source t, fs.readText path = .ok source ∧ Template.compile source = .ok t

def HoldsBroken (fs : Files) (path : String) (error : CompileError) : Prop :=
  ∃ source, fs.readText path = .ok source ∧ Template.compile source = .error error

/-- What a check says of a file that can be read, with the error of its text if it has one. -/
inductive Verdict (fs : Files) (path : String) : Option CompileError × String → Prop
  | positive (h : HoldsTemplate fs path) : Verdict fs path (none, "✅ " ++ path ++ "\n")
  | negative {error : CompileError} (h : HoldsBroken fs path error) :
      Verdict fs path (some error, "❌ " ++ path ++ ": " ++ error.message ++ "\n")

/-- How many files stand before the first one that cannot be read. -/
def readableCount (fs : Files) (paths : List String) : Nat :=
  paths.findIdx fun path => !(fs.readText path).isOk

/-- How a check ends: its exit code, and what it reports. -/
inductive CheckEnds (fs : Files) (paths : List String) : Nat → String → Prop
  | unreadable {path : String} {fault : FileFault}
      (hpath : paths[readableCount fs paths]? = some path) (h : fs.readText path = .error fault) :
      CheckEnds fs paths 2 (Failure.template path fault).report
  | broken {before after : List String} {path : String} {error : CompileError}
      (hcount : readableCount fs paths = paths.length) (hpaths : paths = before ++ path :: after)
      (hbefore : ∀ p ∈ before, HoldsTemplate fs p) (h : HoldsBroken fs path error) :
      CheckEnds fs paths 4 (Failure.broken error).report
  | passed (h : ∀ path ∈ paths, HoldsTemplate fs path) : CheckEnds fs paths 0 ""

/-- What a check of these files comes to. -/
structure Checked (fs : Files) (paths : List String) (effect : Effect) : Prop where
  files_eq : effect.files = fs
  output_eq : ∃ verdicts, List.Forall₂ (Verdict fs) (paths.take (readableCount fs paths)) verdicts ∧
    effect.output = String.join (verdicts.map Prod.snd)
  ends : CheckEnds fs paths effect.exitCode effect.errorOutput

theorem exists_verdict (h : (fs.readText path).isOk = true) : ∃ v, Verdict fs path v := by
  cases hsource : fs.readText path with
  | error fault =>
    rw [hsource] at h
    cases h
  | ok source =>
    cases hcompile : Template.compile source with
    | error error => exact ⟨_, .negative ⟨source, hsource, hcompile⟩⟩
    | ok t => exact ⟨_, .positive ⟨source, t, hsource, hcompile⟩⟩

theorem checkAll_cons {v : Option CompileError × String} (h : Verdict fs path v)
    (first : Option CompileError) (rest : List String) :
    checkAll fs first (path :: rest) =
      (v.2 ++ (checkAll fs (first.or v.1) rest).1, (checkAll fs (first.or v.1) rest).2) := by
  cases h with
  | positive h =>
    obtain ⟨source, t, hsource, hcompile⟩ := h
    rw [checkAll, hsource]
    dsimp only
    rw [hcompile, Option.or_none]
    rfl
  | negative h =>
    obtain ⟨source, hsource, hcompile⟩ := h
    rw [checkAll, hsource]
    dsimp only
    rw [hcompile]
    rfl

theorem checkAll_append {before : List String} {verdicts : List (Option CompileError × String)}
    (h : List.Forall₂ (Verdict fs) before verdicts) (first : Option CompileError)
    (rest : List String) :
    checkAll fs first (before ++ rest) =
      (String.join (verdicts.map Prod.snd) ++
          (checkAll fs (first.or (verdicts.findSome? Prod.fst)) rest).1,
        (checkAll fs (first.or (verdicts.findSome? Prod.fst)) rest).2) := by
  induction h generalizing first with
  | nil => simp
  | @cons path v before verdicts hverdict _ ih =>
    have hfirst : (first.or v.1).or (verdicts.findSome? Prod.fst) =
        first.or ((v :: verdicts).findSome? Prod.fst) := by
      rw [Option.or_assoc, List.findSome?_cons]
      cases v.1 <;> rfl
    rw [List.cons_append, checkAll_cons hverdict, ih, hfirst, List.map_cons, String.join_cons,
      String.append_assoc]

theorem exists_verdicts (h : ∀ path ∈ paths, (fs.readText path).isOk = true) :
    ∃ verdicts, List.Forall₂ (Verdict fs) paths verdicts := by
  induction paths with
  | nil => exact ⟨[], .nil⟩
  | cons path paths ih =>
    obtain ⟨hpath, hpaths⟩ := List.forall_mem_cons.1 h
    obtain ⟨v, hv⟩ := exists_verdict hpath
    obtain ⟨verdicts, hverdicts⟩ := ih hpaths
    exact ⟨v :: verdicts, .cons hv hverdicts⟩

theorem findSome?_verdicts {verdicts : List (Option CompileError × String)}
    (h : List.Forall₂ (Verdict fs) paths verdicts) :
    (verdicts.findSome? Prod.fst = none ∧ ∀ path ∈ paths, HoldsTemplate fs path) ∨
      ∃ before path after error, paths = before ++ path :: after ∧
        (∀ p ∈ before, HoldsTemplate fs p) ∧ HoldsBroken fs path error ∧
          verdicts.findSome? Prod.fst = some error := by
  induction h with
  | nil => exact .inl ⟨rfl, List.forall_mem_nil _⟩
  | @cons path v paths verdicts hverdict _ ih =>
    cases hverdict with
    | negative hbroken =>
      exact .inr ⟨[], path, paths, _, rfl, List.forall_mem_nil _, hbroken, rfl⟩
    | positive hpath =>
      obtain ⟨hnone, hpaths⟩ | ⟨before, path', after, error, rfl, hbefore, hbroken, hsome⟩ := ih
      · exact .inl ⟨hnone, List.forall_mem_cons.2 ⟨hpath, hpaths⟩⟩
      · exact .inr ⟨path :: before, path', after, error, rfl,
          List.forall_mem_cons.2 ⟨hpath, hbefore⟩, hbroken, hsome⟩

theorem readableCount_le (fs : Files) (paths : List String) :
    readableCount fs paths ≤ paths.length :=
  List.findIdx_le_length

theorem isOk_of_mem_take (h : path ∈ paths.take (readableCount fs paths)) :
    (fs.readText path).isOk = true := by
  rw [readableCount, ← List.takeWhile_eq_take_findIdx_not] at h
  exact List.all_eq_true.1 List.all_takeWhile path h

theorem exists_fault_of_count_lt (h : readableCount fs paths < paths.length) :
    ∃ fault, fs.readText paths[readableCount fs paths] = .error fault := by
  have hnot : (!(fs.readText paths[readableCount fs paths]).isOk) = true :=
    List.findIdx_getElem (p := fun path => !(fs.readText path).isOk)
  cases hread : fs.readText paths[readableCount fs paths] with
  | error fault => exact ⟨fault, rfl⟩
  | ok source =>
    rw [hread] at hnot
    cases hnot

theorem exists_verdicts_check (fs : Files) (paths : List String) :
    ∃ verdicts, List.Forall₂ (Verdict fs) (paths.take (readableCount fs paths)) verdicts ∧
      (check fs paths).output = String.join (verdicts.map Prod.snd) ∧
        (readableCount fs paths = paths.length ∧
            (check fs paths).failure = (verdicts.findSome? Prod.fst).map .broken ∨
          ∃ path fault, paths[readableCount fs paths]? = some path ∧
            fs.readText path = .error fault ∧
              (check fs paths).failure = some (.template path fault)) := by
  obtain ⟨verdicts, hverdicts⟩ := exists_verdicts fun _ hpath => isOk_of_mem_take hpath
  refine ⟨verdicts, hverdicts, ?_⟩
  have houtput : (check fs paths).output = (checkAll fs none paths).1 := rfl
  have hfailure : (check fs paths).failure = (checkAll fs none paths).2 := rfl
  have happend := checkAll_append hverdicts none (paths.drop (readableCount fs paths))
  rw [List.take_append_drop, Option.none_or] at happend
  rw [houtput, hfailure, happend]
  obtain hcount | hlt := Nat.eq_or_lt_of_le (readableCount_le fs paths)
  · have hrest : paths.drop (readableCount fs paths) = [] := by
      rw [hcount, List.drop_length]
    rw [hrest, checkAll]
    exact ⟨String.append_empty, .inl ⟨hcount, rfl⟩⟩
  · obtain ⟨fault, hfault⟩ := exists_fault_of_count_lt hlt
    rw [List.drop_eq_getElem_cons hlt, checkAll, hfault]
    exact ⟨String.append_empty, .inr ⟨_, fault, List.getElem?_eq_getElem hlt, hfault, rfl⟩⟩

theorem checked_check (fs : Files) (paths : List String) :
    Checked fs paths (check fs paths).effect := by
  obtain ⟨verdicts, hverdicts, houtput, hfailure⟩ := exists_verdicts_check fs paths
  refine ⟨rfl, ⟨verdicts, hverdicts, houtput⟩, ?_⟩
  obtain ⟨hcount, hfailure⟩ | ⟨path, fault, hpath, hfault, hfailure⟩ := hfailure
  · rw [hcount, List.take_length] at hverdicts
    obtain ⟨hnone, hall⟩ | ⟨before, path, after, error, hpaths, hbefore, hbroken, hsome⟩ :=
      findSome?_verdicts hverdicts
    · rw [hnone] at hfailure
      rw [Outcome.effect, Outcome.exitCode, Outcome.errorOutput, hfailure]
      exact .passed hall
    · rw [hsome] at hfailure
      rw [Outcome.effect, Outcome.exitCode_eq hfailure, Outcome.errorOutput_eq hfailure]
      exact .broken hcount hpaths hbefore hbroken
  · rw [Outcome.effect, Outcome.exitCode_eq hfailure, Outcome.errorOutput_eq hfailure,
      Failure.exitCode_template]
    exact .unreadable hpath hfault

theorem CheckEnds.code_eq_two {code : Nat} {report : String} (h : CheckEnds fs paths code report)
    (hpath : path ∈ paths) {fault : FileFault} (hfault : fs.readText path = .error fault) :
    code = 2 := by
  cases h with
  | unreadable => rfl
  | broken hcount =>
    have htake : path ∈ paths.take (readableCount fs paths) := by
      rwa [hcount, List.take_length]
    have hread := isOk_of_mem_take htake
    rw [hfault] at hread
    cases hread
  | passed h =>
    obtain ⟨source, t, hsource, -⟩ := h path hpath
    cases hfault.symm.trans hsource

theorem foldlM_addOperand {r : Grammar} (hr : r.maxOperands = none)
    (h : ∀ path ∈ paths, path ≠ "") (g : Given) :
    paths.foldlM r.addOperand g = .ok ⟨g.options, g.operands ++ paths⟩ := by
  induction paths generalizing g with
  | nil =>
    rw [List.append_nil]
    rfl
  | cons path paths ih =>
    obtain ⟨hpath, hpaths⟩ := List.forall_mem_cons.1 h
    have hadd : r.addOperand g path = .ok ⟨g.options, g.operands ++ [path]⟩ := by
      rw [Grammar.addOperand, String.isEmpty_eq_false_iff.2 hpath, hr]
      rfl
    rw [List.foldlM_cons, hadd]
    exact (ih hpaths _).trans (by rw [List.append_assoc, List.singleton_append])

theorem ofWords_check (hne : paths ≠ []) (h : ∀ path ∈ paths, path ≠ "")
    (environment : Option String) :
    Reading.ofWords environment ("check" :: "--" :: paths) = .command (.check paths) := by
  have hleading : leadingGrammar.readLeading .none ("check" :: "--" :: paths) =
      .ok ("check", "--" :: paths) := rfl
  have hread : checkGrammar.read none .none ("--" :: paths) = .ok ⟨[], paths⟩ := by
    rw [Grammar.read]
    exact foldlM_addOperand rfl h .none
  have hmake : checkCommand ⟨[], paths⟩ = .ok (.check paths) := by
    rw [checkCommand, if_neg]
    simpa using hne
  rw [Reading.ofWords, hleading]
  dsimp only [readCommand]
  rw [hread]
  dsimp only
  rw [hmake]
  rfl

def RenderCommand.plain (path : String) : RenderCommand :=
  ⟨path, none, none, none, RenderOptions.default.maxPartialDepth⟩

theorem exitCode_check_singleton (fs : Files) (path : String) :
    (check fs [path]).exitCode = ((RenderCommand.plain path).run fs).exitCode := by
  cases hsource : fs.readText path with
  | error fault =>
    have hcheck : (check fs [path]).failure = some (.template path fault) := by
      simp [check, checkAll, hsource]
    have hrender : (RenderCommand.plain path).Fails fs (.template path fault) := .template hsource
    rw [Outcome.exitCode_eq hcheck, hrender.exitCode_run]
  | ok source =>
    cases hcompile : Template.compile source with
    | error error =>
      have hcheck : (check fs [path]).failure = some (.broken error) := by
        simp [check, checkAll, hsource, hcompile]
      have hrender : (RenderCommand.plain path).Fails fs (.compile path error) :=
        .compile hsource hcompile
      have hcode : Failure.exitCode (.compile path error) = 4 := rfl
      rw [Outcome.exitCode_eq hcheck, hrender.exitCode_run, hcode]
      rfl
    | ok t =>
      have hcheck : (check fs [path]).failure = none := by
        simp [check, checkAll, hsource, hcompile]
      have hrender : ((RenderCommand.plain path).run fs).failure = none := by
        have hcompiles : (RenderCommand.plain path).Compiles fs t := ⟨source, hsource, hcompile⟩
        rw [RenderCommand.run, hcompiles.text_eq]
        rfl
      rw [Outcome.exitCode, Outcome.exitCode, hcheck, hrender]

/-- A check has one true verdict on each file before the first that cannot be read, and none on
later ones. It exits with 2 if there is such a file, else with 4 and the first error if some file
does not compile, else with 0. For one file the exit code is that of rendering it. -/
theorem run_check_verdicts (fs : Files) (paths : List String) :
    (paths ≠ [] → (∀ path ∈ paths, path ≠ "") → ∀ environment,
        Reading.ofWords environment ("check" :: "--" :: paths) = .command (.check paths)) ∧
      ∀ environment words, Reading.ofWords environment words = .command (.check paths) →
        Checked fs paths (run fs environment words) ∧
          ∀ path, paths = [path] → ∀ environment' words',
            Reading.ofWords environment' words' = .command (.render (.plain path)) →
              (run fs environment words).exitCode = (run fs environment' words').exitCode := by
  refine ⟨ofWords_check, ?_⟩
  intro environment words hwords
  rw [run_of_command fs hwords]
  refine ⟨checked_check fs paths, ?_⟩
  rintro path rfl environment' words' hwords'
  rw [run_of_command fs hwords']
  exact exitCode_check_singleton fs path

def mixedFiles : Files :=
  ⟨[("a", .file "x".toUTF8), ("b", .file "\x7b\x7b".toUTF8), ("n", .file ⟨#[255]⟩)], []⟩

/-- A broken file counts each time that it is given, and not at all once a file cannot be read. -/
theorem run_check_verdicts_unreadable_file :
    (∃ verdicts, List.Forall₂ (Verdict mixedFiles) ["a", "b", "b"] verdicts ∧
        (run mixedFiles none ["check", "a", "b", "b", "n", "a"]).output =
          String.join (verdicts.map Prod.snd)) ∧
      (run mixedFiles none ["check", "a", "b", "b", "n", "a"]).exitCode = 2 ∧
      (run mixedFiles none ["check", "b"]).exitCode =
        (run mixedFiles none ["render", "b"]).exitCode := by
  have hfault : mixedFiles.readText "n" = .error .notText := by
    rfl
  have hcount : readableCount mixedFiles ["a", "b", "b", "n", "a"] = 3 := by
    rfl
  obtain ⟨-, hmany⟩ := run_check_verdicts mixedFiles ["a", "b", "b", "n", "a"]
  obtain ⟨hchecked, -⟩ := hmany none ["check", "a", "b", "b", "n", "a"] rfl
  obtain ⟨-, hone⟩ := run_check_verdicts mixedFiles ["b"]
  obtain ⟨-, hsame⟩ := hone none ["check", "b"] rfl
  refine ⟨?_, ?_, hsame "b" rfl none ["render", "b"] rfl⟩
  · have houtput := hchecked.output_eq
    rwa [hcount] at houtput
  · exact hchecked.ends.code_eq_two (by simp) hfault

end Logicless.CommandLine
