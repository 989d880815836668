import Logicless.Proofs.CommandLine.Failure
import Logicless.Proofs.Example

namespace Logicless

/-- Whether an example passes, and what a report says of it. -/
inductive Example.Verdict (e : Example) : Bool → String → Prop
  | passed {t : Template} (hcompile : Template.compile e.template = .ok t)
      (h : t.render e.partials.partials.resolve .default e.data = e.expected) :
      Verdict e true (e.name ++ "... ✅\n")
  | differs {t : Template} {actual : String} (hcompile : Template.compile e.template = .ok t)
      (hactual : t.render e.partials.partials.resolve .default e.data = actual)
      (h : actual ≠ e.expected) :
      Verdict e false (e.name ++ "... ❌\n" ++
        ("   - expected: " ++ Text.quoted e.expected ++ "\n" ++
          "   - actual:   " ++ Text.quoted actual ++ "\n"))
  | broken {error : CompileError} (hcompile : Template.compile e.template = .error error) :
      Verdict e false (e.name ++ "... ❌\n" ++ ("   - " ++ error.message ++ "\n"))

namespace CommandLine

def verdictLines (e : Example) : Bool × String :=
  (e.run.passed, exampleLines e.run)

theorem verdict_verdictLines (e : Example) : e.Verdict (verdictLines e).1 (verdictLines e).2 := by
  cases hcompile : Template.compile e.template with
  | error error =>
    have hrun : e.run = ⟨e.name, e.expected, .error error⟩ := by
      rw [Example.run, hcompile]
      rfl
    rw [verdictLines, hrun]
    exact .broken hcompile
  | ok t =>
    have hrun : e.run = ⟨e.name, e.expected,
        .ok (t.render e.partials.partials.resolve .default e.data)⟩ := by
      rw [Example.run, hcompile]
      rfl
    rw [verdictLines, hrun]
    by_cases h : t.render e.partials.partials.resolve .default e.data = e.expected
    · have hpassed : (t.render e.partials.partials.resolve .default e.data == e.expected) = true :=
        beq_iff_eq.2 h
      simp only [exampleLines, ExampleOutcome.passed, hpassed]
      exact .passed hcompile h
    · have hpassed : (t.render e.partials.partials.resolve .default e.data == e.expected) = false :=
        beq_eq_false_iff_ne.2 h
      simp only [exampleLines, ExampleOutcome.passed, hpassed]
      exact .differs hcompile rfl h

/-- A report between its heading and its last line has one entry for each example, and the numbers
of the passed and the failed ones in the end. -/
structure Reports (verdict : Example → Bool × String) (examples : List Example)
    (passed failed : Nat) (output : String) : Prop where
  passed_eq : passed = examples.countP fun e => (verdict e).1
  failed_eq : failed = examples.countP fun e => !(verdict e).1
  add_eq : passed + failed = examples.length
  output_eq : output = "🧪 Running " ++ toString examples.length ++ " example(s)...\n\n" ++
    String.join (examples.map fun e => (verdict e).2) ++
    "\nResults: " ++ toString passed ++ " passed, " ++ toString failed ++ " failed\n"

/-- What a run over examples says, and its exit code. -/
inductive Tells (verdict : Example → Bool × String) : List Example → Effect → Prop
  | nothing {effect : Effect} (houtput : effect.output = "⚠️  No examples found to run\n")
      (hcode : effect.exitCode = 0) : Tells verdict [] effect
  | report {examples : List Example} {passed failed : Nat} {effect : Effect} (hne : examples ≠ [])
      (h : Reports verdict examples passed failed effect.output)
      (hcode : effect.exitCode = if failed = 0 then 0 else 3) : Tells verdict examples effect

theorem countP_not_add (verdict : Example → Bool × String) (examples : List Example) :
    examples.length =
      examples.countP (fun e => (verdict e).1) + examples.countP fun e => !(verdict e).1 := by
  rw [List.length_eq_countP_add_countP fun e => (verdict e).1]
  simp only [Bool.not_eq_true, Bool.decide_eq_false]

theorem reports_reportLines (examples : List Example) :
    Reports verdictLines examples (SuiteReport.ofExamples examples).passed
      (SuiteReport.ofExamples examples).failed
      (reportLines (SuiteReport.ofExamples examples)) := by
  have hpassed : (SuiteReport.ofExamples examples).passed =
      examples.countP fun e => (verdictLines e).1 := List.countP_map
  have hcount := countP_not_add verdictLines examples
  have hlength : (SuiteReport.ofExamples examples).outcomes.length = examples.length :=
    List.length_map _
  have hlines : (SuiteReport.ofExamples examples).outcomes.map exampleLines =
      examples.map fun e => (verdictLines e).2 := List.map_map
  refine
    { passed_eq := hpassed
      failed_eq := ?_
      add_eq := ?_
      output_eq := ?_ }
  · rw [SuiteReport.failed, hpassed, hlength]
    omega
  · rw [SuiteReport.failed, hlength, hpassed]
    omega
  · unfold reportLines
    rw [hlength, hlines]

theorem allPassed_iff (examples : List Example) :
    (SuiteReport.ofExamples examples).allPassed = true ↔
      (SuiteReport.ofExamples examples).failed = 0 := by
  have hall : (SuiteReport.ofExamples examples).allPassed = true ↔
      (SuiteReport.ofExamples examples).passed =
        (SuiteReport.ofExamples examples).outcomes.length := by
    rw [SuiteReport.allPassed, SuiteReport.passed, List.all_eq_true, ← List.countP_eq_length]
  have hle : (SuiteReport.ofExamples examples).passed ≤
      (SuiteReport.ofExamples examples).outcomes.length := List.countP_le_length
  rw [hall, SuiteReport.failed]
  omega

theorem exitCode_runSuite (fs : Files) {examples : List Example} (h : examples ≠ []) :
    (runSuite fs examples).exitCode =
      if (SuiteReport.ofExamples examples).failed = 0 then 0 else 3 := by
  have hne : ¬ examples.isEmpty = true := by simpa using h
  have hall := allPassed_iff examples
  unfold runSuite
  rw [if_neg hne]
  dsimp only
  by_cases hfailed : (SuiteReport.ofExamples examples).failed = 0
  · rw [if_pos hfailed, hall.2 hfailed]
    rfl
  · rw [if_neg hfailed, if_neg (hall.not.2 hfailed)]
    exact Failure.exitCode_examples _

theorem runSuite_tells (fs : Files) (examples : List Example) :
    Tells verdictLines examples (runSuite fs examples).effect := by
  cases examples with
  | nil => exact .nothing rfl rfl
  | cons e examples =>
    have hne := List.cons_ne_nil e examples
    exact .report hne (reports_reportLines _) (exitCode_runSuite fs hne)

def loadable (fs : Files) (root : String) : List Example :=
  (fs.subdirectories root).filterMap fun name => (Example.load fs root name).toOption

def codeOfLoadError : TemplateError → Nat
  | .noExample _ _ => 2
  | .compile _ | .inclusion _ _ => 4
  | _ => 3

theorem exitCode_loadExample (error : TemplateError) :
    Failure.exitCode (.loadExample error) = codeOfLoadError error := by
  have hcode : Failure.codeOfHeadline "Failed to load example" = 3 := by decide
  cases error with
  | compile _ => rfl
  | inclusion _ _ => rfl
  | noExample _ _ => rfl
  | _ => exact (Failure.exitCode_of_codeOfCause?_eq_none rfl).trans hcode

section

variable {fs : FileTree} {environment directory : Option String} {root : String}
  (hroot : directory.getD (Path.join fs.workingPath examplesDirectory) = root)
  (hexists : fs.pathExists root = true)
include hroot hexists

theorem runExamples_none :
    runExamples fs none directory = runSuite fs (Example.loadAll fs root) := by
  unfold runExamples
  rw [hroot]
  dsimp only
  rw [hexists]
  rfl

theorem runExamples_some (name : String) :
    runExamples fs (some name) directory =
      match Example.load fs root name with
      | .error e => .failed fs (.loadExample e)
      | .ok e => runSuite fs [e] := by
  unfold runExamples
  rw [hroot]
  dsimp only
  rw [hexists]
  rfl

/-- Running examples gives a true verdict on each example that loads, in the order of their names,
with the counts of the verdicts and the exit code that these call for. Running one of them alone
gives the same verdict on it. -/
theorem run_examples_truthful :
    (loadable fs root).Pairwise (fun d e => Text.bytes d.name < Text.bytes e.name) ∧
      ∃ verdict : Example → Bool × String, (∀ e : Example, e.Verdict (verdict e).1 (verdict e).2) ∧
        (∀ words, Reading.ofWords environment words = .command (.runExamples none directory) →
          Tells verdict (loadable fs root) (run fs environment words)) ∧
        ∀ words name, Path.IsName name →
          Reading.ofWords environment words = .command (.runExamples (some name) directory) →
            (∀ e, Example.load fs root name = .ok e →
              e ∈ loadable fs root ∧ Tells verdict [e] (run fs environment words)) ∧
            ∀ error, Example.load fs root name = .error error →
              (run fs environment words).output = "" ∧
                (run fs environment words).exitCode = codeOfLoadError error := by
  have hloadable : loadable fs root = Example.loadAll fs root :=
    (Example.loadAll_eq_filterMap fs root).symm
  rw [hloadable]
  refine ⟨?_, verdictLines, verdict_verdictLines, ?_, ?_⟩
  · exact (Example.loadAll_pairwise fs root).imp (Text.lt_iff_bytes_lt _ _).1
  · intro words hwords
    rw [run_of_command fs hwords, Command.run, runExamples_none hroot hexists]
    exact runSuite_tells fs _
  · intro words name hname hwords
    rw [run_of_command fs hwords, Command.run, runExamples_some hroot hexists]
    constructor
    · intro e he
      obtain ⟨entry, hentry⟩ := Files.pathExists_iff.1 hexists
      rw [he]
      exact ⟨Example.mem_loadAll_of_load (Files.ne_empty_of_entry hentry) hname he,
        runSuite_tells fs [e]⟩
    · intro error herror
      rw [herror]
      exact ⟨rfl, exitCode_loadExample error⟩

end

theorem run_examples_truthful_three_directories :
    ∃ verdict, (∀ e : Example, e.Verdict (verdict e).1 (verdict e).2) ∧
      Tells verdict [.sample "good" "x", .sample "wrong" "y"]
        (run Example.sampleFiles none ["smoke-examples", "--examples-dir", "examples"]) ∧
      Tells verdict [.sample "wrong" "y"]
        (run Example.sampleFiles none
          ["smoke-examples", "--examples-dir", "examples", "-e", "wrong"]) ∧
      (run Example.sampleFiles none
        ["smoke-examples", "--examples-dir", "examples", "-e", "bad"]).exitCode = 3 := by
  obtain ⟨-, verdict, hverdict, hall, hone⟩ := @run_examples_truthful Example.sampleFiles none
    (some "examples") "examples" rfl rfl
  refine ⟨verdict, hverdict, ?_, ?_, ?_⟩
  · rw [← Example.filterMap_load_sampleFiles]
    exact hall _ rfl
  · exact ((hone _ "wrong" (by decide) rfl).1 _ rfl).2
  · exact ((hone _ "bad" (by decide) rfl).2 (.invalidExample "examples/bad" (.outputs 0)) rfl).2

end CommandLine

end Logicless
