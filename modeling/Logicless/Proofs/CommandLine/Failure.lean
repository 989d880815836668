import Logicless.CommandLine.Run
import Logicless.Proofs.Text.Cut

namespace Logicless.CommandLine

def Outcome.effect (o : Outcome) : Effect :=
  ⟨o.exitCode, o.output, o.errorOutput, o.files⟩

theorem run_of_command (fs : Files) {environment : Option String} {words : List String}
    {command : Command} (h : Reading.ofWords environment words = .command command) :
    run fs environment words = (command.run fs).effect := by
  rw [run, h]
  rfl

def Failure.report (f : Failure) : String :=
  "❌ Error: " ++ f.message ++ "\n"

theorem Outcome.exitCode_eq {o : Outcome} {f : Failure} (h : o.failure = some f) :
    o.exitCode = f.exitCode := by
  rw [exitCode, h]
  rfl

theorem Outcome.errorOutput_eq {o : Outcome} {f : Failure} (h : o.failure = some f) :
    o.errorOutput = f.report := by
  rw [errorOutput, h]
  rfl

namespace Failure

theorem mentions_iff {text word : String} :
    mentions text word = true ↔ word.toList <:+: text.toList.map Char.toLower :=
  Text.occurs_iff_infix

theorem mentions_append_left {text word : String} (h : mentions text word = true) (rest : String) :
    mentions (text ++ rest) word = true := by
  rw [mentions_iff] at h ⊢
  rw [String.toList_append, List.map_append]
  exact h.trans (List.prefix_append _ _).isInfix

theorem mentions_append_eq {before text word : String}
    (h : word.toList <:+: before.toList.map Char.toLower ++ text.toList.map Char.toLower →
      word.toList <:+: text.toList.map Char.toLower) :
    mentions (before ++ text) word = mentions text word := by
  rw [Bool.eq_iff_iff, mentions_iff, mentions_iff, String.toList_append, List.map_append]
  constructor
  · exact h
  · intro hinfix
    exact hinfix.trans (List.suffix_append _ _).isInfix

/-- A word without quotes stands either before the quoted text or in it. -/
theorem mentions_append_quoted {before text word : String} (hword : '"' ∉ word.toList)
    (hbefore : mentions before word = false) :
    mentions (before ++ Text.quoted text) word = mentions (Text.quoted text) word := by
  rw [← Bool.not_eq_true, mentions_iff] at hbefore
  apply mentions_append_eq
  rw [Text.quoted, String.toList_ofList, List.cons_append, List.map_cons]
  intro hinfix
  apply Classical.byContradiction
  intro h
  apply Text.not_infix_append_cons hword hbefore _ hinfix
  intro hrest
  exact h (List.infix_cons hrest)

theorem codeOfHeadline_append_quoted {before : String}
    (h : ∀ word ∈ ["argument", "not found", "example"], mentions before word = false)
    (text : String) :
    codeOfHeadline (before ++ Text.quoted text) = codeOfHeadline (Text.quoted text) := by
  simp only [List.forall_mem_cons] at h
  obtain ⟨hargument, hfound, hexample, -⟩ := h
  rw [codeOfHeadline, codeOfHeadline, mentions_append_quoted (by decide) hargument,
    mentions_append_quoted (by decide) hfound, mentions_append_quoted (by decide) hexample]

theorem codeOfHeadline_of_not_found {text : String} (h : mentions text "not found" = true)
    (rest : String) : codeOfHeadline (text ++ rest) = 2 := by
  rw [codeOfHeadline, mentions_append_left h, Bool.or_true, if_pos rfl]

theorem codeOfHeadline_ne_zero (headline : String) : codeOfHeadline headline ≠ 0 := by
  unfold codeOfHeadline
  split
  · decide
  · split <;> decide

theorem exitCode_of_codeOfCause?_eq_none {f : Failure} (h : f.codeOfCause? = none) :
    f.exitCode = codeOfHeadline f.headline := by
  rw [exitCode, h, Option.getD_none]

theorem exitCode_template (path : String) (fault : FileFault) :
    exitCode (.template path fault) = 2 := by
  have hheadline : headline (.template path fault) = "Template not found: " ++ Text.quoted path :=
    rfl
  rw [exitCode_of_codeOfCause?_eq_none rfl, hheadline]
  apply codeOfHeadline_of_not_found
  decide

theorem toLower_of_isDigit {c : Char} (h : c.isDigit = true) : c.toLower = c := by
  simp only [Char.isDigit, Bool.and_eq_true, decide_eq_true_eq] at h
  have hlt : '9'.val < 'A'.val := by decide
  apply dif_neg
  intro hupper
  exact absurd (UInt32.le_trans hupper.1 h.2) (UInt32.not_le.2 hlt)

theorem not_mem_map_toLower_digits {c : Char} (h : c.isDigit = false) (count : Nat) :
    c ∉ (toString count).toList.map Char.toLower := by
  intro hc
  obtain ⟨d, hd, rfl⟩ := List.mem_map.1 hc
  rw [Nat.toString_eq_repr, Nat.toList_repr] at hd
  have hdigit := Nat.isDigit_of_mem_toDigits (by decide) (by decide) hd
  rw [toLower_of_isDigit hdigit, hdigit] at h
  cases h

theorem mentions_count {c : Char} {word : List Char} (h : c.isDigit = false) (count : Nat)
    (text : String) :
    mentions (toString count ++ text) (String.ofList (c :: word)) =
      mentions text (String.ofList (c :: word)) := by
  apply mentions_append_eq
  rw [String.toList_ofList]
  exact Text.infix_of_infix_append (not_mem_map_toLower_digits h count)

theorem codeOfHeadline_count (count : Nat) (text : String) :
    codeOfHeadline (toString count ++ text) = codeOfHeadline text := by
  have hargument : mentions (toString count ++ text) "argument" = mentions text "argument" :=
    mentions_count (by decide : 'a'.isDigit = false) count text
  have hfound : mentions (toString count ++ text) "not found" = mentions text "not found" :=
    mentions_count (by decide : 'n'.isDigit = false) count text
  have hexample : mentions (toString count ++ text) "example" = mentions text "example" :=
    mentions_count (by decide : 'e'.isDigit = false) count text
  rw [codeOfHeadline, codeOfHeadline, hargument, hfound, hexample]

theorem exitCode_examples (count : Nat) : exitCode (.examples count) = 3 := by
  have hheadline : headline (.examples count) = toString count ++ " example(s) failed" := rfl
  rw [exitCode_of_codeOfCause?_eq_none rfl, hheadline, codeOfHeadline_count]
  decide

end Failure

end Logicless.CommandLine
