import Logicless.CommandLine.Words
import Logicless.Proofs.Files.Tree

namespace Logicless.CommandLine

variable {r : Grammar} {g g' : Given} {c : RenderCommand} {word value : String}
  {words : List String}

/-- A word is taken as the path that it is. -/
def IsPath (word : String) : Prop :=
  word ≠ "" ∧ Grammar.isOption word = false

theorem isPath_of_head? {c : Char} (h : word.toList.head? = some c) (hc : c ≠ '-') :
    IsPath word := by
  constructor
  · rintro rfl
    cases h
  · rw [Grammar.isOption, h]
    simp [hc]

theorem isPath_join {base : String} (hbase : base ≠ "") (hhyphen : base.toList.head? ≠ some '-')
    (path : String) : IsPath (Path.join base path) := by
  obtain hslash | hsame := Path.head?_join hbase path
  · exact isPath_of_head? hslash (by decide)
  · cases hhead : base.toList.head? with
    | none => exact absurd (by simpa using hhead) hbase
    | some c =>
      rw [hhead] at hsame hhyphen
      apply isPath_of_head? hsame
      rintro rfl
      exact hhyphen rfl

namespace Grammar

theorem read_operand (h : isOption word = false) (hadd : r.addOperand g word = .ok g') :
    r.read none g (word :: words) = r.read none g' words := by
  have hne : (word == "--") = false := by
    rw [beq_eq_false_iff_ne]
    rintro rfl
    exact absurd h (by decide)
  rw [read, hne, h, hadd]
  rfl

theorem read_option {o : OptionSpec} (hword : isOption word = true) (hdashes : word ≠ "--")
    (hread : r.readOption g word = .ok (g, some o)) (hvalue : isOption value = false)
    (hadd : g.addOption o value = .ok g') :
    r.read none g (word :: value :: words) = r.read none g' words := by
  rw [read, beq_eq_false_iff_ne.2 hdashes, hword, hread]
  dsimp only [Bool.false_eq_true, if_false, if_true]
  rw [read, hvalue, hadd]
  rfl

theorem read_attached (hword : isOption word = true) (hdashes : word ≠ "--")
    (hread : r.readOption g word = .ok (g', none)) :
    r.read none g (word :: words) = r.read none g' words := by
  rw [read, beq_eq_false_iff_ne.2 hdashes, hword, hread]
  rfl

theorem readLong_attached {name : List Char} {o : OptionSpec} (hname : '=' ∉ name)
    (ho : r.options.find? (fun o => o.long == String.ofList name) = some o)
    (htakes : o.takesValue = true) (g : Given) (value : String) :
    r.readLong g (name ++ '=' :: value.toList) = (g.addOption o value).map fun g => (g, none) := by
  have hbefore : ∀ c ∈ name, (c != '=') = true := by
    intro c hc
    rw [bne_iff_ne]
    rintro rfl
    exact hname hc
  rw [readLong, List.takeWhile_append_of_pos hbefore, List.dropWhile_append_of_pos hbefore]
  simp only [bne_self_eq_false, Bool.false_eq_true, not_false_eq_true, List.takeWhile_cons_of_neg,
    List.dropWhile_cons_of_neg, List.append_nil, String.ofList_toList]
  split
  · next h => cases h
  · next h => cases h
  · rw [ho]
    dsimp only
    rw [htakes]
    rfl

end Grammar

section

variable {long : String} {letter : Option Char} {path : Option String}

theorem addOption_path (hvalue : value ≠ "") (hg : g.value? long = none) :
    g.addOption (.path long letter) value = .ok ⟨(long, value) :: g.options, g.operands⟩ := by
  have hgiven : (g.value? (OptionSpec.path long letter).long).isSome = false := by
    rw [OptionSpec.path, hg, Option.isSome_none]
  have haccepts : (OptionSpec.path long letter).accepts value = true := by
    rw [OptionSpec.path, Bool.not_eq_true', String.isEmpty_eq_false_iff]
    exact hvalue
  rw [Given.addOption, hgiven, haccepts]
  rfl

theorem read_optionWords (hword : Grammar.isOption word = true) (hdashes : word ≠ "--")
    (hread : ∀ g, r.readOption g word = .ok (g, some (.path long letter)))
    (hpath : ∀ value ∈ path, IsPath value) (hg : g.value? long = none) (words : List String) :
    r.read none g (optionWords word path ++ words) =
      r.read none ⟨(path.map fun value => (long, value)).toList ++ g.options, g.operands⟩
        words := by
  cases path with
  | none => rfl
  | some value =>
    obtain ⟨hne, hvalue⟩ := hpath value rfl
    exact Grammar.read_option hword hdashes (hread g) hvalue (addOption_path hne hg)

theorem read_attachedWords (hword : word.toList = '-' :: '-' :: (long.toList ++ ['=']))
    (hlong : '=' ∉ long.toList)
    (ho : r.options.find? (fun o => o.long == long) = some (.path long letter))
    (hpath : ∀ value ∈ path, value ≠ "") (hg : g.value? long = none) (words : List String) :
    r.read none g (attachedWords word path ++ words) =
      r.read none ⟨(path.map fun value => (long, value)).toList ++ g.options, g.operands⟩
        words := by
  cases path with
  | none => rfl
  | some value =>
    have hchars : (word ++ value).toList = '-' :: '-' :: (long.toList ++ '=' :: value.toList) := by
      rw [String.toList_append, hword]
      simp
    have hne (other : String) (h : other.toList.length ≤ 2) : word ++ value ≠ other := by
      rintro rfl
      simp [hchars] at h
    apply Grammar.read_attached
    · rw [Grammar.isOption, hchars, bne_iff_ne.2 (hne "-" (by decide))]
      rfl
    · exact hne "--" (by decide)
    · have hlongWord : r.readOption g (word ++ value) =
          r.readLong g (long.toList ++ '=' :: value.toList) := by
        rw [Grammar.readOption, hchars]
        rfl
      rw [hlongWord, Grammar.readLong_attached hlong (by rwa [String.ofList_toList]) rfl,
        addOption_path (hpath value rfl) hg]
      rfl

end

def RenderCommand.given (c : RenderCommand) : Given :=
  ⟨(c.partials.map fun path => ("partials", path)).toList ++
    (c.data.map fun path => ("data", path)).toList, [c.template]⟩

/-- What has been read before the partials. -/
def dataGiven (data : Option String) (operands : List String) : Given :=
  ⟨(data.map fun path => ("data", path)).toList ++ [], operands⟩

theorem value?_dataGiven (data : Option String) (operands : List String) :
    (dataGiven data operands).value? "partials" = none := by
  cases data <;> rfl

theorem addOperand_template (h : word ≠ "") (options : List (String × String)) :
    renderGrammar.addOperand ⟨options, []⟩ word = .ok ⟨options, [word]⟩ := by
  rw [Grammar.addOperand, String.isEmpty_eq_false_iff.2 h]
  rfl

theorem read_words (htemplate : IsPath c.template) (hdata : ∀ path ∈ c.data, IsPath path)
    (hpartials : ∀ path ∈ c.partials, IsPath path) :
    renderGrammar.read none .none (c.template ::
      (optionWords "--data" c.data ++ optionWords "--partials" c.partials)) = .ok c.given := by
  have hreadData : ∀ g, renderGrammar.readOption g "--data" =
      .ok (g, some (.path "data" (some 'd'))) := fun _ => rfl
  have hreadPartials : ∀ g, renderGrammar.readOption g "--partials" =
      .ok (g, some (.path "partials" (some 'p'))) := fun _ => rfl
  calc renderGrammar.read none .none
        (c.template :: (optionWords "--data" c.data ++ optionWords "--partials" c.partials))
    _ = renderGrammar.read none ⟨[], [c.template]⟩
        (optionWords "--data" c.data ++ (optionWords "--partials" c.partials ++ [])) := by
      rw [List.append_nil]
      exact Grammar.read_operand htemplate.2 (addOperand_template htemplate.1 [])
    _ = renderGrammar.read none (dataGiven c.data [c.template])
        (optionWords "--partials" c.partials ++ []) :=
      read_optionWords (by decide) (by decide) hreadData hdata rfl _
    _ = .ok c.given := by
      rw [read_optionWords (by decide) (by decide) hreadPartials hpartials (value?_dataGiven ..),
        Grammar.read, dataGiven, List.append_nil, RenderCommand.given]

theorem read_guardedWords (htemplate : c.template ≠ "") (hdata : ∀ path ∈ c.data, path ≠ "")
    (hpartials : ∀ path ∈ c.partials, path ≠ "") :
    renderGrammar.read none .none (attachedWords "--data=" c.data ++
      (attachedWords "--partials=" c.partials ++ ["--", c.template])) = .ok c.given := by
  calc renderGrammar.read none .none (attachedWords "--data=" c.data ++
        (attachedWords "--partials=" c.partials ++ ["--", c.template]))
    _ = renderGrammar.read none (dataGiven c.data [])
        (attachedWords "--partials=" c.partials ++ ["--", c.template]) :=
      read_attachedWords (by decide) (by decide) rfl hdata rfl _
    _ = renderGrammar.read none ⟨c.given.options, []⟩ ["--", c.template] := by
      rw [read_attachedWords (by decide) (by decide) rfl hpartials
        (value?_dataGiven ..), dataGiven, List.append_nil, RenderCommand.given]
    _ = .ok c.given := by
      have hadd := addOperand_template htemplate c.given.options
      rw [Grammar.read]
      dsimp only [List.foldlM]
      rw [hadd]
      rfl

section

variable (houtput : c.output = none)
  (hdepth : c.maxPartialDepth = RenderOptions.default.maxPartialDepth)
include houtput hdepth

theorem renderCommand_given : renderCommand c.given = .ok (.render c) := by
  obtain ⟨template, data, partials, output, maxPartialDepth⟩ := c
  cases houtput
  cases hdepth
  cases data <;> cases partials <;> rfl

theorem ofWords_of_read (hread : renderGrammar.read none .none words = .ok c.given)
    (environment : Option String) :
    Reading.ofWords environment ("render" :: words) = .command (.render c) := by
  have hleading : leadingGrammar.readLeading .none ("render" :: words) =
      .ok ("render", words) := rfl
  rw [Reading.ofWords, hleading]
  dsimp only [readCommand]
  rw [hread]
  dsimp only
  rw [renderCommand_given houtput hdepth]
  rfl

/-- The words for a command give that command, whatever the environment is. -/
theorem ofWords_words (htemplate : IsPath c.template) (hdata : ∀ path ∈ c.data, IsPath path)
    (hpartials : ∀ path ∈ c.partials, IsPath path) (environment : Option String) :
    Reading.ofWords environment c.words = .command (.render c) :=
  ofWords_of_read houtput hdepth (read_words htemplate hdata hpartials) environment

theorem ofWords_guardedWords (htemplate : c.template ≠ "") (hdata : ∀ path ∈ c.data, path ≠ "")
    (hpartials : ∀ path ∈ c.partials, path ≠ "") (environment : Option String) :
    Reading.ofWords environment c.guardedWords = .command (.render c) :=
  ofWords_of_read houtput hdepth (read_guardedWords htemplate hdata hpartials) environment

end

end Logicless.CommandLine
