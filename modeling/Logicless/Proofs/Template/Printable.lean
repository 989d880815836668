import Logicless.Proofs.Template.Compilation
import Logicless.Proofs.Template.Nesting
import Logicless.Proofs.Template.Tokenization
import Logicless.Template.Printer

namespace Logicless

open Text

namespace Lexeme

/-- A lexeme that some template has, at its end or not. -/
def Printable (atEnd : Bool) : Lexeme → Prop
  | text content => Node.IsText atEnd content
  | tag .escapedVariable name => Node.IsPlainName name
  | tag .unescapedVariable name => Node.IsName tripleCloseMark name
  | tag _ name => Node.IsName closeMark name

def AllPrintable (atEnd : Bool) : List Lexeme → Prop
  | [] => True
  | l :: ls => Printable (atEnd && ls.isEmpty) l ∧ AllPrintable atEnd ls

theorem allPrintable_append {atEnd : Bool} {ls ms : List Lexeme} :
    AllPrintable atEnd (ls ++ ms) ↔
      AllPrintable (atEnd && ms.isEmpty) ls ∧ AllPrintable atEnd ms := by
  induction ls with
  | nil => simp [AllPrintable]
  | cons l ls ih =>
    have hempty : (ls ++ ms).isEmpty = (ms.isEmpty && ls.isEmpty) := by
      cases ls <;> simp
    rw [List.cons_append, AllPrintable, AllPrintable, ih, and_assoc, hempty, Bool.and_assoc]

end Lexeme

namespace Node

theorem IsName.triple {name : String} (h : IsName closeMark name) :
    IsName tripleCloseMark name := by
  refine ⟨h.1, occurs_eq_false_iff.2 fun hoccurs => ?_⟩
  have hmark : closeMark <:+: tripleCloseMark := by decide
  exact occurs_eq_false_iff.1 h.2 (hmark.trans hoccurs)

theorem IsName.printable {name : String} (h : IsName closeMark name) {kind : TagKind}
    (hkind : kind ≠ .escapedVariable) (atEnd : Bool) :
    Lexeme.Printable atEnd (.tag kind name) := by
  cases kind with
  | escapedVariable => exact absurd rfl hkind
  | unescapedVariable => exact h.triple
  | _ => exact h

theorem isName_trim {mark content : List Char} (h : ¬ mark <:+: content) :
    IsName mark (String.ofList (trim content)) := by
  rw [IsName, String.toList_ofList]
  exact ⟨trimmed_trim content, occurs_eq_false_iff.2 fun hoccurs =>
    h (hoccurs.trans (isInfix_trim content))⟩

end Node

theorem ofSigil?_ne_escapedVariable {c : Char} {kind : TagKind}
    (h : TagKind.ofSigil? c = some kind) : kind ≠ .escapedVariable := by
  unfold TagKind.ofSigil? at h
  split at h <;> cases h <;> exact TagKind.noConfusion

theorem Reading.printable {content name : List Char} {kind : TagKind}
    (h : Reading content kind name) (hclose : ¬ closeMark <:+: content) (atEnd : Bool) :
    Lexeme.Printable atEnd (.tag kind (String.ofList name)) := by
  cases h with
  | @sigil blanks rest c kind hblanks hkind =>
    have hrest : ¬ closeMark <:+: rest := fun hoccurs =>
      hclose (hoccurs.trans ((List.suffix_cons c rest).trans (List.suffix_append ..)).isInfix)
    exact (Node.isName_trim hrest).printable (ofSigil?_ne_escapedVariable hkind) atEnd
  | @plain blanks rest hblanks hrest =>
    have hname : ¬ closeMark <:+: rest := fun hoccurs =>
      hclose (hoccurs.trans (List.suffix_append blanks rest).isInfix)
    refine ⟨Node.isName_trim hname, ?_⟩
    rw [String.toList_ofList, head?_trim fun c hc => (hrest c hc).1]
    cases hhead : rest.head? with
    | none => rfl
    | some c => exact (hrest c hhead).2

theorem TagBody.WellFormed.printable {body : TagBody} (h : body.WellFormed) (atEnd : Bool) :
    Lexeme.Printable atEnd (.tag body.classify.1 (String.ofList body.classify.2)) := by
  obtain ⟨triple, content⟩ := body
  cases triple with
  | true =>
    have hclose : ¬ tripleCloseMark <:+: content := fun hoccurs =>
      occurs_eq_false_iff.1 h (hoccurs.trans (List.prefix_append ..).isInfix)
    exact Node.isName_trim hclose
  | false =>
    have hclose : ¬ closeMark <:+: content := fun hoccurs =>
      occurs_eq_false_iff.1 h.2 (hoccurs.trans (List.prefix_append ..).isInfix)
    exact (reading_classify content).printable hclose atEnd

theorem Piece.Tiling.allPrintable : ∀ {ps : List Piece}, Tiling ps → ∀ offset,
    Lexeme.AllPrintable true (Token.lexemes (tokens offset ps))
  | [], _, _ => trivial
  | .text content :: ps, ⟨hne, hopen, hfollows, hps⟩, offset => by
    rw [tokens, Token.lexemes_cons rfl]
    refine ⟨⟨?_, ?_, fun hlast => ?_⟩, hps.allPrintable _⟩
    · rwa [Ne, String.ofList_eq_empty_iff]
    · rwa [String.toList_ofList]
    · rw [String.toList_ofList] at hlast
      cases ps with
      | nil => rfl
      | cons p ps =>
        cases p with
        | text => exact hfollows.elim
        | tag => exact absurd hlast hfollows
  | .tag body :: ps, ⟨hbody, hps⟩, offset => by
    have hmore := hps.allPrintable (offset + byteLength body.source)
    by_cases hcomment : (body.token offset).lexeme.isComment = true
    · rw [tokens, token, Token.lexemes, List.map_cons,
        List.filter_cons_of_neg (by simp [hcomment])]
      exact hmore
    · rw [tokens, token, Token.lexemes_cons (Bool.eq_false_iff.2 hcomment)]
      exact ⟨hbody.printable _, hmore⟩

namespace Node

theorem isEmpty_allLexemes (ns : List Node) : (allLexemes ns).isEmpty = ns.isEmpty := by
  cases ns with
  | nil => rfl
  | cons n ns =>
    cases n with
    | interpolation name escaped => cases escaped <;> rfl
    | _ => rfl

mutual

theorem printable_iff_lexemes (atEnd : Bool) : ∀ (n : Node),
    Printable atEnd n ↔ Lexeme.AllPrintable atEnd (lexemes n)
  | .text content => by
    simp only [Printable, lexemes, Lexeme.AllPrintable, Lexeme.Printable, List.isEmpty_nil,
      Bool.and_true, and_true]
  | .interpolation name true => by
    simp only [Printable, lexemes, Lexeme.AllPrintable, Lexeme.Printable, and_true]
  | .interpolation name false => by
    simp only [Printable, lexemes, Lexeme.AllPrintable, Lexeme.Printable, and_true]
  | .inclusion name => by
    simp only [Printable, lexemes, Lexeme.AllPrintable, Lexeme.Printable, and_true]
  | .block name inverted children => by
    have hopen : ∀ e, Lexeme.Printable e (.tag (openKind inverted) name) ↔
        IsName closeMark name := by
      cases inverted <;> exact fun _ => Iff.rfl
    rw [Printable, lexemes, List.cons_append, Lexeme.AllPrintable, Lexeme.allPrintable_append,
      hopen, allPrintable_iff_lexemes false children]
    simp only [Lexeme.AllPrintable, Lexeme.Printable, List.isEmpty_cons, Bool.and_false, and_true]
    exact ⟨fun h => ⟨h.1, h.2, h.1⟩, fun h => ⟨h.1, h.2.1⟩⟩

theorem allPrintable_iff_lexemes (atEnd : Bool) : ∀ (ns : List Node),
    AllPrintable atEnd ns ↔ Lexeme.AllPrintable atEnd (allLexemes ns)
  | [] => Iff.rfl
  | n :: ns => by
    rw [AllPrintable, allLexemes, Lexeme.allPrintable_append, isEmpty_allLexemes,
      printable_iff_lexemes _ n, allPrintable_iff_lexemes atEnd ns]

end

theorem allPrintable_of_ofSource {source : String} {nodes : List Node}
    (h : ofSource source = .ok nodes) : AllPrintable true nodes := by
  obtain ⟨tokens, htokens, hnodes⟩ := ofSource_eq_ok_iff.1 h
  obtain ⟨ps, hps, -, rfl⟩ := Piece.scan_eq_ok_iff.1 htokens
  rw [allPrintable_iff_lexemes, (ofTokens_eq_ok_iff _ _).1 hnodes]
  exact hps.allPrintable 0

end Node

end Logicless
