import Mathlib.Data.List.Forall2
import Logicless.Template.Token

namespace Logicless

open Text

/-- The blanks that may stand before a name and behind it: a brace at the end of the name has to be
kept apart from the closing mark. -/
structure Padding (before name after : List Char) : Prop where
  before_blank : ∀ c ∈ before, isBlank c = true
  after_blank : ∀ c ∈ after, isBlank c = true
  after_ne_nil : name.getLast? = some '}' → after ≠ []

/-- A text that writes a tag of this kind and this name. -/
inductive TagSpelling : TagKind → List Char → List Char → Prop
  /-- A name that starts with a brace is kept apart from the opening mark. -/
  | plain {before name after : List Char} (h : Padding before name after)
      (hbefore : name.head? = some '{' → before ≠ []) :
      TagSpelling .escapedVariable name (openMark ++ (before ++ name ++ after) ++ closeMark)
  | sigil {blanks before name after : List Char} {c : Char} {kind : TagKind}
      (hkind : TagKind.ofSigil? c = some kind) (hblanks : ∀ b ∈ blanks, isBlank b = true)
      (h : Padding before name after)
      (hname : kind = .unescapedVariable → ¬ closeMark <:+: name) :
      TagSpelling kind name
        (openMark ++ (blanks ++ c :: (before ++ name ++ after)) ++ closeMark)
  | triple {before name after : List Char} (h : Padding before name after) :
      TagSpelling .unescapedVariable name
        (openMark ++ '{' :: (before ++ name ++ after) ++ tripleCloseMark)

inductive Token.Spelling : Token → List Char → Prop
  | text (content : String) : Spelling (.text content) content.toList
  | tag {kind : TagKind} {name : String} {cs : List Char} (span : Span)
      (h : TagSpelling kind name.toList cs) : Spelling (.tag kind name span) cs

def Token.Spells (tokens : List Token) (source : String) : Prop :=
  ∃ written, List.Forall₂ Token.Spelling tokens written ∧ source.toList = written.flatten

end Logicless
