import Logicless.Template.Token

namespace Logicless

open Text

def TagBody.Unclosed : List Char → Prop
  | '{' :: cs => ¬ tripleCloseMark <:+: cs
  | cs => ¬ closeMark <:+: cs

/-- The source opens a tag at the offset, behind a text that has tokens, and does not close it. -/
def UnterminatedAt (source : String) (offset : Nat) : Prop :=
  ∃ before inner : String, source = before ++ "\x7b\x7b" ++ inner ∧ before.utf8ByteSize = offset ∧
    (∃ tokens, tokenize before = .ok tokens) ∧ before.toList.getLast? ≠ some '{' ∧
      TagBody.Unclosed inner.toList

namespace Token

/-- What a token does to the open sections, the innermost first, each with the start of its tag. -/
def toggle (sections : List (String × Nat)) : Token → List (String × Nat)
  | .tag .sectionOpen name span => (name, span.start) :: sections
  | .tag .invertedSectionOpen name span => (name, span.start) :: sections
  | .tag .sectionClose _ _ => sections.tail
  | _ => sections

def openSections (tokens : List Token) : List (String × Nat) :=
  tokens.foldl toggle []

/-- Behind the tokens no section is open, or the innermost one has a different name. -/
def Unmatched (before : List Token) (name : String) : Prop :=
  (openSections before).head?.map Prod.fst ≠ some name

def Balanced (tokens : List Token) : Prop :=
  ∀ before name span after, tokens = before ++ .tag .sectionClose name span :: after →
    ¬ Unmatched before name

/-- The first close tag that does not close the innermost open section has this name and starts at
this offset. -/
def FirstUnmatched (tokens : List Token) (name : String) (offset : Nat) : Prop :=
  ∃ before span after, tokens = before ++ .tag .sectionClose name span :: after ∧
    span.start = offset ∧ Unmatched before name ∧ Balanced before

end Token

end Logicless
