import Logicless.Template.Token

namespace Logicless.Token

/-- The bytes that a token stands for if it begins at the offset. -/
def place (offset : Nat) : Token → Span
  | .text content => ⟨offset, offset + content.utf8ByteSize⟩
  | .tag _ _ span => span

def placed (offset : Nat) : List Token → List (Token × Span)
  | [] => []
  | token :: tokens =>
    (token, token.place offset) :: placed (token.place offset).stop tokens

def upTo (offset : Nat) (tokens : List Token) : List Token :=
  ((placed 0 tokens).filter fun t => t.2.stop ≤ offset).map Prod.fst

def startingFrom (offset : Nat) (tokens : List Token) : List Token :=
  ((placed 0 tokens).filter fun t => offset ≤ t.2.start).map Prod.fst

/-- A tag begins or ends at the offset. -/
def TagBoundary (tokens : List Token) (offset : Nat) : Prop :=
  ∃ kind name span, .tag kind name span ∈ tokens ∧ (offset = span.start ∨ offset = span.stop)

end Logicless.Token
