import Logicless.Template.Token

namespace Logicless

open Text

inductive Piece where
  | text (content : List Char)
  | tag (body : TagBody)
deriving DecidableEq

/-- A tag whose first closing mark is the one at its end, and whose braces are not taken for those
of the other kind. -/
def TagBody.WellFormed (b : TagBody) : Prop :=
  if b.triple then occurs tripleCloseMark (b.content ++ ['}', '}']) = false
  else b.content.head? ≠ some '{' ∧ occurs closeMark (b.content ++ ['}']) = false

namespace Piece

def source : Piece → List Char
  | text content => content
  | tag body => body.source

def token (offset : Nat) : Piece → Token
  | text content => .text (String.ofList content)
  | tag body => body.token offset

def allSource (pieces : List Piece) : List Char :=
  pieces.flatMap source

def tokens : Nat → List Piece → List Token
  | _, [] => []
  | offset, p :: ps => p.token offset :: tokens (offset + byteLength p.source) ps

/-- What may stand behind a literal text: the end, or a tag whose opening mark starts no earlier
than the tag. -/
def Follows (content : List Char) : List Piece → Prop
  | [] => True
  | text _ :: _ => False
  | tag _ :: _ => content.getLast? ≠ some '{'

def Tiling : List Piece → Prop
  | [] => True
  | text content :: ps =>
    content ≠ [] ∧ occurs openMark content = false ∧ Follows content ps ∧ Tiling ps
  | tag body :: ps => body.WellFormed ∧ Tiling ps

@[simp] theorem allSource_nil : allSource [] = [] := rfl

@[simp] theorem allSource_cons (p : Piece) (ps : List Piece) :
    allSource (p :: ps) = p.source ++ allSource ps := rfl

end Piece

end Logicless
