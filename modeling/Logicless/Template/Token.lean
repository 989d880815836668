import Logicless.Template.CompileError
import Logicless.Text.Blank
import Logicless.Text.Cut

namespace Logicless

open Text

inductive TagKind where
  | escapedVariable
  | unescapedVariable
  | sectionOpen
  | invertedSectionOpen
  | sectionClose
  | comment
  | inclusion
deriving DecidableEq

def TagKind.ofSigil? : Char → Option TagKind
  | '#' => some sectionOpen
  | '^' => some invertedSectionOpen
  | '/' => some sectionClose
  | '!' => some comment
  | '>' => some inclusion
  | '&' => some unescapedVariable
  | _ => none

/-- The bytes from `start` up to `stop`, the latter left out. -/
structure Span where
  start : Nat
  stop : Nat
deriving DecidableEq

inductive Token where
  | text (content : String)
  | tag (kind : TagKind) (name : String) (span : Span)
deriving DecidableEq

def openMark : List Char := ['{', '{']

def closeMark : List Char := ['}', '}']

def tripleCloseMark : List Char := ['}', '}', '}']

structure TagBody where
  triple : Bool
  content : List Char
deriving DecidableEq

namespace TagBody

/-- Reads on behind the two opening braces of a tag: a third brace makes it a triple one, and the
first closing mark ends it. -/
def read? : List Char → Option (TagBody × List Char)
  | '{' :: cs => (cut? tripleCloseMark cs).map fun (content, rest) => (⟨true, content⟩, rest)
  | cs => (cut? closeMark cs).map fun (content, rest) => (⟨false, content⟩, rest)

def source (b : TagBody) : List Char :=
  if b.triple then openMark ++ '{' :: b.content ++ tripleCloseMark
  else openMark ++ b.content ++ closeMark

/-- Triple braces hold a name and nothing else; double braces may hold a sigil before it. -/
def classify (b : TagBody) : TagKind × List Char :=
  if b.triple then (.unescapedVariable, trim b.content)
  else
    match trimStart b.content with
    | [] => (.escapedVariable, [])
    | c :: cs =>
      match TagKind.ofSigil? c with
      | some kind => (kind, trim cs)
      | none => (.escapedVariable, trim (c :: cs))

def token (b : TagBody) (start : Nat) : Token :=
  .tag b.classify.1 (String.ofList b.classify.2) ⟨start, start + byteLength b.source⟩

theorem source_of_read? {cs rest : List Char} {b : TagBody} (h : read? cs = some (b, rest)) :
    openMark ++ cs = b.source ++ rest := by
  unfold read? at h
  split at h
  · obtain ⟨⟨content, after⟩, hcut, heq⟩ := Option.map_eq_some_iff.1 h
    cases heq
    simp [source, eq_of_cut? hcut]
  · obtain ⟨⟨content, after⟩, hcut, heq⟩ := Option.map_eq_some_iff.1 h
    cases heq
    simp [source, eq_of_cut? hcut]

theorem length_le_of_read? {cs rest : List Char} {b : TagBody} (h : read? cs = some (b, rest)) :
    rest.length ≤ cs.length := by
  have := congrArg List.length (source_of_read? h)
  simp [source, openMark] at this
  split at this <;> simp at this <;> omega

end TagBody

def Token.ofText (cs : List Char) : List Token :=
  if cs.isEmpty then [] else [.text (String.ofList cs)]

def Token.scan (offset : Nat) (cs : List Char) : Except ScanError (List Token) :=
  match _hcut : cut? openMark cs with
  | none => .ok (ofText cs)
  | some (before, inner) =>
    let start := offset + byteLength before
    match _hread : TagBody.read? inner with
    | none => .error ⟨start⟩
    | some (body, rest) =>
      (scan (start + byteLength body.source) rest).map fun tokens =>
        ofText before ++ body.token start :: tokens
termination_by cs.length
decreasing_by
  exact Nat.lt_of_le_of_lt (TagBody.length_le_of_read? _hread) (length_lt_of_cut? (by decide) _hcut)

def tokenize (source : String) : Except ScanError (List Token) :=
  Token.scan 0 source.toList

end Logicless
