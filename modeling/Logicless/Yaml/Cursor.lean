import Logicless.Text.Cut

namespace Logicless.Yaml

def isSpace (c : Char) : Bool :=
  c == ' ' || c == '\t'

def isBreak (c : Char) : Bool :=
  c == '\n' || c == '\r' || c == '\x85' || c == '\u2028' || c == '\u2029'

def isWordChar (c : Char) : Bool :=
  c.isAlphanum || c == '_' || c == '-'

def atBreak : List Char → Bool
  | [] => true
  | c :: _ => isBreak c

def atGap : List Char → Bool
  | [] => true
  | c :: _ => isSpace c || isBreak c

/-- Characters that a YAML text may hold: no control characters but tab, line feed, carriage
return and next line, and no noncharacters at the end of the basic plane. -/
def isAllowed (c : Char) : Bool :=
  let n := c.toNat
  c == '\t' || c == '\n' || c == '\r' || n == 0x85 || 0x20 ≤ n && n ≤ 0x7E ||
    0xA0 ≤ n && n ≤ 0xD7FF || 0xE000 ≤ n && n ≤ 0xFFFD || 0x10000 ≤ n

/-- Indices count bytes of UTF-8, and columns count characters. -/
structure Cursor where
  rest : List Char
  index : Nat
  line : Nat
  column : Nat

namespace Cursor

def ofText (cs : List Char) : Cursor :=
  ⟨cs, 0, 0, 0⟩

def head? (c : Cursor) : Option Char :=
  c.rest.head?

def skip (c : Cursor) (count : Nat) : Cursor :=
  ⟨c.rest.drop count, c.index + Text.byteLength (c.rest.take count), c.line, c.column + count⟩

def skipWhile (c : Cursor) (p : Char → Bool) : Cursor :=
  c.skip (c.rest.takeWhile p).length

def skipSpaces (c : Cursor) : Cursor :=
  c.skipWhile isSpace

def skipComment (c : Cursor) : Cursor :=
  if c.head? == some '#' then c.skipWhile fun ch => !isBreak ch else c

def readBreak? (c : Cursor) : Option (Char × Cursor) :=
  match c.rest with
  | '\r' :: '\n' :: cs => some ('\n', ⟨cs, c.index + 2, c.line + 1, 0⟩)
  | b :: cs =>
    if isBreak b then
      let read := if b == '\u2028' || b == '\u2029' then b else '\n'
      some (read, ⟨cs, c.index + b.utf8Size, c.line + 1, 0⟩)
    else none
  | [] => none

def skipBreak (c : Cursor) : Cursor :=
  match c.readBreak? with
  | some (_, c) => c
  | none => c

def skipLine? (c : Cursor) : Option Cursor :=
  let c := c.skipSpaces.skipComment
  if atBreak c.rest then some c.skipBreak else none

/-- Whether a line starts here with three of a character and a gap behind them. -/
def atMarker (c : Cursor) (mark : Char) : Bool :=
  c.column == 0 && c.rest.take 3 == [mark, mark, mark] && atGap (c.rest.drop 3)

def atDocumentMarker (c : Cursor) : Bool :=
  c.atMarker '-' || c.atMarker '.'

end Cursor

end Logicless.Yaml
