import Logicless.Yaml.Cursor

namespace Logicless.Yaml

inductive Gap where
  | spaces (cs : List Char)
  | breaks (first : Char) (more : List Char)
  | escapedBreak (more : List Char)

/-- Reads line breaks, at most `fuel` of them, and the spaces between and behind them. A tab may not
stand left of the given column. -/
def readBreaks (indent : Nat) : Nat → Cursor → Option (List Char × Cursor)
  | 0, c => some ([], c)
  | fuel + 1, c =>
    let spaces := c.rest.takeWhile isSpace
    if (spaces.take (indent - c.column)).contains '\t' then none
    else
      let c := c.skip spaces.length
      match c.readBreak? with
      | some (b, c) => (readBreaks indent fuel c).map fun (bs, c) => (b :: bs, c)
      | none => some ([], c)

namespace Gap

/-- One line feed folds to a space and more of them to one less; other breaks are kept. -/
def fold : Gap → List Char
  | spaces cs => cs
  | breaks '\n' [] => [' ']
  | breaks '\n' more => more
  | breaks first more => first :: more
  | escapedBreak more => more

def hasBreak : Gap → Bool
  | spaces _ => false
  | _ => true

def read (indent fuel : Nat) (c : Cursor) : Option (Gap × Cursor) :=
  let cs := c.rest.takeWhile isSpace
  let c := c.skip cs.length
  match c.readBreak? with
  | some (first, c) => (readBreaks indent fuel c).map fun (more, c) => (breaks first more, c)
  | none => some (spaces cs, c)

def readEscaped (fuel : Nat) (c : Cursor) : Option (Gap × Cursor) :=
  (readBreaks 0 fuel (c.skip 1).skipBreak).map fun (more, c) => (escapedBreak more, c)

end Gap

def isFlowEnd (c : Char) : Bool :=
  c == ',' || c == '[' || c == ']' || c == '\x7b' || c == '\x7d'

/-- A word of a plain scalar. A colon ends it before a gap; in a flow collection a colon before an
indicator is an error. -/
def plainWord (inFlow : Bool) : List Char → Option (List Char)
  | [] => some []
  | c :: cs =>
    if isSpace c || isBreak c then some []
    else if inFlow && c == ':' && cs.head?.any (fun d => isFlowEnd d || d == '?') then none
    else if c == ':' && atGap cs || inFlow && isFlowEnd c then some []
    else (plainWord inFlow cs).map (c :: ·)

structure PlainScalar where
  content : List Char
  endsLine : Bool
  cursor : Cursor

def readPlainFrom (inFlow : Bool) (indent : Nat) : Nat → Gap → Cursor → Option PlainScalar
  | 0, _, _ => none
  | fuel + 1, gap, c =>
    if c.atDocumentMarker || c.head? == some '#' then some ⟨[], gap.hasBreak, c⟩
    else
      match plainWord inFlow c.rest with
      | none => none
      | some [] => some ⟨[], gap.hasBreak, c⟩
      | some word =>
        let content := gap.fold ++ word
        let c := c.skip word.length
        if c.rest.isEmpty || !atGap c.rest then some ⟨content, false, c⟩
        else
          match Gap.read indent fuel c with
          | none => none
          | some (gap, c) =>
            if !inFlow && c.column < indent then some ⟨content, gap.hasBreak, c⟩
            else
              (readPlainFrom inFlow indent fuel gap c).map fun p =>
                { p with content := content ++ p.content }

def readPlain (inFlow : Bool) (indent fuel : Nat) (c : Cursor) : Option PlainScalar :=
  readPlainFrom inFlow indent fuel (.spaces []) c

def simpleEscape? : Char → Option Char
  | '0' => some '\x00'
  | 'a' => some '\x07'
  | 'b' => some '\x08'
  | 't' => some '\t'
  | '\t' => some '\t'
  | 'n' => some '\n'
  | 'v' => some '\x0b'
  | 'f' => some '\x0c'
  | 'r' => some '\r'
  | 'e' => some '\x1b'
  | ' ' => some ' '
  | '"' => some '"'
  | '/' => some '/'
  | '\\' => some '\\'
  | 'N' => some '\x85'
  | '_' => some '\xa0'
  | 'L' => some '\u2028'
  | 'P' => some '\u2029'
  | _ => none

def escapeDigits? : Char → Option Nat
  | 'x' => some 2
  | 'u' => some 4
  | 'U' => some 8
  | _ => none

def hexValue? (c : Char) : Option Nat :=
  if c.isDigit then some (c.toNat - '0'.toNat)
  else if 'a' ≤ c && c ≤ 'f' then some (c.toNat - 'a'.toNat + 10)
  else if 'A' ≤ c && c ≤ 'F' then some (c.toNat - 'A'.toNat + 10)
  else none

def hexNumber? (digits : List Char) : Option Nat :=
  digits.foldlM (fun n d => (hexValue? d).map (n * 16 + ·)) 0

def scalarValue? (n : Nat) : Option Char :=
  if h : n.isValidChar then some (Char.ofNatAux n h) else none

def escape? : List Char → Option (Char × Nat)
  | [] => none
  | c :: cs =>
    match escapeDigits? c with
    | some count =>
      let digits := cs.take count
      if digits.length < count then none
      else (hexNumber? digits).bind fun n => (scalarValue? n).map fun ch => (ch, count + 1)
    | none => (simpleEscape? c).map fun ch => (ch, 1)

def singleQuotedWord : List Char → List Char × Nat
  | [] => ([], 0)
  | '\'' :: '\'' :: cs =>
    let (word, count) := singleQuotedWord cs
    ('\'' :: word, count + 2)
  | c :: cs =>
    if c == '\'' || isSpace c || isBreak c then ([], 0)
    else
      let (word, count) := singleQuotedWord cs
      (c :: word, count + 1)

/-- A word in double quotes behind the rest of an escape, of as many characters as given, and how
many characters write both. It ends before an escaped line break. -/
def doubleQuotedWord : Nat → List Char → Option (List Char × Nat)
  | _, [] => some ([], 0)
  | escaped + 1, _ :: cs =>
    (doubleQuotedWord escaped cs).map fun (word, count) => (word, count + 1)
  | 0, c :: cs =>
    if c == '"' || isSpace c || isBreak c || c == '\\' && cs.head?.any isBreak then some ([], 0)
    else
      match if c == '\\' then escape? cs else some (c, 0) with
      | none => none
      | some (ch, escaped) =>
        (doubleQuotedWord escaped cs).map fun (word, count) => (ch :: word, count + 1)

def quotedWord (quote : Char) (cs : List Char) : Option (List Char × Nat) :=
  if quote == '"' then doubleQuotedWord 0 cs else some (singleQuotedWord cs)

def readQuotedFrom (quote : Char) : Nat → Cursor → Option (List Char × Cursor)
  | 0, _ => none
  | fuel + 1, c =>
    if c.atDocumentMarker || c.rest.isEmpty then none
    else
      match quotedWord quote c.rest with
      | none => none
      | some (word, count) =>
        let c := c.skip count
        if c.head? == some quote then some (word, c.skip 1)
        else
          match if c.head? == some '\\' then Gap.readEscaped fuel c else Gap.read 0 fuel c with
          | none => none
          | some (gap, c) =>
            (readQuotedFrom quote fuel c).map fun (content, c) => (word ++ gap.fold ++ content, c)

def readQuoted (quote : Char) (fuel : Nat) (c : Cursor) : Option (List Char × Cursor) :=
  readQuotedFrom quote fuel (c.skip 1)

inductive Chomping where
  | strip
  | clip
  | keep
deriving DecidableEq

structure BlockHeader where
  chomping : Chomping
  indent : Option Nat

def chomping? : Char → Option Chomping
  | '+' => some .keep
  | '-' => some .strip
  | _ => none

def indentDigit? (c : Char) : Option Nat :=
  if '1' ≤ c && c ≤ '9' then some (c.toNat - '0'.toNat) else none

/-- The header of a block behind its indicator, and how many characters write it: chomping and
indentation in either order, each at most once. -/
def readBlockHeader (cs : List Char) : BlockHeader × Nat :=
  match cs with
  | [] => (⟨.clip, none⟩, 0)
  | c :: rest =>
    match chomping? c, indentDigit? c with
    | some chomping, _ =>
      match rest.head?.bind indentDigit? with
      | some n => (⟨chomping, some n⟩, 2)
      | none => (⟨chomping, none⟩, 1)
    | none, some n =>
      match rest.head?.bind chomping? with
      | some chomping => (⟨chomping, some n⟩, 2)
      | none => (⟨.clip, some n⟩, 1)
    | none, none => (⟨.clip, none⟩, 0)

/-- Passes lines that hold spaces only, at most `fuel` of them: the greatest column that the spaces
reach, the line breaks, and the first line that holds more. With no indentation given all spaces
belong to it; a tab may not be part of it. -/
def readBlankLines (indent : Option Nat) : Nat → Cursor → Option (Nat × List Char × Cursor)
  | 0, c => some (c.column, [], c)
  | fuel + 1, c =>
    let spaces := (c.rest.takeWhile (· == ' ')).length
    let c :=
      match indent with
      | none => c.skip spaces
      | some n => c.skip (min spaces (n - c.column))
    if c.head? == some '\t' && indent.all (c.column < ·) then none
    else
      match c.readBreak? with
      | some (b, next) =>
        (readBlankLines indent fuel next).map fun (reach, breaks, next) =>
          (max c.column reach, b :: breaks, next)
      | none => some (c.column, [], c)

/-- How the text of a block goes on: the break at the end of the line before, the breaks of the
empty lines behind it, and whether that line starts with a blank. -/
structure BlockGap where
  lastBreak : List Char
  emptyLines : List Char
  startsBlank : Bool

namespace BlockGap

/-- What stands between two lines: in a folded block one line feed between lines that start with no
blank gives a space, or nothing if there are empty lines between them. -/
def fold (gap : BlockGap) (literal startsBlank : Bool) : List Char :=
  let joint :=
    if !literal && gap.lastBreak == ['\n'] && !gap.startsBlank && !startsBlank then
      if gap.emptyLines.isEmpty then [' '] else []
    else gap.lastBreak
  joint ++ gap.emptyLines

def chomp (gap : BlockGap) : Chomping → List Char
  | .strip => []
  | .clip => gap.lastBreak
  | .keep => gap.lastBreak ++ gap.emptyLines

end BlockGap

def readBlockLines (literal : Bool) (chomping : Chomping) (indent : Nat) :
    Nat → BlockGap → Cursor → Option (List Char × Cursor)
  | 0, gap, c => some (gap.chomp chomping, c)
  | fuel + 1, gap, c =>
    if c.column != indent || c.rest.isEmpty then some (gap.chomp chomping, c)
    else
      let line := c.rest.takeWhile fun ch => !isBreak ch
      let blank := line.head?.any isSpace
      let c := c.skip line.length
      let (lastBreak, c) :=
        match c.readBreak? with
        | some (ch, c) => ([ch], c)
        | none => ([], c)
      match readBlankLines (some indent) fuel c with
      | none => none
      | some (_, emptyLines, c) =>
        (readBlockLines literal chomping indent fuel ⟨lastBreak, emptyLines, blank⟩ c).map
          fun (content, c) => (gap.fold literal blank ++ line ++ content, c)

/-- Reads a block whose indicator stands here, in a collection at the given indentation, which is
-1 outside of all collections. -/
def readBlock (literal : Bool) (parent : Int) (fuel : Nat) (c : Cursor) :
    Option (List Char × Cursor) := do
  let (header, count) := readBlockHeader (c.rest.drop 1)
  let c ← (c.skip (count + 1)).skipLine?
  let given := header.indent.map fun n => if 0 ≤ parent then parent.toNat + n else n
  let (reach, breaks, c) ← readBlankLines given fuel c
  let indent := given.getD (max reach (max (parent + 1).toNat 1))
  readBlockLines literal header.chomping indent fuel ⟨[], breaks, false⟩ c

end Logicless.Yaml
