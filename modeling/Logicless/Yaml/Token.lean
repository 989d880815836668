import Logicless.Yaml.Tag

namespace Logicless.Yaml

inductive Token where
  | versionDirective (major minor : Nat)
  | tagDirective (handle : String) (start : List UInt8)
  | documentStart
  | documentEnd
  | blockSequenceStart
  | blockMappingStart
  | blockEnd
  | flowSequenceStart
  | flowSequenceEnd
  | flowMappingStart
  | flowMappingEnd
  | blockEntry
  | flowEntry
  | key
  | value
  | reference (name : String)
  | anchor (name : String)
  | tag (handle : String) (suffix : List UInt8)
  | scalar (content : String) (plain : Bool)
deriving DecidableEq

def readAnchor (c : Cursor) : Option (String × Cursor) :=
  let c := c.skip 1
  let name := c.rest.takeWhile isWordChar
  let c := c.skip name.length
  let ended :=
    atGap c.rest || c.head?.any fun ch =>
      ch == '?' || ch == ':' || ch == ',' || ch == ']' || ch == '\x7d' || ch == '%' ||
        ch == '@' || ch == '\x60'
  if name.isEmpty || !ended then none else some (String.ofList name, c)

def readTag (inFlow : Bool) (c : Cursor) : Option (Token × Cursor) := do
  let (handle, suffix, c) ← readTagParts c
  if atGap c.rest || inFlow && c.head? == some ',' then return (.tag handle suffix, c) else none

def readVersionNumber (c : Cursor) : Option (Nat × Cursor) :=
  let digits := c.rest.takeWhile Char.isDigit
  if digits.isEmpty || 9 < digits.length then none
  else some (digits.foldl (fun n d => n * 10 + (d.toNat - '0'.toNat)) 0, c.skip digits.length)

def readVersion (c : Cursor) : Option (Token × Cursor) := do
  let (major, c) ← readVersionNumber c
  if c.head? != some '.' then none
  let (minor, c) ← readVersionNumber (c.skip 1)
  return (.versionDirective major minor, c)

def directiveHandle? (cs : List Char) : Option (List Char) :=
  match namedHandle? cs with
  | some handle => some handle
  | none =>
    match cs with
    | '!' :: rest => if rest.head?.any isWordChar then none else some ['!']
    | _ => none

def readTagDirective (c : Cursor) : Option (Token × Cursor) := do
  let handle ← directiveHandle? c.rest
  let c := c.skip handle.length
  if !c.head?.any isSpace then none
  let (uri, c) ← readUri? true c.skipSpaces
  if atGap c.rest then return (.tagDirective (String.ofList handle) uri, c) else none

def readDirective (c : Cursor) : Option (Token × Cursor) := do
  let c := c.skip 1
  let name := c.rest.takeWhile isWordChar
  let c := c.skip name.length
  if !atGap c.rest then none
  let c := c.skipSpaces
  let (token, c) ←
    if name == ['Y', 'A', 'M', 'L'] then readVersion c
    else if name == ['T', 'A', 'G'] then readTagDirective c
    else none
  return (token, ← c.skipLine?)

/-- A place where a mapping key may have started. -/
structure KeyCandidate where
  required : Bool
  position : Nat
  cursor : Cursor

structure Scan where
  cursor : Cursor
  tokens : List Token
  count : Nat
  /-- The column of the innermost block collection, which is -1 outside of all. -/
  indent : Int
  outerIndents : List Int
  candidate : Option KeyCandidate
  outerCandidates : List (Option KeyCandidate)
  keyAllowed : Bool

namespace Scan

def ofText (cs : List Char) : Scan :=
  ⟨.ofText cs, [], 0, -1, [], none, [], true⟩

def inFlow (s : Scan) : Bool :=
  !s.outerCandidates.isEmpty

def emit (s : Scan) (t : Token) : Scan :=
  { s with tokens := t :: s.tokens, count := s.count + 1 }

def emitAt (s : Scan) (position : Nat) (t : Token) : Scan :=
  let behind := s.count - position
  { s with
    tokens := s.tokens.take behind ++ t :: s.tokens.drop behind
    count := s.count + 1 }

def dropCandidate (s : Scan) : Option Scan :=
  if s.candidate.any (·.required) then none else some { s with candidate := none }

def saveCandidate (s : Scan) : Option Scan :=
  if s.keyAllowed then do
    let required := !s.inFlow && s.indent == s.cursor.column
    let s ← s.dropCandidate
    return { s with candidate := some ⟨required, s.count, s.cursor⟩ }
  else some s

/-- A key stands on one line and has at most 1024 bytes before its colon. -/
def expired (now : Cursor) (k : KeyCandidate) : Bool :=
  k.cursor.line < now.line || k.cursor.index + 1024 < now.index

/-- Gives up the candidate if it is too far back. Those around open flow collections are looked at
when their turn comes, for a place that is too far back stays so. -/
def dropExpired (s : Scan) : Option Scan :=
  if s.candidate.any (expired s.cursor) then s.dropCandidate else some s

def indentTo (s : Scan) (column position : Nat) (t : Token) : Scan :=
  if !s.inFlow && s.indent < column then
    { s.emitAt position t with indent := column, outerIndents := s.indent :: s.outerIndents }
  else s

def closeBlocks (column indent : Int) : List Int → Int × List Int × Nat
  | [] => (indent, [], 0)
  | i :: outer =>
    if column < indent then
      let (indent, outer, closed) := closeBlocks column i outer
      (indent, outer, closed + 1)
    else (indent, i :: outer, 0)

def dedentTo (s : Scan) (column : Int) : Scan :=
  if s.inFlow then s
  else
    let (indent, outerIndents, closed) := closeBlocks column s.indent s.outerIndents
    { s with
      indent, outerIndents
      tokens := List.replicate closed .blockEnd ++ s.tokens
      count := s.count + closed }

/-- Moves to the next token over spaces, comments and line breaks, of which at most `fuel` are
passed. A tab may not stand where a key may start outside of flow collections. A byte order mark at
the start of a line is passed too, and takes up a column. -/
def toNextToken : Nat → Scan → Scan
  | 0, s => s
  | fuel + 1, s =>
    let c := if s.cursor.column == 0 && s.cursor.head? == some '\ufeff' then s.cursor.skip 1
      else s.cursor
    let tabs := s.inFlow || !s.keyAllowed
    let c := (c.skipWhile fun ch => ch == ' ' || tabs && ch == '\t').skipComment
    match c.readBreak? with
    | some (_, c) =>
      toNextToken fuel { s with cursor := c, keyAllowed := s.keyAllowed || !s.inFlow }
    | none => { s with cursor := c }

def indicator (s : Scan) (t : Token) (count : Nat) : Scan :=
  { s.emit t with cursor := s.cursor.skip count }

def endDocument (s : Scan) : Option Scan := do
  let s ← (s.dedentTo (-1)).dropCandidate
  return { s with keyAllowed := false }

def flowStart (s : Scan) (t : Token) : Option Scan := do
  let s ← s.saveCandidate
  return { s.indicator t 1 with
    candidate := none, outerCandidates := s.candidate :: s.outerCandidates, keyAllowed := true }

def flowEnd (s : Scan) (t : Token) : Option Scan := do
  let s ← s.dropCandidate
  let s := { s.indicator t 1 with keyAllowed := false }
  match s.outerCandidates with
  | k :: outer => return { s with candidate := k, outerCandidates := outer }
  | [] => return s

def flowEntry (s : Scan) : Option Scan := do
  let s ← s.dropCandidate
  return { s.indicator .flowEntry 1 with keyAllowed := true }

def blockFor (s : Scan) (t : Token) : Option Scan :=
  if s.inFlow then some s
  else if s.keyAllowed then some (s.indentTo s.cursor.column s.count t)
  else none

def blockEntry (s : Scan) : Option Scan := do
  let s ← (← s.blockFor .blockSequenceStart).dropCandidate
  return { s.indicator .blockEntry 1 with keyAllowed := true }

def explicitKey (s : Scan) : Option Scan := do
  let s ← (← s.blockFor .blockMappingStart).dropCandidate
  return { s.indicator .key 1 with keyAllowed := !s.inFlow }

/-- A colon makes the candidate a key; without a candidate it belongs to a key with an indicator,
or to an empty one. -/
def valueIndicator (s : Scan) : Option Scan :=
  match s.candidate with
  | some k =>
    let s := (s.emitAt k.position .key).indentTo k.cursor.column k.position .blockMappingStart
    some { s.indicator .value 1 with candidate := none, keyAllowed := false }
  | none => do
    let s ← s.blockFor .blockMappingStart
    return { s.indicator .value 1 with keyAllowed := !s.inFlow }

def keyPart (s : Scan) (read : Cursor → Option (Token × Cursor)) : Option Scan := do
  let s ← s.saveCandidate
  let (t, cursor) ← read s.cursor
  return { s.emit t with cursor, keyAllowed := false }

def plainScalar (s : Scan) (fuel : Nat) : Option Scan := do
  let s ← s.saveCandidate
  let p ← readPlain s.inFlow (s.indent + 1).toNat fuel s.cursor
  return { s.emit (.scalar (String.ofList p.content) true) with
    cursor := p.cursor, keyAllowed := p.endsLine }

def quotedScalar (s : Scan) (quote : Char) (fuel : Nat) : Option Scan :=
  s.keyPart fun c =>
    (readQuoted quote fuel c).map fun (cs, c) => (.scalar (String.ofList cs) false, c)

def blockScalar (s : Scan) (literal : Bool) (fuel : Nat) : Option Scan := do
  let s ← s.dropCandidate
  let (content, cursor) ← readBlock literal s.indent fuel s.cursor
  return { s.emit (.scalar (String.ofList content) false) with cursor, keyAllowed := true }

/-- Characters that no plain scalar starts with; three of them may start one outside of flow
collections, or before a character that is no gap. -/
def indicators : List Char :=
  ['-', '?', ':', ',', '[', ']', '\x7b', '\x7d', '#', '&', '*', '!', '|', '>', '\'', '"', '%', '@',
    '\x60']

def startsPlain (inFlow : Bool) (c : Char) (cs : List Char) : Bool :=
  !isSpace c && !indicators.contains c || c == '-' && !cs.head?.any isSpace ||
    !inFlow && (c == '?' || c == ':') && !atGap cs

def readToken (s : Scan) (fuel : Nat) (c : Char) (cs : List Char) : Option Scan :=
  if s.cursor.column == 0 && c == '%' then do
    let s ← s.endDocument
    let (t, cursor) ← readDirective s.cursor
    return { s.emit t with cursor }
  else if s.cursor.atMarker '-' then
    s.endDocument.map (·.indicator .documentStart 3)
  else if s.cursor.atMarker '.' then
    s.endDocument.map (·.indicator .documentEnd 3)
  else if c == '[' then s.flowStart .flowSequenceStart
  else if c == '\x7b' then s.flowStart .flowMappingStart
  else if c == ']' then s.flowEnd .flowSequenceEnd
  else if c == '\x7d' then s.flowEnd .flowMappingEnd
  else if c == ',' then s.flowEntry
  else if c == '-' && atGap cs then s.blockEntry
  else if c == '?' && (s.inFlow || atGap cs) then s.explicitKey
  else if c == ':' && (s.inFlow || atGap cs) then s.valueIndicator
  else if c == '*' then
    s.keyPart fun c => (readAnchor c).map fun (name, c) => (.reference name, c)
  else if c == '&' then
    s.keyPart fun c => (readAnchor c).map fun (name, c) => (.anchor name, c)
  else if c == '!' then s.keyPart (readTag s.inFlow)
  else if c == '|' && !s.inFlow then s.blockScalar true fuel
  else if c == '>' && !s.inFlow then s.blockScalar false fuel
  else if c == '\'' || c == '"' then s.quotedScalar c fuel
  else if startsPlain s.inFlow c cs then s.plainScalar fuel
  else none

/-- Reads at most `fuel` tokens, up to the end of the text. More fuel than characters are left is
enough, for each token takes up at least one of them. -/
def run : Nat → Scan → Option (List Token)
  | 0, _ => none
  | fuel + 1, s => do
    let s ← (toNextToken (fuel + 1) s).dropExpired
    let s := s.dedentTo s.cursor.column
    match s.cursor.rest with
    | [] =>
      let s ← s.endDocument
      return s.tokens.reverse
    | c :: cs =>
      let s ← s.readToken (fuel + 1) c cs
      run fuel s

end Scan

def Token.scan? (text : String) : Option (List Token) :=
  let cs := text.toList
  if cs.all isAllowed then (Scan.ofText cs).run (cs.length + 1) else none

end Logicless.Yaml
