import Logicless.Yaml.Token

namespace Logicless.Yaml

structure Properties where
  anchor : Option String
  tag : Option Tag

def Properties.none : Properties := ⟨.none, .none⟩

inductive Node where
  | reference (name : String)
  | scalar (properties : Properties) (content : String) (plain : Bool)
  | sequence (properties : Properties) (items : List Node)
  | mapping (properties : Properties) (entries : List (Node × Node))

abbrev TagHandles := List (String × List UInt8)

def TagHandles.default : TagHandles :=
  [("!", asciiBytes "!"), ("!!", asciiBytes "tag:yaml.org,2002:")]

namespace Node

def emptyScalar : Node :=
  scalar .none "" true

/-- A reader of nodes: collections in block style may be allowed or not, and so may sequences whose
entries are not indented. -/
abbrev Reader := Bool → Bool → List Token → Option (Node × List Token)

def resolveTag? (handles : TagHandles) (handle : String) (suffix : List UInt8) :
    Option (List UInt8) :=
  if handle.isEmpty then some suffix
  else (handles.lookup handle).map (· ++ suffix)

def readProperties (handles : TagHandles) :
    List Token → Option (Properties × Bool × List Token)
  | .anchor name :: .tag handle suffix :: ts
  | .tag handle suffix :: .anchor name :: ts =>
    (resolveTag? handles handle suffix).map fun tag => (⟨some name, Tag.ofBytes? tag⟩, true, ts)
  | .anchor name :: ts => some (⟨some name, none⟩, true, ts)
  | .tag handle suffix :: ts =>
    (resolveTag? handles handle suffix).map fun tag => (⟨none, Tag.ofBytes? tag⟩, true, ts)
  | ts => some (.none, false, ts)

def readOrEmpty (read : Reader) (block indentless : Bool) (ends : Token → Bool)
    (ts : List Token) : Option (Node × List Token) :=
  match ts with
  | [] => some (emptyScalar, ts)
  | t :: _ => if ends t then some (emptyScalar, ts) else read block indentless ts

def readBlockSequence (read : Reader) : Nat → List Token → Option (List Node × List Token)
  | fuel + 1, .blockEntry :: ts => do
    let ends (t : Token) := t == .blockEntry || t == .blockEnd
    let (item, ts) ← readOrEmpty read true false ends ts
    let (items, ts) ← readBlockSequence read fuel ts
    return (item :: items, ts)
  | _, .blockEnd :: ts => some ([], ts)
  | _, _ => none

def readIndentless (read : Reader) : Nat → List Token → Option (List Node × List Token)
  | fuel + 1, .blockEntry :: ts => do
    let ends (t : Token) := t == .blockEntry || t == .key || t == .value || t == .blockEnd
    let (item, ts) ← readOrEmpty read true false ends ts
    let (items, ts) ← readIndentless read fuel ts
    return (item :: items, ts)
  | _, ts => some ([], ts)

def endsBlockPart (t : Token) : Bool :=
  t == .key || t == .value || t == .blockEnd

def readBlockValue (read : Reader) : List Token → Option (Node × List Token)
  | .value :: ts => readOrEmpty read true true endsBlockPart ts
  | ts => some (emptyScalar, ts)

def readBlockMapping (read : Reader) :
    Nat → List Token → Option (List (Node × Node) × List Token)
  | fuel + 1, .key :: ts => do
    let (key, ts) ← readOrEmpty read true true endsBlockPart ts
    let (value, ts) ← readBlockValue read ts
    let (entries, ts) ← readBlockMapping read fuel ts
    return ((key, value) :: entries, ts)
  | _, .blockEnd :: ts => some ([], ts)
  | _, _ => none

def endsFlowItem (t : Token) : Bool :=
  t == .flowEntry || t == .flowSequenceEnd

def endsFlowPart (t : Token) : Bool :=
  t == .flowEntry || t == .flowMappingEnd

def readPairValue (read : Reader) : List Token → Option (Node × List Token)
  | .value :: ts => readOrEmpty read false false endsFlowItem ts
  | ts => some (emptyScalar, ts)

/-- A single pair in a flow sequence, behind its key indicator. A key that is left out takes the
next token with it. -/
def readPair (read : Reader) (ts : List Token) : Option (Node × List Token) := do
  let ends (t : Token) := t == .value || endsFlowItem t
  let (key, ts) ←
    match ts with
    | [] => none
    | t :: rest => if ends t then some (emptyScalar, rest) else read false false ts
  let (value, ts) ← readPairValue read ts
  return (mapping .none [(key, value)], ts)

def readFlowItem (read : Reader) : List Token → Option (Node × List Token)
  | .key :: ts => readPair read ts
  | ts => read false false ts

def readFlowSequence (read : Reader) : Nat → List Token → Option (List Node × List Token)
  | _, .flowSequenceEnd :: ts => some ([], ts)
  | 0, _ => none
  | fuel + 1, ts => do
    let (item, ts) ← readFlowItem read ts
    match ts with
    | .flowEntry :: ts =>
      let (items, ts) ← readFlowSequence read fuel ts
      return (item :: items, ts)
    | .flowSequenceEnd :: ts => return ([item], ts)
    | _ => none

def readFlowValue (read : Reader) : List Token → Option (Node × List Token)
  | .value :: ts => readOrEmpty read false false endsFlowPart ts
  | ts => some (emptyScalar, ts)

def readFlowPair (read : Reader) : List Token → Option ((Node × Node) × List Token)
  | .key :: ts => do
    let ends (t : Token) := t == .value || endsFlowPart t
    let (key, ts) ← readOrEmpty read false false ends ts
    let (value, ts) ← readFlowValue read ts
    return ((key, value), ts)
  | ts => do
    let (key, ts) ← read false false ts
    return ((key, emptyScalar), ts)

def readFlowMapping (read : Reader) :
    Nat → List Token → Option (List (Node × Node) × List Token)
  | _, .flowMappingEnd :: ts => some ([], ts)
  | 0, _ => none
  | fuel + 1, ts => do
    let (entry, ts) ← readFlowPair read ts
    match ts with
    | .flowEntry :: ts =>
      let (entries, ts) ← readFlowMapping read fuel ts
      return (entry :: entries, ts)
    | .flowMappingEnd :: ts => return ([entry], ts)
    | _ => none

def readCollection? (read : Reader) (fuel : Nat) (block indentless : Bool) (p : Properties) :
    List Token → Option (Option (Node × List Token))
  | .blockEntry :: ts =>
    if indentless then
      some ((readIndentless read fuel (.blockEntry :: ts)).map fun (items, ts) =>
        (sequence p items, ts))
    else none
  | .flowSequenceStart :: ts =>
    some ((readFlowSequence read fuel ts).map fun (items, ts) => (sequence p items, ts))
  | .flowMappingStart :: ts =>
    some ((readFlowMapping read fuel ts).map fun (entries, ts) => (mapping p entries, ts))
  | .blockSequenceStart :: ts =>
    if block then
      some ((readBlockSequence read fuel ts).map fun (items, ts) => (sequence p items, ts))
    else none
  | .blockMappingStart :: ts =>
    if block then
      some ((readBlockMapping read fuel ts).map fun (entries, ts) => (mapping p entries, ts))
    else none
  | _ => none

/-- Reads a node whose collections nest at most as deep as given and have at most `fuel` items.
Properties without a node are those of an empty one. -/
def read (handles : TagHandles) (fuel : Nat) : Nat → Reader
  | depth, block, indentless, ts =>
    match ts with
    | .reference name :: ts => some (reference name, ts)
    | ts => do
      let (p, any, ts) ← readProperties handles ts
      let collection :=
        match depth with
        | 0 => readCollection? (fun _ _ _ => none) 0 block indentless p ts |>.map fun _ => none
        | depth + 1 => readCollection? (read handles fuel depth) fuel block indentless p ts
      match collection, ts with
      | some node, _ => node
      | none, .scalar content plain :: ts => return (scalar p content plain, ts)
      | none, ts => if any then return (scalar p "" true, ts) else none

end Node

structure Directives where
  version : Bool
  handles : TagHandles

/-- The directives of a document: at most one version, which is 1.1 or 1.2, and at most one tag for
each handle. -/
def readDirectives : Directives → List Token → Option (Directives × List Token)
  | d, .versionDirective major minor :: ts =>
    if d.version || major != 1 || minor != 1 && minor != 2 then none
    else readDirectives { d with version := true } ts
  | d, .tagDirective handle start :: ts =>
    if (d.handles.lookup handle).isSome then none
    else readDirectives { d with handles := d.handles ++ [(handle, start)] } ts
  | d, ts => some (d, ts)

def startsDocument : Token → Bool
  | .versionDirective _ _ | .tagDirective _ _ | .documentStart => true
  | _ => false

def maxDepth : Nat := 128

def Node.ofTokens? (ts : List Token) : Option (Option Node) := do
  let fuel := ts.length
  match ts with
  | [] => return none
  | t :: _ =>
    let (node, ts) ←
      if startsDocument t then do
        let (d, ts) ← readDirectives ⟨false, []⟩ ts
        match ts with
        | .documentStart :: ts =>
          let handles := d.handles ++ TagHandles.default
          let ends (t : Token) := startsDocument t || t == .documentEnd
          Node.readOrEmpty (Node.read handles fuel maxDepth) true false ends ts
        | _ => none
      else Node.read TagHandles.default fuel maxDepth true false ts
    if ts.all (· == .documentEnd) then return some node else none

end Logicless.Yaml
