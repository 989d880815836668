import Logicless.Yaml.Node
import Logicless.Yaml.Plain

namespace Logicless.Yaml

/-- A node whose aliases are numbers of anchors. -/
inductive Linked where
  | reference (number : Nat)
  | scalar (tag : Option Tag) (content : String) (plain : Bool)
  | sequence (tag : Option Tag) (items : List Linked)
  | mapping (tag : Option Tag) (entries : List (Linked × Linked))

structure Anchors where
  numbers : List (String × Nat)
  passed : Nat
  nodes : List (Nat × Nat × Linked)

namespace Anchors

def empty : Anchors := ⟨[], 0, []⟩

/-- Gives a name the number of names known before; returns the place and the number. -/
def enter (a : Anchors) (name : String) : (Nat × Nat) × Anchors :=
  let number := a.numbers.length
  let numbers := (name, number) :: a.numbers.filter fun n => n.1 != name
  ((a.passed, number), { a with numbers, passed := a.passed + 1 })

def record (a : Anchors) (place : Option (Nat × Nat)) (node : Linked) : Anchors :=
  match place with
  | some (place, number) => { a with nodes := (place, number, node) :: a.nodes }
  | none => a

def enter? (a : Anchors) (name : Option String) : Option (Nat × Nat) × Anchors :=
  match name with
  | some name =>
    let (place, a) := a.enter name
    (some place, a)
  | none => (none, a)

def node? (a : Anchors) (number : Nat) : Option Linked :=
  let last := a.nodes.foldl
    (fun best (place, n, node) =>
      if n == number && best.all (fun b => b.1 < place) then some (place, node) else best)
    (none : Option (Nat × Linked))
  last.map Prod.snd

end Anchors

mutual

def Node.link? (a : Anchors) : Node → Option (Linked × Anchors)
  | .reference name => (a.numbers.lookup name).map fun number => (.reference number, a)
  | .scalar p content plain =>
    let (place, a) := a.enter? p.anchor
    let node := Linked.scalar p.tag content plain
    some (node, a.record place node)
  | .sequence p items =>
    let (place, a) := a.enter? p.anchor
    match Node.linkItems? a items with
    | none => none
    | some (items, a) => some (.sequence p.tag items, a.record place (.sequence p.tag items))
  | .mapping p entries =>
    let (place, a) := a.enter? p.anchor
    match Node.linkEntries? a entries with
    | none => none
    | some (entries, a) => some (.mapping p.tag entries, a.record place (.mapping p.tag entries))

def Node.linkItems? (a : Anchors) : List Node → Option (List Linked × Anchors)
  | [] => some ([], a)
  | n :: ns =>
    match Node.link? a n with
    | none => none
    | some (n, a) => (Node.linkItems? a ns).map fun (ns, a) => (n :: ns, a)

def Node.linkEntries? (a : Anchors) :
    List (Node × Node) → Option (List (Linked × Linked) × Anchors)
  | [] => some ([], a)
  | (k, v) :: es =>
    match Node.link? a k with
    | none => none
    | some (k, a) =>
      match Node.link? a v with
      | none => none
      | some (v, a) => (Node.linkEntries? a es).map fun (es, a) => ((k, v) :: es, a)

end

mutual

def Linked.size : Linked → Nat
  | .reference _ => 1
  | .scalar _ _ _ => 1
  | .sequence _ items => 2 + Linked.sizeItems items
  | .mapping _ entries => 2 + Linked.sizeEntries entries

def Linked.sizeItems : List Linked → Nat
  | [] => 0
  | n :: ns => n.size + Linked.sizeItems ns

def Linked.sizeEntries : List (Linked × Linked) → Nat
  | [] => 0
  | (k, v) :: es => k.size + v.size + Linked.sizeEntries es

end

/-- A reading that may fail, with the number of aliases that may still be followed. -/
abbrev Reading := StateT Nat Option

structure Source where
  anchors : Anchors
  repeats : Bool

def follow (src : Source) : Linked → Reading Linked
  | .reference number => do
    match ← get with
    | 0 => failure
    | left + 1 =>
      set left
      src.anchors.node? number
  | node => return node

/-- A collection with a custom tag keeps the tag; all other tags of collections are passed over. -/
def withTag (tag : Option Tag) (content : Yaml) : Yaml :=
  match tag with
  | some (.custom name) => .tagged name content
  | _ => content

def readEntries (src : Source) (read : Linked → Reading Yaml) :
    List (Yaml × Yaml) → List (Linked × Linked) → Reading (List (Yaml × Yaml))
  | before, [] => return before.reverse
  | before, (k, v) :: es => do
    let key ← read k
    if !src.repeats && before.any (fun e => e.1.equal key) then failure
    let value ← read v
    readEntries src read ((key, value) :: before) es

def readLinked (src : Source) : Nat → Linked → Reading Yaml
  | 0, node => do
    match ← follow src node with
    | .scalar tag content plain => ofScalar? tag content plain
    | _ => failure
  | depth + 1, node => do
    match ← follow src node with
    | .scalar tag content plain => ofScalar? tag content plain
    | .sequence tag items => return withTag tag (.sequence (← items.mapM (readLinked src depth)))
    | .mapping tag entries =>
      return withTag tag (.mapping (← readEntries src (readLinked src depth) [] entries))
    | .reference _ => failure

/-- The document of a text, in which keys may occur twice or not. Aliases may be followed a hundred
times for each node of the text. -/
def parseWith? (repeats : Bool) (text : String) : Option Yaml := do
  let tokens ← Token.scan? text
  match ← Node.ofTokens? tokens with
  | none => return .null
  | some node =>
    let (linked, anchors) ← node.link? .empty
    let (yaml, _) ← (readLinked ⟨anchors, repeats⟩ maxDepth linked).run (linked.size * 100)
    return yaml

def parse? (text : String) : Option Yaml :=
  parseWith? false text

end Logicless.Yaml
