import Logicless.Dictionary
import Logicless.Template

namespace Logicless

/-- A template as a cache hands it out; the serial number tells one compilation from another. -/
structure CachedTemplate where
  template : Template
  serial : Nat
deriving DecidableEq

structure Cache where
  entries : Table CachedTemplate
  /-- How many templates the cache has compiled so far, those included that it has dropped. -/
  compiled : Nat
deriving DecidableEq

namespace Cache

def empty : Cache := ⟨.empty, 0⟩

def find? (c : Cache) (source : String) : Option CachedTemplate :=
  c.entries.find? source

def contains (c : Cache) (source : String) : Bool :=
  (c.find? source).isSome

def sources (c : Cache) : List String :=
  c.entries.keys

def size (c : Cache) : Nat :=
  c.entries.size

def isEmpty (c : Cache) : Bool :=
  c.entries.isEmpty

def add (c : Cache) (source : String) (template : Template) : Cache :=
  ⟨c.entries.insert source ⟨template, c.compiled⟩, c.compiled + 1⟩

/-- The template of a source, and the cache that holds it from now on. A source that does not
compile is not kept. -/
def getOrCompile (c : Cache) (source : String) : Except CompileError (CachedTemplate × Cache) :=
  match c.find? source with
  | some found => .ok (found, c)
  | none =>
    (Template.compile source).map fun template => (⟨template, c.compiled⟩, c.add source template)

def clear (c : Cache) : Cache :=
  { c with entries := .empty }

inductive Step where
  | get (source : String)
  | contains (source : String)
  | clear
deriving DecidableEq

inductive Answer where
  | got (result : Except CompileError CachedTemplate)
  | contained (found : Bool)
  | cleared

def step (c : Cache) : Step → Cache × Answer
  | .get source =>
    match c.getOrCompile source with
    | .ok (cached, c) => (c, .got (.ok cached))
    | .error e => (c, .got (.error e))
  | .contains source => (c, .contained (c.contains source))
  | .clear => (c.clear, .cleared)

def after (c : Cache) (steps : List Step) : Cache :=
  steps.foldl (fun c s => (c.step s).1) c

/-- The source was asked for, and the cache was not cleared since. -/
def Asked (steps : List Step) (source : String) : Prop :=
  ∃ before since, steps = before ++ .get source :: since ∧ .clear ∉ since

/-- The sources that a cache holds after steps: those asked for since it was last cleared, if they
compile. -/
def Kept (steps : List Step) (source : String) : Prop :=
  Asked steps source ∧ ∃ t, Template.compile source = .ok t

end Cache

end Logicless
