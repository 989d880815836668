import Logicless.Render

namespace Logicless

structure Partials where
  bindings : Table Template

namespace Partials

def empty : Partials := ⟨.empty⟩

def resolve (ps : Partials) : Resolver :=
  fun name => ps.bindings.find? name

def contains (ps : Partials) (name : String) : Bool :=
  ps.bindings.contains name

/-- The names in increasing order. They need no sorting, since the table keeps them in order. -/
def names (ps : Partials) : List String :=
  ps.bindings.keys

def size (ps : Partials) : Nat :=
  ps.bindings.size

def isEmpty (ps : Partials) : Bool :=
  ps.bindings.isEmpty

def insert (ps : Partials) (name : String) (template : Template) : Partials :=
  ⟨ps.bindings.insert name template⟩

/-- Compiles a source and binds it to a name; a source that does not compile binds nothing. -/
def insertSource (ps : Partials) (name source : String) : Except CompileError Partials :=
  (Template.compile source).map fun template => ps.insert name template

def ofSources (sources : List (String × String)) : Except CompileError Partials :=
  sources.foldlM (fun ps (name, source) => ps.insertSource name source) empty

end Partials

end Logicless
