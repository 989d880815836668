import Logicless.Example

namespace Logicless

/-- What came of an example: the output of its template, or why it does not compile. -/
structure ExampleOutcome where
  name : String
  expected : String
  actual : Except CompileError String

namespace ExampleOutcome

def passed (o : ExampleOutcome) : Bool :=
  match o.actual with
  | .ok text => text == o.expected
  | .error _ => false

end ExampleOutcome

def Example.run (e : Example) : ExampleOutcome :=
  let actual := (Template.compile e.template).map fun template =>
    template.render e.partials.partials.resolve .default e.data
  ⟨e.name, e.expected, actual⟩

structure SuiteReport where
  outcomes : List ExampleOutcome

namespace SuiteReport

def ofExamples (examples : List Example) : SuiteReport :=
  ⟨examples.map Example.run⟩

def passed (r : SuiteReport) : Nat :=
  r.outcomes.countP (·.passed)

def failures (r : SuiteReport) : List ExampleOutcome :=
  r.outcomes.filter fun o => !o.passed

def failed (r : SuiteReport) : Nat :=
  r.outcomes.length - r.passed

def allPassed (r : SuiteReport) : Bool :=
  r.outcomes.all (·.passed)

end SuiteReport

end Logicless
