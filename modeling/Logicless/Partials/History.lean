import Logicless.Partials

namespace Logicless.Partials

inductive Step where
  | insertSource (name source : String)
  | insert (name : String) (template : Template)
  | share (name other : String)
  | contains (name : String)
  | resolve (name : String)
  | render (template : Template) (options : RenderOptions) (data : Value)

inductive Answer where
  | inserted (result : Except CompileError Unit)
  | shared (found : Bool)
  | contained (found : Bool)
  | resolved (found : Option Template)
  | rendered (text : String)

def step (ps : Partials) : Step → Partials × Answer
  | .insertSource name source =>
    match ps.insertSource name source with
    | .ok ps => (ps, .inserted (.ok ()))
    | .error e => (ps, .inserted (.error e))
  | .insert name template => (ps.insert name template, .inserted (.ok ()))
  | .share name other =>
    match ps.resolve other with
    | some template => (ps.insert name template, .shared true)
    | none => (ps, .shared false)
  | .contains name => (ps, .contained (ps.contains name))
  | .resolve name => (ps, .resolved (ps.resolve name))
  | .render template options data => (ps, .rendered (template.render ps.resolve options data))

def after (ps : Partials) (steps : List Step) : Partials :=
  steps.foldl (fun ps s => (ps.step s).1) ps

abbrev Bindings := List (String × Template)

/-- The binding that a step makes behind others, if it succeeds in making one. -/
def Step.binding? (earlier : Bindings) : Step → Option (String × Template)
  | .insertSource name source =>
    match Template.compile source with
    | .ok template => some (name, template)
    | .error _ => none
  | .insert name template => some (name, template)
  | .share name other => (earlier.lookup other).map fun template => (name, template)
  | .contains _ | .resolve _ | .render _ _ _ => none

def bindingsOf (steps : List Step) : Bindings :=
  steps.foldl (fun earlier s => (s.binding? earlier).toList ++ earlier) []

/-- What a name was bound to last. -/
def bound? (steps : List Step) : Resolver :=
  fun name => (bindingsOf steps).lookup name

/-- One of the later steps binds the name. -/
def Rebound (steps later : List Step) (name : String) : Prop :=
  ∃ before s since t, later = before ++ s :: since ∧
    s.binding? (bindingsOf (steps ++ before)) = some (name, t)

end Logicless.Partials
