import Logicless.Preset
import Logicless.TemplateError

namespace Logicless

/-- What the caller of a step gets. -/
inductive Workshop.Outcome where
  | done
  | unknown
  | rendered (result : Except TemplateError String)
  | displayed (text : String)

/-- A source that does not compile reaches the caller as an error of templates. -/
def Workshop.Answer.outcome : Answer → Outcome
  | done => .done
  | unknown => .unknown
  | rendered result => .rendered (result.mapError .compile)
  | displayed text => .displayed text

def Workshop.Step.setsUp (name : String) : Step → Bool
  | create n | copy n _ | setTemplate n _ | setData n _ | setPartials n _ | setOptions n _ =>
    n == name
  | attach _ _ | clearCache _ | render _ _ _ | display _ => false

/-- A preset apart from its cache. -/
structure Preset.Settings where
  template : Option String
  data : Value
  partials : Resolver
  options : RenderOptions

def Preset.settings (p : Preset) : Settings :=
  ⟨p.template, p.data, p.partials, p.options⟩

namespace Preset.Settings

open Workshop

def initial : Settings :=
  ⟨none, .empty, .none, .default⟩

def render (s : Settings) (template : Option String) (data : Option Value) :
    Except TemplateError String :=
  match template.or s.template with
  | none => .ok ""
  | some source =>
    match Template.compile source with
    | .error e => .error (.compile e)
    | .ok t => .ok (t.render s.partials s.options (data.getD s.data))

def display (s : Settings) : String :=
  match s.render none none with
  | .ok text => text
  | .error _ => ""

def change (d : Table Settings) (name : String) (f : Settings → Settings) :
    Table Settings :=
  match d.find? name with
  | some s => d.insert name (f s)
  | none => d

def step (d : Table Settings) : Step → Table Settings
  | .create name => d.insert name initial
  | .copy name other =>
    match d.find? other with
    | some s => d.insert name s
    | none => d
  | .setTemplate name source => change d name fun s => { s with template := some source }
  | .setData name data => change d name fun s => { s with data }
  | .setPartials name partials => change d name fun s => { s with partials }
  | .setOptions name options => change d name fun s => { s with options }
  | .attach _ _ | .clearCache _ | .render _ _ _ | .display _ => d

def ask (d : Table Settings) (name : String) (f : Settings → Outcome) : Outcome :=
  ((d.find? name).map f).getD .unknown

/-- What the caller of a step gets, given the settings before it. -/
def outcome (d : Table Settings) : Step → Outcome
  | .create _ => .done
  | .copy _ name | .setTemplate name _ | .setData name _ | .setPartials name _
  | .setOptions name _ | .clearCache name => ask d name fun _ => .done
  | .attach name other => ask d other fun _ => ask d name fun _ => .done
  | .render name template data => ask d name fun s => .rendered (s.render template data)
  | .display name => ask d name fun s => .displayed s.display

def outcomes (d : Table Settings) : List Step → List Outcome
  | [] => []
  | s :: steps => outcome d s :: outcomes (step d s) steps

end Preset.Settings

end Logicless
