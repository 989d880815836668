import Logicless.Cache
import Logicless.Partials

namespace Logicless

structure Preset where
  template : Option String
  data : Value
  partials : Resolver
  options : RenderOptions
  cache : Nat

namespace Preset

def blank (cache : Nat) : Preset :=
  ⟨none, .empty, .none, .default, cache⟩

def source? (p : Preset) (override : Option String) : Option String :=
  override.or p.template

def text (p : Preset) (template : Template) (data : Option Value) : String :=
  template.render p.partials p.options (data.getD p.data)

/-- Renders with a cache at hand. Without any template the text is empty. -/
def render (p : Preset) (c : Cache) (template : Option String) (data : Option Value) :
    Except CompileError (String × Cache) :=
  match p.source? template with
  | none => .ok ("", c)
  | some source => (c.getOrCompile source).map fun (cached, c) => (p.text cached.template data, c)

/-- The text of the preset as it is, which is empty if its template does not compile. -/
def display (p : Preset) (c : Cache) : String × Cache :=
  match p.render c none none with
  | .ok shown => shown
  | .error _ => ("", c)

def optionText : Option String → String
  | none => "None"
  | some s => "Some(" ++ Text.quoted s ++ ")"

/-- The diagnostic text of a preset shows neither its partials nor its cache. -/
def diagnostic (p : Preset) : String :=
  "Mustache \x7b template: " ++ optionText p.template ++ ", data: " ++ p.data.diagnostic ++
    ", options: RenderOptions \x7b max_partial_depth: " ++ toString p.options.maxPartialDepth ++
    " \x7d, .. \x7d"

end Preset

/-- Presets under their names, and the caches that they are attached to by number. -/
structure Workshop where
  presets : Table Preset
  caches : List Cache

inductive Workshop.Step where
  | create (name : String)
  /-- A copy of another preset, attached to the same cache. -/
  | copy (name other : String)
  | setTemplate (name source : String)
  | setData (name : String) (data : Value)
  | setPartials (name : String) (partials : Resolver)
  | setOptions (name : String) (options : RenderOptions)
  | attach (name other : String)
  | clearCache (name : String)
  | render (name : String) (template : Option String) (data : Option Value)
  | display (name : String)

inductive Workshop.Answer where
  | done
  | unknown
  | rendered (result : Except CompileError String)
  | displayed (text : String)

namespace Workshop

def empty : Workshop := ⟨.empty, []⟩

def preset? (w : Workshop) (name : String) : Option Preset :=
  w.presets.find? name

def put (w : Workshop) (name : String) (p : Preset) : Workshop :=
  { w with presets := w.presets.insert name p }

def cache (w : Workshop) (number : Nat) : Cache :=
  (w.caches[number]?).getD .empty

def setCache (w : Workshop) (number : Nat) (c : Cache) : Workshop :=
  { w with caches := w.caches.set number c }

def change (w : Workshop) (name : String) (f : Preset → Preset) : Workshop × Answer :=
  match w.preset? name with
  | some p => (w.put name (f p), .done)
  | none => (w, .unknown)

def step (w : Workshop) : Step → Workshop × Answer
  | .create name =>
    (⟨w.presets.insert name (.blank w.caches.length), w.caches ++ [.empty]⟩, .done)
  | .copy name other =>
    match w.preset? other with
    | some p => (w.put name p, .done)
    | none => (w, .unknown)
  | .setTemplate name source => w.change name fun p => { p with template := some source }
  | .setData name data => w.change name fun p => { p with data }
  | .setPartials name partials => w.change name fun p => { p with partials }
  | .setOptions name options => w.change name fun p => { p with options }
  | .attach name other =>
    match w.preset? other with
    | some q => w.change name fun p => { p with cache := q.cache }
    | none => (w, .unknown)
  | .clearCache name =>
    match w.preset? name with
    | some p => (w.setCache p.cache (w.cache p.cache).clear, .done)
    | none => (w, .unknown)
  | .render name template data =>
    match w.preset? name with
    | none => (w, .unknown)
    | some p =>
      match p.render (w.cache p.cache) template data with
      | .ok (text, c) => (w.setCache p.cache c, .rendered (.ok text))
      | .error e => (w, .rendered (.error e))
  | .display name =>
    match w.preset? name with
    | none => (w, .unknown)
    | some p =>
      let (text, c) := p.display (w.cache p.cache)
      (w.setCache p.cache c, .displayed text)

def run (w : Workshop) : List Step → Workshop × List Answer
  | [] => (w, [])
  | s :: steps =>
    let (w, answer) := w.step s
    let (w, answers) := run w steps
    (w, answer :: answers)

end Workshop

end Logicless
