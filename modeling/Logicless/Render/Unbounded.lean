import Logicless.Render.Meaning

namespace Logicless

namespace Node

mutual

inductive Shows (resolve : Resolver) : Scope → Node → String → Prop
  | text (scope : Scope) (content : String) : Shows resolve scope (.text content) content
  | interpolation (scope : Scope) (name : String) (escaped : Bool) :
    Shows resolve scope (.interpolation name escaped)
      (((scope.lookup? name).map (Value.shown escaped)).getD "")
  | block {scope : Scope} {name text : String} {inverted : Bool} {children : List Node}
      (h : ShowsEach resolve (scope.ofSection name inverted) children text) :
    Shows resolve scope (.block name inverted children) text
  | known {scope : Scope} {name text : String} {t : Template} (ht : resolve name = some t)
      (h : ShowsAll resolve scope t.nodes text) : Shows resolve scope (.inclusion name) text
  | unknown (scope : Scope) {name : String} (h : resolve name = none) :
    Shows resolve scope (.inclusion name) ""

/-- The text of nodes with every known partial shown, however deep partials are nested. Nodes whose
partials include each other without end have no such text. -/
inductive ShowsAll (resolve : Resolver) : Scope → List Node → String → Prop
  | nil (scope : Scope) : ShowsAll resolve scope [] ""
  | cons {scope : Scope} {n : Node} {ns : List Node} {text more : String}
      (h : Shows resolve scope n text) (hmore : ShowsAll resolve scope ns more) :
    ShowsAll resolve scope (n :: ns) (text ++ more)

inductive ShowsEach (resolve : Resolver) : List Scope → List Node → String → Prop
  | nil (ns : List Node) : ShowsEach resolve [] ns ""
  | cons {scope : Scope} {scopes : List Scope} {ns : List Node} {text more : String}
      (h : ShowsAll resolve scope ns text) (hmore : ShowsEach resolve scopes ns more) :
    ShowsEach resolve (scope :: scopes) ns (text ++ more)

end

variable {resolve : Resolver}

mutual

theorem Shows.unique : ∀ {scope : Scope} {n : Node} {text other : String},
    Shows resolve scope n text → Shows resolve scope n other → text = other
  | _, _, _, _, .text .., .text .. => rfl
  | _, _, _, _, .interpolation .., .interpolation .. => rfl
  | _, _, _, _, .block h, .block h' => h.unique h'
  | _, _, _, _, .known ht h, .known ht' h' => by
    cases ht.symm.trans ht'
    exact h.unique h'
  | _, _, _, _, .known ht _, .unknown _ hnone => nomatch ht.symm.trans hnone
  | _, _, _, _, .unknown _ hnone, .known ht _ => nomatch ht.symm.trans hnone
  | _, _, _, _, .unknown .., .unknown .. => rfl

theorem ShowsAll.unique : ∀ {scope : Scope} {ns : List Node} {text other : String},
    ShowsAll resolve scope ns text → ShowsAll resolve scope ns other → text = other
  | _, _, _, _, .nil _, .nil _ => rfl
  | _, _, _, _, .cons h hmore, .cons h' hmore' => by rw [h.unique h', hmore.unique hmore']

theorem ShowsEach.unique : ∀ {scopes : List Scope} {ns : List Node} {text other : String},
    ShowsEach resolve scopes ns text → ShowsEach resolve scopes ns other → text = other
  | _, _, _, _, .nil _, .nil _ => rfl
  | _, _, _, _, .cons h hmore, .cons h' hmore' => by rw [h.unique h', hmore.unique hmore']

end

end Node

end Logicless
