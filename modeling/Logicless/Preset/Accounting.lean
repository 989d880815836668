import Logicless.Preset

namespace Logicless.Workshop

def after (steps : List Step) : Workshop :=
  (empty.run steps).1

def Step.builds : Step → Bool
  | create _ | copy _ _ | setTemplate _ _ | setData _ _ | setPartials _ _ | setOptions _ _
  | attach _ _ => true
  | clearCache _ | render _ _ _ | display _ => false

/-- What a step asks of which cache, which is the one that its preset is attached to at that time. A
call without a template asks for nothing. -/
def request? (w : Workshop) : Step → Option (Nat × Cache.Step)
  | .create _ | .copy _ _ | .setTemplate _ _ | .setData _ _ | .setPartials _ _ | .setOptions _ _
  | .attach _ _ => none
  | .clearCache name => (w.preset? name).map fun p => (p.cache, .clear)
  | .render name template _ =>
    (w.preset? name).bind fun p => (p.source? template).map fun source => (p.cache, .get source)
  | .display name =>
    (w.preset? name).bind fun p => (p.source? none).map fun source => (p.cache, .get source)

/-- A preset that was attached to the cache with this number rendered or displayed this source,
which compiles, and the cache was not cleared since. -/
def Kept (steps : List Step) (number : Nat) (source : String) : Prop :=
  (∃ t, Template.compile source = .ok t) ∧
    ∃ before s since, steps = before ++ s :: since ∧
      (after before).request? s = some (number, .get source) ∧
      ∀ between r later, since = between ++ r :: later →
        (after (before ++ s :: between)).request? r ≠ some (number, .clear)

end Logicless.Workshop
