import Mathlib.Data.List.Basic
import Logicless.Partials.History
import Logicless.Proofs.Dictionary
import Logicless.Proofs.History
import Logicless.Proofs.Text.ByteOrder

namespace Logicless.Partials

variable {ps : Partials} {steps later : List Step} {name other : String} {t : Template}

theorem resolve_insert (ps : Partials) (name other : String) (t : Template) :
    (ps.insert name t).resolve other = if name = other then some t else ps.resolve other :=
  Table.find?_insert ..

theorem after_append (ps : Partials) (steps more : List Step) :
    ps.after (steps ++ more) = (ps.after steps).after more :=
  List.foldl_append

theorem bindingsOf_append_singleton (steps : List Step) (s : Step) :
    bindingsOf (steps ++ [s]) = (s.binding? (bindingsOf steps)).toList ++ bindingsOf steps :=
  List.foldl_append

theorem step_eq {earlier : Bindings} (h : ∀ name, ps.resolve name = earlier.lookup name)
    (s : Step) :
    (ps.step s).1 = (s.binding? earlier).elim ps fun b => ps.insert b.1 b.2 := by
  cases s with
  | insertSource name source =>
    rw [step, insertSource, Step.binding?]
    cases Template.compile source <;> rfl
  | insert name template => rfl
  | share name other =>
    rw [step, h, Step.binding?]
    cases earlier.lookup other <;> rfl
  | contains name => rfl
  | resolve name => rfl
  | render template options data => rfl

theorem bound?_append_singleton (steps : List Step) (s : Step) (name : String) :
    bound? (steps ++ [s]) name =
      match s.binding? (bindingsOf steps) with
      | some (other, t) => if other = name then some t else bound? steps name
      | none => bound? steps name := by
  rw [bound?, bindingsOf_append_singleton]
  cases s.binding? (bindingsOf steps) with
  | none => rfl
  | some b =>
    obtain ⟨other, t⟩ := b
    rw [Option.toList_some, List.singleton_append, List.lookup_cons]
    by_cases h : other = name
    · rw [h, beq_self_eq_true]
      exact (if_pos rfl).symm
    · rw [beq_eq_false_iff_ne.2 (Ne.symm h)]
      exact (if_neg h).symm

theorem resolve_step (h : ∀ name, ps.resolve name = bound? steps name) (s : Step) (name : String) :
    (ps.step s).1.resolve name = bound? (steps ++ [s]) name := by
  rw [step_eq h, bound?_append_singleton]
  cases s.binding? (bindingsOf steps) with
  | none => exact h name
  | some b => rw [Option.elim_some, resolve_insert, h]

theorem resolve_after (steps : List Step) (name : String) :
    (empty.after steps).resolve name = bound? steps name := by
  induction steps using List.reverseRecOn generalizing name with
  | nil => rfl
  | append_singleton steps s ih =>
    rw [after_append]
    exact resolve_step ih s name

theorem bound?_of_binding? {s : Step} (h : s.binding? (bindingsOf steps) = some (name, t)) :
    bound? (steps ++ [s]) name = some t := by
  rw [bound?_append_singleton, h]
  exact if_pos rfl

theorem bound?_of_forall_ne {s : Step} (h : ∀ t, s.binding? (bindingsOf steps) ≠ some (name, t)) :
    bound? (steps ++ [s]) name = bound? steps name := by
  rw [bound?_append_singleton]
  split
  · next other t ht =>
    apply if_neg
    rintro rfl
    exact h t ht
  · rfl

theorem not_rebound_nil : ¬ Rebound steps [] name := by
  rintro ⟨before, s, since, t, h, -⟩
  cases before <;> cases h

theorem rebound_append_singleton {s : Step} :
    Rebound steps (later ++ [s]) name ↔
      Rebound steps later name ∨
        ∃ t, s.binding? (bindingsOf (steps ++ later)) = some (name, t) := by
  constructor
  · rintro ⟨before, s', since, t, h, ht⟩
    obtain ⟨rfl, rfl, -⟩ | ⟨earlier, -, rfl⟩ := append_singleton_eq_iff.1 h
    · exact .inr ⟨t, ht⟩
    · exact .inl ⟨before, s', earlier, t, rfl, ht⟩
  · rintro (⟨before, s', since, t, rfl, ht⟩ | ⟨t, ht⟩)
    · exact ⟨before, s', since ++ [s], t, by simp, ht⟩
    · exact ⟨later, s, [], t, rfl, ht⟩

/-- A name keeps what it was bound to until it is bound again. -/
theorem bound?_append (h : bound? steps name = some t) (hlater : ¬ Rebound steps later name) :
    bound? (steps ++ later) name = some t := by
  induction later using List.reverseRecOn with
  | nil => rwa [List.append_nil]
  | append_singleton later s ih =>
    rw [rebound_append_singleton, not_or, not_exists] at hlater
    rw [← List.append_assoc, bound?_of_forall_ne hlater.2]
    exact ih hlater.1

theorem bound?_eq_some_iff : bound? steps name = some t ↔
    ∃ before s since, steps = before ++ s :: since ∧
      s.binding? (bindingsOf before) = some (name, t) ∧ ¬ Rebound (before ++ [s]) since name := by
  constructor
  · intro h
    induction steps using List.reverseRecOn with
    | nil => cases h
    | append_singleton steps last ih =>
      by_cases hlast : ∃ u, last.binding? (bindingsOf steps) = some (name, u)
      · obtain ⟨u, hu⟩ := hlast
        cases (bound?_of_binding? hu).symm.trans h
        exact ⟨steps, last, [], rfl, hu, not_rebound_nil⟩
      · rw [bound?_of_forall_ne (not_exists.1 hlast)] at h
        obtain ⟨before, s, since, rfl, hs, hsince⟩ := ih h
        refine ⟨before, s, since ++ [last], by simp, hs, ?_⟩
        rw [rebound_append_singleton, List.append_assoc]
        exact not_or.2 ⟨hsince, hlast⟩
  · rintro ⟨before, s, since, rfl, hs, hsince⟩
    rw [← List.singleton_append, ← List.append_assoc]
    exact bound?_append (bound?_of_binding? hs) hsince

/-- What is true of partials behind these steps. -/
structure Remembers (steps : List Step) (ps : Partials) : Prop where
  resolve_eq : ∀ name, ps.resolve name = bound? steps name
  resolve_eq_some_iff : ∀ name t, ps.resolve name = some t ↔
    ∃ before s since, steps = before ++ s :: since ∧
      s.binding? (bindingsOf before) = some (name, t) ∧ ¬ Rebound (before ++ [s]) since name
  names_pairwise : ps.names.Pairwise fun a b => Text.bytes a < Text.bytes b
  mem_names_iff : ∀ name, name ∈ ps.names ↔ ∃ t, bound? steps name = some t
  size_eq : ps.size = ps.names.length
  isEmpty_iff : ps.isEmpty = true ↔ ps.names = []
  insertSource_ok : ∀ name source t, Template.compile source = .ok t →
    (ps.step (.insertSource name source)).2 = .inserted (.ok ()) ∧
      (ps.step (.insertSource name source)).1.resolve name = some t
  insertSource_error : ∀ name source e, Template.compile source = .error e →
    ps.step (.insertSource name source) = (ps, .inserted (.error e))
  /-- A name that shares a template keeps it until the name is bound again, whatever becomes of the
  other name. -/
  share_eq : ∀ name other t later, bound? steps other = some t →
    ¬ Rebound (steps ++ [.share name other]) later name →
      (ps.step (.share name other)).2 = .shared true ∧
        ((ps.step (.share name other)).1.after later).resolve name = some t
  step_contains : ∀ name, ps.step (.contains name) = (ps, .contained (bound? steps name).isSome)
  step_resolve : ∀ name, ps.step (.resolve name) = (ps, .resolved (bound? steps name))
  step_render : ∀ template options data, ps.step (.render template options data) =
    (ps, .rendered (template.render (bound? steps) options data))

/-- Partials remember any history: each name resolves to what it was bound to last, or to nothing,
and calls that fail change nothing. -/
theorem remembers_after (steps : List Step) : Remembers steps (empty.after steps) := by
  have hresolve := resolve_after steps
  have hresolver : (empty.after steps).resolve = bound? steps := funext hresolve
  refine
    { resolve_eq := hresolve
      resolve_eq_some_iff := ?_
      names_pairwise := (Table.keys_pairwise _).imp (Text.lt_iff_bytes_lt _ _).1
      mem_names_iff := ?_
      size_eq := Table.size_eq_length _
      isEmpty_iff := Table.isEmpty_iff
      insertSource_ok := ?_
      insertSource_error := ?_
      share_eq := ?_
      step_contains := ?_
      step_resolve := ?_
      step_render := ?_ }
  · intro name t
    rw [hresolve, bound?_eq_some_iff]
  · intro name
    rw [names, Table.mem_keys_iff]
    simp only [← hresolve]
    rfl
  · intro name source t ht
    rw [step, insertSource, ht]
    exact ⟨rfl, (resolve_insert ..).trans (if_pos rfl)⟩
  · intro name source e he
    rw [step, insertSource, he]
    rfl
  · intro name other t later hother hlater
    have hbinding : (Step.share name other).binding? (bindingsOf steps) = some (name, t) :=
      congrArg (Option.map _) hother
    have hafter : ((empty.after steps).step (.share name other)).1.after later =
        empty.after (steps ++ [.share name other] ++ later) := by
      rw [after_append, after_append]
      rfl
    rw [hafter, resolve_after]
    refine ⟨?_, bound?_append (bound?_of_binding? hbinding) hlater⟩
    rw [step, hresolve, hother]
  · intro name
    rw [step, contains, ← hresolve]
    rfl
  · intro name
    rw [step, hresolve]
  · intro template options data
    rw [step, hresolver]

end Logicless.Partials
