import Logicless.Template.Draft

namespace Logicless

namespace Draft

/-- The outer draft with the sections that are open in an inner one, and the nodes there, in the
place where its next node would stand. -/
def inside (outer : Draft) : List OpenSection → List Node → Draft
  | [], before => ⟨outer.opened, before ++ outer.before⟩
  | s :: opened, before =>
    ⟨((inside outer opened s.siblings).enter s.name s.inverted s.offset).opened, before⟩

def within (outer d : Draft) : Draft :=
  outer.inside d.opened d.before

theorem inside_cons (outer : Draft) (opened : List OpenSection) (node : Node)
    (before : List Node) :
    outer.inside opened (node :: before) = (outer.inside opened before).add node := by
  cases opened <;> rfl

theorem within_empty (outer : Draft) : outer.within empty = outer := rfl

theorem leave_within {outer d : Draft} {name : String} {offset : Nat}
    (h : outer.opened = [] ∨ ∃ d', d.leave name offset = .ok d') :
    (outer.within d).leave name offset = (d.leave name offset).map outer.within := by
  obtain ⟨opened, before⟩ := d
  cases opened with
  | nil =>
    -- A close tag of the inner draft must not find a section of the outer one.
    rcases h with h | ⟨d', h⟩
    · rw [within, inside, leave, h]
      rfl
    · cases h
  | cons s opened =>
    simp only [within, inside, enter, leave]
    split
    · exact congrArg Except.ok (outer.inside_cons opened _ s.siblings).symm
    · rfl

theorem read_within {outer d : Draft} {token : Token}
    (h : outer.opened = [] ∨ ∃ d', d.read token = .ok d') :
    (outer.within d).read token = (d.read token).map outer.within := by
  unfold read at h ⊢
  generalize token.effect = effect at h
  cases effect with
  | skip => rfl
  | add node => exact congrArg Except.ok (outer.inside_cons d.opened node d.before).symm
  | enter name inverted offset => rfl
  | leave name offset => exact leave_within h

theorem readAll_within {outer d : Draft} {tokens : List Token}
    (h : outer.opened = [] ∨ ∃ d', d.readAll tokens = .ok d') :
    (outer.within d).readAll tokens = (d.readAll tokens).map outer.within := by
  induction tokens generalizing d with
  | nil => rfl
  | cons token tokens ih =>
    unfold readAll at h ⊢
    cases hread : d.read token with
    | error e =>
      rw [hread] at h
      have houter : outer.opened = [] := by
        apply h.resolve_right
        rintro ⟨_, h⟩
        cases h
      rw [read_within (.inl houter), hread]
      rfl
    | ok next =>
      rw [hread] at h
      rw [read_within (.inr ⟨next, hread⟩), hread]
      exact ih h

theorem finish_within {outer : Draft} (h : outer.opened = []) (d : Draft) :
    (outer.within d).finish = d.finish.map (outer.before.reverse ++ ·) := by
  obtain ⟨opened, before⟩ := d
  cases opened with
  | nil =>
    rw [within, inside, finish, h]
    exact congrArg Except.ok List.reverse_append
  | cons => rfl

theorem complete_within {outer : Draft} (h : outer.opened = []) (d : Draft) (tokens : List Token) :
    (outer.within d).complete tokens = (d.complete tokens).map (outer.before.reverse ++ ·) := by
  rw [complete, complete, readAll_within (.inl h)]
  cases d.readAll tokens with
  | error e => rfl
  | ok d => exact finish_within h d

theorem finish_eq_ok_iff {d : Draft} {nodes : List Node} :
    d.finish = .ok nodes ↔ d = ⟨[], nodes.reverse⟩ := by
  obtain ⟨opened, before⟩ := d
  cases opened with
  | nil => simp [finish, List.reverse_eq_iff]
  | cons => simp [finish]

theorem readAll_empty_of_ofTokens {tokens : List Token} {nodes : List Node}
    (h : Node.ofTokens tokens = .ok nodes) :
    empty.readAll tokens = .ok ⟨[], nodes.reverse⟩ := by
  rw [Node.ofTokens_eq, complete] at h
  cases hread : empty.readAll tokens with
  | error e =>
    rw [hread] at h
    cases h
  | ok d =>
    rw [hread] at h
    rw [finish_eq_ok_iff.1 h]

/-- Whatever is open around them, tokens that make up nodes are read as these nodes. -/
theorem readAll_of_ofTokens {tokens : List Token} {nodes : List Node}
    (h : Node.ofTokens tokens = .ok nodes) (d : Draft) :
    d.readAll tokens = .ok ⟨d.opened, nodes.reverse ++ d.before⟩ := by
  have hempty := readAll_empty_of_ofTokens h
  have hread : (d.within empty).readAll tokens = (empty.readAll tokens).map d.within :=
    readAll_within (.inr ⟨_, hempty⟩)
  rw [hempty, within_empty] at hread
  exact hread

end Draft

namespace Node

theorem ofTokens_append {tokens : List Token} {nodes : List Node} (h : ofTokens tokens = .ok nodes)
    (others : List Token) :
    ofTokens (tokens ++ others) = (ofTokens others).map (nodes ++ ·) := by
  have houter : Draft.opened ⟨[], nodes.reverse⟩ = [] := rfl
  have hothers := Draft.complete_within houter .empty others
  rw [Draft.within_empty, List.reverse_reverse] at hothers
  rw [ofTokens_eq, Draft.complete_append, Draft.readAll_empty_of_ofTokens h, ofTokens_eq]
  exact hothers

end Node

end Logicless
