import Mathlib.Data.List.Forall2
import Logicless.Template.Draft
import Logicless.Template.Shift

namespace Logicless

/-- Both fail, with related errors, or both succeed, with related results. -/
inductive SameOutcome (errors : ε → δ → Prop) (results : α → β → Prop) :
    Except ε α → Except δ β → Prop
  | error {e : ε} {e' : δ} (h : errors e e') : SameOutcome errors results (.error e) (.error e')
  | ok {a : α} {b : β} (h : results a b) : SameOutcome errors results (.ok a) (.ok b)

namespace SameOutcome

theorem bind {errors : ε → δ → Prop} {results : α → β → Prop} {more : γ → κ → Prop}
    {x : Except ε α} {y : Except δ β} {f : α → Except ε γ} {g : β → Except δ κ}
    (h : SameOutcome errors results x y)
    (hmore : ∀ a b, results a b → SameOutcome errors more (f a) (g b)) :
    SameOutcome errors more (x.bind f) (y.bind g) := by
  cases h with
  | error h => exact .error h
  | ok h => exact hmore _ _ h

theorem trans {errors : ε → δ → Prop} {errors' : δ → ζ → Prop} {errors'' : ε → ζ → Prop}
    {results : α → β → Prop} {results' : β → γ → Prop} {results'' : α → γ → Prop}
    {x : Except ε α} {y : Except δ β} {z : Except ζ γ}
    (h : SameOutcome errors results x y) (h' : SameOutcome errors' results' y z)
    (herrors : ∀ {e f g}, errors e f → errors' f g → errors'' e g)
    (hresults : ∀ {a b c}, results a b → results' b c → results'' a c) :
    SameOutcome errors'' results'' x z := by
  cases h with
  | error h =>
    cases h' with
    | error h' => exact .error (herrors h h')
  | ok h =>
    cases h' with
    | ok h' => exact .ok (hresults h h')

theorem map_right {errors : ε → δ → Prop} {results : α → β → Prop} {results' : α → γ → Prop}
    {x : Except ε α} {y : Except δ β} (h : SameOutcome errors results x y) {f : β → γ}
    (hresults : ∀ {a b}, results a b → results' a (f b)) :
    SameOutcome errors results' x (y.map f) := by
  cases h with
  | error h => exact .error h
  | ok h => exact .ok (hresults h)

theorem mapError {errors : ε → δ → Prop} {errors' : ζ → η → Prop} {results : α → β → Prop}
    {x : Except ε α} {y : Except δ β} (h : SameOutcome errors results x y) {f : ε → ζ} {g : δ → η}
    (herrors : ∀ {e e'}, errors e e' → errors' (f e) (g e')) :
    SameOutcome errors' results (x.mapError f) (y.mapError g) := by
  cases h with
  | error h => exact .error (herrors h)
  | ok h => exact .ok h

theorem exists_ok_iff {errors : ε → δ → Prop} {results : α → β → Prop} {x : Except ε α}
    {y : Except δ β} (h : SameOutcome errors results x y) :
    (∃ a, x = .ok a) ↔ ∃ b, y = .ok b := by
  cases h with
  | error h => simp
  | ok h => simp

end SameOutcome

/-- A relation between lists of nodes that does not mind how the nodes are put together, nor whether
two texts that meet are one. -/
structure Node.Congruence (related : List Node → List Node → Prop) : Prop where
  refl : ∀ ns, related ns ns
  trans : ∀ {ns ms ks}, related ns ms → related ms ks → related ns ks
  append : ∀ {ns ms ns' ms'}, related ns ms → related ns' ms' → related (ns ++ ns') (ms ++ ms')
  block : ∀ {ns ms}, related ns ms → ∀ name inverted,
    related [.block name inverted ns] [.block name inverted ms]
  texts : ∀ a b, related [.text a, .text b] [.text (a ++ b)]

theorem Node.Congruence.top : Congruence fun _ _ => True where
  refl := fun _ => trivial
  trans := fun _ _ => trivial
  append := fun _ _ => trivial
  block := fun _ _ _ => trivial
  texts := fun _ _ => trivial

theorem Node.Congruence.sameOutcome_trans {related : List Node → List Node → Prop}
    (hrelated : Congruence related) {errors : ε → δ → Prop} {errors' : δ → ζ → Prop}
    {x : Except ε (List Node)} {y : Except δ (List Node)} {z : Except ζ (List Node)}
    (h : SameOutcome errors related x y) (h' : SameOutcome errors' related y z) :
    SameOutcome (fun _ _ => True) related x z :=
  h.trans h' (fun _ _ => trivial) hrelated.trans

section Moved

variable (moved : Nat → Nat → Prop) (related : List Node → List Node → Prop)

inductive Token.Moved : Token → Token → Prop
  | text (content : String) : Token.Moved (.text content) (.text content)
  | tag (kind : TagKind) (name : String) {span span' : Span} (h : moved span.start span'.start) :
    Token.Moved (.tag kind name span) (.tag kind name span')

inductive Effect.Moved : Effect → Effect → Prop
  | skip : Effect.Moved .skip .skip
  | add (node : Node) : Effect.Moved (.add node) (.add node)
  | enter (name : String) (inverted : Bool) {offset offset' : Nat} (h : moved offset offset') :
    Effect.Moved (.enter name inverted offset) (.enter name inverted offset')
  | leave (name : String) {offset offset' : Nat} (h : moved offset offset') :
    Effect.Moved (.leave name offset) (.leave name offset')

structure NestingError.Moved (e e' : NestingError) : Prop where
  fault : e.fault = e'.fault
  name : e.name = e'.name
  offset : moved e.offset e'.offset

structure OpenSection.Alike (s t : OpenSection) : Prop where
  name : s.name = t.name
  inverted : s.inverted = t.inverted
  offset : moved s.offset t.offset
  siblings : related s.siblings.reverse t.siblings.reverse

/-- The same sections are open, which may have been moved, and their nodes so far are related. -/
structure Draft.Alike (d e : Draft) : Prop where
  opened : List.Forall₂ (OpenSection.Alike moved related) d.opened e.opened
  before : related d.before.reverse e.before.reverse

variable {moved related}

theorem NestingError.Moved.trans {moved' moved'' : Nat → Nat → Prop} {e f g : NestingError}
    (h : e.Moved moved f) (h' : f.Moved moved' g)
    (hmoved : ∀ {a b c}, moved a b → moved' b c → moved'' a c) : e.Moved moved'' g :=
  ⟨h.fault.trans h'.fault, h.name.trans h'.name, hmoved h.offset h'.offset⟩

theorem Token.Moved.effect {t u : Token} (h : t.Moved moved u) :
    t.effect.Moved moved u.effect := by
  cases h with
  | text content => exact .add _
  | tag kind name h =>
    cases kind with
    | escapedVariable | unescapedVariable | inclusion => exact .add _
    | comment => exact .skip
    | sectionOpen | invertedSectionOpen => exact .enter _ _ h
    | sectionClose => exact .leave _ h

theorem Token.map_shift_zero (tokens : List Token) : tokens.map (Token.shift 0) = tokens := by
  have hzero : Token.shift 0 = id := by
    funext token
    cases token <;> rfl
  rw [hzero, List.map_id]

theorem Token.map_shift_shift (bytes bytes' : Nat) (tokens : List Token) :
    (tokens.map (Token.shift bytes)).map (Token.shift bytes') =
      tokens.map (Token.shift (bytes + bytes')) := by
  have hshift : Token.shift bytes' ∘ Token.shift bytes = Token.shift (bytes + bytes') := by
    funext token
    cases token <;> simp [Token.shift, Nat.add_assoc]
  rw [List.map_map, hshift]

variable (moved) in
theorem Token.moved_shift (bytes bytes' : Nat)
    (h : ∀ offset, moved (offset + bytes) (offset + bytes')) (tokens : List Token) :
    List.Forall₂ (Token.Moved moved) (tokens.map (Token.shift bytes))
      (tokens.map (Token.shift bytes')) := by
  induction tokens with
  | nil => exact .nil
  | cons token tokens ih =>
    refine .cons ?_ ih
    cases token with
    | text content => exact .text content
    | tag kind name span => exact .tag kind name (h _)

theorem Token.moved_self {tokens : List Token}
    (h : ∀ kind name span, .tag kind name span ∈ tokens → moved span.start span.start) :
    List.Forall₂ (Token.Moved moved) tokens tokens := by
  apply List.forall₂_same.2
  intro token htoken
  cases token with
  | text content => exact .text content
  | tag kind name span => exact .tag kind name (h kind name span htoken)

theorem Token.moved_refl (h : ∀ offset, moved offset offset) (tokens : List Token) :
    List.Forall₂ (Token.Moved moved) tokens tokens :=
  moved_self fun _ _ _ _ => h _

namespace Draft.Alike

variable {d e : Draft}

section

variable (hrelated : Node.Congruence related)
include hrelated

theorem refl (h : ∀ offset, moved offset offset) (d : Draft) : d.Alike moved related d := by
  refine ⟨?_, hrelated.refl _⟩
  exact List.forall₂_same.2 fun s _ => ⟨rfl, rfl, h _, hrelated.refl _⟩

theorem add (h : d.Alike moved related e) {ns ms : List Node} (hnodes : related ns ms) :
    Draft.Alike moved related ⟨d.opened, ns.reverse ++ d.before⟩
      ⟨e.opened, ms.reverse ++ e.before⟩ := by
  refine ⟨h.opened, ?_⟩
  simp only [List.reverse_append, List.reverse_reverse]
  exact hrelated.append h.before hnodes

theorem leave (h : d.Alike moved related e) (name : String) {offset offset' : Nat}
    (hoffset : moved offset offset') :
    SameOutcome (NestingError.Moved moved) (Draft.Alike moved related)
      (d.leave name offset) (e.leave name offset') := by
  obtain ⟨opened, before⟩ := d
  obtain ⟨opened', before'⟩ := e
  obtain ⟨hopened, hbefore⟩ := h
  cases hopened with
  | nil => exact .error ⟨rfl, rfl, hoffset⟩
  | @cons s t opened opened' hs hopened =>
    by_cases hname : s.name = name
    · have houter : Draft.Alike moved related ⟨opened, s.siblings⟩ ⟨opened', t.siblings⟩ :=
        ⟨hopened, hs.siblings⟩
      subst hname
      rw [leave_self, hs.name, hs.inverted, leave_self]
      exact .ok (add hrelated houter (hrelated.block hbefore t.name t.inverted))
    · rw [leave_of_ne hname, leave_of_ne (hs.name ▸ hname)]
      exact .error ⟨rfl, rfl, hoffset⟩

theorem perform (h : d.Alike moved related e) {a b : Effect} (hab : a.Moved moved b) :
    SameOutcome (NestingError.Moved moved) (Draft.Alike moved related)
      (d.perform a) (e.perform b) := by
  cases hab with
  | skip => exact .ok h
  | add node => exact .ok (add hrelated h (hrelated.refl [node]))
  | enter name inverted hoffset =>
    exact .ok ⟨.cons ⟨rfl, rfl, hoffset, h.before⟩ h.opened, hrelated.refl []⟩
  | leave name hoffset => exact leave hrelated h name hoffset

theorem readAll (h : d.Alike moved related e) {tokens others : List Token}
    (htokens : List.Forall₂ (Token.Moved moved) tokens others) :
    SameOutcome (NestingError.Moved moved) (Draft.Alike moved related)
      (d.readAll tokens) (e.readAll others) := by
  induction htokens generalizing d e with
  | nil => exact .ok h
  | cons htoken htokens ih => exact (perform hrelated h htoken.effect).bind fun _ _ h => ih h

end

theorem finish (h : d.Alike moved related e) :
    SameOutcome (NestingError.Moved moved) related d.finish e.finish := by
  obtain ⟨opened, before⟩ := d
  obtain ⟨opened', before'⟩ := e
  obtain ⟨hopened, hbefore⟩ := h
  cases hopened with
  | nil => exact .ok hbefore
  | cons hs hopened => exact .error ⟨rfl, hs.name, hs.offset⟩

theorem complete (hrelated : Node.Congruence related) (h : d.Alike moved related e)
    {tokens others : List Token} (htokens : List.Forall₂ (Token.Moved moved) tokens others) :
    SameOutcome (NestingError.Moved moved) related (d.complete tokens) (e.complete others) :=
  (readAll hrelated h htokens).bind fun _ _ h => h.finish

end Draft.Alike

/-- To make one text of two that meet changes nothing but the number of nodes. -/
theorem Draft.complete_join (hrelated : Node.Congruence related) (d : Draft)
    (tokens others : List Token) :
    SameOutcome (NestingError.Moved (· = ·)) related
      (d.complete (tokens ++ others)) (d.complete (Token.join tokens others)) := by
  have hmoved := Token.moved_refl fun _ => rfl
  fun_induction Token.join tokens others generalizing d with
  | case1 content more tokens =>
    have hd := Alike.refl hrelated (fun _ => rfl) d
    exact (hd.add hrelated (hrelated.texts content more)).complete hrelated (hmoved tokens)
  | case2 others => exact (Alike.refl hrelated (fun _ => rfl) d).complete hrelated (hmoved others)
  | case3 token tokens others _ ih =>
    rw [List.cons_append, complete, complete, readAll, readAll]
    cases d.read token with
    | error e => exact .error ⟨rfl, rfl, rfl⟩
    | ok d => exact ih d

end Moved

end Logicless
