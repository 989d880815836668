import Logicless.Template.Node

namespace Logicless

inductive Effect where
  | skip
  | add (node : Node)
  | enter (name : String) (inverted : Bool) (offset : Nat)
  | leave (name : String) (offset : Nat)

def Token.effect : Token → Effect
  | .text content => .add (.text content)
  | .tag kind name span =>
    match kind with
    | .escapedVariable => .add (.interpolation name true)
    | .unescapedVariable => .add (.interpolation name false)
    | .inclusion => .add (.inclusion name)
    | .comment => .skip
    | .sectionOpen => .enter name false span.start
    | .invertedSectionOpen => .enter name true span.start
    | .sectionClose => .leave name span.start

/-- The sections that are open, the innermost first, and the nodes so far in the innermost one, the
nearest first. -/
structure Draft where
  opened : List OpenSection
  before : List Node

namespace Draft

def empty : Draft := ⟨[], []⟩

def add (d : Draft) (node : Node) : Draft :=
  ⟨d.opened, node :: d.before⟩

def enter (d : Draft) (name : String) (inverted : Bool) (offset : Nat) : Draft :=
  ⟨⟨name, inverted, offset, d.before⟩ :: d.opened, []⟩

def leave (d : Draft) (name : String) (offset : Nat) : Except NestingError Draft :=
  match d.opened with
  | [] => .error ⟨.unbalanced, name, offset⟩
  | s :: opened =>
    if s.name = name then
      .ok ⟨opened, .block s.name s.inverted d.before.reverse :: s.siblings⟩
    else .error ⟨.unbalanced, name, offset⟩

def perform (d : Draft) : Effect → Except NestingError Draft
  | .skip => .ok d
  | .add node => .ok (d.add node)
  | .enter name inverted offset => .ok (d.enter name inverted offset)
  | .leave name offset => d.leave name offset

def read (d : Draft) (token : Token) : Except NestingError Draft :=
  d.perform token.effect

def readAll (d : Draft) : List Token → Except NestingError Draft
  | [] => .ok d
  | token :: tokens => (d.read token).bind fun d => readAll d tokens

def finish (d : Draft) : Except NestingError (List Node) :=
  match d.opened with
  | [] => .ok d.before.reverse
  | s :: _ => .error ⟨.unclosed, s.name, s.offset⟩

def complete (d : Draft) (tokens : List Token) : Except NestingError (List Node) :=
  (d.readAll tokens).bind finish

theorem leave_self (s : OpenSection) (opened : List OpenSection) (before : List Node)
    (offset : Nat) :
    leave ⟨s :: opened, before⟩ s.name offset =
      .ok ⟨opened, .block s.name s.inverted before.reverse :: s.siblings⟩ :=
  if_pos rfl

theorem leave_of_ne {s : OpenSection} {name : String} (h : s.name ≠ name)
    (opened : List OpenSection) (before : List Node) (offset : Nat) :
    leave ⟨s :: opened, before⟩ name offset = .error ⟨.unbalanced, name, offset⟩ :=
  if_neg h

theorem readAll_append (d : Draft) (tokens others : List Token) :
    d.readAll (tokens ++ others) = (d.readAll tokens).bind fun d => d.readAll others := by
  induction tokens generalizing d with
  | nil => rfl
  | cons token tokens ih =>
    rw [List.cons_append, readAll, readAll]
    cases d.read token with
    | error e => rfl
    | ok d => exact ih d

theorem complete_append (d : Draft) (tokens others : List Token) :
    d.complete (tokens ++ others) = (d.readAll tokens).bind fun d => d.complete others := by
  rw [complete, readAll_append]
  cases d.readAll tokens <;> rfl

end Draft

namespace Node

theorem build_eq (d : Draft) (tokens : List Token) :
    build d.opened d.before tokens = d.complete tokens := by
  induction tokens generalizing d with
  | nil =>
    obtain ⟨opened, before⟩ := d
    cases opened <;> rfl
  | cons token tokens ih =>
    cases token with
    | text content =>
      rw [build]
      exact ih (d.add (.text content))
    | tag kind name span =>
      cases kind with
      | comment =>
        rw [build]
        exact ih d
      | escapedVariable =>
        rw [build]
        exact ih (d.add (.interpolation name true))
      | unescapedVariable =>
        rw [build]
        exact ih (d.add (.interpolation name false))
      | inclusion =>
        rw [build]
        exact ih (d.add (.inclusion name))
      | sectionOpen =>
        rw [build]
        exact ih (d.enter name false span.start)
      | invertedSectionOpen =>
        rw [build]
        exact ih (d.enter name true span.start)
      | sectionClose =>
        obtain ⟨opened, before⟩ := d
        cases opened with
        | nil =>
          rw [build]
          rfl
        | cons s opened =>
          rw [build]
          split
          · next hname =>
            subst hname
            rw [Draft.complete, Draft.readAll, Draft.read, Token.effect, Draft.perform]
            rw [Draft.leave_self]
            exact ih ⟨opened, .block s.name s.inverted before.reverse :: s.siblings⟩
          · next hname =>
            rw [Draft.complete, Draft.readAll, Draft.read, Token.effect, Draft.perform]
            rw [Draft.leave_of_ne hname]
            rfl

theorem ofTokens_eq (tokens : List Token) : ofTokens tokens = Draft.empty.complete tokens :=
  build_eq Draft.empty tokens

end Node

end Logicless
