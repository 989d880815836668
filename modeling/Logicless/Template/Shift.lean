import Logicless.Template.Token

namespace Logicless

def Token.shift (bytes : Nat) : Token → Token
  | .text content => .text content
  | .tag kind name span => .tag kind name ⟨span.start + bytes, span.stop + bytes⟩

def Token.join : List Token → List Token → List Token
  | [.text content], .text more :: tokens => .text (content ++ more) :: tokens
  | [], others => others
  | token :: tokens, others => token :: join tokens others

def ScanError.shift (bytes : Nat) (e : ScanError) : ScanError :=
  ⟨e.offset + bytes⟩

def NestingError.shift (bytes : Nat) (e : NestingError) : NestingError :=
  { e with offset := e.offset + bytes }

def CompileError.shift (bytes : Nat) : CompileError → CompileError
  | scan e => scan (e.shift bytes)
  | nesting e => nesting (e.shift bytes)

/-- Where an offset comes to stand when so many bytes are put in at a place: what is before the
place stays. -/
def Text.makeRoom (place bytes offset : Nat) : Nat :=
  if offset < place then offset else offset + bytes

theorem Text.makeRoom_of_lt {place offset : Nat} (h : offset < place) (bytes : Nat) :
    makeRoom place bytes offset = offset :=
  if_pos h

theorem Text.makeRoom_add (place bytes offset : Nat) :
    makeRoom place bytes (offset + place) = offset + (bytes + place) := by
  rw [makeRoom, if_neg (Nat.not_lt.2 (Nat.le_add_left place offset)), Nat.add_right_comm,
    Nat.add_assoc]

def ScanError.makeRoom (place bytes : Nat) (e : ScanError) : ScanError :=
  ⟨Text.makeRoom place bytes e.offset⟩

theorem ScanError.makeRoom_shift (place bytes : Nat) (e : ScanError) :
    (e.shift place).makeRoom place bytes = (e.shift bytes).shift place := by
  have hoffset : Text.makeRoom place bytes (e.offset + place) = e.offset + bytes + place := by
    rw [Text.makeRoom_add, Nat.add_assoc]
  exact congrArg ScanError.mk hoffset

def NestingError.makeRoom (place bytes : Nat) (e : NestingError) : NestingError :=
  { e with offset := Text.makeRoom place bytes e.offset }

def CompileError.makeRoom (place bytes : Nat) : CompileError → CompileError
  | scan e => scan (e.makeRoom place bytes)
  | nesting e => nesting (e.makeRoom place bytes)

/-- The first text ends in a brace and the second starts with one, so that an opening mark may come
about where they meet. -/
def Text.BracesMeet (before after : List Char) : Prop :=
  before.getLast? = some '{' ∧ after.head? = some '{'

instance (before after : List Char) : Decidable (Text.BracesMeet before after) :=
  inferInstanceAs (Decidable (_ ∧ _))

end Logicless
