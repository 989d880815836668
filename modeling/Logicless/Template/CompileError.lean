namespace Logicless

/-- A tag that is opened and never closed. Offsets count bytes from the start of the template. -/
structure ScanError where
  offset : Nat
deriving DecidableEq

def ScanError.message (e : ScanError) : String :=
  "Unterminated tag starting at byte " ++ toString e.offset

inductive NestingFault where
  /-- A close tag that does not match the innermost open section, or closes nothing. -/
  | unbalanced
  | unclosed
deriving DecidableEq

def NestingFault.message : NestingFault → String
  | unbalanced => "Unbalanced section"
  | unclosed => "Unclosed section"

/-- Sections that do not nest: the name and the offset are those of the offending tag. -/
structure NestingError where
  fault : NestingFault
  name : String
  offset : Nat
deriving DecidableEq

def NestingError.message (e : NestingError) : String :=
  e.fault.message ++ " '" ++ e.name ++ "' at byte " ++ toString e.offset

inductive CompileError where
  | scan (error : ScanError)
  | nesting (error : NestingError)
deriving DecidableEq

namespace CompileError

def detail : CompileError → String
  | scan e => e.message
  | nesting e => e.message

def message : CompileError → String
  | scan e => "Lex error: " ++ e.message
  | nesting e => "Parse error: " ++ e.message

end CompileError

end Logicless
