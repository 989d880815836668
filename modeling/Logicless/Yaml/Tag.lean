import Logicless.Yaml.Scalar

namespace Logicless.Yaml

def asciiBytes (s : String) : List UInt8 :=
  s.toList.map Char.toUInt8

def beforeZero (bytes : List UInt8) : List UInt8 :=
  bytes.takeWhile (· != 0)

def percentByte? : List Char → Option (UInt8 × List Char)
  | '%' :: a :: b :: cs => (hexNumber? [a, b]).map fun n => (UInt8.ofNat n, cs)
  | _ => none

def followers? (first : UInt8) : Option Nat :=
  if first < 0x80 then some 0
  else if first / 32 == 6 then some 1
  else if first / 16 == 14 then some 2
  else if first / 8 == 30 then some 3
  else none

def percentFollowers? : Nat → List Char → Option (List UInt8)
  | 0, _ => some []
  | count + 1, cs => do
    let (b, cs) ← percentByte? cs
    if b / 64 != 2 then none
    let bs ← percentFollowers? count cs
    return b :: bs

/-- The escaped bytes of a character: as many as the first one asks for, though they may be those of
a character that does not exist. -/
def percentChar? (cs : List Char) : Option (List UInt8) := do
  let (b, cs) ← percentByte? cs
  let bs ← percentFollowers? (← followers? b) cs
  return b :: bs

def isUriChar (verbatim : Bool) (c : Char) : Bool :=
  isWordChar c || [';', '/', '?', ':', '@', '&', '=', '+', '$', '.', '!', '~', '*', '\'', '(',
    ')'].contains c || verbatim && (c == ',' || c == '[' || c == ']')

def uriBytes? (verbatim : Bool) : Nat → List Char → Option (List UInt8 × Nat)
  | _, [] => some ([], 0)
  | escaped + 1, _ :: cs =>
    (uriBytes? verbatim escaped cs).map fun (uri, count) => (uri, count + 1)
  | 0, c :: cs =>
    if c == '%' then
      match percentChar? (c :: cs) with
      | some bytes =>
        (uriBytes? verbatim (bytes.length * 3 - 1) cs).map fun (uri, count) =>
          (bytes ++ uri, count + 1)
      | none => none
    else if isUriChar verbatim c then
      (uriBytes? verbatim 0 cs).map fun (uri, count) => (c.toUInt8 :: uri, count + 1)
    else some ([], 0)

def readUri (verbatim : Bool) (c : Cursor) : Option (List UInt8 × Cursor) :=
  (uriBytes? verbatim 0 c.rest).map fun (uri, count) => (beforeZero uri, c.skip count)

def readUri? (verbatim : Bool) (c : Cursor) : Option (List UInt8 × Cursor) :=
  match uriBytes? verbatim 0 c.rest with
  | some (uri, count) => if count == 0 then none else some (beforeZero uri, c.skip count)
  | none => none

def namedHandle? (cs : List Char) : Option (List Char) :=
  match cs with
  | '!' :: cs =>
    let word := cs.takeWhile isWordChar
    if (cs.drop word.length).head? == some '!' then some ('!' :: word ++ ['!']) else none
  | _ => none

/-- The handle and the suffix of a tag. A lone exclamation mark is a suffix without a handle, like
the text of a verbatim tag. -/
def readTagParts (c : Cursor) : Option (String × List UInt8 × Cursor) :=
  if c.rest.take 2 == ['!', '<'] then do
    let (uri, c) ← readUri? true (c.skip 2)
    if c.head? == some '>' then return ("", uri, c.skip 1) else none
  else
    match namedHandle? c.rest with
    | some handle => do
      let (uri, c) ← readUri? false (c.skip handle.length)
      return (String.ofList handle, uri, c)
    | none => do
      let (uri, c) ← readUri false (c.skip 1)
      if uri.isEmpty then return ("", asciiBytes "!", c) else return ("!", uri, c)

inductive Tag where
  | null
  | bool
  | integer
  | real
  | custom (name : String)
  /-- Any other tag makes a scalar a text, and says nothing about a collection. -/
  | other

namespace Tag

def dropMark : List Char → List Char
  | '!' :: c :: cs => c :: cs
  | cs => cs

/-- The mark of a custom tag is no part of its name, and neither is another one behind it. -/
def ofText (text : String) : Tag :=
  match text with
  | "tag:yaml.org,2002:null" => null
  | "tag:yaml.org,2002:bool" => bool
  | "tag:yaml.org,2002:int" => integer
  | "tag:yaml.org,2002:float" => real
  | _ =>
    if text.toList.head? == some '!' then custom (String.ofList (dropMark (dropMark text.toList)))
    else other

def ofBytes? (bytes : List UInt8) : Option Tag :=
  match String.fromUTF8? bytes.toByteArray with
  | some text => some (ofText text)
  | none => if bytes.head? == some '!'.toUInt8 then none else some other

end Tag

end Logicless.Yaml
