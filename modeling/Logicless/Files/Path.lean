namespace Logicless.Path

def splitSlashes : List Char → List (List Char)
  | [] => [[]]
  | c :: cs =>
    match splitSlashes cs with
    | [] => [[]]
    | part :: parts => if c == '/' then [] :: part :: parts else (c :: part) :: parts

def parts (path : String) : List String :=
  (splitSlashes path.toList).map String.ofList

def isAbsolute (path : String) : Bool :=
  path.toList.head? == some '/'

def absolute (names : List String) : String :=
  "/" ++ "/".intercalate names

def join (base path : String) : String :=
  if isAbsolute path || base.isEmpty then path
  else if base.toList.getLast? == some '/' then base ++ path
  else base ++ "/" ++ path

/-- The last name of a path, whatever slashes and single dots stand behind it, if it is a proper
one. -/
def fileName? (path : String) : Option String :=
  match ((parts path).filter fun name => name != "" && name != ".").getLast? with
  | some ".." => none
  | name => name

/-- A file name without its extension, and the extension behind the last dot. A dot that the name
starts with begins no extension. -/
def splitName (name : String) : String × Option String :=
  let reversed := name.toList.reverse
  let stem := (reversed.dropWhile (· != '.')).drop 1
  if stem.isEmpty then (name, none)
  else (String.ofList stem.reverse, some (String.ofList (reversed.takeWhile (· != '.')).reverse))

def extension? (path : String) : Option String :=
  (fileName? path).bind fun name => (splitName name).2

def stem? (path : String) : Option String :=
  (fileName? path).map fun name => (splitName name).1

end Logicless.Path
