import Logicless.Html.Entity

namespace Logicless.Html

def pushEscaped (out : String) : Char → String
  | '&' => out ++ "&amp;"
  | '<' => out ++ "&lt;"
  | '>' => out ++ "&gt;"
  | '"' => out ++ "&quot;"
  | c => out.push c

def escapeOnto (out raw : String) : String :=
  raw.toList.foldl pushEscaped out

def unescape (text : String) : String :=
  String.ofList (decode text.toList)

def entityTexts : List String :=
  ["&amp;", "&lt;", "&gt;", "&quot;"]

/-- A text without markup in which every ampersand begins an entity. -/
structure Escaped (text : String) : Prop where
  no_markup : ∀ c ∈ text.toList, c ≠ '<' ∧ c ≠ '>' ∧ c ≠ '"'
  ampersands : ∀ before after, text = before ++ ("&" ++ after) →
    ∃ entity ∈ entityTexts, ∃ rest, "&" ++ after = entity ++ rest

end Logicless.Html
