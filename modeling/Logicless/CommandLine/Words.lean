import Logicless.CommandLine.Command
import Logicless.Example

namespace Logicless.CommandLine

def optionWords (word : String) : Option String → List String
  | none => []
  | some value => [word, value]

/-- An option and its value in one word, so that the value may look like an option. -/
def attachedWords (word : String) : Option String → List String
  | none => []
  | some value => [word ++ value]

namespace RenderCommand

def words (c : RenderCommand) : List String :=
  "render" :: c.template :: (optionWords "--data" c.data ++ optionWords "--partials" c.partials)

/-- The words for a command whose paths may start with hyphens. -/
def guardedWords (c : RenderCommand) : List String :=
  "render" :: (attachedWords "--data=" c.data ++ (attachedWords "--partials=" c.partials ++
    ["--", c.template]))

def ofExample (fs : Files) (path : String) : RenderCommand :=
  let files := ExampleFiles.ofDirectory fs path
  ⟨files.templates.headD "", files.data.head?, some (Path.join path "partials"), none,
    RenderOptions.default.maxPartialDepth⟩

end RenderCommand

end Logicless.CommandLine
