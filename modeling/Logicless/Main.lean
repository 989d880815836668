import Logicless.CommandLine.Run
import Logicless.Files.Change

namespace Logicless

/-- What stands at a path, with directories as many levels below as given. -/
def snapshot : Nat → String → IO (Option Entry)
  | levels, path => do
    let place := (← IO.currentDir) / path
    if ← place.isDir then
      let mut entries : Dictionary Entry := []
      match levels with
      | 0 => return some (.directory [])
      | levels + 1 =>
        for e in ← place.readDir do
          if let some entry ← snapshot levels e.path.toString then
            entries := entries.insert e.fileName entry
        return some (.directory entries)
    else if ← place.pathExists then
      return some (.file (← IO.FS.readBinFile place))
    else
      return none

def put (fs : Files) (names : List String) (entry : Entry) : Files :=
  match names, entry with
  | [], .directory entries => { fs with root := entries }
  | _, _ => { fs with root := Files.insertAt entry names fs.root }

/-- Takes what stands at each step of a path, so that the path can be followed, and at its end as
many levels below as given. -/
def takeIn (levels : Nat) (fs : Files) (path : String) : IO Files := do
  let mut fs := fs
  let mut names := []
  for name in fs.namesFrom path do
    if name == ".." then
      names := names.dropLast
    else if name != "" && name != "." then
      names := names ++ [name]
      if !fs.pathExists (Path.absolute names) then
        if let some entry ← snapshot 0 (Path.absolute names) then
          fs := put fs names entry
  if 0 < levels then
    if let some entry ← snapshot levels (Path.absolute names) then
      fs := put fs names entry
  return fs

def filesFor (environment : Option String) (words : List String) : IO Files := do
  let here ← IO.currentDir
  let names := (Path.parts here.toString).filter (!·.isEmpty)
  let mut fs ← takeIn 0 ⟨[], names⟩ "."
  if let .command command := CommandLine.Reading.ofWords environment words then
    for (path, levels) in command.views do
      if !path.isEmpty then
        fs ← takeIn levels fs path
  return fs

end Logicless

open Logicless in
def main (words : List String) : IO UInt32 := do
  let environment ← IO.getEnv "STACHE_EXAMPLES_DIR"
  let fs ← filesFor environment words
  let effect := CommandLine.run fs environment words
  for (names, content) in fs.changes effect.files do
    IO.FS.writeBinFile (Path.absolute names) content
  (← IO.getStdout).putStr effect.output
  (← IO.getStderr).putStr effect.errorOutput
  return effect.exitCode.toUInt32
