import Logicless.Example
import Logicless.Proofs.DataFile
import Logicless.Proofs.Partials.Directory

namespace Logicless

open Logicless.Path (IsName)

variable {fs other : Files} {root path name : String}

namespace Example

/-- The examples are those of the directories right under the root. -/
structure Exact (fs : Files) (root : String) (examples : List Example) : Prop where
  eq_filterMap : examples =
    (fs.subdirectories root).filterMap fun name => (load fs root name).toOption
  mem_iff : ∀ e, e ∈ examples ↔ ∃ name entries,
    (fs.entries root).find? name = some (.directory entries) ∧ load fs root name = .ok e
  names_pairwise : examples.Pairwise fun d e => Text.bytes d.name < Text.bytes e.name
  fields_eq : ∀ name entries e, (fs.entries root).find? name = some (.directory entries) →
    load fs root name = .ok e → e.name = name ∧ e.path = Path.join root name

theorem single_eq_ok {defect : Nat → ExampleDefect} {files : List String} {file : String}
    (h : single path defect files = .ok file) : files = [file] := by
  rw [single.eq_def] at h
  split at h
  · cases h
    rfl
  · cases h

theorem mem_of_single {defect : Nat → ExampleDefect} {files : List String} {file : String}
    (h : single path defect files = .ok file) : file ∈ files := by
  rw [single_eq_ok h]
  exact .head _

structure LoadedFrom (fs : Files) (path template output : String) (e : Example) : Prop where
  templates_eq : (ExampleFiles.ofDirectory fs path).templates = [template]
  outputs_eq : (ExampleFiles.ofDirectory fs path).outputs = [output]
  loadData_eq : loadData fs path (ExampleFiles.ofDirectory fs path).data = .ok e.data
  readTemplate_eq : fs.readText template = .ok e.template
  readOutput_eq : fs.readText output = .ok e.expected
  loadPartials_eq : PartialsDirectory.load fs (Path.join path "partials") = .ok e.partials
  name_eq : e.name = (Path.fileName? path).getD ""
  path_eq : e.path = path

theorem exists_loadedFrom {e : Example} (h : ofDirectory fs path = .ok e) :
    ∃ template output, LoadedFrom fs path template output e := by
  obtain ⟨templateFile, htemplates, h⟩ := bind_eq_ok_iff.1 h
  obtain ⟨outputFile, houtputs, h⟩ := bind_eq_ok_iff.1 h
  obtain ⟨data, hdata, h⟩ := bind_eq_ok_iff.1 h
  obtain ⟨template, htemplate, h⟩ := bind_eq_ok_iff.1 h
  obtain ⟨expected, hexpected, h⟩ := bind_eq_ok_iff.1 h
  obtain ⟨partials, hpartials, h⟩ := bind_eq_ok_iff.1 h
  cases h
  exact ⟨templateFile, outputFile,
    { templates_eq := single_eq_ok htemplates
      outputs_eq := single_eq_ok houtputs
      loadData_eq := hdata
      readTemplate_eq := mapError_eq_ok_iff.1 htemplate
      readOutput_eq := mapError_eq_ok_iff.1 hexpected
      loadPartials_eq := hpartials
      name_eq := rfl
      path_eq := rfl }⟩

theorem ofDirectory_fields {e : Example} (h : ofDirectory fs path = .ok e) :
    e.name = (Path.fileName? path).getD "" ∧ e.path = path := by
  obtain ⟨_, _, hloaded⟩ := exists_loadedFrom h
  exact ⟨hloaded.name_eq, hloaded.path_eq⟩

theorem files_congr {fs : FileTree} (h : fs.entry path = other.entry path) :
    ExampleFiles.ofDirectory fs path = ExampleFiles.ofDirectory other path := by
  have hfilter : (fs.children path).filter fs.isFile = (fs.children path).filter other.isFile := by
    apply List.filter_congr
    intro file hfile
    exact Files.isFile_congr (FileTree.entry_congr_of_mem_children h hfile)
  rw [ExampleFiles.ofDirectory, ExampleFiles.ofDirectory, ← Files.children_congr h, hfilter]

theorem loadData_congr {files : List String}
    (h : ∀ file ∈ files, fs.entry file = other.entry file) :
    loadData fs path files = loadData other path files := by
  match files, h with
  | [], _ => rfl
  | [file], h => exact DataFile.load_congr (h file (.head _))
  | _ :: _ :: _, _ => rfl

theorem ofDirectory_congr {fs : FileTree} (h : fs.entry path = other.entry path)
    (hpath : path ≠ "") : ofDirectory fs path = ofDirectory other path := by
  have hfile : ∀ p : String → Bool, ∀ file ∈ ((fs.children path).filter fs.isFile).filter p,
      fs.entry file = other.entry file := by
    intro p file hfile
    have hchild := List.mem_of_mem_filter (List.mem_of_mem_filter hfile)
    exact FileTree.entry_congr_of_mem_children h hchild
  have hpartials := Files.entry_join_congr h hpath (by decide : IsName "partials")
  rw [ofDirectory, ofDirectory, ← files_congr h, ← PartialsDirectory.load_congr hpartials]
  apply bind_congr_ok
  intro templateFile htemplate
  apply bind_congr_ok
  intro outputFile houtput
  have hdata : loadData fs path (ExampleFiles.ofDirectory fs path).data =
      loadData other path (ExampleFiles.ofDirectory fs path).data :=
    loadData_congr (hfile _)
  have htext := Files.readText_congr (hfile _ _ (mem_of_single htemplate))
  have hexpected := Files.readText_congr (hfile _ _ (mem_of_single houtput))
  rw [hdata, read, read, read, read, htext, hexpected]

section

variable {fs : FileTree} {entries : Dictionary Entry}
  (h : (fs.entries root).find? name = some (.directory entries))
include h

theorem load_eq_ofDirectory : load fs root name = ofDirectory fs (Path.join root name) := by
  rw [load, if_pos]
  exact Files.isDirectory_iff.2 ⟨entries, Files.entry_join_of_find? h (fs.isName h)⟩

theorem load_fields {e : Example} (he : load fs root name = .ok e) :
    e.name = name ∧ e.path = Path.join root name := by
  rw [load_eq_ofDirectory h] at he
  obtain ⟨hname, hpath⟩ := ofDirectory_fields he
  have hroot := Files.ne_empty_of_entry (Files.entry_of_find? h)
  rw [Path.fileName?_join hroot (fs.isName h)] at hname
  exact ⟨hname, hpath⟩

theorem load_congr {other : FileTree}
    (h' : (other.entries root).find? name = some (.directory entries)) :
    load fs root name = load other root name := by
  rw [load_eq_ofDirectory h, load_eq_ofDirectory h']
  have hentry := Files.entry_join_of_find? h (fs.isName h)
  have hentry' := Files.entry_join_of_find? h' (other.isName h')
  exact ofDirectory_congr (hentry.trans hentry'.symm) (Files.ne_empty_of_entry hentry)

end

theorem loadAll_eq_filterMap (fs : FileTree) (root : String) :
    loadAll fs root =
      (fs.subdirectories root).filterMap fun name => (load fs root name).toOption := by
  rw [loadAll, FileTree.filter_children_isDirectory, List.filterMap_map]
  apply List.filterMap_congr
  intro name hname
  obtain ⟨entries, h⟩ := FileTree.mem_subdirectories_iff.1 hname
  rw [load_eq_ofDirectory h, Function.comp_apply]

theorem mem_loadAll_iff {fs : FileTree} {e : Example} :
    e ∈ loadAll fs root ↔ ∃ name entries,
      (fs.entries root).find? name = some (.directory entries) ∧ load fs root name = .ok e := by
  rw [loadAll_eq_filterMap, List.mem_filterMap]
  constructor
  · intro h
    obtain ⟨name, hname, he⟩ := h
    obtain ⟨entries, hentries⟩ := FileTree.mem_subdirectories_iff.1 hname
    exact ⟨name, entries, hentries, toOption_eq_some_iff.1 he⟩
  · intro h
    obtain ⟨name, entries, hentries, he⟩ := h
    refine ⟨name, FileTree.mem_subdirectories_iff.2 ⟨entries, hentries⟩, ?_⟩
    exact toOption_eq_some_iff.2 he

theorem mem_loadAll_of_load {fs : FileTree} (hroot : root ≠ "") (hname : IsName name)
    {e : Example} (he : load fs root name = .ok e) : e ∈ loadAll fs root := by
  have hdirectory : fs.isDirectory (Path.join root name) = true := by
    by_contra h
    rw [load, if_neg h] at he
    cases he
  obtain ⟨entries, hentry⟩ := Files.isDirectory_iff.1 hdirectory
  exact mem_loadAll_iff.2 ⟨name, entries, Files.find?_of_entry_join hroot hname hentry, he⟩

theorem loadAll_pairwise (fs : FileTree) (root : String) :
    (loadAll fs root).Pairwise fun d e => d.name < e.name := by
  rw [loadAll_eq_filterMap, List.pairwise_filterMap]
  apply (fs.subdirectories_pairwise root).imp_of_mem
  intro a b ha hb hlt d hd e he
  obtain ⟨_, ha⟩ := FileTree.mem_subdirectories_iff.1 ha
  obtain ⟨_, hb⟩ := FileTree.mem_subdirectories_iff.1 hb
  rw [(load_fields ha (toOption_eq_some_iff.1 hd)).1,
    (load_fields hb (toOption_eq_some_iff.1 he)).1]
  exact hlt

/-- The examples under a root are those that its directories give one by one, in the order of their
names. None of them depends on anything beside its directory. -/
theorem loadAll_exact (fs : FileTree) (root : String) :
    Exact fs root (loadAll fs root) ∧
      (fs.isDirectory root = false → loadAll fs root = []) ∧
      ∀ (other : FileTree) name entries,
        (fs.entries root).find? name = some (.directory entries) →
          (other.entries root).find? name = some (.directory entries) →
            load fs root name = load other root name := by
  have hexact : Exact fs root (loadAll fs root) :=
    { eq_filterMap := loadAll_eq_filterMap fs root
      mem_iff := fun _ => mem_loadAll_iff
      names_pairwise := (loadAll_pairwise fs root).imp (Text.lt_iff_bytes_lt _ _).1
      fields_eq := fun _ _ _ h => load_fields h }
  refine ⟨hexact, ?_, ?_⟩
  · intro h
    rw [loadAll_eq_filterMap, Files.subdirectories_eq_nil h, List.filterMap_nil]
  · intro other name entries h h'
    exact load_congr h h'

def sampleEntries : Dictionary Entry :=
  [("bad", .directory [("t.mustache", .file "x".toUTF8)]),
    ("good", .directory [("e.txt", .file "x".toUTF8), ("t.mustache", .file "x".toUTF8)]),
    ("notes", .file ⟨#[255]⟩),
    ("wrong", .directory [("e.txt", .file "y".toUTF8), ("t.mustache", .file "x".toUTF8)])]

def sampleFiles : FileTree where
  root := [("examples", .directory sampleEntries)]
  workingDirectory := []
  wellFormed := by
    simp only [sampleEntries, Entry.WellFormed.cons_iff, Entry.WellFormed.nil,
      Entry.WellFormed.file, and_true, true_and]
    decide

def sample (name expected : String) : Example :=
  ⟨name, "examples/" ++ name, "x", .empty, expected,
    .empty ("examples/" ++ name ++ "/partials")⟩

theorem filterMap_load_sampleFiles :
    ((sampleFiles.subdirectories "examples").filterMap fun name =>
        (load sampleFiles "examples" name).toOption) =
      [sample "good" "x", sample "wrong" "y"] := by
  rfl

/-- A directory that holds no example does no harm to those beside it. -/
theorem loadAll_exact_broken_neighbour :
    Exact sampleFiles "examples" (loadAll sampleFiles "examples") ∧
      loadAll sampleFiles "examples" = [sample "good" "x", sample "wrong" "y"] := by
  obtain ⟨hexact, -, -⟩ := loadAll_exact sampleFiles "examples"
  refine ⟨hexact, ?_⟩
  rw [hexact.eq_filterMap, filterMap_load_sampleFiles]

end Example

end Logicless
