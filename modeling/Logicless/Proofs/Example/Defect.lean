import Logicless.Proofs.Example

namespace Logicless

open Logicless.Path (IsName)

variable {fs : FileTree} {other : Files} {path name template output : String} {e : Example}
  {error : TemplateError}

namespace Example

def filesWith (fs : Files) (path : String) (extensions : List String) : List String :=
  ((fs.entries path).filter fun e =>
    !e.2.isDirectory && (Path.extension? e.1).any extensions.contains).map fun e =>
      Path.join path e.1

def templateFiles (fs : Files) (path : String) : List String :=
  filesWith fs path ["mustache"]

def outputFiles (fs : Files) (path : String) : List String :=
  filesWith fs path ["txt"]

def dataFiles (fs : Files) (path : String) : List String :=
  filesWith fs path ["json", "yaml", "yml"]

/-- The directory holds one template and one output. -/
structure Counted (fs : Files) (path template output : String) : Prop where
  templates_eq : templateFiles fs path = [template]
  outputs_eq : outputFiles fs path = [output]

inductive HasData (fs : Files) (path : String) : Value → Prop
  | none (h : dataFiles fs path = []) : HasData fs path .empty
  | file {file : String} {data : Value} (hfile : dataFiles fs path = [file])
      (h : DataFile.load fs file = .ok data) : HasData fs path data

/-- The files of a directory make up this example. -/
structure Holds (fs : Files) (path template output : String) (e : Example) : Prop
    extends Counted fs path template output where
  hasData : HasData fs path e.data
  readTemplate_eq : fs.readText template = .ok e.template
  readOutput_eq : fs.readText output = .ok e.expected
  loadPartials_eq : PartialsDirectory.load fs (Path.join path "partials") = .ok e.partials
  name_eq : e.name = (Path.fileName? path).getD ""
  path_eq : e.path = path

/-- What is wrong with a directory, given that nothing is that comes before. -/
inductive Defective (fs : Files) (path : String) : TemplateError → Prop
  | templates (h : (templateFiles fs path).length ≠ 1) :
      Defective fs path (.invalidExample path (.templates (templateFiles fs path).length))
  | outputs {template : String} (htemplates : templateFiles fs path = [template])
      (h : (outputFiles fs path).length ≠ 1) :
      Defective fs path (.invalidExample path (.outputs (outputFiles fs path).length))
  | dataFiles {template output : String} (hcounted : Counted fs path template output)
      (h : 1 < (dataFiles fs path).length) :
      Defective fs path (.invalidExample path .severalDataFiles)
  | data {template output file : String} {error : TemplateError}
      (hcounted : Counted fs path template output) (hfile : Example.dataFiles fs path = [file])
      (h : DataFile.Fails fs file error) : Defective fs path error
  | template {template output : String} {data : Value} {fault : FileFault}
      (hcounted : Counted fs path template output) (hdata : HasData fs path data)
      (h : fs.readText template = .error fault) : Defective fs path (.file fault)
  | output {template output source : String} {data : Value} {fault : FileFault}
      (hcounted : Counted fs path template output) (hdata : HasData fs path data)
      (htemplate : fs.readText template = .ok source) (h : fs.readText output = .error fault) :
      Defective fs path (.file fault)
  | partials {template output source expected : String} {data : Value} {error : TemplateError}
      (hcounted : Counted fs path template output) (hdata : HasData fs path data)
      (htemplate : fs.readText template = .ok source) (houtput : fs.readText output = .ok expected)
      (h : PartialsDirectory.load fs (Path.join path "partials") = .error error) :
      Defective fs path error

theorem mem_filesWith_iff {extensions : List String} {file : String} :
    file ∈ filesWith fs path extensions ↔
      ∃ name content, (fs.entries path).find? name = some (.file content) ∧
        (Path.extension? name).any extensions.contains = true ∧ file = Path.join path name := by
  constructor
  · intro h
    obtain ⟨⟨name, e⟩, he, rfl⟩ := List.mem_map.1 h
    obtain ⟨hmem, hfilter⟩ := List.mem_filter.1 he
    rw [Bool.and_eq_true] at hfilter
    cases e with
    | directory entries => cases hfilter.1
    | file content =>
      have hfind := (fs.ordered_entries path).find?_eq_some_iff.2 hmem
      exact ⟨name, content, hfind, hfilter.2, rfl⟩
  · rintro ⟨name, content, hfind, hextension, rfl⟩
    exact List.mem_map.2 ⟨_, List.mem_filter.2 ⟨Dictionary.mem_of_find? hfind, hextension⟩, rfl⟩

theorem files_eq (fs : FileTree) (path : String) :
    ExampleFiles.ofDirectory fs path =
      ⟨templateFiles fs path, outputFiles fs path, dataFiles fs path⟩ := by
  have hfiles : ∀ extensions : List String,
      ((fs.children path).filter fs.isFile).filter (fun file =>
        (Path.extension? file).any extensions.contains) = filesWith fs path extensions := by
    intro extensions
    rw [List.filter_filter, Files.children_eq, Dictionary.keys, List.map_map, List.filter_map,
      filesWith]
    congr 1
    apply List.filter_congr
    intro e he
    have hfind := (fs.ordered_entries path).find?_eq_some_iff.2 he
    have hname := fs.isName hfind
    have hfile : fs.isFile (Path.join path e.1) = !e.2.isDirectory := by
      rw [Bool.eq_iff_iff, Files.isFile_iff, Files.entry_join_of_find? hfind hname]
      cases e.2 <;> simp [Entry.isDirectory]
    have hpath := Files.ne_empty_of_entry (Files.entry_of_find? hfind)
    simp only [Function.comp_apply, Path.extension?_join hpath hname, hfile]
    exact Bool.and_comm _ _
  rw [ExampleFiles.ofDirectory]
  exact congr (congr (congrArg _ (hfiles _)) (hfiles _)) (hfiles _)

theorem single_eq_ok_iff {defect : Nat → ExampleDefect} {files : List String} {file : String} :
    single path defect files = .ok file ↔ files = [file] := by
  constructor
  · exact single_eq_ok
  · rintro rfl
    rfl

theorem single_eq_error_iff {defect : Nat → ExampleDefect} {files : List String} :
    single path defect files = .error error ↔
      files.length ≠ 1 ∧ error = .invalidExample path (defect files.length) := by
  match files with
  | [] => simp [single, eq_comm]
  | [file] => simp [single]
  | _ :: _ :: _ => simp [single, eq_comm]

theorem loadData_eq_ok_iff {data : Value} :
    loadData fs path (dataFiles fs path) = .ok data ↔ HasData fs path data := by
  constructor
  · intro h
    rw [loadData.eq_def] at h
    split at h
    · next hnone =>
      cases h
      exact .none hnone
    · next file hfile => exact .file hfile h
    · cases h
  · intro h
    cases h with
    | none h => rw [h, loadData]
    | file hfile h => rw [hfile, loadData, h]

theorem loadData_eq_error_iff {files : List String} :
    loadData fs path files = .error error ↔
      1 < files.length ∧ error = .invalidExample path .severalDataFiles ∨
        ∃ file, files = [file] ∧ DataFile.Fails fs file error := by
  match files with
  | [] => simp [loadData]
  | [file] => simp [loadData, DataFile.load_eq_error_iff]
  | _ :: _ :: _ => simp [loadData, eq_comm]

theorem read_eq_ok_iff {file text : String} :
    read fs file = .ok text ↔ fs.readText file = .ok text :=
  mapError_eq_ok_iff

theorem read_eq_error_iff {file : String} :
    read fs file = .error error ↔ ∃ fault, fs.readText file = .error fault ∧ .file fault = error :=
  mapError_eq_error_iff

theorem ofDirectory_eq (fs : FileTree) (path : String) :
    ofDirectory fs path = do
      let templateFile ← single path .templates (templateFiles fs path)
      let outputFile ← single path .outputs (outputFiles fs path)
      let data ← loadData fs path (dataFiles fs path)
      let template ← read fs templateFile
      let expected ← read fs outputFile
      let partials ← PartialsDirectory.load fs (Path.join path "partials")
      return ⟨(Path.fileName? path).getD "", path, template, data, expected, partials⟩ := by
  rw [ofDirectory, files_eq]

theorem ofDirectory_eq_ok_iff :
    ofDirectory fs path = .ok e ↔ ∃ template output, Holds fs path template output e := by
  simp only [ofDirectory_eq, bind_eq_ok_iff, single_eq_ok_iff, loadData_eq_ok_iff,
    read_eq_ok_iff]
  constructor
  · rintro ⟨template, htemplates, output, houtputs, data, hdata, source, hsource, expected,
      hexpected, partials, hpartials, h⟩
    cases h
    exact ⟨template, output, ⟨htemplates, houtputs⟩, hdata, hsource, hexpected, hpartials, rfl,
      rfl⟩
  · rintro ⟨template, output, h⟩
    refine ⟨template, h.templates_eq, output, h.outputs_eq, e.data, h.hasData, e.template,
      h.readTemplate_eq, e.expected, h.readOutput_eq, e.partials, h.loadPartials_eq, ?_⟩
    rw [← h.name_eq, ← h.path_eq]
    rfl

theorem ofDirectory_eq_error_iff :
    ofDirectory fs path = .error error ↔ Defective fs path error := by
  simp only [ofDirectory_eq, bind_eq_error_iff, single_eq_ok_iff, single_eq_error_iff,
    loadData_eq_ok_iff, loadData_eq_error_iff, read_eq_ok_iff, read_eq_error_iff]
  constructor
  · rintro (⟨h, rfl⟩ | ⟨template, htemplates, h⟩)
    · exact .templates h
    rcases h with ⟨h, rfl⟩ | ⟨output, houtputs, h⟩
    · exact .outputs htemplates h
    have hcounted : Counted fs path template output := ⟨htemplates, houtputs⟩
    rcases h with (⟨h, rfl⟩ | ⟨file, hfile, h⟩) | ⟨data, hdata, h⟩
    · exact .dataFiles hcounted h
    · exact .data hcounted hfile h
    rcases h with ⟨fault, h, rfl⟩ | ⟨source, hsource, h⟩
    · exact .template hcounted hdata h
    rcases h with ⟨fault, h, rfl⟩ | ⟨expected, hexpected, h⟩
    · exact .output hcounted hdata hsource h
    rcases h with h | ⟨partials, -, h⟩
    · exact .partials hcounted hdata hsource hexpected h
    · cases h
  · intro h
    cases h with
    | templates h => exact .inl ⟨h, rfl⟩
    | outputs htemplates h => exact .inr ⟨_, htemplates, .inl ⟨h, rfl⟩⟩
    | dataFiles hcounted h =>
      exact .inr ⟨_, hcounted.templates_eq, .inr ⟨_, hcounted.outputs_eq, .inl (.inl ⟨h, rfl⟩)⟩⟩
    | data hcounted hfile h =>
      exact .inr ⟨_, hcounted.templates_eq, .inr ⟨_, hcounted.outputs_eq,
        .inl (.inr ⟨_, hfile, h⟩)⟩⟩
    | template hcounted hdata h =>
      exact .inr ⟨_, hcounted.templates_eq, .inr ⟨_, hcounted.outputs_eq, .inr ⟨_, hdata,
        .inl ⟨_, h, rfl⟩⟩⟩⟩
    | output hcounted hdata hsource h =>
      exact .inr ⟨_, hcounted.templates_eq, .inr ⟨_, hcounted.outputs_eq, .inr ⟨_, hdata,
        .inr ⟨_, hsource, .inl ⟨_, h, rfl⟩⟩⟩⟩⟩
    | partials hcounted hdata hsource hexpected h =>
      exact .inr ⟨_, hcounted.templates_eq, .inr ⟨_, hcounted.outputs_eq, .inr ⟨_, hdata,
        .inr ⟨_, hsource, .inr ⟨_, hexpected, .inl h⟩⟩⟩⟩⟩

section

variable {content : ByteArray} {source : String}
  (hfind : (fs.entries path).find? name = some (.file content))
  (hentry : other.entry path =
    .ok (.directory (Dictionary.insert name (.file source.toUTF8) (fs.entries path))))
include hfind hentry

theorem entry_of_insert_of_ne {file : String} (hne : name ≠ file) (hfile : IsName file) :
    other.entry (Path.join path file) = fs.entry (Path.join path file) := by
  have hpath := Files.ne_empty_of_entry hentry
  rw [other.entry_join hpath hfile, fs.entry_join hpath hfile, hentry, Files.entry_of_find? hfind]
  simp only [Except.bind, Entry.child, Dictionary.find?_insert_of_ne hne]

theorem entry_of_mem_filesWith (hextension : Path.extension? name = some "mustache")
    {extensions : List String} (hnot : "mustache" ∉ extensions) {file : String}
    (hfile : file ∈ filesWith fs path extensions) :
    other.entry file = fs.entry file := by
  obtain ⟨n, _, hn, hextensions, rfl⟩ := mem_filesWith_iff.1 hfile
  apply entry_of_insert_of_ne hfind hentry _ (fs.isName hn)
  rintro rfl
  rw [hextension, Option.any_some, List.contains_iff_mem] at hextensions
  exact hnot hextensions

theorem filesWith_of_insert (extensions : List String) :
    filesWith other path extensions = filesWith fs path extensions := by
  rw [filesWith, Files.entries_eq_of_entry hentry, filesWith]
  exact (fs.ordered_entries path).map_filter_insert hfind rfl rfl

theorem HasData.of_insert (hextension : Path.extension? name = some "mustache") {data : Value}
    (h : HasData fs path data) : HasData other path data := by
  have hfiles : dataFiles other path = dataFiles fs path := filesWith_of_insert hfind hentry _
  cases h with
  | none h => exact .none (hfiles.trans h)
  | @file file _ hfile h =>
    have hmem : file ∈ dataFiles fs path := by
      rw [hfile]
      exact .head _
    have hsame := entry_of_mem_filesWith hfind hentry hextension (by decide) hmem
    exact .file (hfiles.trans hfile) ((DataFile.load_congr hsame).trans h)

theorem Holds.of_insert (hextension : Path.extension? name = some "mustache")
    (h : Holds fs path template output e) :
    Holds other path template output { e with template := source } := by
  have hname := fs.isName hfind
  have hpath := Files.ne_empty_of_entry hentry
  have htemplate : template = Path.join path name := by
    have hmem : Path.join path name ∈ templateFiles fs path :=
      mem_filesWith_iff.2 ⟨name, content, hfind, by rw [hextension]; decide, rfl⟩
    rw [h.templates_eq] at hmem
    exact (List.mem_singleton.1 hmem).symm
  have hsource : other.entry template = .ok (.file source.toUTF8) := by
    rw [htemplate, other.entry_join hpath hname, hentry]
    simp only [Except.bind, Entry.child, Dictionary.find?_insert_self]
  have hmem : output ∈ outputFiles fs path := by
    rw [h.outputs_eq]
    exact .head _
  have houtput := entry_of_mem_filesWith hfind hentry hextension (by decide) hmem
  have hpartials :
      other.entry (Path.join path "partials") = fs.entry (Path.join path "partials") := by
    apply entry_of_insert_of_ne hfind hentry _ (by decide)
    rintro rfl
    revert hextension
    decide
  refine
    { templates_eq := (filesWith_of_insert hfind hentry _).trans h.templates_eq
      outputs_eq := (filesWith_of_insert hfind hentry _).trans h.outputs_eq
      hasData := h.hasData.of_insert hfind hentry hextension
      readTemplate_eq := ?_
      readOutput_eq := (Files.readText_congr houtput).trans h.readOutput_eq
      loadPartials_eq := (PartialsDirectory.load_congr hpartials.symm).symm.trans h.loadPartials_eq
      name_eq := h.name_eq
      path_eq := h.path_eq }
  rw [Files.readText_eq, hsource]
  simp only [Except.bind, Entry.text, Files.fromUTF8?_toUTF8]

end

/-- A directory gives the example that its files make up, if they make up one, and else the first of
its defects. It gives one whatever the text of the template is, and whether it compiles or not. -/
theorem ofDirectory_exact (fs : FileTree) (path : String) :
    (∀ e, ofDirectory fs path = .ok e ↔ ∃ template output, Holds fs path template output e) ∧
      (∀ error, ofDirectory fs path = .error error ↔ Defective fs path error) ∧
      ∀ e, ofDirectory fs path = .ok e → ∀ name content,
        (fs.entries path).find? name = some (.file content) →
        Path.extension? name = some "mustache" →
        ∀ (other : FileTree) (source : String),
          other.entry path =
            .ok (.directory (Dictionary.insert name (.file source.toUTF8) (fs.entries path))) →
          ofDirectory other path = .ok { e with template := source } := by
  refine ⟨fun _ => ofDirectory_eq_ok_iff, fun _ => ofDirectory_eq_error_iff, ?_⟩
  intro e h name content hfind hextension other source hentry
  obtain ⟨template, output, hholds⟩ := ofDirectory_eq_ok_iff.1 h
  have hnew := hholds.of_insert hfind hentry hextension
  exact ofDirectory_eq_ok_iff.2 ⟨template, output, hnew⟩

def exampleWith (source : String) : FileTree where
  root := [("e", .directory [("d.json", .directory []), ("o.txt", .file "x".toUTF8),
    ("t.mustache", .file source.toUTF8)])]
  workingDirectory := []
  wellFormed := by
    simp only [Entry.WellFormed.cons_iff, Entry.WellFormed.nil, Entry.WellFormed.file,
      List.forall_mem_cons, List.not_mem_nil, false_imp_iff, implies_true, and_true, true_and]
    decide

/-- Too many data files in one directory, one that is no document in the other, and texts that are
none. -/
def defectiveFiles : FileTree where
  root := [("e", .directory [("a.json", .file ⟨#[255]⟩), ("b.yml", .file "x".toUTF8),
      ("o.txt", .file "x".toUTF8), ("t.mustache", .file ⟨#[255]⟩)]),
    ("f", .directory [("d.json", .file "\x7b".toUTF8), ("o.txt", .file "x".toUTF8),
      ("t.mustache", .file ⟨#[255]⟩)])]
  workingDirectory := []
  wellFormed := by
    simp only [Entry.WellFormed.cons_iff, Entry.WellFormed.nil, Entry.WellFormed.file, and_true,
      true_and]
    decide

/-- A broken template is no defect, and of several defects the first one counts: the number of the
data files, or what is in the only one, comes before the text of the template. -/
theorem ofDirectory_exact_broken_template :
    (∃ error, Template.compile "\x7b\x7b" = .error error) ∧
      ofDirectory (exampleWith "\x7b\x7b") "e" =
        .ok ⟨"e", "e", "\x7b\x7b", .empty, "x", .empty "e/partials"⟩ ∧
      ofDirectory defectiveFiles "e" = .error (.invalidExample "e" .severalDataFiles) ∧
      ofDirectory defectiveFiles "f" = .error .json := by
  have hbroken : Node.ofSource "\x7b\x7b" = .error (.scan ⟨0⟩) := by cbv
  obtain ⟨hok, -, hany⟩ := ofDirectory_exact (exampleWith "x") "e"
  obtain ⟨-, hcrowded, -⟩ := ofDirectory_exact defectiveFiles "e"
  obtain ⟨-, hmalformed, -⟩ := ofDirectory_exact defectiveFiles "f"
  have hexample : ofDirectory (exampleWith "x") "e" =
      .ok ⟨"e", "e", "x", .empty, "x", .empty "e/partials"⟩ :=
    (hok _).2 ⟨"e/t.mustache", "e/o.txt", ⟨rfl, rfl⟩, .none rfl, rfl, rfl, rfl, rfl, rfl⟩
  refine ⟨⟨_, Template.compile_eq_error_iff.2 hbroken⟩, ?_, ?_, ?_⟩
  · exact hany _ hexample "t.mustache" _ rfl (by decide) (exampleWith "\x7b\x7b") "\x7b\x7b" rfl
  · have hcounted : Counted defectiveFiles "e" "e/t.mustache" "e/o.txt" := ⟨rfl, rfl⟩
    have hseveral : 1 < (dataFiles defectiveFiles "e").length := by
      have hdata : dataFiles defectiveFiles "e" = ["e/a.json", "e/b.yml"] := rfl
      rw [hdata]
      decide
    exact (hcrowded _).2 (.dataFiles hcounted hseveral)
  · have hcounted : Counted defectiveFiles "f" "f/t.mustache" "f/o.txt" := ⟨rfl, rfl⟩
    have hdata : dataFiles defectiveFiles "f" = ["f/d.json"] := rfl
    have hread : defectiveFiles.readText "f/d.json" = .ok "\x7b" := by rfl
    exact (hmalformed _).2 (.data hcounted hdata (.json (by decide) hread (by cbv)))

end Example

end Logicless
