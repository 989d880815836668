import Logicless.Partials.Directory
import Logicless.Proofs.Files.Tree
import Logicless.Proofs.Template.Compilation
import Logicless.Proofs.Text.ByteOrder

namespace Logicless

def Template.IsIn (t : Template) (content : ByteArray) : Prop :=
  ∃ source, String.fromUTF8? content = some source ∧ Template.compile source = .ok t

theorem Template.IsIn.unique {t u : Template} {content : ByteArray} (ht : t.IsIn content)
    (hu : u.IsIn content) : t = u := by
  obtain ⟨source, hsource, ht⟩ := ht
  obtain ⟨source', hsource', hu⟩ := hu
  cases hsource.symm.trans hsource'
  cases ht.symm.trans hu
  rfl

namespace PartialsDirectory

/-- A template file right in the directory, and what is in it. -/
def Holds (fs : Files) (path file : String) (content : ByteArray) : Prop :=
  (fs.entries path).find? file = some (.file content) ∧
    Path.extension? file = some templateExtension

/-- The error of a partial whose file is no text, or no template. -/
inductive Broken (stem : String) (content : ByteArray) : TemplateError → Prop
  | notText (h : String.fromUTF8? content = none) : Broken stem content (.file .notText)
  | compile {source : String} {e : CompileError} (h : String.fromUTF8? content = some source)
      (he : Template.compile source = .error e) : Broken stem content (.inclusion stem e)

/-- The partials are exactly those of the template files in the directory. -/
structure Complete (fs : Files) (path : String) (d : PartialsDirectory) : Prop where
  path_eq : d.path = path
  names_pairwise : d.partials.names.Pairwise fun a b => Text.bytes a < Text.bytes b
  mem_names_iff : ∀ stem, stem ∈ d.partials.names ↔
    ∃ file content, Holds fs path file content ∧ Path.stem? file = some stem
  size_eq : d.partials.size = {file | ∃ content, Holds fs path file content}.ncard
  resolve_eq : ∀ file content, Holds fs path file content →
    ∃ stem t, Path.stem? file = some stem ∧ t.IsIn content ∧ d.partials.resolve stem = some t

variable {fs : FileTree} {path file stem : String} {content : ByteArray}

def binding (fs : Files) (file : String) : Except TemplateError (String × Template) :=
  let name := (Path.stem? file).getD ""
  match fs.readText file with
  | .error fault => .error (.file fault)
  | .ok source => ((Template.compile source).map fun t => (name, t)).mapError (.inclusion name)

theorem addFile_eq (fs : Files) (ps : Partials) (file : String) :
    addFile fs ps file = (binding fs file).map fun b => ps.insert b.1 b.2 := by
  rw [addFile, binding]
  cases fs.readText file with
  | error fault => rfl
  | ok source =>
    simp only [Partials.insertSource]
    cases Template.compile source <;> rfl

def fileName (stem : String) : String :=
  stem ++ "." ++ templateExtension

theorem splitName_fileName (hstem : stem ≠ "") :
    Path.splitName (fileName stem) = (stem, some templateExtension) :=
  Path.splitName_eq_iff.2 ⟨hstem, by decide, rfl⟩

theorem fileName_injective : Function.Injective fileName := by
  intro a b h
  rw [fileName, fileName, String.append_left_inj, String.append_left_inj] at h
  exact h

theorem stem?_fileName (hstem : stem ≠ "") (h : Path.IsName (fileName stem)) :
    Path.stem? (fileName stem) = some stem := by
  rw [Path.stem?, Path.fileName?_of_isName h, Option.map_some, splitName_fileName hstem]

theorem extension?_fileName (hstem : stem ≠ "") (h : Path.IsName (fileName stem)) :
    Path.extension? (fileName stem) = some templateExtension := by
  rw [Path.extension?, Path.fileName?_of_isName h, Option.bind_some, splitName_fileName hstem]

theorem exists_fileName_eq (h : Path.IsName file)
    (hext : Path.extension? file = some templateExtension) :
    ∃ stem, stem ≠ "" ∧ file = fileName stem := by
  rw [Path.extension?, Path.fileName?_of_isName h, Option.bind_some] at hext
  have hsplit : Path.splitName file = ((Path.splitName file).1, some templateExtension) := by
    rw [← hext]
  obtain ⟨hstem, -, hfile⟩ := Path.splitName_eq_iff.1 hsplit
  exact ⟨_, hstem, hfile⟩

def Binds (fs : Files) (path stem : String) (content : ByteArray) : Prop :=
  stem ≠ "" ∧ (fs.entries path).find? (fileName stem) = some (.file content)

theorem Holds.exists_binds (h : Holds fs path file content) :
    ∃ stem, file = fileName stem ∧ Path.stem? file = some stem ∧ Binds fs path stem content := by
  have hname := fs.isName h.1
  obtain ⟨stem, hstem, rfl⟩ := exists_fileName_eq hname h.2
  exact ⟨stem, rfl, stem?_fileName hstem hname, hstem, h.1⟩

namespace Binds

variable (h : Binds fs path stem content)
include h

theorem path_ne_empty : path ≠ "" :=
  Files.ne_empty_of_entry (Files.entry_of_find? h.2)

theorem isName : Path.IsName (fileName stem) :=
  fs.isName h.2

theorem holds : Holds fs path (fileName stem) content :=
  ⟨h.2, extension?_fileName h.1 h.isName⟩

theorem stem?_eq : Path.stem? (fileName stem) = some stem :=
  stem?_fileName h.1 h.isName

theorem binding_cases :
    (∃ t : Template, t.IsIn content ∧
        binding fs (Path.join path (fileName stem)) = .ok (stem, t)) ∨
      ∃ e, Broken stem content e ∧ binding fs (Path.join path (fileName stem)) = .error e := by
  have hread : fs.readText (Path.join path (fileName stem)) = Entry.text (.file content) := by
    rw [Files.readText_eq, Files.entry_join_of_find? h.2 h.isName]
    rfl
  have hstem : Path.stem? (Path.join path (fileName stem)) = some stem := by
    rw [Path.stem?, Path.fileName?_join h.path_ne_empty h.isName, Option.map_some,
      splitName_fileName h.1]
  rw [binding, hstem, hread, Entry.text]
  cases htext : String.fromUTF8? content with
  | none => exact .inr ⟨_, .notText htext, rfl⟩
  | some source =>
    cases hcompile : Template.compile source with
    | error e =>
      refine .inr ⟨_, .compile htext hcompile, ?_⟩
      simp only [hcompile]
      rfl
    | ok t =>
      refine .inl ⟨t, ⟨source, htext, hcompile⟩, ?_⟩
      simp only [hcompile]
      rfl

end Binds

theorem foldlM_addFile_congr {fs other : Files} {files : List String} (ps : Partials)
    (h : ∀ file ∈ files, fs.entry file = other.entry file) :
    files.foldlM (addFile fs) ps = files.foldlM (addFile other) ps := by
  induction files generalizing ps with
  | nil => rfl
  | cons file files ih =>
    obtain ⟨hfile, hrest⟩ := List.forall_mem_cons.1 h
    rw [List.foldlM_cons, List.foldlM_cons, addFile_eq, addFile_eq, binding, binding,
      Files.readText_congr hfile]
    congr 1
    funext ps
    exact ih ps hrest

theorem load_congr {other : Files} (h : fs.entry path = other.entry path) :
    load fs path = load other path := by
  have hentry : ∀ file ∈ fs.children path, fs.entry file = other.entry file := by
    intro file hfile
    exact FileTree.entry_congr_of_mem_children h hfile
  have hfilter : (fs.children path).filter fs.isTemplate =
      (fs.children path).filter other.isTemplate := by
    apply List.filter_congr
    intro file hfile
    rw [Files.isTemplate, Files.isTemplate, Files.isFile_congr (hentry file hfile)]
  rw [load, load, ofEntries, ofEntries, ← Files.children_congr h, ← hfilter]
  apply congrArg
  apply foldlM_addFile_congr
  intro file hfile
  exact hentry file (List.mem_of_mem_filter hfile)

theorem mem_templates_iff {file : String} :
    file ∈ (fs.children path).filter fs.isTemplate ↔
      ∃ stem content, Binds fs path stem content ∧ file = Path.join path (fileName stem) := by
  rw [List.mem_filter, Files.mem_children_iff, Files.isTemplate, Bool.and_eq_true, beq_iff_eq,
    Files.isFile_iff]
  constructor
  · rintro ⟨⟨name, e, he, rfl⟩, ⟨content, hcontent⟩, hext⟩
    have hname := fs.isName he
    have hpath := Files.ne_empty_of_entry (Files.entry_of_find? he)
    rw [Files.entry_join_of_find? he hname] at hcontent
    cases hcontent
    rw [Path.extension?_join hpath hname] at hext
    obtain ⟨stem, hstem, rfl⟩ := exists_fileName_eq hname hext
    exact ⟨stem, content, ⟨hstem, he⟩, rfl⟩
  · rintro ⟨stem, content, h, rfl⟩
    have hname := h.isName
    refine ⟨⟨_, _, h.2, rfl⟩, ⟨content, Files.entry_join_of_find? h.2 hname⟩, ?_⟩
    rw [Path.extension?_join h.path_ne_empty hname]
    exact extension?_fileName h.1 hname

theorem foldlM_addFile_cases (fs : Files) (files : List String) (ps : Partials) :
    (∃ bindings, files.map (binding fs) = bindings.map .ok ∧
        files.foldlM (addFile fs) ps = .ok ⟨ps.bindings.insertAll bindings⟩) ∨
      ∃ file ∈ files, ∃ e, binding fs file = .error e ∧
        files.foldlM (addFile fs) ps = .error e := by
  induction files generalizing ps with
  | nil => exact .inl ⟨[], rfl, rfl⟩
  | cons file files ih =>
    rw [List.foldlM_cons, addFile_eq, List.map_cons]
    cases hfile : binding fs file with
    | error e => exact .inr ⟨file, .head _, e, hfile, rfl⟩
    | ok b =>
      obtain ⟨bindings, hbindings, hfold⟩ | ⟨other, hother, e, he, hfold⟩ := ih (ps.insert b.1 b.2)
      · exact .inl ⟨b :: bindings, by rw [hbindings, List.map_cons], hfold⟩
      · exact .inr ⟨other, .tail _ hother, e, he, hfold⟩

/-- The bindings are the partials of the directory, each once. -/
structure Lists (fs : Files) (path : String) (bindings : List (String × Template)) : Prop where
  nodup : (bindings.map Prod.fst).Nodup
  mem_iff : ∀ b, b ∈ bindings ↔ ∃ content, Binds fs path b.1 content ∧ b.2.IsIn content

theorem Lists.ofList_eq {bindings others : List (String × Template)} (h : Lists fs path bindings)
    (hothers : Lists fs path others) : Table.ofList bindings = Table.ofList others := by
  apply Table.eq_of_mem_iff
  rintro ⟨stem, t⟩
  rw [← Table.find?_eq_some_iff, ← Table.find?_eq_some_iff, Table.find?_ofList_eq_some_iff h.nodup,
    Table.find?_ofList_eq_some_iff hothers.nodup, h.mem_iff, hothers.mem_iff]

theorem nodup_children (fs : FileTree) (path : String) : (fs.children path).Nodup := by
  rw [Files.children_eq]
  apply List.Nodup.map_on _ (fs.ordered_entries path).nodup_keys
  intro a ha b hb hjoin
  obtain ⟨e, he⟩ := Dictionary.mem_keys_iff.1 ha
  obtain ⟨f, hf⟩ := Dictionary.mem_keys_iff.1 hb
  have hpath := Files.ne_empty_of_entry (Files.entry_of_find? he)
  have hname := Path.fileName?_join hpath (fs.isName he)
  rw [hjoin, Path.fileName?_join hpath (fs.isName hf)] at hname
  exact (Option.some.inj hname).symm

section

variable {files : List String} {bindings : List (String × Template)}
  (hfiles : files.Perm ((fs.children path).filter fs.isTemplate))
  (h : files.map (binding fs) = bindings.map .ok)
include hfiles

theorem mem_files_iff {file : String} :
    file ∈ files ↔
      ∃ stem content, Binds fs path stem content ∧ file = Path.join path (fileName stem) := by
  rw [hfiles.mem_iff, mem_templates_iff]

include h

theorem Binds.binding_eq_ok (hbinds : Binds fs path stem content) :
    ∃ t : Template, t.IsIn content ∧
      binding fs (Path.join path (fileName stem)) = .ok (stem, t) := by
  obtain ht | ⟨e, -, he⟩ := hbinds.binding_cases
  · exact ht
  · have hfile := (mem_files_iff hfiles).2 ⟨stem, content, hbinds, rfl⟩
    have hmap := List.mem_map_of_mem (f := binding fs) hfile
    rw [h, he] at hmap
    obtain ⟨b, -, hb⟩ := List.mem_map.1 hmap
    cases hb

theorem mem_bindings_iff (b : String × Template) :
    b ∈ bindings ↔ ∃ content, Binds fs path b.1 content ∧ b.2.IsIn content := by
  have hmem : b ∈ bindings ↔ ∃ file ∈ files, binding fs file = .ok b := by
    rw [← List.mem_map, h, List.mem_map_of_injective (fun _ _ => Except.ok.inj)]
  rw [hmem]
  constructor
  · rintro ⟨file, hfile, hb⟩
    obtain ⟨stem, content, hbinds, rfl⟩ := (mem_files_iff hfiles).1 hfile
    obtain ⟨t, ht, hbinding⟩ := hbinds.binding_eq_ok hfiles h
    cases hb.symm.trans hbinding
    exact ⟨content, hbinds, ht⟩
  · rintro ⟨content, hbinds, ht⟩
    obtain ⟨u, hu, hbinding⟩ := hbinds.binding_eq_ok hfiles h
    rw [hu.unique ht] at hbinding
    exact ⟨_, (mem_files_iff hfiles).2 ⟨b.1, content, hbinds, rfl⟩, hbinding⟩

theorem nodup_bindings : bindings.Nodup := by
  have hmap : (files.map (binding fs)).Nodup := by
    apply List.Nodup.map_on _ (hfiles.nodup_iff.2 ((nodup_children fs path).filter _))
    intro file hfile other hother heq
    obtain ⟨stem, content, hbinds, rfl⟩ := (mem_files_iff hfiles).1 hfile
    obtain ⟨stem', content', hbinds', rfl⟩ := (mem_files_iff hfiles).1 hother
    obtain ⟨t, -, ht⟩ := hbinds.binding_eq_ok hfiles h
    obtain ⟨t', -, ht'⟩ := hbinds'.binding_eq_ok hfiles h
    rw [ht, ht'] at heq
    cases heq
    rfl
  rw [h] at hmap
  exact List.Nodup.of_map _ hmap

theorem lists_of_map_binding : Lists fs path bindings := by
  have hmem := mem_bindings_iff hfiles h
  refine ⟨?_, hmem⟩
  apply (nodup_bindings hfiles h).map_on
  rintro ⟨stem, t⟩ hb ⟨stem', t'⟩ hb' heq
  obtain rfl : stem = stem' := heq
  obtain ⟨content, hbinds, ht⟩ := (hmem _).1 hb
  obtain ⟨content', hbinds', ht'⟩ := (hmem _).1 hb'
  cases hbinds.2.symm.trans hbinds'.2
  exact congrArg (Prod.mk stem) (ht.unique ht')

end

theorem ofEntries_cases {entries : List String}
    (h : entries.Perm (fs.children path)) :
    (∃ bindings, Lists fs path bindings ∧
        (∀ stem content, Binds fs path stem content → ∃ t : Template, t.IsIn content) ∧
        ofEntries fs path entries = .ok ⟨path, ⟨.ofList bindings⟩⟩) ∨
      ∃ stem content e, Binds fs path stem content ∧ Broken stem content e ∧
        ofEntries fs path entries = .error e := by
  have hfiles := h.filter fs.isTemplate
  rw [ofEntries]
  obtain ⟨bindings, hbindings, hfold⟩ | ⟨file, hfile, e, he, hfold⟩ :=
    foldlM_addFile_cases fs (entries.filter fs.isTemplate) .empty
  · refine .inl ⟨bindings, lists_of_map_binding hfiles hbindings, ?_, by rw [hfold]; rfl⟩
    intro stem content hbinds
    obtain ⟨t, ht, -⟩ := hbinds.binding_eq_ok hfiles hbindings
    exact ⟨t, ht⟩
  · obtain ⟨stem, content, hbinds, rfl⟩ := (mem_files_iff hfiles).1 hfile
    obtain ⟨t, -, ht⟩ | ⟨e', hbroken, he'⟩ := hbinds.binding_cases
    · cases he.symm.trans ht
    · cases he.symm.trans he'
      exact .inr ⟨stem, content, e, hbinds, hbroken, by rw [hfold]; rfl⟩

namespace Lists

variable {bindings : List (String × Template)} (h : Lists fs path bindings)
include h

theorem find?_eq_some_iff {t : Template} :
    (Table.ofList bindings).find? stem = some t ↔
      ∃ content, Binds fs path stem content ∧ t.IsIn content := by
  rw [Table.find?_ofList_eq_some_iff h.nodup, h.mem_iff]

variable (hall : ∀ stem content, Binds fs path stem content → ∃ t : Template, t.IsIn content)
include hall

theorem mem_keys_iff :
    stem ∈ (Table.ofList bindings).keys ↔ ∃ content, Binds fs path stem content := by
  rw [Table.mem_keys_iff]
  constructor
  · intro hfind
    obtain ⟨t, ht⟩ := hfind
    obtain ⟨content, hbinds, -⟩ := h.find?_eq_some_iff.1 ht
    exact ⟨content, hbinds⟩
  · intro hstem
    obtain ⟨content, hbinds⟩ := hstem
    obtain ⟨t, ht⟩ := hall stem content hbinds
    exact ⟨t, h.find?_eq_some_iff.2 ⟨content, hbinds, ht⟩⟩

/-- There are as many partials as template files: no two files are of one stem. -/
theorem size_eq_ncard :
    (Table.ofList bindings).size = {file | ∃ content, Holds fs path file content}.ncard := by
  have hset : {file | ∃ content, Holds fs path file content} =
      fileName '' {stem | stem ∈ (Table.ofList bindings).keys} := by
    ext file
    simp only [Set.mem_image, Set.mem_ofPred_eq, h.mem_keys_iff hall]
    constructor
    · rintro ⟨content, hholds⟩
      obtain ⟨stem, hfile, -, hbinds⟩ := hholds.exists_binds
      exact ⟨stem, ⟨content, hbinds⟩, hfile.symm⟩
    · rintro ⟨stem, ⟨content, hbinds⟩, rfl⟩
      exact ⟨content, hbinds.holds⟩
  rw [hset, Set.ncard_image_of_injective _ fileName_injective]
  exact Table.size_eq_ncard _

theorem complete : Complete fs path ⟨path, ⟨.ofList bindings⟩⟩ := by
  refine
    { path_eq := rfl
      names_pairwise := (Table.keys_pairwise _).imp (Text.lt_iff_bytes_lt _ _).1
      mem_names_iff := ?_
      size_eq := h.size_eq_ncard hall
      resolve_eq := ?_ }
  · intro stem
    rw [Partials.names, h.mem_keys_iff hall]
    constructor
    · rintro ⟨content, hbinds⟩
      exact ⟨_, content, hbinds.holds, hbinds.stem?_eq⟩
    · rintro ⟨file, content, hholds, hstem⟩
      obtain ⟨stem', -, hstem', hbinds⟩ := hholds.exists_binds
      cases hstem.symm.trans hstem'
      exact ⟨content, hbinds⟩
  · intro file content hholds
    obtain ⟨stem, -, hstem, hbinds⟩ := hholds.exists_binds
    obtain ⟨t, ht⟩ := hall stem content hbinds
    exact ⟨stem, t, hstem, ht, h.find?_eq_some_iff.2 ⟨content, hbinds, ht⟩⟩

end Lists

theorem Broken.not_isIn {e : TemplateError} (h : Broken stem content e) (t : Template) :
    ¬ t.IsIn content := by
  rintro ⟨source, hsource, ht⟩
  cases h with
  | notText h => cases h.symm.trans hsource
  | compile h he =>
    cases h.symm.trans hsource
    cases he.symm.trans ht

section

variable {entries : List String} (h : entries.Perm (fs.children path))
include h

theorem exists_ofEntries_eq_ok_iff :
    (∃ d, ofEntries fs path entries = .ok d) ↔
      ∀ file content, Holds fs path file content → ∃ t : Template, t.IsIn content := by
  obtain ⟨bindings, -, hall, hok⟩ | ⟨stem, content, e, hbinds, hbroken, herror⟩ :=
    ofEntries_cases h
  · apply iff_of_true ⟨_, hok⟩
    intro file content hholds
    obtain ⟨stem, -, -, hbinds⟩ := hholds.exists_binds
    exact hall stem content hbinds
  · apply iff_of_false
    · intro hd
      obtain ⟨d, hd⟩ := hd
      cases hd.symm.trans herror
    · intro hall
      obtain ⟨t, ht⟩ := hall _ content hbinds.holds
      exact hbroken.not_isIn t ht

theorem exists_bindings_of_ofEntries {d : PartialsDirectory}
    (hd : ofEntries fs path entries = .ok d) :
    ∃ bindings, Lists fs path bindings ∧
      (∀ stem content, Binds fs path stem content → ∃ t : Template, t.IsIn content) ∧
      d = ⟨path, ⟨.ofList bindings⟩⟩ := by
  obtain ⟨bindings, hlists, hall, hok⟩ | ⟨stem, content, e, -, -, herror⟩ := ofEntries_cases h
  · cases hd.symm.trans hok
    exact ⟨bindings, hlists, hall, rfl⟩
  · cases hd.symm.trans herror

theorem load_of_ofEntries {d : PartialsDirectory} (hd : ofEntries fs path entries = .ok d) :
    load fs path = .ok d := by
  obtain ⟨bindings, hlists, hall, rfl⟩ := exists_bindings_of_ofEntries h hd
  obtain ⟨others, hothers, -, hload⟩ | ⟨stem, content, e, hbinds, hbroken, -⟩ :=
    ofEntries_cases (.refl (fs.children path))
  · rw [load, hload, hlists.ofList_eq hothers]
  · obtain ⟨t, ht⟩ := hall stem content hbinds
    exact absurd ht (hbroken.not_isIn t)

theorem exists_broken_of_ofEntries {e : TemplateError}
    (he : ofEntries fs path entries = .error e) :
    ∃ file content stem, Holds fs path file content ∧ Path.stem? file = some stem ∧
      Broken stem content e := by
  obtain ⟨bindings, -, -, hok⟩ | ⟨stem, content, e', hbinds, hbroken, herror⟩ :=
    ofEntries_cases h
  · cases he.symm.trans hok
  · cases he.symm.trans herror
    exact ⟨_, content, stem, hbinds.holds, hbinds.stem?_eq, hbroken⟩

/-- A directory gives the partials of all its template files or the error of a broken one, in
whatever order they are read, and nothing else counts. Where there is no directory, there are no
partials. -/
theorem ofEntries_complete :
    ((∃ d, ofEntries fs path entries = .ok d) ↔
        ∀ file content, Holds fs path file content → ∃ t : Template, t.IsIn content) ∧
      (∀ d, ofEntries fs path entries = .ok d → Complete fs path d ∧ load fs path = .ok d) ∧
      (∀ e, ofEntries fs path entries = .error e →
        ∃ file content stem, Holds fs path file content ∧ Path.stem? file = some stem ∧
          Broken stem content e) ∧
      (fs.isDirectory path = false → load fs path = .ok (empty path)) := by
  refine ⟨exists_ofEntries_eq_ok_iff h, ?_, ?_, ?_⟩
  · intro d hd
    obtain ⟨bindings, hlists, hall, rfl⟩ := exists_bindings_of_ofEntries h hd
    exact ⟨hlists.complete hall, load_of_ofEntries h hd⟩
  · intro e he
    exact exists_broken_of_ofEntries h he
  · intro hnot
    rw [load, Files.children_eq_nil hnot]
    rfl

end

def sampleEntries : Dictionary Entry :=
  [(".mustache", .file "\x7b\x7b".toUTF8), ("a.b.mustache", .file "x".toUTF8),
    ("c.mustache", .directory []), ("d.txt", .file ⟨#[255]⟩)]

def sampleFiles : FileTree where
  root := [("ps", .directory sampleEntries)]
  workingDirectory := []
  wellFormed := by
    simp only [sampleEntries, Entry.WellFormed.cons_iff, Entry.WellFormed.nil,
      Entry.WellFormed.file, and_true, true_and]
    decide

theorem entries_sampleFiles : sampleFiles.entries "ps" = sampleEntries :=
  rfl

theorem ofEntries_complete_hidden_file :
    ∃ d t, ofEntries sampleFiles "ps"
        ["ps/d.txt", "ps/c.mustache", "ps/a.b.mustache", "ps/.mustache"] = .ok d ∧
      Complete sampleFiles "ps" d ∧ load sampleFiles "ps" = .ok d ∧
      d.partials.resolve "a.b" = some t ∧ t.IsIn "x".toUTF8 := by
  have hchildren : sampleFiles.children "ps" =
      ["ps/.mustache", "ps/a.b.mustache", "ps/c.mustache", "ps/d.txt"] := by
    decide
  have horder : ["ps/d.txt", "ps/c.mustache", "ps/a.b.mustache", "ps/.mustache"].Perm
      (sampleFiles.children "ps") := by
    rw [hchildren]
    decide
  obtain ⟨hiff, hok, -, -⟩ := ofEntries_complete horder
  have hnodes : Node.ofSource "x" = .ok [.text "x"] := by cbv
  have hx : Template.IsIn ⟨"x", _, hnodes⟩ "x".toUTF8 :=
    ⟨"x", Files.fromUTF8?_toUTF8 "x", Template.compile_eq_ok_iff.2 rfl⟩
  have hholds : Holds sampleFiles "ps" "a.b.mustache" "x".toUTF8 := by
    rw [Holds, entries_sampleFiles]
    exact ⟨rfl, by decide⟩
  have hall : ∀ file content, Holds sampleFiles "ps" file content →
      ∃ t : Template, t.IsIn content := by
    rintro file content ⟨hfind, hext⟩
    rw [entries_sampleFiles] at hfind
    have hmem := Dictionary.mem_of_find? hfind
    simp only [sampleEntries, List.mem_cons, Prod.mk.injEq, Entry.file.injEq, reduceCtorEq,
      and_false, List.not_mem_nil, or_false, false_or] at hmem
    obtain ⟨rfl, -⟩ | ⟨-, rfl⟩ | ⟨rfl, -⟩ := hmem
    · exact absurd hext (by decide)
    · exact ⟨_, hx⟩
    · exact absurd hext (by decide)
  obtain ⟨d, hd⟩ := hiff.2 hall
  obtain ⟨hcomplete, hload⟩ := hok d hd
  obtain ⟨stem, t, hstem, ht, hresolve⟩ := hcomplete.resolve_eq _ _ hholds
  have hname : Path.stem? "a.b.mustache" = some "a.b" := by decide
  cases hname.symm.trans hstem
  exact ⟨d, t, hd, hcomplete, hload, hresolve, ht⟩

end PartialsDirectory

end Logicless
