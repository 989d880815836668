import Logicless.Proofs.Dictionary
import Logicless.Proofs.Files.Path

namespace Logicless

namespace Files

open Logicless.Path (IsName)

variable {fs : Files} {path name : String} {above : List (String × Dictionary Entry)}
  {here : Dictionary Entry} {names : List String}

theorem entry_walk_append {rest : List String} {next : Entry → Except FileFault Entry}
    (hne : rest ≠ []) (hfile : ∀ content, next (.file content) = .error .notDirectory)
    (hrest : ∀ above here, (walk above here rest).map Place.entry = next (.directory here)) :
    (walk above here (names ++ rest)).map Place.entry =
      ((walk above here names).map Place.entry).bind next := by
  induction names generalizing above here with
  | nil => exact hrest above here
  | cons n names ih =>
    simp only [List.cons_append, walk]
    split
    · exact ih
    · split
      · cases above with
        | nil => exact ih
        | cons up above => exact ih
      · cases Dictionary.find? n here with
        | none => rfl
        | some e =>
          cases e with
          | directory entries => exact ih
          | file content =>
            have hnot : (names ++ rest).isEmpty = false := by simp [hne]
            simp only [hnot, Bool.false_eq_true, if_false]
            cases names with
            | nil => exact (hfile content).symm
            | cons => rfl

theorem entry_walk_concat (h : IsName name) :
    (walk above here (names ++ [name])).map Place.entry =
      ((walk above here names).map Place.entry).bind (Entry.child name) := by
  apply entry_walk_append (List.cons_ne_nil _ _)
  · exact fun _ => rfl
  · intro above here
    have hempty : (name == "" || name == ".") = false := by simpa using ⟨h.ne_empty, h.ne_dot⟩
    have hdots : (name == "..") = false := by simpa using h.ne_dots
    simp only [walk, hempty, hdots, Bool.false_eq_true, if_false, Entry.child]
    cases Dictionary.find? name here with
    | none => rfl
    | some e => cases e <;> rfl

theorem child_walk_concat_empty :
    ((walk above here (names ++ [""])).map Place.entry).bind (Entry.child name) =
      ((walk above here names).map Place.entry).bind (Entry.child name) := by
  have hwalk : (walk above here (names ++ [""])).map Place.entry =
      ((walk above here names).map Place.entry).bind fun e =>
        if e.isDirectory then .ok e else .error .notDirectory := by
    apply entry_walk_append (List.cons_ne_nil _ _)
    · exact fun _ => rfl
    · exact fun _ _ => rfl
  rw [hwalk]
  cases (walk above here names).map Place.entry with
  | error fault => rfl
  | ok e => cases e <;> rfl

theorem locate_of_ne_empty (fs : Files) (hpath : path ≠ "") :
    fs.locate path = walk [] fs.root (fs.namesFrom path) := by
  rw [locate, if_neg]
  rwa [String.isEmpty_iff]

theorem namesFrom_join (fs : Files) (hpath : path ≠ "") (h : IsName name) :
    ∃ names, fs.namesFrom (Path.join path name) = names ++ [name] ∧
      (fs.namesFrom path = names ∨ fs.namesFrom path = names ++ [""]) := by
  obtain ⟨above, hjoin, hbase⟩ := Path.exists_parts_join hpath h
  simp only [namesFrom, Path.isAbsolute_join hpath h, hjoin]
  split
  · exact ⟨above, rfl, hbase⟩
  · refine ⟨fs.workingDirectory ++ above, (List.append_assoc ..).symm, ?_⟩
    rw [List.append_assoc]
    exact hbase.imp (congrArg _) (congrArg _)

/-- Behind a path and a name stands what the entry at the path has under the name. -/
theorem entry_join (fs : Files) (hpath : path ≠ "") (h : IsName name) :
    fs.entry (Path.join path name) = (fs.entry path).bind (Entry.child name) := by
  have hjoin := Path.join_ne_empty hpath name
  obtain ⟨names, hnames, hbase⟩ := fs.namesFrom_join hpath h
  rw [entry, entry, fs.locate_of_ne_empty hjoin, fs.locate_of_ne_empty hpath, hnames,
    entry_walk_concat h]
  rcases hbase with hbase | hbase
  · rw [hbase]
  · rw [hbase, child_walk_concat_empty]

theorem ne_empty_of_entry {e : Entry} (h : fs.entry path = .ok e) : path ≠ "" := by
  rintro rfl
  cases h

theorem isFile_iff : fs.isFile path = true ↔ ∃ content, fs.entry path = .ok (.file content) := by
  rw [isFile, entry]
  cases fs.locate path with
  | error fault => simp [Except.map]
  | ok place =>
    obtain ⟨names, e⟩ := place
    cases e <;> simp [Except.map]

theorem isDirectory_iff :
    fs.isDirectory path = true ↔ ∃ entries, fs.entry path = .ok (.directory entries) := by
  rw [isDirectory, entry]
  cases fs.locate path with
  | error fault => simp [Except.map]
  | ok place =>
    obtain ⟨names, e⟩ := place
    cases e <;> simp [Except.map]

theorem pathExists_iff : fs.pathExists path = true ↔ ∃ e, fs.entry path = .ok e := by
  rw [pathExists, entry]
  cases fs.locate path with
  | error fault => simp [Except.map, Except.isOk, Except.toBool]
  | ok place => simp [Except.map, Except.isOk, Except.toBool]

theorem readText_eq (fs : Files) (path : String) :
    fs.readText path = (fs.entry path).bind Entry.text := by
  rw [readText, entry]
  cases fs.locate path with
  | error fault => rfl
  | ok place =>
    obtain ⟨names, e⟩ := place
    cases e <;> rfl

theorem fromUTF8?_toUTF8 (text : String) : String.fromUTF8? text.toUTF8 = some text := by
  have hvalid : text.toUTF8.IsValidUTF8 := text.isValidUTF8
  rw [String.fromUTF8?, dif_pos hvalid]
  rfl

theorem children_eq (fs : Files) (path : String) :
    fs.children path = (fs.entries path).keys.map (Path.join path) := by
  rw [children, names, entries, entry]
  cases fs.locate path with
  | error fault => rfl
  | ok place =>
    obtain ⟨names, e⟩ := place
    cases e <;> rfl

theorem mem_children_iff {file : String} :
    file ∈ fs.children path ↔
      ∃ name e, (fs.entries path).find? name = some e ∧ file = Path.join path name := by
  simp only [children_eq, List.mem_map, Dictionary.mem_keys_iff]
  constructor
  · rintro ⟨name, ⟨e, he⟩, rfl⟩
    exact ⟨name, e, he, rfl⟩
  · rintro ⟨name, e, he, rfl⟩
    exact ⟨name, ⟨e, he⟩, rfl⟩

theorem entries_eq_of_entry {entries : Dictionary Entry}
    (h : fs.entry path = .ok (.directory entries)) : fs.entries path = entries := by
  rw [Files.entries, h]

theorem entries_eq_nil (h : fs.isDirectory path = false) : fs.entries path = [] := by
  rw [entries]
  split
  · next entries hentry => cases h.symm.trans (isDirectory_iff.2 ⟨entries, hentry⟩)
  · rfl

theorem children_eq_nil (h : fs.isDirectory path = false) : fs.children path = [] := by
  rw [children_eq, entries_eq_nil h]
  rfl

theorem entry_of_find? {e : Entry} (h : (fs.entries path).find? name = some e) :
    fs.entry path = .ok (.directory (fs.entries path)) := by
  cases hentry : fs.entry path with
  | error fault => simp [entries, hentry, Dictionary.find?] at h
  | ok entry =>
    cases entry with
    | file content => simp [entries, hentry, Dictionary.find?] at h
    | directory entries => rw [entries_eq_of_entry hentry]

theorem entry_join_of_find? {e : Entry} (h : (fs.entries path).find? name = some e)
    (hname : IsName name) : fs.entry (Path.join path name) = .ok e := by
  have hentry := entry_of_find? h
  rw [fs.entry_join (ne_empty_of_entry hentry) hname, hentry]
  simp only [Except.bind, Entry.child, h]

theorem find?_of_entry_join {e : Entry} (hpath : path ≠ "") (hname : IsName name)
    (h : fs.entry (Path.join path name) = .ok e) : (fs.entries path).find? name = some e := by
  rw [fs.entry_join hpath hname] at h
  rw [entries]
  cases hentry : fs.entry path with
  | error fault =>
    rw [hentry] at h
    cases h
  | ok entry =>
    rw [hentry] at h
    cases entry with
    | file content => cases h
    | directory entries =>
      simp only [Except.bind, Entry.child] at h
      split at h
      · cases h
      · next hfind =>
        cases h
        exact hfind

end Files

namespace Entry.WellFormed

variable {entries : Dictionary Entry}

theorem ordered (h : WellFormed (.directory entries)) : entries.Ordered := by
  cases h with
  | directory hordered _ _ => exact hordered

theorem isName (h : WellFormed (.directory entries)) {e : String × Entry} (he : e ∈ entries) :
    Path.IsName e.1 := by
  cases h with
  | directory _ hnames _ => exact hnames e he

theorem child (h : WellFormed (.directory entries)) {name : String} {e : Entry}
    (he : entries.find? name = some e) : e.WellFormed := by
  cases h with
  | directory _ _ hentries => exact hentries _ (Dictionary.mem_of_find? he)

theorem nil : WellFormed (.directory []) :=
  .directory .nil (List.forall_mem_nil _) (List.forall_mem_nil _)

theorem cons_iff {e : String × Entry} :
    WellFormed (.directory (e :: entries)) ↔
      (∀ f ∈ entries, e.1 < f.1) ∧ Path.IsName e.1 ∧ e.2.WellFormed ∧
        WellFormed (.directory entries) := by
  constructor
  · intro h
    cases h with
    | directory hordered hnames hentries =>
      obtain ⟨hhead, htail⟩ := List.pairwise_cons.1 hordered
      obtain ⟨hname, hnames⟩ := List.forall_mem_cons.1 hnames
      obtain ⟨he, hentries⟩ := List.forall_mem_cons.1 hentries
      exact ⟨hhead, hname, he, .directory htail hnames hentries⟩
  · intro h
    obtain ⟨hhead, hname, he, hentries⟩ := h
    cases hentries with
    | directory htail hnames hentries =>
      exact .directory (List.pairwise_cons.2 ⟨hhead, htail⟩)
        (List.forall_mem_cons.2 ⟨hname, hnames⟩) (List.forall_mem_cons.2 ⟨he, hentries⟩)

end Entry.WellFormed

namespace Files

open Logicless.Path (IsName)

variable {fs : Files} {path name : String} {above : List (String × Dictionary Entry)}
  {here : Dictionary Entry} {names : List String}

theorem wellFormed_walk {place : Place} (hhere : Entry.WellFormed (.directory here))
    (habove : ∀ up ∈ above, Entry.WellFormed (.directory up.2))
    (h : walk above here names = .ok place) : place.entry.WellFormed := by
  induction names generalizing above here with
  | nil =>
    cases h
    exact hhere
  | cons n names ih =>
    simp only [walk] at h
    split at h
    · exact ih hhere habove h
    · split at h
      · cases above with
        | nil => exact ih hhere habove h
        | cons up above =>
          rw [List.forall_mem_cons] at habove
          exact ih habove.1 habove.2 h
      · cases hfind : Dictionary.find? n here with
        | none =>
          rw [hfind] at h
          cases h
        | some e =>
          rw [hfind] at h
          have he := hhere.child hfind
          cases e with
          | directory entries => exact ih he (List.forall_mem_cons.2 ⟨hhere, habove⟩) h
          | file content =>
            dsimp only at h
            split at h
            · cases h
              exact he
            · cases h

end Files

namespace FileTree

open Logicless.Files (entries_eq_of_entry entry_join_of_find? entry_of_find? ne_empty_of_entry)
open Logicless.Path (IsName)

variable {fs : FileTree} {path name : String}

theorem wellFormed_of_entry {e : Entry} (he : fs.entry path = .ok e) : e.WellFormed := by
  rw [Files.entry] at he
  cases hlocate : fs.locate path with
  | error fault =>
    rw [hlocate] at he
    cases he
  | ok place =>
    rw [hlocate] at he
    cases he
    have hpath : path ≠ "" := by
      rintro rfl
      cases hlocate
    rw [fs.locate_of_ne_empty hpath] at hlocate
    exact Files.wellFormed_walk fs.wellFormed (List.forall_mem_nil _) hlocate

theorem wellFormed_entries (fs : FileTree) (path : String) :
    Entry.WellFormed (.directory (fs.entries path)) := by
  cases hentry : fs.entry path with
  | error fault =>
    rw [Files.entries, hentry]
    exact .nil
  | ok e =>
    cases e with
    | file content =>
      rw [Files.entries, hentry]
      exact .nil
    | directory entries =>
      rw [entries_eq_of_entry hentry]
      exact wellFormed_of_entry hentry

theorem ordered_entries (fs : FileTree) (path : String) : (fs.entries path).Ordered :=
  (fs.wellFormed_entries path).ordered

theorem isName (fs : FileTree) {e : Entry} (he : (fs.entries path).find? name = some e) :
    IsName name :=
  (fs.wellFormed_entries path).isName (Dictionary.mem_of_find? he)

theorem mem_subdirectories_iff :
    name ∈ fs.subdirectories path ↔
      ∃ entries, (fs.entries path).find? name = some (.directory entries) := by
  rw [Files.subdirectories, List.mem_map]
  constructor
  · intro h
    obtain ⟨⟨key, e⟩, he, rfl⟩ := h
    obtain ⟨hmem, hdirectory⟩ := List.mem_filter.1 he
    cases e with
    | file content => cases hdirectory
    | directory entries => exact ⟨entries, (fs.ordered_entries path).find?_eq_some_iff.2 hmem⟩
  · intro h
    obtain ⟨entries, hfind⟩ := h
    exact ⟨_, List.mem_filter.2 ⟨Dictionary.mem_of_find? hfind, rfl⟩, rfl⟩

theorem subdirectories_pairwise (fs : FileTree) (path : String) :
    (fs.subdirectories path).Pairwise (· < ·) :=
  List.pairwise_map.2 ((fs.ordered_entries path).filter _)

theorem filter_children_isDirectory (fs : FileTree) (path : String) :
    (fs.children path).filter fs.isDirectory = (fs.subdirectories path).map (Path.join path) := by
  rw [Files.children_eq, Dictionary.keys, Files.subdirectories, List.map_map, List.map_map,
    List.filter_map]
  congr 1
  apply List.filter_congr
  intro e he
  have hfind := (fs.ordered_entries path).find?_eq_some_iff.2 he
  rw [Function.comp_apply, Function.comp_apply, Bool.eq_iff_iff, Files.isDirectory_iff,
    entry_join_of_find? hfind (fs.isName hfind)]
  cases e.2 <;> simp [Entry.isDirectory]

end FileTree

namespace Files

open Logicless.Path (IsName)

variable {fs : Files} {path name : String}

theorem subdirectories_eq_nil (h : fs.isDirectory path = false) : fs.subdirectories path = [] := by
  rw [subdirectories, entries_eq_nil h]
  rfl

section Agree

variable {other : Files} (h : fs.entry path = other.entry path)
include h

theorem isFile_congr : fs.isFile path = other.isFile path := by
  rw [Bool.eq_iff_iff, isFile_iff, isFile_iff, h]

theorem readText_congr : fs.readText path = other.readText path := by
  rw [readText_eq, readText_eq, h]

theorem children_congr : fs.children path = other.children path := by
  rw [children_eq, children_eq, entries, entries, h]

theorem entry_join_congr (hpath : path ≠ "") (hname : IsName name) :
    fs.entry (Path.join path name) = other.entry (Path.join path name) := by
  rw [fs.entry_join hpath hname, other.entry_join hpath hname, h]

end Agree

end Files

theorem FileTree.entry_congr_of_mem_children {fs : FileTree} {other : Files} {path file : String}
    (h : fs.entry path = other.entry path) (hfile : file ∈ fs.children path) :
    fs.entry file = other.entry file := by
  obtain ⟨name, e, he, rfl⟩ := Files.mem_children_iff.1 hfile
  have hpath := Files.ne_empty_of_entry (Files.entry_of_find? he)
  exact Files.entry_join_congr h hpath (fs.isName he)

end Logicless
