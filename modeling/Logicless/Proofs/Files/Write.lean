import Logicless.Proofs.Files.Place

namespace Logicless

namespace Entry

def content? : Entry → Option ByteArray
  | file content => some content
  | directory _ => none

variable {e : Entry} {entries d : Dictionary Entry} {name : String} {names : List String}

inductive Descends : Dictionary Entry → List String → Dictionary Entry → Prop
  | here {d : Dictionary Entry} : Descends d [] d
  | enter {d below entries : Dictionary Entry} {key : String} {names : List String}
      (hfind : d.find? key = some (.directory below)) (h : Descends below names entries) :
      Descends d (key :: names) entries

theorem descends_of_at? (h : (directory d).at? names = some (.directory entries)) :
    Descends d names entries := by
  induction names generalizing d with
  | nil =>
    cases h
    exact .here
  | cons key names ih =>
    rw [at?_cons, Option.bind_eq_some_iff] at h
    obtain ⟨e, hfind, h⟩ := h
    cases e with
    | directory below => exact .enter hfind (ih h)
    | file content => cases names <;> cases h

theorem Descends.at?_concat (h : Descends d names entries) (name : String) :
    (directory d).at? (names ++ [name]) = entries.find? name := by
  induction h with
  | here => exact Entry.at?_concat (at?_nil _) name
  | enter hfind _ ih => rw [List.cons_append, at?_cons, hfind, Option.bind_some, ih]

theorem at?_insert (d : Dictionary Entry) (key : String) (e : Entry) (name : String)
    (names : List String) :
    (directory (d.insert key e)).at? (name :: names) =
      if key = name then e.at? names else (directory d).at? (name :: names) := by
  rw [at?_cons, at?_cons, Dictionary.find?_insert]
  split <;> rfl

theorem WellFormed.insert (h : WellFormed (.directory d)) (hname : Path.IsName name)
    (he : e.WellFormed) : WellFormed (.directory (d.insert name e)) := by
  cases h with
  | directory hordered hnames hentries =>
    refine .directory (hordered.insert name e) ?_ ?_
    · intro f hf
      rcases Dictionary.eq_or_mem_of_mem_insert hf with rfl | hf
      · exact hname
      · exact hnames f hf
    · intro f hf
      rcases Dictionary.eq_or_mem_of_mem_insert hf with rfl | hf
      · exact he
      · exact hentries f hf

end Entry

namespace Files

open Logicless.Path (IsName)
open Logicless.Entry (Descends)

variable {fs fs' : Files} {path text last : String} {above : List String}
  {d entries : Dictionary Entry} {e : Entry} {content : ByteArray}

/-- A tree before and after a text has come into the file at a path. The names are those that lead
to the file, which may be new. -/
structure Replaced (before : FileTree) (path text : String) (after : FileTree)
    (names : List String) : Prop where
  locate_before : before.locate path = .error .notFound ∨
    ∃ content, before.locate path = .ok ⟨names, .file content⟩
  locate_after : after.locate path = .ok ⟨names, .file text.toUTF8⟩
  mem_files_iff : ∀ f, f ∈ after.files ↔
    f = (names, text.toUTF8) ∨ f.1 ≠ names ∧ f ∈ before.files
  isDirectory_eq : ∀ path, after.isDirectory path = before.isDirectory path
  workingDirectory_eq : after.workingDirectory = before.workingDirectory

theorem Replaced.readText_eq {before after : FileTree} {names : List String}
    (h : Replaced before path text after names) : after.readText path = .ok text := by
  rw [readText, h.locate_after]
  dsimp only
  rw [fromUTF8?_toUTF8]

theorem insertAt_cons_concat (h : d.find? name = some (.directory entries)) (above : List String) :
    insertAt e (name :: (above ++ [last])) d =
      d.insert name (.directory (insertAt e (above ++ [last]) entries)) := by
  rw [insertAt, h]
  simp

theorem at?_insertAt_self (h : Descends d above entries) :
    (Entry.directory (insertAt e (above ++ [last]) d)).at? (above ++ [last]) = some e := by
  induction h with
  | here => rw [List.nil_append, insertAt, Entry.at?_insert, if_pos rfl, Entry.at?_nil]
  | enter hfind _ ih =>
    rw [List.cons_append, insertAt_cons_concat hfind, Entry.at?_insert, if_pos rfl, ih]

theorem at?_cons_cons_of_any_isDirectory {next : String} {names : List String}
    (hlast : (Dictionary.find? last entries).any Entry.isDirectory = false) :
    (Entry.directory entries).at? (last :: next :: names) = none := by
  rw [Entry.at?_cons, Option.bind_eq_none_iff]
  intro e he
  cases e with
  | file content => rfl
  | directory below =>
    rw [he] at hlast
    cases hlast

theorem at?_insertAt_of_ne (h : Descends d above entries)
    (hlast : (Dictionary.find? last entries).any Entry.isDirectory = false) {names : List String}
    (hne : names ≠ above ++ [last]) :
    ((Entry.directory (insertAt (.file content) (above ++ [last]) d)).at? names).map
        Entry.content? =
      ((Entry.directory d).at? names).map Entry.content? := by
  induction h generalizing names with
  | @here entries =>
    cases names with
    | nil => rfl
    | cons name names =>
      rw [List.nil_append, insertAt, Entry.at?_insert]
      split
      · next hname =>
        subst hname
        cases names with
        | nil => exact absurd rfl hne
        | cons next names =>
          -- Nothing stands below a file, neither the new one nor one that stood in its place.
          rw [at?_cons_cons_of_any_isDirectory hlast]
          rfl
      · rfl
  | enter hfind _ ih =>
    rw [List.cons_append, insertAt_cons_concat hfind]
    cases names with
    | nil => rfl
    | cons name names =>
      rw [Entry.at?_insert]
      split
      · next hname =>
        subst hname
        rw [Entry.at?_cons, hfind, Option.bind_some]
        apply ih hlast
        rintro rfl
        exact hne rfl
      · rfl

theorem at?_insertAt_eq_file_iff (h : Descends d above entries)
    (hlast : (Dictionary.find? last entries).any Entry.isDirectory = false) {names : List String}
    {other : ByteArray} :
    (Entry.directory (insertAt (.file content) (above ++ [last]) d)).at? names =
        some (.file other) ↔
      (names = above ++ [last] ∧ other = content) ∨
        names ≠ above ++ [last] ∧ (Entry.directory d).at? names = some (.file other) := by
  by_cases hne : names = above ++ [last]
  · rw [hne, at?_insertAt_self h]
    simp [eq_comm]
  · have hcontent : ∀ x : Option Entry,
        x = some (.file other) ↔ x.map Entry.content? = some (some other) := by
      intro x
      cases x with
      | none => simp
      | some e => cases e <;> simp [Entry.content?]
    simp only [hne, false_and, false_or, Ne, not_false_iff, true_and]
    rw [hcontent, hcontent, at?_insertAt_of_ne h hlast hne]

theorem wellFormed_insertAt (hd : Entry.WellFormed (.directory d)) (he : e.WellFormed)
    (h : Descends d above entries) (hlast : IsName last) :
    Entry.WellFormed (.directory (insertAt e (above ++ [last]) d)) := by
  induction h with
  | here => exact hd.insert hlast he
  | enter hfind _ ih =>
    rw [List.cons_append, insertAt_cons_concat hfind]
    exact hd.insert (hd.isName (Dictionary.mem_of_find? hfind)) (ih (hd.child hfind))

theorem sameDirectories_insertAt (h : Descends d above entries)
    (hlast : (Dictionary.find? last entries).any Entry.isDirectory = false)
    (content : ByteArray) :
    SameDirectories d (insertAt (.file content) (above ++ [last]) d) := by
  intro names
  by_cases hnames : names = above ++ [last]
  · rw [hnames, h.at?_concat, at?_insertAt_self h, hlast]
    rfl
  · have hany : ∀ x : Option Entry,
        x.any Entry.isDirectory = (x.map Entry.content?).any Option.isNone := by
      intro x
      cases x with
      | none => rfl
      | some e => cases e <;> rfl
    rw [hany, hany, at?_insertAt_of_ne h hlast hnames]

theorem mem_parts_of_namesFrom (h : fs.namesFrom path = above ++ [last]) :
    last ∈ Path.parts path := by
  have hlast : (fs.namesFrom path).getLast? = (Path.parts path).getLast? := by
    rw [namesFrom]
    split
    · rfl
    · rw [List.getLast?_append_of_ne_nil _ (Path.parts_ne_nil path)]
  rw [h, List.getLast?_concat] at hlast
  exact List.mem_of_getLast? hlast.symm

/-- Names that do not get fewer without empty ones at the end do not end in one. -/
theorem ne_empty_of_dropWhile {names : List String}
    (hlast : (names.reverse.dropWhile (· == "")).reverse.getLast? = some last)
    (hlength : names.length ≤ (names.reverse.dropWhile (· == "")).reverse.length) :
    last ≠ "" ∧ names = names.dropLast ++ [last] ∧
      (names.reverse.dropWhile (· == "")).reverse.dropLast = names.dropLast := by
  have hsuffix : names.reverse.dropWhile (· == "") = names.reverse := by
    apply (List.dropWhile_suffix _).eq_of_length_le
    rwa [List.length_reverse] at hlength ⊢
  have hhead := List.head?_dropWhile_not (· == "") names.reverse
  rw [hsuffix, List.reverse_reverse] at hlast ⊢
  rw [hsuffix, List.head?_reverse, hlast] at hhead
  refine ⟨by simpa using hhead, ?_, rfl⟩
  exact (List.dropLast_append_getLast? last hlast).symm

theorem exists_of_write (h : fs.write path text = .ok fs') :
    path ≠ "" ∧ ∃ above last places entries, fs.namesFrom path = above ++ [last] ∧ IsName last ∧
      walk [] fs.root above = .ok ⟨places, .directory entries⟩ ∧
      (Dictionary.find? last entries).any Entry.isDirectory = false ∧
      fs' = ⟨insertAt (.file text.toUTF8) (places ++ [last]) fs.root, fs.workingDirectory⟩ := by
  rw [write] at h
  split at h
  · cases h
  · next last hgetLast =>
    split at h
    · cases h
    · next hpath =>
      split at h
      · cases h
      · cases h
      · next places entries hwalk =>
        split at h
        · cases h
        · next hnot =>
          split at h
          · cases h
          · next hfind =>
            simp only [Bool.or_eq_true, decide_eq_true_eq, beq_iff_eq, not_or, not_lt] at hnot
            obtain ⟨⟨hlength, hdot⟩, hdots⟩ := hnot
            obtain ⟨hempty, hnames, hdropLast⟩ := ne_empty_of_dropWhile hgetLast hlength
            rw [hdropLast] at hwalk
            have hslash := Path.slash_not_mem_of_mem_parts (mem_parts_of_namesFrom hnames)
            cases h
            refine ⟨by simpa using hpath, _, last, places, entries, hnames,
              ⟨hempty, hdot, hdots, hslash⟩, hwalk, ?_, rfl⟩
            cases hsome : Dictionary.find? last entries with
            | none => rfl
            | some e =>
              cases e with
              | file content => rfl
              | directory below => exact absurd hsome (hfind below)

theorem isDirectory_of_sameDirectories (hroot : SameDirectories fs.root fs'.root)
    (hworking : fs.workingDirectory = fs'.workingDirectory) (h : fs.isDirectory path = true) :
    fs'.isDirectory path = true := by
  obtain ⟨entries, hentry⟩ := isDirectory_iff.1 h
  have hpath := ne_empty_of_entry hentry
  have hnames : fs.namesFrom path = fs'.namesFrom path := by
    rw [namesFrom, namesFrom, hworking]
  rw [entry, fs.locate_of_ne_empty hpath] at hentry
  cases hwalk : walk [] fs.root (fs.namesFrom path) with
  | error fault =>
    rw [hwalk] at hentry
    cases hentry
  | ok place =>
    rw [hwalk] at hentry
    obtain ⟨names, e⟩ := place
    cases hentry
    obtain ⟨entries', hwalk'⟩ := walk_of_sameDirectories .nil hroot hwalk
    rw [isDirectory, fs'.locate_of_ne_empty hpath, ← hnames, hwalk']

/-- A write puts its text into one file, and leaves all other files and all directories as they
are. -/
theorem exists_replaced_of_write {fs : FileTree} (h : fs.write path text = .ok fs') :
    ∃ (after : FileTree) (names : List String), after.toFiles = fs' ∧
      Replaced fs path text after names := by
  obtain ⟨hpath, above, last, places, entries, hnames, hname, hwalk, hlast, rfl⟩ :=
    exists_of_write h
  have hdescends := Entry.descends_of_at? (at?_of_walk .nil hwalk)
  have hsame := sameDirectories_insertAt hdescends hlast text.toUTF8
  have hwf := wellFormed_insertAt fs.wellFormed (.file text.toUTF8) hdescends hname
  refine ⟨⟨⟨insertAt (.file text.toUTF8) (places ++ [last]) fs.root, fs.workingDirectory⟩, hwf⟩,
    places ++ [last], rfl, ?_, ?_, ?_, ?_, rfl⟩
  · rw [fs.locate_of_ne_empty hpath, hnames, walk_concat hname hwalk]
    cases hfind : Dictionary.find? last entries with
    | none => exact .inl rfl
    | some e =>
      cases e with
      | file content => exact .inr ⟨content, rfl⟩
      | directory below =>
        rw [hfind] at hlast
        cases hlast
  · obtain ⟨entries', hwalk'⟩ := walk_of_sameDirectories .nil hsame hwalk
    have hfind : (Entry.directory (insertAt (.file text.toUTF8) (places ++ [last]) fs.root)).at?
        (places ++ [last]) = some (.file text.toUTF8) :=
      at?_insertAt_self hdescends
    rw [Entry.at?_concat (at?_of_walk .nil hwalk')] at hfind
    rw [locate_of_ne_empty _ hpath]
    refine (congrArg _ hnames).trans ?_
    rw [walk_concat hname hwalk', hfind]
  · rintro ⟨names, content⟩
    rw [mem_files_iff, mem_files_iff, Prod.mk_inj]
    exact at?_insertAt_eq_file_iff hdescends hlast
  · intro path
    rw [Bool.eq_iff_iff]
    exact ⟨isDirectory_of_sameDirectories hsame.symm rfl, isDirectory_of_sameDirectories hsame rfl⟩

end Files

end Logicless
