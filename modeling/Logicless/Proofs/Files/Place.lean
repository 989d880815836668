import Mathlib.Data.List.Forall2
import Logicless.Files.Change
import Logicless.Proofs.Files.Tree

namespace Logicless

namespace Entry

def at? : Entry → List String → Option Entry
  | e, [] => some e
  | .file _, _ :: _ => none
  | .directory entries, name :: names => (Dictionary.find? name entries).bind fun e => e.at? names

variable {e : Entry} {entries : Dictionary Entry} {name : String} {names above : List String}
  {content : ByteArray}

@[simp] theorem at?_nil (e : Entry) : e.at? [] = some e := by
  cases e <;> rfl

theorem at?_cons (entries : Dictionary Entry) (name : String) (names : List String) :
    (directory entries).at? (name :: names) =
      (entries.find? name).bind fun e => e.at? names :=
  rfl

theorem at?_append (e : Entry) (names rest : List String) :
    e.at? (names ++ rest) = (e.at? names).bind fun f => f.at? rest := by
  induction names generalizing e with
  | nil => rw [at?_nil, List.nil_append, Option.bind_some]
  | cons name names ih =>
    cases e with
    | file content => rfl
    | directory entries =>
      rw [List.cons_append, at?_cons, at?_cons, Option.bind_assoc]
      exact congrArg _ (funext fun e => ih e)

theorem at?_concat (h : e.at? names = some (.directory entries)) (name : String) :
    e.at? (names ++ [name]) = entries.find? name := by
  rw [at?_append, h, Option.bind_some, at?_cons]
  simp

theorem mem_filesIn_iff {f : List String × ByteArray} :
    f ∈ filesIn above entries ↔ ∃ e ∈ entries, f ∈ e.2.files (e.1 :: above) := by
  induction entries with
  | nil => simp [filesIn]
  | cons e entries ih =>
    obtain ⟨name, e⟩ := e
    rw [filesIn, List.mem_append, ih, List.exists_mem_cons_iff]

/-- The files of an entry are what stands at the end of names below it. -/
theorem mem_files_iff (h : e.WellFormed) :
    (names, content) ∈ e.files above ↔
      ∃ below, names = above.reverse ++ below ∧ e.at? below = some (.file content) := by
  induction h generalizing above with
  | file c =>
    rw [files, List.mem_singleton]
    constructor
    · intro hfile
      cases hfile
      exact ⟨[], (List.append_nil _).symm, rfl⟩
    · rintro ⟨below, rfl, hbelow⟩
      cases below with
      | nil =>
        cases hbelow
        rw [List.append_nil]
      | cons => cases hbelow
  | @directory entries hordered _ _ ih =>
    rw [files, mem_filesIn_iff]
    constructor
    · rintro ⟨⟨name, e⟩, he, hfile⟩
      obtain ⟨below, hnames, hbelow⟩ := (ih _ he).1 hfile
      refine ⟨name :: below, ?_, ?_⟩
      · rw [hnames, List.reverse_cons, List.append_assoc, List.singleton_append]
      · rw [at?_cons, hordered.find?_eq_some_iff.2 he, Option.bind_some, hbelow]
    · rintro ⟨below, rfl, hbelow⟩
      cases below with
      | nil => cases hbelow
      | cons name below =>
        rw [at?_cons, Option.bind_eq_some_iff] at hbelow
        obtain ⟨e, hfind, hbelow⟩ := hbelow
        have he := Dictionary.mem_of_find? hfind
        refine ⟨(name, e), he, (ih _ he).2 ⟨below, ?_, hbelow⟩⟩
        rw [List.reverse_cons, List.append_assoc, List.singleton_append]

end Entry

namespace Files

variable {name : String} {above above' : List (String × Dictionary Entry)}
  {root here here' entries : Dictionary Entry} {names places : List String}

theorem mem_files_iff {fs : FileTree} {content : ByteArray} :
    (names, content) ∈ fs.files ↔
      (Entry.directory fs.root).at? names = some (.file content) := by
  rw [files, ← Entry.files, Entry.mem_files_iff fs.wellFormed]
  constructor
  · rintro ⟨below, rfl, hbelow⟩
    exact hbelow
  · intro h
    exact ⟨names, rfl, h⟩

inductive Moves (name : String) : List (String × Dictionary Entry) → Dictionary Entry →
    List (String × Dictionary Entry) → Dictionary Entry → Prop
  | stay {above : List (String × Dictionary Entry)} {here : Dictionary Entry}
      (h : (name == "" || name == ".") = true) : Moves name above here above here
  | top {here : Dictionary Entry} (h : name = "..") : Moves name [] here [] here
  | leave {above : List (String × Dictionary Entry)} {up : String × Dictionary Entry}
      {here : Dictionary Entry} (h : name = "..") : Moves name (up :: above) here above up.2
  | enter {above : List (String × Dictionary Entry)} {here entries : Dictionary Entry}
      (h : (name == "" || name == ".") = false) (hdots : name ≠ "..")
      (hfind : here.find? name = some (.directory entries)) :
      Moves name above here ((name, here) :: above) entries

theorem Moves.walk_eq (h : Moves name above here above' here') (names : List String) :
    walk above here (name :: names) = walk above' here' names := by
  cases h with
  | stay h => simp only [walk, h, if_true]
  | top h => simp [walk, h]
  | leave h => simp [walk, h]
  | enter h hdots hfind =>
    simp only [walk, h, beq_eq_false_iff_ne.2 hdots, Bool.false_eq_true, if_false, hfind]

theorem exists_moves_of_walk
    (h : walk above here (name :: names) = .ok ⟨places, .directory entries⟩) :
    ∃ above' here', Moves name above here above' here' ∧
      walk above' here' names = .ok ⟨places, .directory entries⟩ := by
  have hmoves : ∃ above' here', Moves name above here above' here' := by
    cases hstay : name == "" || name == "." with
    | true => exact ⟨above, here, .stay hstay⟩
    | false =>
      by_cases hdots : name = ".."
      · cases above with
        | nil => exact ⟨[], here, .top hdots⟩
        | cons up above => exact ⟨above, up.2, .leave hdots⟩
      · cases hfind : Dictionary.find? name here with
        | none => simp [walk, hstay, hdots, hfind] at h
        | some e =>
          cases e with
          | directory below => exact ⟨_, below, .enter hstay hdots hfind⟩
          | file content =>
            simp only [walk, hstay, beq_eq_false_iff_ne.2 hdots, Bool.false_eq_true, if_false,
              hfind] at h
            split at h <;> cases h
  obtain ⟨above', here', hmoves⟩ := hmoves
  exact ⟨above', here', hmoves, (hmoves.walk_eq names).symm.trans h⟩

theorem exists_walk_append (h : walk above here names = .ok ⟨places, .directory entries⟩)
    (rest : List String) :
    ∃ above', (above'.map Prod.fst).reverse = places ∧
      walk above here (names ++ rest) = walk above' entries rest := by
  induction names generalizing above here with
  | nil =>
    cases h
    exact ⟨above, rfl, rfl⟩
  | cons name names ih =>
    obtain ⟨above', here', hmoves, h⟩ := exists_moves_of_walk h
    rw [List.cons_append, hmoves.walk_eq]
    exact ih h

theorem walk_concat (hname : Path.IsName name)
    (h : walk above here names = .ok ⟨places, .directory entries⟩) :
    walk above here (names ++ [name]) =
      match entries.find? name with
      | none => .error .notFound
      | some e => .ok ⟨places ++ [name], e⟩ := by
  obtain ⟨above', rfl, hwalk⟩ := exists_walk_append h [name]
  rw [hwalk]
  simp only [walk, beq_eq_false_iff_ne.2 hname.ne_empty, beq_eq_false_iff_ne.2 hname.ne_dot,
    beq_eq_false_iff_ne.2 hname.ne_dots, Bool.or_self, Bool.false_eq_true, if_false]
  cases entries.find? name with
  | none => rfl
  | some e => cases e <;> simp

/-- The directories above lead down from the root to the current one. -/
inductive Leads (root : Dictionary Entry) :
    List (String × Dictionary Entry) → Dictionary Entry → Prop
  | nil : Leads root [] root
  | cons {above : List (String × Dictionary Entry)} {up here : Dictionary Entry} {name : String}
      (h : Leads root above up) (hfind : up.find? name = some (.directory here)) :
      Leads root ((name, up) :: above) here

theorem Leads.at?_eq (h : Leads root above here) :
    (Entry.directory root).at? (above.map Prod.fst).reverse = some (.directory here) := by
  induction h with
  | nil => rfl
  | cons _ hfind ih => rw [List.map_cons, List.reverse_cons, Entry.at?_concat ih, hfind]

theorem Leads.moves (h : Leads root above here) (hmoves : Moves name above here above' here') :
    Leads root above' here' := by
  cases hmoves with
  | stay => exact h
  | top => exact h
  | leave =>
    cases h with
    | cons hup _ => exact hup
  | enter _ _ hfind => exact .cons h hfind

theorem at?_of_walk (hleads : Leads root above here)
    (h : walk above here names = .ok ⟨places, .directory entries⟩) :
    (Entry.directory root).at? places = some (.directory entries) := by
  induction names generalizing above here with
  | nil =>
    cases h
    exact hleads.at?_eq
  | cons name names ih =>
    obtain ⟨above', here', hmoves, h⟩ := exists_moves_of_walk h
    exact ih (hleads.moves hmoves) h

def SameDirectories (d e : Dictionary Entry) : Prop :=
  ∀ names, ((Entry.directory d).at? names).any Entry.isDirectory =
    ((Entry.directory e).at? names).any Entry.isDirectory

theorem SameDirectories.symm (h : SameDirectories here here') : SameDirectories here' here :=
  fun names => (h names).symm

theorem SameDirectories.exists_find? (h : SameDirectories here here')
    (hfind : here.find? name = some (.directory entries)) :
    ∃ entries', here'.find? name = some (.directory entries') ∧
      SameDirectories entries entries' := by
  have hname := h [name]
  rw [Entry.at?_cons, Entry.at?_cons, hfind] at hname
  cases hfind' : Dictionary.find? name here' with
  | none =>
    rw [hfind'] at hname
    cases hname
  | some e =>
    rw [hfind'] at hname
    cases e with
    | file content => cases hname
    | directory entries' =>
      refine ⟨entries', rfl, ?_⟩
      intro names
      have hnames := h (name :: names)
      rwa [Entry.at?_cons, Entry.at?_cons, hfind, hfind', Option.bind_some, Option.bind_some]
        at hnames

abbrev SameAbove (above above' : List (String × Dictionary Entry)) : Prop :=
  List.Forall₂ (fun up up' => up.1 = up'.1 ∧ SameDirectories up.2 up'.2) above above'

theorem Moves.exists_same {next : List (String × Dictionary Entry)} {there : Dictionary Entry}
    (h : Moves name above here next there) (habove : SameAbove above above')
    (hhere : SameDirectories here here') :
    ∃ next' there', Moves name above' here' next' there' ∧ SameAbove next next' ∧
      SameDirectories there there' := by
  cases h with
  | stay h => exact ⟨_, _, .stay h, habove, hhere⟩
  | top h =>
    cases habove with
    | nil => exact ⟨_, _, .top h, .nil, hhere⟩
  | leave h =>
    cases habove with
    | cons hup habove => exact ⟨_, _, .leave h, habove, hup.2⟩
  | enter h hdots hfind =>
    obtain ⟨_, hfind', hentries⟩ := hhere.exists_find? hfind
    exact ⟨_, _, .enter h hdots hfind', .cons ⟨rfl, hhere⟩ habove, hentries⟩

/-- Names lead to the same directories of two trees that have the same ones. -/
theorem walk_of_sameDirectories (habove : SameAbove above above')
    (hhere : SameDirectories here here')
    (h : walk above here names = .ok ⟨places, .directory entries⟩) :
    ∃ entries', walk above' here' names = .ok ⟨places, .directory entries'⟩ := by
  induction names generalizing above above' here here' with
  | nil =>
    have hnames : above.map Prod.fst = above'.map Prod.fst := by
      rw [← List.forall₂_eq_eq_eq, List.forall₂_map_left_iff, List.forall₂_map_right_iff]
      exact habove.imp fun _ _ hup => hup.1
    cases h
    exact ⟨here', by rw [walk, hnames]⟩
  | cons name names ih =>
    obtain ⟨next, there, hmoves, h⟩ := exists_moves_of_walk h
    obtain ⟨next', there', hmoves', hnext, hthere⟩ := hmoves.exists_same habove hhere
    rw [hmoves'.walk_eq]
    exact ih hnext hthere h

end Files

end Logicless
