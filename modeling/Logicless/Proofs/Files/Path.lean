import Logicless.Files.Tree

namespace Logicless.Path

theorem splitSlashes_ne_nil (cs : List Char) : splitSlashes cs ≠ [] := by
  cases cs with
  | nil => exact List.cons_ne_nil _ _
  | cons c cs =>
    rw [splitSlashes]
    split
    · exact List.cons_ne_nil _ _
    · split <;> exact List.cons_ne_nil _ _

theorem splitSlashes_slash_cons (cs : List Char) :
    splitSlashes ('/' :: cs) = [] :: splitSlashes cs := by
  obtain ⟨part, parts, hcs⟩ := List.exists_cons_of_ne_nil (splitSlashes_ne_nil cs)
  rw [splitSlashes, hcs]
  exact if_pos rfl

theorem splitSlashes_append_slash (cs ds : List Char) :
    splitSlashes (cs ++ '/' :: ds) = splitSlashes cs ++ splitSlashes ds := by
  induction cs with
  | nil => exact splitSlashes_slash_cons ds
  | cons c cs ih =>
    obtain ⟨part, parts, hcs⟩ := List.exists_cons_of_ne_nil (splitSlashes_ne_nil cs)
    rw [List.cons_append, splitSlashes, ih, splitSlashes, hcs]
    dsimp only [List.cons_append]
    split <;> rfl

theorem splitSlashes_of_not_mem {cs : List Char} (h : '/' ∉ cs) : splitSlashes cs = [cs] := by
  induction cs with
  | nil => rfl
  | cons c cs ih =>
    rw [List.mem_cons, not_or] at h
    rw [splitSlashes, ih h.2]
    dsimp only
    rw [if_neg]
    simpa using Ne.symm h.1

theorem slash_not_mem_of_mem_splitSlashes {cs part : List Char} (h : part ∈ splitSlashes cs) :
    '/' ∉ part := by
  induction cs generalizing part with
  | nil =>
    rw [List.mem_singleton.1 h]
    exact List.not_mem_nil
  | cons c cs ih =>
    obtain ⟨first, rest, hcs⟩ := List.exists_cons_of_ne_nil (splitSlashes_ne_nil cs)
    rw [splitSlashes, hcs] at h
    rw [hcs] at ih
    dsimp only at h
    split at h
    · rcases List.mem_cons.1 h with rfl | h
      · exact List.not_mem_nil
      · exact ih h
    · next hc =>
      rcases List.mem_cons.1 h with rfl | h
      · rw [List.mem_cons, not_or]
        exact ⟨fun heq => hc (beq_iff_eq.2 heq.symm), ih (.head _)⟩
      · exact ih (.tail _ h)

theorem slash_not_mem_of_mem_parts {path name : String} (h : name ∈ parts path) :
    '/' ∉ name.toList := by
  obtain ⟨part, hpart, rfl⟩ := List.mem_map.1 h
  rw [String.toList_ofList]
  exact slash_not_mem_of_mem_splitSlashes hpart

theorem parts_ne_nil (path : String) : parts path ≠ [] := by
  rw [parts, Ne, List.map_eq_nil_iff]
  exact splitSlashes_ne_nil _

theorem parts_append_slash (base path : String) :
    parts (base ++ "/" ++ path) = parts base ++ parts path := by
  simp only [parts, String.toList_append, List.append_assoc]
  rw [← List.map_append, ← splitSlashes_append_slash]
  rfl

theorem not_isAbsolute_of_not_mem {path : String} (h : '/' ∉ path.toList) :
    isAbsolute path = false := by
  rw [isAbsolute, beq_eq_false_iff_ne]
  intro hhead
  exact h (List.mem_of_head? hhead)

theorem join_eq {base name : String} (hbase : base ≠ "") (h : IsName name) :
    join base name =
      if base.toList.getLast? = some '/' then base ++ name else base ++ "/" ++ name := by
  have hrelative : (isAbsolute name || base.isEmpty) = false := by
    rw [not_isAbsolute_of_not_mem h.slash_not_mem, Bool.false_or, String.isEmpty_eq_false_iff]
    exact hbase
  rw [join, hrelative, if_neg Bool.false_ne_true]
  simp only [beq_iff_eq]

theorem head?_join {base : String} (hbase : base ≠ "") (path : String) :
    (join base path).toList.head? = some '/' ∨
      (join base path).toList.head? = base.toList.head? := by
  have hne : base.toList ≠ [] := by
    simpa using hbase
  obtain ⟨c, cs, hcs⟩ := List.exists_cons_of_ne_nil hne
  rw [join, String.isEmpty_eq_false_iff.2 hbase, Bool.or_false]
  split
  · next habsolute => exact .inl (beq_iff_eq.1 habsolute)
  · apply Or.inr
    split <;> simp only [String.toList_append, hcs, List.cons_append, List.head?_cons]

theorem join_ne_empty {base : String} (hbase : base ≠ "") (path : String) :
    join base path ≠ "" := by
  intro hempty
  obtain hslash | hsame := head?_join hbase path
  · rw [hempty] at hslash
    cases hslash
  · rw [hempty] at hsame
    exact absurd (by simpa using hsame.symm) hbase

theorem parts_of_isName {name : String} (h : IsName name) : parts name = [name] := by
  rw [parts, splitSlashes_of_not_mem h.slash_not_mem, List.map_singleton, String.ofList_toList]

theorem exists_parts_join {base name : String} (hbase : base ≠ "") (h : IsName name) :
    ∃ above, parts (join base name) = above ++ [name] ∧
      (parts base = above ∨ parts base = above ++ [""]) := by
  rw [join_eq hbase h]
  split
  · next hlast =>
    obtain ⟨front, hfront⟩ := List.getLast?_eq_some_iff.1 hlast
    have hbase : base = String.ofList front ++ "/" := by
      rw [← String.toList_inj, String.toList_append, String.toList_ofList, hfront]
      rfl
    refine ⟨parts (String.ofList front), ?_, .inr ?_⟩
    · rw [hbase, parts_append_slash, parts_of_isName h]
    · rw [hbase, ← String.append_empty (s := String.ofList front ++ "/"), parts_append_slash]
      rfl
  · refine ⟨parts base, ?_, .inl rfl⟩
    rw [parts_append_slash, parts_of_isName h]

theorem isAbsolute_join {base name : String} (hbase : base ≠ "") (h : IsName name) :
    isAbsolute (join base name) = isAbsolute base := by
  have hne : base.toList ≠ [] := by
    simpa using hbase
  obtain ⟨c, cs, hcs⟩ := List.exists_cons_of_ne_nil hne
  rw [join_eq hbase h, isAbsolute, isAbsolute]
  split <;> simp only [String.toList_append, hcs, List.cons_append, List.head?_cons]

theorem fileName?_of_parts {path name : String} {above : List String} (h : IsName name)
    (hparts : parts path = above ++ [name]) : fileName? path = some name := by
  have hproper : (name != "" && name != ".") = true := by
    simpa using ⟨h.ne_empty, h.ne_dot⟩
  have hname : [name].filter (fun part => part != "" && part != ".") = [name] :=
    List.filter_cons_of_pos hproper
  rw [fileName?, hparts, List.filter_append, hname, List.getLast?_concat]
  split
  · next heq => exact absurd (Option.some.inj heq) h.ne_dots
  · rfl

theorem fileName?_of_isName {name : String} (h : IsName name) : fileName? name = some name := by
  have hparts : parts name = [] ++ [name] := parts_of_isName h
  exact fileName?_of_parts h hparts

theorem fileName?_join {base name : String} (hbase : base ≠ "") (h : IsName name) :
    fileName? (join base name) = some name := by
  obtain ⟨above, habove, -⟩ := exists_parts_join hbase h
  exact fileName?_of_parts h habove

theorem extension?_join {base name : String} (hbase : base ≠ "") (h : IsName name) :
    extension? (join base name) = extension? name := by
  rw [extension?, extension?, fileName?_join hbase h, fileName?_of_isName h]

/-- A file name splits at its last dot, unless it starts with that one. -/
theorem splitName_eq_iff {name stem extension : String} :
    splitName name = (stem, some extension) ↔
      stem ≠ "" ∧ '.' ∉ extension.toList ∧ name = stem ++ "." ++ extension := by
  constructor
  · intro h
    rw [splitName] at h
    split at h
    · cases h
    · next hstem =>
      have hbehind : ∀ c ∈ name.toList.reverse.takeWhile (· != '.'), c ≠ '.' := by
        intro c hc
        simpa using List.all_eq_true.1 List.all_takeWhile c hc
      have hdot := List.head?_dropWhile_not (· != '.') name.toList.reverse
      have hsplit := List.takeWhile_append_dropWhile (p := (· != '.')) (l := name.toList.reverse)
      cases h
      generalize name.toList.reverse.takeWhile (· != '.') = behind at hbehind hsplit ⊢
      generalize name.toList.reverse.dropWhile (· != '.') = before at hdot hsplit hstem ⊢
      cases before with
      | nil => simp at hstem
      | cons c before =>
        obtain rfl : c = '.' := by simpa using hdot
        refine ⟨by simpa using hstem, ?_, ?_⟩
        · intro hmem
          rw [String.toList_ofList, List.mem_reverse] at hmem
          exact hbehind '.' hmem rfl
        · rw [← String.toList_inj, ← List.reverse_inj, ← hsplit]
          simp
  · rintro ⟨hstem, hext, rfl⟩
    have hrev : (stem ++ "." ++ extension).toList.reverse =
        extension.toList.reverse ++ '.' :: stem.toList.reverse := by
      simp
    have hext' : ∀ c ∈ extension.toList.reverse, (c != '.') = true := by
      intro c hc
      rw [bne_iff_ne]
      rintro rfl
      exact hext (List.mem_reverse.1 hc)
    rw [splitName, hrev, List.takeWhile_append_of_pos hext', List.dropWhile_append_of_pos hext']
    simp [hstem]

example : splitName "a.b.mustache" = ("a.b", some "mustache") := by decide

end Logicless.Path
