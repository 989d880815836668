import Mathlib.Data.Set.Card
import Logicless.Cache
import Logicless.Proofs.Dictionary
import Logicless.Proofs.History
import Logicless.Proofs.Template.Compilation

namespace Logicless

namespace Cache

variable {c : Cache} {source other : String} {e f : CachedTemplate} {steps : List Step}

theorem find?_add (c : Cache) (source other : String) (t : Template) :
    (c.add source t).find? other =
      if source = other then some ⟨t, c.compiled⟩ else c.find? other :=
  Table.find?_insert ..

theorem getOrCompile_cases (c : Cache) (source : String) :
    (∃ e, c.find? source = some e ∧ c.getOrCompile source = .ok (e, c)) ∨
      (∃ t, c.find? source = none ∧ Template.compile source = .ok t ∧
        c.getOrCompile source = .ok (⟨t, c.compiled⟩, c.add source t)) ∨
      ∃ error, c.find? source = none ∧ Template.compile source = .error error ∧
        c.getOrCompile source = .error error := by
  cases hfind : c.find? source with
  | some e => exact .inl ⟨e, rfl, by rw [getOrCompile, hfind]⟩
  | none =>
    have hget : c.getOrCompile source = (Template.compile source).map
        fun t => (⟨t, c.compiled⟩, c.add source t) := by rw [getOrCompile, hfind]
    cases hcompile : Template.compile source with
    | ok t =>
      rw [hcompile] at hget
      exact .inr (.inl ⟨t, rfl, rfl, hget⟩)
    | error error =>
      rw [hcompile] at hget
      exact .inr (.inr ⟨error, rfl, rfl, hget⟩)

theorem step_get_cases (c : Cache) (source : String) :
    (∃ e, c.find? source = some e ∧ c.step (.get source) = (c, .got (.ok e))) ∨
      (∃ t, c.find? source = none ∧ Template.compile source = .ok t ∧
        c.step (.get source) = (c.add source t, .got (.ok ⟨t, c.compiled⟩))) ∨
      ∃ error, c.find? source = none ∧ Template.compile source = .error error ∧
        c.step (.get source) = (c, .got (.error error)) := by
  obtain ⟨e, he, hget⟩ | ⟨t, hfind, ht, hget⟩ | ⟨error, hfind, he, hget⟩ :=
    c.getOrCompile_cases source
  · exact .inl ⟨e, he, by rw [step, hget]⟩
  · exact .inr (.inl ⟨t, hfind, ht, by rw [step, hget]⟩)
  · exact .inr (.inr ⟨error, hfind, he, by rw [step, hget]⟩)

theorem after_append (c : Cache) (steps more : List Step) :
    c.after (steps ++ more) = (c.after steps).after more :=
  List.foldl_append

/-- Entries stand under their own sources, and their serial numbers tell them apart from each other
and from all that is yet to be compiled. -/
structure Sound (c : Cache) : Prop where
  source_eq : ∀ {source e}, c.find? source = some e → e.template.source = source
  serial_lt : ∀ {source e}, c.find? source = some e → e.serial < c.compiled
  serial_inj : ∀ {source other e f}, c.find? source = some e → c.find? other = some f →
    e.serial = f.serial → source = other

theorem sound_empty_entries (compiled : Nat) : Sound ⟨.empty, compiled⟩ where
  source_eq := nofun
  serial_lt := nofun
  serial_inj := nofun

namespace Sound

theorem add (h : c.Sound) {t : Template} (ht : Template.compile source = .ok t) :
    (c.add source t).Sound where
  source_eq := by
    intro other e he
    rw [find?_add] at he
    split at he
    · next heq =>
      cases he
      rw [← heq, Template.compile_eq_ok_iff.1 ht]
    · exact h.source_eq he
  serial_lt := by
    intro other e he
    rw [find?_add] at he
    split at he
    · cases he
      exact Nat.lt_succ_self _
    · exact Nat.lt_succ_of_lt (h.serial_lt he)
  serial_inj := by
    intro a b e f he hf heq
    rw [find?_add] at he hf
    split at he <;> split at hf
    · next ha hb => rw [← ha, ← hb]
    · cases he
      exact absurd heq.symm (Nat.ne_of_lt (h.serial_lt hf))
    · cases hf
      exact absurd heq (Nat.ne_of_lt (h.serial_lt he))
    · exact h.serial_inj he hf heq

theorem step (h : c.Sound) (s : Step) : (c.step s).1.Sound := by
  cases s with
  | get source =>
    obtain ⟨e, -, hs⟩ | ⟨t, -, ht, hs⟩ | ⟨e, -, -, hs⟩ := c.step_get_cases source
    · rwa [hs]
    · rw [hs]
      exact h.add ht
    · rwa [hs]
  | contains source => exact h
  | clear => exact sound_empty_entries c.compiled

theorem after (h : c.Sound) (steps : List Step) : (c.after steps).Sound := by
  induction steps generalizing c with
  | nil => exact h
  | cons s steps ih => exact ih (h.step s)

theorem compile_eq (h : c.Sound) (he : c.find? source = some e) :
    Template.compile source = .ok e.template :=
  Template.compile_eq_ok_iff.2 (h.source_eq he)

theorem getOrCompile_cases (h : c.Sound) (source : String) :
    (∃ e c', c.getOrCompile source = .ok (e, c') ∧ c'.Sound ∧
        Template.compile source = .ok e.template) ∨
      ∃ error, c.getOrCompile source = .error error ∧ Template.compile source = .error error := by
  obtain ⟨e, he, hget⟩ | ⟨t, -, ht, hget⟩ | ⟨error, -, he, hget⟩ := c.getOrCompile_cases source
  · exact .inl ⟨e, c, hget, h, h.compile_eq he⟩
  · exact .inl ⟨_, _, hget, h.add ht, ht⟩
  · exact .inr ⟨error, hget, he⟩

theorem exists_got (h : c.Sound) (source : String) :
    ∃ result, (c.step (.get source)).2 = .got result ∧
      result.map CachedTemplate.template = Template.compile source := by
  obtain ⟨e, he, hs⟩ | ⟨t, -, ht, hs⟩ | ⟨e, -, he, hs⟩ := c.step_get_cases source
  · exact ⟨.ok e, by rw [hs], (h.compile_eq he).symm⟩
  · exact ⟨.ok ⟨t, c.compiled⟩, by rw [hs], ht.symm⟩
  · exact ⟨.error e, by rw [hs], he.symm⟩

end Sound

theorem sound_after (steps : List Step) : (empty.after steps).Sound :=
  (sound_empty_entries 0).after steps

theorem not_asked_nil : ¬ Asked [] source := by
  rintro ⟨before, since, h, -⟩
  cases before <;> cases h

theorem asked_append_singleton {s : Step} :
    Asked (steps ++ [s]) source ↔ s = .get source ∨ s ≠ .clear ∧ Asked steps source := by
  constructor
  · rintro ⟨before, since, h, hclear⟩
    obtain ⟨-, hlast, -⟩ | ⟨earlier, rfl, rfl⟩ := append_singleton_eq_iff.1 h
    · exact .inl hlast.symm
    · rw [List.mem_append, List.mem_singleton, not_or] at hclear
      exact .inr ⟨Ne.symm hclear.2, before, earlier, rfl, hclear.1⟩
  · rintro (rfl | ⟨hs, before, since, rfl, hclear⟩)
    · exact ⟨steps, [], rfl, List.not_mem_nil⟩
    · refine ⟨before, since ++ [s], by simp, ?_⟩
      rw [List.mem_append, List.mem_singleton, not_or]
      exact ⟨hclear, Ne.symm hs⟩

theorem exists_find?_step_iff (c : Cache) (s : Step) :
    (∃ e, (c.step s).1.find? source = some e) ↔
      (s = .get source ∧ ∃ t, Template.compile source = .ok t) ∨
        s ≠ .clear ∧ ∃ e, c.find? source = some e := by
  cases s with
  | contains other => simp [Cache.step]
  | clear => simp [Cache.step, clear, find?]
  | get other =>
    have hkeep : Step.get other ≠ .clear := by simp
    obtain ⟨e, he, hs⟩ | ⟨t, -, ht, hs⟩ | ⟨e, -, he, hs⟩ := c.step_get_cases other
    · rw [hs]
      constructor
      · exact fun hfind => .inr ⟨hkeep, hfind⟩
      · rintro (⟨heq, -⟩ | ⟨-, hfind⟩)
        · cases heq
          exact ⟨e, he⟩
        · exact hfind
    · rw [hs, find?_add]
      by_cases heq : other = source
      · subst heq
        simp [ht]
      · simp [heq]
    · rw [hs]
      constructor
      · exact fun hfind => .inr ⟨hkeep, hfind⟩
      · rintro (⟨heq, t, ht⟩ | ⟨-, hfind⟩)
        · cases heq
          cases he.symm.trans ht
        · exact hfind

theorem mem_sources_step_iff (c : Cache) (s : Step) :
    source ∈ (c.step s).1.sources ↔
      (s = .get source ∧ ∃ t, Template.compile source = .ok t) ∨
        s ≠ .clear ∧ source ∈ c.sources := by
  rw [sources, sources, Table.mem_keys_iff, Table.mem_keys_iff]
  exact c.exists_find?_step_iff s

theorem exists_find?_after_iff (steps : List Step) (source : String) :
    (∃ e, (empty.after steps).find? source = some e) ↔ Kept steps source := by
  induction steps using List.reverseRecOn with
  | nil =>
    constructor
    · rintro ⟨e, h⟩
      cases h
    · exact fun h => (not_asked_nil h.1).elim
  | append_singleton steps s ih =>
    have hstep : empty.after (steps ++ [s]) = ((empty.after steps).step s).1 := after_append ..
    rw [hstep, exists_find?_step_iff, ih, Kept, Kept, asked_append_singleton]
    tauto

theorem mem_sources_iff (steps : List Step) (source : String) :
    source ∈ (empty.after steps).sources ↔ Kept steps source := by
  rw [← exists_find?_after_iff]
  exact Table.mem_keys_iff

theorem find?_of_got (h : (c.step (.get source)).2 = .got (.ok e)) :
    (c.step (.get source)).1.find? source = some e := by
  obtain ⟨f, hf, hs⟩ | ⟨t, -, -, hs⟩ | ⟨err, -, -, hs⟩ := c.step_get_cases source
  · rw [hs] at h ⊢
    cases h
    exact hf
  · rw [hs] at h ⊢
    cases h
    rw [find?_add, if_pos rfl]
  · rw [hs] at h
    cases h

theorem find?_step {s : Step} (h : c.find? source = some e) (hs : s ≠ .clear) :
    (c.step s).1.find? source = some e := by
  cases s with
  | contains other => exact h
  | clear => exact absurd rfl hs
  | get other =>
    obtain ⟨f, -, hs⟩ | ⟨t, hother, -, hs⟩ | ⟨err, -, -, hs⟩ := c.step_get_cases other
    · rwa [hs]
    · have hne : other ≠ source := by
        rintro rfl
        cases hother.symm.trans h
      rw [hs, find?_add, if_neg hne, h]
    · rwa [hs]

theorem find?_after (h : c.find? source = some e) (hclear : .clear ∉ steps) :
    (c.after steps).find? source = some e := by
  induction steps generalizing c with
  | nil => exact h
  | cons s steps ih =>
    rw [List.mem_cons, not_or] at hclear
    exact ih (find?_step h (Ne.symm hclear.1)) hclear.2

theorem compiled_le_step (c : Cache) (s : Step) : c.compiled ≤ (c.step s).1.compiled := by
  cases s with
  | contains source => exact Nat.le_refl _
  | clear => exact Nat.le_refl _
  | get source =>
    obtain ⟨e, -, hs⟩ | ⟨t, -, -, hs⟩ | ⟨err, -, -, hs⟩ := c.step_get_cases source
    · rw [hs]
    · rw [hs]
      exact Nat.le_succ _
    · rw [hs]

theorem compiled_le_after (c : Cache) (steps : List Step) :
    c.compiled ≤ (c.after steps).compiled := by
  induction steps generalizing c with
  | nil => exact Nat.le_refl _
  | cons s steps ih => exact Nat.le_trans (c.compiled_le_step s) (ih _)

/-- All that the cache holds, or is yet to compile, has at least this serial number. -/
structure From (serial : Nat) (c : Cache) : Prop where
  le_compiled : serial ≤ c.compiled
  le_serial : ∀ {source e}, c.find? source = some e → serial ≤ e.serial

theorem from_clear (c : Cache) : c.clear.From c.compiled where
  le_compiled := Nat.le_refl _
  le_serial := nofun

namespace From

variable {serial : Nat}

theorem step (h : c.From serial) (s : Step) : (c.step s).1.From serial := by
  refine ⟨Nat.le_trans h.le_compiled (c.compiled_le_step s), fun {source e} he => ?_⟩
  cases s with
  | contains other => exact h.le_serial he
  | clear => cases he
  | get other =>
    obtain ⟨f, -, hs⟩ | ⟨t, -, -, hs⟩ | ⟨err, -, -, hs⟩ := c.step_get_cases other
    · rw [hs] at he
      exact h.le_serial he
    · rw [hs, find?_add] at he
      split at he
      · cases he
        exact h.le_compiled
      · exact h.le_serial he
    · rw [hs] at he
      exact h.le_serial he

theorem after (h : c.From serial) (steps : List Step) : (c.after steps).From serial := by
  induction steps generalizing c with
  | nil => exact h
  | cons s steps ih => exact ih (h.step s)

end From

section

variable {between : List Step} (he : (c.step (.get source)).2 = .got (.ok e))
  (hf : (((c.step (.get source)).1.after between).step (.get other)).2 = .got (.ok f))
include he hf

theorem Sound.serial_lt_of_clear (h : c.Sound) (hclear : .clear ∈ between) :
    e.serial < f.serial := by
  obtain ⟨earlier, later, rfl⟩ := List.append_of_mem hclear
  rw [after_append] at hf
  have hlater : (((c.step (.get source)).1.after earlier).clear.after later).From
      ((c.step (.get source)).1.after earlier).compiled := (from_clear _).after later
  calc e.serial
    _ < (c.step (.get source)).1.compiled := (h.step _).serial_lt (find?_of_got he)
    _ ≤ ((c.step (.get source)).1.after earlier).compiled := compiled_le_after ..
    _ ≤ f.serial := (hlater.step (.get other)).le_serial (find?_of_got hf)

theorem Sound.serial_eq_iff (h : c.Sound) :
    (e.serial = f.serial ↔ source = other ∧ .clear ∉ between) ∧
      (e.serial = f.serial → e.template = f.template) := by
  by_cases hclear : .clear ∈ between
  · have hlt := h.serial_lt_of_clear he hf hclear
    have hne : e.serial ≠ f.serial := Nat.ne_of_lt hlt
    exact ⟨⟨fun heq => absurd heq hne, fun hnot => absurd hclear hnot.2⟩, fun heq => absurd heq hne⟩
  · -- Without a clear both objects are in the cache behind the second get.
    have hboth : (((c.step (.get source)).1.after between).step (.get other)).1.Sound :=
      ((h.step _).after between).step _
    have hfirst := find?_step (find?_after (find?_of_got he) hclear) (s := .get other) nofun
    have hsecond := find?_of_got hf
    have hsource (heq : e.serial = f.serial) : source = other :=
      hboth.serial_inj hfirst hsecond heq
    have hobject (heq : source = other) : e = f := by
      subst heq
      exact Option.some.inj (hfirst.symm.trans hsecond)
    refine ⟨⟨fun heq => ⟨hsource heq, hclear⟩, fun heq => ?_⟩, fun heq => ?_⟩
    · rw [hobject heq.1]
    · rw [hobject (hsource heq)]

end

/-- What is true of a cache behind these steps. -/
structure Faithful (steps : List Step) (c : Cache) : Prop where
  nodup_sources : c.sources.Nodup
  mem_sources_iff : ∀ source, source ∈ c.sources ↔ Kept steps source
  size_eq : c.size = {source | Kept steps source}.ncard
  isEmpty_iff : c.isEmpty = true ↔ ∀ source, ¬ Kept steps source
  contains_iff : ∀ source, c.contains source = true ↔ Kept steps source
  compile_eq : ∀ source e, c.find? source = some e →
    e.template.source = source ∧ Template.compile source = .ok e.template
  got_eq : ∀ source, ∃ result, (c.step (.get source)).2 = .got result ∧
    result.map CachedTemplate.template = Template.compile source
  /-- Serial numbers tell objects apart. The same object is handed out for the same source as long
  as the cache is not cleared, and it has the same contents whenever it is handed out. -/
  serial_eq_iff : ∀ source between other e f,
    (c.step (.get source)).2 = .got (.ok e) →
    (((c.step (.get source)).1.after between).step (.get other)).2 = .got (.ok f) →
      (e.serial = f.serial ↔ source = other ∧ .clear ∉ between) ∧
        (e.serial = f.serial → e.template = f.template)
  step_get_error : ∀ source error, (c.step (.get source)).2 = .got (.error error) →
    (c.step (.get source)).1 = c
  step_contains : ∀ source, c.step (.contains source) = (c, .contained (c.contains source))

theorem contains_iff_mem_sources (c : Cache) (source : String) :
    c.contains source = true ↔ source ∈ c.sources := by
  rw [contains, Option.isSome_iff_exists]
  exact Table.mem_keys_iff.symm

theorem isEmpty_iff_sources (c : Cache) :
    c.isEmpty = true ↔ ∀ source, source ∉ c.sources := by
  rw [isEmpty, Table.isEmpty_iff, ← List.eq_nil_iff_forall_not_mem, sources]

/-- A cache is faithful after any history: it holds each source that compiles and was asked for
since the last clear, once, and hands out for it what compiling gives. -/
theorem faithful_after (steps : List Step) : Faithful steps (empty.after steps) := by
  have hsound := sound_after steps
  have hmem := mem_sources_iff steps
  refine
    { nodup_sources := Table.nodup_keys _
      mem_sources_iff := hmem
      size_eq := ?_
      isEmpty_iff := ?_
      contains_iff := fun source => (contains_iff_mem_sources ..).trans (hmem source)
      compile_eq := fun source e he => ⟨hsound.source_eq he, hsound.compile_eq he⟩
      got_eq := hsound.exists_got
      serial_eq_iff := fun _ _ _ _ _ he hf => hsound.serial_eq_iff he hf
      step_get_error := ?_
      step_contains := fun _ => rfl }
  · have hsize : (empty.after steps).size = {source | source ∈ (empty.after steps).sources}.ncard :=
      Table.size_eq_ncard _
    simp only [hsize, hmem]
  · simp only [isEmpty_iff_sources, hmem]
  · intro source error h
    obtain ⟨e, -, hs⟩ | ⟨t, -, -, hs⟩ | ⟨err, -, -, hs⟩ := step_get_cases _ source
    · rw [hs]
    · rw [hs] at h
      cases h
    · rw [hs]

end Cache

end Logicless
