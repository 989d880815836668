import Logicless.Preset.Accounting
import Logicless.Proofs.Preset

namespace Logicless

namespace Preset

theorem render_of_some (p : Preset) (c : Cache) {template : Option String} {source : String}
    (hsource : p.source? template = some source) (data : Option Value) :
    (∃ text, p.render c template data = .ok (text, (c.step (.get source)).1)) ∨
      ∃ error, p.render c template data = .error error ∧ (c.step (.get source)).1 = c := by
  rw [render, hsource, Cache.step]
  dsimp only
  cases c.getOrCompile source with
  | ok got => exact .inl ⟨p.text got.1.template data, rfl⟩
  | error error => exact .inr ⟨error, rfl, rfl⟩

theorem render_of_none (p : Preset) (c : Cache) {template : Option String}
    (hsource : p.source? template = none) (data : Option Value) :
    p.render c template data = .ok ("", c) := by
  rw [render, hsource]

theorem render_of_ok (p : Preset) {c : Cache} (hc : c.Sound) {template : Option String}
    {source : String} {t : Template} (hsource : p.source? template = some source)
    (ht : Template.compile source = .ok t) (data : Option Value) :
    ∃ c', p.render c template data = .ok (p.text t data, c') := by
  rw [render, hsource]
  dsimp only
  obtain ⟨e, c', hget, -, he⟩ | ⟨error, -, he⟩ := hc.getOrCompile_cases source
  · cases he.symm.trans ht
    exact ⟨c', by rw [hget]; rfl⟩
  · cases he.symm.trans ht

theorem render_of_error (p : Preset) {c : Cache} (hc : c.Sound) {template : Option String}
    {source : String} {error : CompileError} (hsource : p.source? template = some source)
    (herror : Template.compile source = .error error) (data : Option Value) :
    p.render c template data = .error error := by
  rw [render, hsource]
  dsimp only
  obtain ⟨e, c', -, -, he⟩ | ⟨error, hget, he⟩ := hc.getOrCompile_cases source
  · cases he.symm.trans herror
  · cases he.symm.trans herror
    rw [hget]
    rfl

theorem display_of_some (p : Preset) (c : Cache) {source : String}
    (hsource : p.source? none = some source) :
    (p.display c).2 = (c.step (.get source)).1 := by
  obtain ⟨text, hrender⟩ | ⟨error, hrender, hsame⟩ := p.render_of_some c hsource none
  · rw [display, hrender]
  · rw [display, hrender, hsame]

end Preset

namespace Workshop

variable {w : Workshop} {s : Step} {number : Nat} {source : String}

theorem run_append (w : Workshop) (steps more : List Step) :
    (w.run (steps ++ more)).1 = ((w.run steps).1.run more).1 := by
  induction steps generalizing w with
  | nil => rfl
  | cons s steps ih => exact ih (w.step s).1

theorem after_append_singleton (steps : List Step) (s : Step) :
    after (steps ++ [s]) = ((after steps).step s).1 :=
  run_append ..

theorem preset?_put (w : Workshop) (name other : String) (p : Preset) :
    (w.put name p).preset? other = if name = other then some p else w.preset? other :=
  Table.find?_insert ..

theorem setCache_cache (w : Workshop) (number : Nat) : w.setCache number (w.cache number) = w := by
  rw [setCache, cache]
  cases hc : w.caches[number]? with
  | none => rw [List.set_eq_of_length_le (List.getElem?_eq_none_iff.1 hc)]
  | some c =>
    obtain ⟨hlt, rfl⟩ := List.getElem?_eq_some_iff.1 hc
    rw [Option.getD_some, List.set_getElem_self]

theorem cache_setCache_self (h : number < w.caches.length) (c : Cache) :
    (w.setCache number c).cache number = c := by
  rw [cache, setCache, List.getElem?_set_self h, Option.getD_some]

theorem cache_setCache_of_ne {other : Nat} (h : number ≠ other) (c : Cache) :
    (w.setCache number c).cache other = w.cache other := by
  rw [cache, setCache, List.getElem?_set_ne h, cache]

theorem cache_create (w : Workshop) (name : String) (number : Nat) :
    (w.step (.create name)).1.cache number = w.cache number := by
  rw [step, cache, cache]
  dsimp only
  obtain hlt | rfl | hgt := lt_trichotomy number w.caches.length
  · rw [List.getElem?_append_left hlt]
  · rw [List.getElem?_concat_length, List.getElem?_eq_none (Nat.le_refl _)]
    rfl
  · rw [List.getElem?_eq_none (by simpa using hgt), List.getElem?_eq_none (Nat.le_of_lt hgt)]

theorem cache_change (w : Workshop) (name : String) (f : Preset → Preset) (number : Nat) :
    (w.change name f).1.cache number = w.cache number := by
  rw [change]
  cases w.preset? name with
  | none => rfl
  | some p => rfl

theorem cache_step_of_builds (h : s.builds = true) (number : Nat) :
    (w.step s).1.cache number = w.cache number := by
  cases s with
  | create name => exact w.cache_create name number
  | copy name other =>
    rw [step]
    cases w.preset? other with
    | none => rfl
    | some p => rfl
  | setTemplate | setData | setPartials | setOptions => exact w.cache_change ..
  | attach name other =>
    rw [step]
    cases w.preset? other with
    | none => rfl
    | some q => exact w.cache_change ..
  | clearCache | render | display => cases h

theorem step_of_request? {r : Cache.Step} (h : w.request? s = some (number, r)) :
    (w.step s).1 = w.setCache number ((w.cache number).step r).1 := by
  cases s with
  | create | copy | setTemplate | setData | setPartials | setOptions | attach => cases h
  | clearCache name =>
    obtain ⟨p, hp, heq⟩ := Option.map_eq_some_iff.1 h
    cases heq
    rw [step, hp]
    rfl
  | render name template data =>
    obtain ⟨p, hp, hsome⟩ := Option.bind_eq_some_iff.1 h
    obtain ⟨source, hsource, heq⟩ := Option.map_eq_some_iff.1 hsome
    cases heq
    rw [step, hp]
    dsimp only
    obtain ⟨text, hrender⟩ | ⟨error, hrender, hsame⟩ :=
      p.render_of_some (w.cache p.cache) hsource data
    · rw [hrender]
    · rw [hrender, hsame, setCache_cache]
  | display name =>
    obtain ⟨p, hp, hsome⟩ := Option.bind_eq_some_iff.1 h
    obtain ⟨source, hsource, heq⟩ := Option.map_eq_some_iff.1 hsome
    cases heq
    rw [step, hp]
    dsimp only
    rw [p.display_of_some _ hsource]

theorem step_of_no_request (hbuilds : s.builds = false) (h : w.request? s = none) :
    (w.step s).1 = w := by
  cases s with
  | create | copy | setTemplate | setData | setPartials | setOptions | attach => cases hbuilds
  | clearCache name =>
    rw [step, Option.map_eq_none_iff.1 h]
  | render name template data =>
    rw [step]
    cases hp : w.preset? name with
    | none => rfl
    | some p =>
      rw [request?, hp, Option.bind_some, Option.map_eq_none_iff] at h
      dsimp only
      rw [p.render_of_none _ h]
      exact w.setCache_cache p.cache
  | display name =>
    rw [step]
    cases hp : w.preset? name with
    | none => rfl
    | some p =>
      rw [request?, hp, Option.bind_some, Option.map_eq_none_iff] at h
      dsimp only
      rw [Preset.display, p.render_of_none _ h]
      exact w.setCache_cache p.cache

theorem cache_step_of_not_asked (h : ∀ r, w.request? s ≠ some (number, r)) :
    (w.step s).1.cache number = w.cache number := by
  cases hbuilds : s.builds with
  | true => exact cache_step_of_builds hbuilds number
  | false =>
    cases hrequest : w.request? s with
    | none => rw [step_of_no_request hbuilds hrequest]
    | some asked =>
      obtain ⟨other, r⟩ := asked
      have hne : other ≠ number := by
        intro heq
        exact h r (by rw [hrequest, heq])
      rw [step_of_request? hrequest, cache_setCache_of_ne hne]

theorem exists_setCache_of_not_builds (h : s.builds = false) :
    ∃ number c, (w.step s).1 = w.setCache number c := by
  cases hrequest : w.request? s with
  | none => exact ⟨0, w.cache 0, by rw [step_of_no_request h hrequest, setCache_cache]⟩
  | some asked => exact ⟨asked.1, _, step_of_request? hrequest⟩

theorem presets_step_of_not_builds (h : s.builds = false) : (w.step s).1.presets = w.presets := by
  obtain ⟨number, c, hstep⟩ := w.exists_setCache_of_not_builds h
  rw [hstep, setCache]

/-- Every preset is attached to a cache of the workshop. -/
def Attached (w : Workshop) : Prop :=
  ∀ name p, w.preset? name = some p → p.cache < w.caches.length

namespace Attached

theorem empty : Workshop.empty.Attached :=
  nofun

theorem put (h : w.Attached) {p : Preset} (hp : p.cache < w.caches.length) (name : String) :
    (w.put name p).Attached := by
  intro other q hq
  rw [preset?_put] at hq
  split at hq
  · cases hq
    exact hp
  · exact h other q hq

theorem change (h : w.Attached) (name : String) {f : Preset → Preset}
    (hf : ∀ p, w.preset? name = some p → (f p).cache < w.caches.length) :
    (w.change name f).1.Attached := by
  rw [Workshop.change]
  cases hp : w.preset? name with
  | none => exact h
  | some p => exact h.put (hf p hp) name

theorem setCache (h : w.Attached) (number : Nat) (c : Cache) : (w.setCache number c).Attached := by
  intro name p hp
  rw [Workshop.setCache, List.length_set]
  exact h name p hp

theorem create (h : w.Attached) (name : String) : (w.step (.create name)).1.Attached := by
  rw [Workshop.step]
  intro other p hp
  rw [preset?, Table.find?_insert] at hp
  rw [List.length_append, List.length_singleton]
  split at hp
  · cases hp
    exact Nat.lt_succ_self _
  · exact Nat.lt_succ_of_lt (h other p hp)

theorem step (h : w.Attached) (s : Step) : (w.step s).1.Attached := by
  cases hbuilds : s.builds with
  | false =>
    obtain ⟨number, c, hstep⟩ := w.exists_setCache_of_not_builds hbuilds
    rw [hstep]
    exact h.setCache number c
  | true =>
    cases s with
    | create name => exact h.create name
    | copy name other =>
      rw [Workshop.step]
      cases hp : w.preset? other with
      | none => exact h
      | some p => exact h.put (h other p hp) name
    | setTemplate name | setData name | setPartials name | setOptions name =>
      exact h.change name (h name)
    | attach name other =>
      rw [Workshop.step]
      cases hq : w.preset? other with
      | none => exact h
      | some q => exact h.change name fun _ _ => h other q hq
    | clearCache | render | display => cases hbuilds

theorem run (h : w.Attached) (steps : List Step) : (w.run steps).1.Attached := by
  induction steps generalizing w with
  | nil => exact h
  | cons s steps ih => exact ih (h.step s)

theorem lt_of_request? (h : w.Attached) {r : Cache.Step}
    (hrequest : w.request? s = some (number, r)) : number < w.caches.length := by
  cases s with
  | create | copy | setTemplate | setData | setPartials | setOptions | attach => cases hrequest
  | clearCache name =>
    obtain ⟨p, hp, heq⟩ := Option.map_eq_some_iff.1 hrequest
    cases heq
    exact h name p hp
  | render name | display name =>
    obtain ⟨p, hp, hsome⟩ := Option.bind_eq_some_iff.1 hrequest
    obtain ⟨source, -, heq⟩ := Option.map_eq_some_iff.1 hsome
    cases heq
    exact h name p hp

theorem cache_step (h : w.Attached) {r : Cache.Step}
    (hrequest : w.request? s = some (number, r)) :
    (w.step s).1.cache number = ((w.cache number).step r).1 := by
  -- Where there is no cache, `setCache` has no effect, so the number has to be one of a cache.
  rw [step_of_request? hrequest, cache_setCache_self (h.lt_of_request? hrequest)]

theorem mem_sources_step_iff (h : w.Attached) :
    source ∈ ((w.step s).1.cache number).sources ↔
      (w.request? s = some (number, .get source) ∧ ∃ t, Template.compile source = .ok t) ∨
        w.request? s ≠ some (number, .clear) ∧ source ∈ (w.cache number).sources := by
  by_cases hasked : ∃ r, w.request? s = some (number, r)
  · obtain ⟨r, hr⟩ := hasked
    rw [h.cache_step hr, hr, Cache.mem_sources_step_iff]
    simp
  · have hnone : ∀ r, w.request? s ≠ some (number, r) := fun r hr => hasked ⟨r, hr⟩
    rw [cache_step_of_not_asked hnone]
    simp [hnone]

end Attached

theorem not_kept_nil : ¬ Kept [] number source := by
  intro h
  obtain ⟨-, before, s, since, hsplit, -⟩ := h
  cases before <;> cases hsplit

theorem kept_append_singleton {steps : List Step} :
    Kept (steps ++ [s]) number source ↔
      ((after steps).request? s = some (number, .get source) ∧
          ∃ t, Template.compile source = .ok t) ∨
        (after steps).request? s ≠ some (number, .clear) ∧ Kept steps number source := by
  constructor
  · intro h
    obtain ⟨hcompile, before, asking, since, hsplit, hasks, hclear⟩ := h
    obtain ⟨rfl, rfl, rfl⟩ | ⟨earlier, rfl, rfl⟩ := append_singleton_eq_iff.1 hsplit
    · exact .inl ⟨hasks, hcompile⟩
    · apply Or.inr
      apply And.intro (hclear earlier s [] rfl)
      refine ⟨hcompile, before, asking, earlier, rfl, hasks, ?_⟩
      rintro between r later rfl
      exact hclear between r (later ++ [s]) (List.append_assoc ..)
  · intro h
    obtain ⟨hasks, hcompile⟩ | ⟨hlast, hcompile, before, asking, since, rfl, hasks, hclear⟩ := h
    · refine ⟨hcompile, steps, s, [], rfl, hasks, ?_⟩
      intro between r later heq
      cases between <;> cases heq
    · refine ⟨hcompile, before, asking, since ++ [s], List.append_assoc .., hasks, ?_⟩
      intro between r later heq
      obtain ⟨rfl, rfl, -⟩ | ⟨earlier, -, hsince⟩ := append_singleton_eq_iff.1 heq
      · exact hlast
      · exact hclear between r earlier hsince

theorem attached_after (steps : List Step) : (after steps).Attached :=
  Attached.empty.run steps

theorem mem_sources_after_iff (steps : List Step) (number : Nat) (source : String) :
    source ∈ ((after steps).cache number).sources ↔ Kept steps number source := by
  induction steps using List.reverseRecOn with
  | nil =>
    have hempty : source ∉ ((after []).cache number).sources := List.not_mem_nil
    simp [hempty, not_kept_nil]
  | append_singleton steps s ih =>
    rw [after_append_singleton, (attached_after steps).mem_sources_step_iff,
      kept_append_singleton, ih]

theorem sound_cache_after (steps : List Step) (number : Nat) :
    ((after steps).cache number).Sound :=
  (Represents.empty.run steps).1.sound_cache number

section

variable {name : String} {p : Preset} {template : Option String}

theorem step_render_of_none (hp : w.preset? name = some p) (hsource : p.source? template = none)
    (data : Option Value) : w.step (.render name template data) = (w, .rendered (.ok "")) := by
  rw [step, hp]
  dsimp only
  rw [p.render_of_none _ hsource]
  dsimp only
  rw [setCache_cache]

theorem step_render_of_ok (hp : w.preset? name = some p)
    (hsource : p.source? template = some source) {t : Template} (hc : (w.cache p.cache).Sound)
    (ht : Template.compile source = .ok t) (data : Option Value) :
    (w.step (.render name template data)).2 = .rendered (.ok (p.text t data)) := by
  obtain ⟨c, hrender⟩ := p.render_of_ok hc hsource ht data
  rw [step, hp]
  dsimp only
  rw [hrender]

theorem step_render_of_error (hp : w.preset? name = some p)
    (hsource : p.source? template = some source) {error : CompileError}
    (hc : (w.cache p.cache).Sound) (herror : Template.compile source = .error error)
    (data : Option Value) :
    w.step (.render name template data) = (w, .rendered (.error error)) := by
  rw [step, hp]
  dsimp only
  rw [p.render_of_error hc hsource herror]

theorem step_display_of_none (hp : w.preset? name = some p) (hsource : p.source? none = none) :
    w.step (.display name) = (w, .displayed "") := by
  rw [step, hp]
  dsimp only
  rw [Preset.display, p.render_of_none _ hsource]
  dsimp only
  rw [setCache_cache]

theorem step_display_of_ok (hp : w.preset? name = some p) (hsource : p.source? none = some source)
    {t : Template} (hc : (w.cache p.cache).Sound) (ht : Template.compile source = .ok t) :
    (w.step (.display name)).2 = .displayed (p.text t none) := by
  obtain ⟨c, hrender⟩ := p.render_of_ok hc hsource ht none
  rw [step, hp]
  dsimp only
  rw [Preset.display, hrender]

theorem step_display_of_error (hp : w.preset? name = some p)
    (hsource : p.source? none = some source) {error : CompileError}
    (hc : (w.cache p.cache).Sound) (herror : Template.compile source = .error error) :
    w.step (.display name) = (w, .displayed "") := by
  rw [step, hp]
  dsimp only
  rw [Preset.display, p.render_of_error hc hsource herror]
  dsimp only
  rw [setCache_cache]

theorem preset?_copy {other : String} (hp : w.preset? other = some p) (name : String) :
    (w.step (.copy name other)).1.preset? name = some p := by
  rw [step, hp]
  dsimp only
  rw [preset?_put, if_pos rfl]

theorem preset?_copy_of_ne {target : String} (h : name ≠ target) (other : String) :
    (w.step (.copy name other)).1.preset? target = w.preset? target := by
  rw [step]
  cases w.preset? other with
  | none => rfl
  | some p =>
    dsimp only
    rw [preset?_put, if_neg h]

theorem preset?_attach {other : String} {q : Preset} (hp : w.preset? name = some p)
    (hq : w.preset? other = some q) :
    (w.step (.attach name other)).1.preset? name = some { p with cache := q.cache } := by
  rw [step, hq]
  dsimp only
  rw [change, hp]
  dsimp only
  rw [preset?_put, if_pos rfl]

theorem preset?_attach_of_ne {target : String} (h : name ≠ target) (other : String) :
    (w.step (.attach name other)).1.preset? target = w.preset? target := by
  rw [step]
  cases w.preset? other with
  | none => rfl
  | some q =>
    dsimp only
    rw [change]
    cases w.preset? name with
    | none => rfl
    | some p =>
      dsimp only
      rw [preset?_put, if_neg h]

end

/-- What is true of a workshop that these steps have built. -/
structure Accounted (steps : List Step) (w : Workshop) : Prop where
  attached : w.Attached
  nodup_sources : ∀ number, (w.cache number).sources.Nodup
  mem_sources_iff : ∀ number source, source ∈ (w.cache number).sources ↔ Kept steps number source
  size_eq : ∀ number, (w.cache number).size = {source | Kept steps number source}.ncard
  /-- A source comes into a cache only by a call for it. -/
  asked_of_mem_step : ∀ s number source, source ∉ (w.cache number).sources →
    source ∈ ((w.step s).1.cache number).sources →
      w.request? s = some (number, .get source) ∧ ∃ t, Template.compile source = .ok t
  cache_step_of_not_asked : ∀ s number, (∀ r, w.request? s ≠ some (number, r)) →
    (w.step s).1.cache number = w.cache number
  cache_step_of_builds : ∀ s, s.builds = true → ∀ number,
    (w.step s).1.cache number = w.cache number
  presets_step_of_not_builds : ∀ s, s.builds = false → (w.step s).1.presets = w.presets
  /-- A call gives a text exactly if its source compiles or there is none. Otherwise it leaves
  everything as it is, as does a call without a template. -/
  render_of_none : ∀ name p template data, w.preset? name = some p → p.source? template = none →
    w.step (.render name template data) = (w, .rendered (.ok ""))
  render_of_ok : ∀ name p template data source t, w.preset? name = some p →
    p.source? template = some source → Template.compile source = .ok t →
      (w.step (.render name template data)).2 = .rendered (.ok (p.text t data))
  render_of_error : ∀ name p template data source error, w.preset? name = some p →
    p.source? template = some source → Template.compile source = .error error →
      w.step (.render name template data) = (w, .rendered (.error error))
  display_of_none : ∀ name p, w.preset? name = some p → p.source? none = none →
    w.step (.display name) = (w, .displayed "")
  display_of_ok : ∀ name p source t, w.preset? name = some p → p.source? none = some source →
    Template.compile source = .ok t → (w.step (.display name)).2 = .displayed (p.text t none)
  display_of_error : ∀ name p source error, w.preset? name = some p →
    p.source? none = some source → Template.compile source = .error error →
      w.step (.display name) = (w, .displayed "")
  /-- A copy is attached to the cache of the preset it is a copy of. -/
  preset?_copy : ∀ name other p, w.preset? other = some p →
    (w.step (.copy name other)).1.preset? name = some p
  preset?_copy_of_ne : ∀ name other target, name ≠ target →
    (w.step (.copy name other)).1.preset? target = w.preset? target
  /-- Attaching moves one preset to another cache and changes nothing else about it. -/
  preset?_attach : ∀ name other p q, w.preset? name = some p → w.preset? other = some q →
    (w.step (.attach name other)).1.preset? name = some { p with cache := q.cache }
  preset?_attach_of_ne : ∀ name other target, name ≠ target →
    (w.step (.attach name other)).1.preset? target = w.preset? target

/-- After any steps each cache holds the sources that presets attached to it have rendered or
displayed since it was last cleared, each of them once. Only such calls put a source into a cache,
and only setting up a preset changes one. -/
theorem accounted_after (steps : List Step) : Accounted steps (after steps) := by
  have hattached := attached_after steps
  have hsound := sound_cache_after steps
  have hmem := mem_sources_after_iff steps
  have hnodup (number : Nat) : ((after steps).cache number).sources.Nodup :=
    Table.nodup_keys _
  exact
    { attached := hattached
      nodup_sources := hnodup
      mem_sources_iff := hmem
      size_eq := by
        intro number
        rw [Cache.size, Table.size_eq_ncard]
        simp only [← hmem]
        rfl
      asked_of_mem_step := by
        intro s number source hnot hin
        obtain hasked | ⟨-, hin⟩ := hattached.mem_sources_step_iff.1 hin
        · exact hasked
        · exact absurd hin hnot
      cache_step_of_not_asked := fun _ _ h => Workshop.cache_step_of_not_asked h
      cache_step_of_builds := fun _ h => Workshop.cache_step_of_builds h
      presets_step_of_not_builds := fun _ h => Workshop.presets_step_of_not_builds h
      render_of_none := fun _ _ _ data hp hs => step_render_of_none hp hs data
      render_of_ok := fun _ _ _ data _ _ hp hs ht => step_render_of_ok hp hs (hsound _) ht data
      render_of_error := fun _ _ _ data _ _ hp hs he =>
        step_render_of_error hp hs (hsound _) he data
      display_of_none := fun _ _ hp hs => step_display_of_none hp hs
      display_of_ok := fun _ _ _ _ hp hs ht => step_display_of_ok hp hs (hsound _) ht
      display_of_error := fun _ _ _ _ hp hs he => step_display_of_error hp hs (hsound _) he
      preset?_copy := fun name _ _ hp => Workshop.preset?_copy hp name
      preset?_copy_of_ne := fun _ other _ h => Workshop.preset?_copy_of_ne h other
      preset?_attach := fun _ _ _ _ hp hq => Workshop.preset?_attach hp hq
      preset?_attach_of_ne := fun _ other _ h => Workshop.preset?_attach_of_ne h other }

end Workshop

end Logicless
