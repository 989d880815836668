import Logicless.Preset.Plain
import Logicless.Proofs.Cache

namespace Logicless

namespace Preset

theorem render_cases (p : Preset) {c : Cache} (hc : c.Sound) (template : Option String)
    (data : Option Value) :
    (∃ text c', p.render c template data = .ok (text, c') ∧ c'.Sound ∧
        p.settings.render template data = .ok text) ∨
      ∃ error, p.render c template data = .error error ∧
        p.settings.render template data = .error (.compile error) := by
  rw [render, source?, Settings.render, settings]
  cases template.or p.template with
  | none => exact .inl ⟨"", c, rfl, hc, rfl⟩
  | some source =>
    dsimp only
    obtain ⟨e, c', hget, hc', hcompile⟩ | ⟨error, hget, hcompile⟩ := hc.getOrCompile_cases source
    · rw [hget, hcompile]
      exact .inl ⟨p.text e.template data, c', rfl, hc', rfl⟩
    · rw [hget, hcompile]
      exact .inr ⟨error, rfl, rfl⟩

theorem display_cases (p : Preset) {c : Cache} (hc : c.Sound) :
    ∃ c', p.display c = (p.settings.display, c') ∧ c'.Sound := by
  obtain ⟨text, c', hrender, hc', hplain⟩ | ⟨error, hrender, hplain⟩ := p.render_cases hc none none
  · exact ⟨c', by rw [display, hrender, Settings.display, hplain], hc'⟩
  · exact ⟨c, by rw [display, hrender, Settings.display, hplain], hc⟩

end Preset

namespace Workshop

open Preset (Settings)

/-- The presets have these settings, and nothing wrong is in any cache. -/
structure Represents (w : Workshop) (d : Table Settings) : Prop where
  find?_eq : ∀ name, d.find? name = (w.preset? name).map Preset.settings
  sound : ∀ c ∈ w.caches, c.Sound

namespace Represents

variable {w : Workshop} {d : Table Settings}

theorem empty : Workshop.empty.Represents .empty where
  find?_eq := fun _ => rfl
  sound := nofun

theorem sound_cache (h : w.Represents d) (number : Nat) : (w.cache number).Sound := by
  rw [cache]
  cases hc : w.caches[number]? with
  | none => exact Cache.sound_empty_entries 0
  | some c => exact h.sound c (List.mem_of_getElem? hc)

theorem setCache (h : w.Represents d) (number : Nat) {c : Cache} (hc : c.Sound) :
    (w.setCache number c).Represents d where
  find?_eq := h.find?_eq
  sound := by
    intro c' hc'
    rcases List.mem_or_eq_of_mem_set hc' with hmem | rfl
    · exact h.sound c' hmem
    · exact hc

theorem insert (h : w.Represents d) (name : String) (p : Preset) :
    Represents ⟨w.presets.insert name p, w.caches⟩ (d.insert name p.settings) where
  find?_eq := by
    intro other
    rw [preset?, Table.find?_insert, Table.find?_insert, h.find?_eq]
    split <;> rfl
  sound := h.sound

theorem ask_eq (h : w.Represents d) (name : String) (f : Settings → Outcome) :
    Settings.ask d name f = ((w.preset? name).map fun p => f p.settings).getD .unknown := by
  rw [Settings.ask, h.find?_eq, Option.map_map]
  rfl

theorem addCache (h : w.Represents d) : Represents ⟨w.presets, w.caches ++ [.empty]⟩ d where
  find?_eq := h.find?_eq
  sound := by
    intro c hc
    rcases List.mem_append.1 hc with hmem | hnew
    · exact h.sound c hmem
    · rw [List.mem_singleton.1 hnew]
      exact Cache.sound_empty_entries 0

theorem replace (h : w.Represents d) {name : String} {p q : Preset} (hp : w.preset? name = some p)
    (hq : q.settings = p.settings) : Represents ⟨w.presets.insert name q, w.caches⟩ d where
  find?_eq := by
    intro other
    rw [preset?, Table.find?_insert]
    split
    · next heq => rw [← heq, h.find?_eq, hp, Option.map_some, Option.map_some, hq]
    · exact h.find?_eq other
  sound := h.sound

theorem change (h : w.Represents d) (name : String) {f : Preset → Preset}
    {g : Settings → Settings} (hfg : ∀ p, (f p).settings = g p.settings) :
    (w.change name f).1.Represents (Settings.change d name g) ∧
      (w.change name f).2.outcome = Settings.ask d name fun _ => .done := by
  rw [h.ask_eq, Workshop.change, Settings.change, h.find?_eq]
  cases w.preset? name with
  | none => exact ⟨h, rfl⟩
  | some p =>
    dsimp only [Option.map_some]
    rw [← hfg]
    exact ⟨h.insert name (f p), rfl⟩

theorem render (h : w.Represents d) (name : String) (template : Option String)
    (data : Option Value) :
    (w.step (.render name template data)).1.Represents d ∧
      (w.step (.render name template data)).2.outcome =
        Settings.ask d name fun s => .rendered (s.render template data) := by
  rw [h.ask_eq, Workshop.step]
  cases w.preset? name with
  | none => exact ⟨h, rfl⟩
  | some p =>
    dsimp only [Option.map_some]
    obtain ⟨text, c, hrender, hc, hplain⟩ | ⟨error, hrender, hplain⟩ :=
      p.render_cases (h.sound_cache p.cache) template data
    · rw [hrender, hplain]
      exact ⟨h.setCache p.cache hc, rfl⟩
    · rw [hrender, hplain]
      exact ⟨h, rfl⟩

theorem display (h : w.Represents d) (name : String) :
    (w.step (.display name)).1.Represents d ∧
      (w.step (.display name)).2.outcome =
        Settings.ask d name fun s => .displayed s.display := by
  rw [h.ask_eq, Workshop.step]
  cases w.preset? name with
  | none => exact ⟨h, rfl⟩
  | some p =>
    obtain ⟨c, hdisplay, hc⟩ := p.display_cases (h.sound_cache p.cache)
    dsimp only [Option.map_some]
    rw [hdisplay]
    exact ⟨h.setCache p.cache hc, rfl⟩

theorem step (h : w.Represents d) (s : Step) :
    (w.step s).1.Represents (Settings.step d s) ∧ (w.step s).2.outcome = Settings.outcome d s := by
  cases s with
  | create name => exact ⟨(h.insert name (.blank w.caches.length)).addCache, rfl⟩
  | copy name other =>
    rw [Settings.outcome, h.ask_eq, Workshop.step, Settings.step, h.find?_eq]
    cases w.preset? other with
    | none => exact ⟨h, rfl⟩
    | some p => exact ⟨h.insert name p, rfl⟩
  | setTemplate name source => exact h.change name fun _ => rfl
  | setData name data => exact h.change name fun _ => rfl
  | setPartials name partials => exact h.change name fun _ => rfl
  | setOptions name options => exact h.change name fun _ => rfl
  | attach name other =>
    rw [Settings.outcome, h.ask_eq, h.ask_eq, Workshop.step, Settings.step]
    cases w.preset? other with
    | none => exact ⟨h, rfl⟩
    | some q =>
      dsimp only [Option.map_some]
      rw [Workshop.change]
      cases hp : w.preset? name with
      | none => exact ⟨h, rfl⟩
      | some p => exact ⟨h.replace hp rfl, rfl⟩
  | clearCache name =>
    rw [Settings.outcome, h.ask_eq, Workshop.step, Settings.step]
    cases w.preset? name with
    | none => exact ⟨h, rfl⟩
    | some p => exact ⟨h.setCache p.cache (Cache.sound_empty_entries _), rfl⟩
  | render name template data => exact h.render name template data
  | display name => exact h.display name

theorem run (h : w.Represents d) (steps : List Step) :
    (w.run steps).1.Represents (steps.foldl Settings.step d) ∧
      (w.run steps).2.map Answer.outcome = Settings.outcomes d steps := by
  induction steps generalizing w d with
  | nil => exact ⟨h, rfl⟩
  | cons s steps ih =>
    obtain ⟨hstep, houtcome⟩ := h.step s
    obtain ⟨hrun, houtcomes⟩ := ih hstep
    refine ⟨hrun, ?_⟩
    rw [Workshop.run, List.map_cons, houtcome, houtcomes, Settings.outcomes]

end Represents

end Workshop

namespace Preset.Settings

open Workshop

theorem find?_change_of_ne {name other : String} (h : name ≠ other) (d : Table Settings)
    (f : Settings → Settings) : (change d name f).find? other = d.find? other := by
  rw [change]
  cases d.find? name with
  | none => rfl
  | some s => exact Table.find?_insert_of_ne h d (f s)

theorem find?_step {s : Step} {name : String} (h : s.setsUp name = false)
    (d : Table Settings) : (step d s).find? name = d.find? name := by
  cases s with
  | create other => exact Table.find?_insert_of_ne (by simpa [Step.setsUp] using h) d initial
  | copy target other =>
    rw [step]
    cases d.find? other with
    | none => rfl
    | some s => exact Table.find?_insert_of_ne (by simpa [Step.setsUp] using h) d s
  | setTemplate | setData | setPartials | setOptions =>
    exact find?_change_of_ne (by simpa [Step.setsUp] using h) d _
  | attach | clearCache | render | display => rfl

theorem display_eq (s : Settings) :
    (∀ text, s.render none none = .ok text → s.display = text) ∧
      (s.display = "" ↔ (∃ error, s.render none none = .error error) ∨
        s.render none none = .ok "") := by
  rw [display]
  cases s.render none none with
  | error e => simp
  | ok text => simp

theorem ask_step {s : Step} {name : String} (h : s.setsUp name = false) (d : Table Settings)
    (f : Settings → Outcome) : ask (step d s) name f = ask d name f := by
  rw [ask, find?_step h, ask]

end Preset.Settings

namespace Workshop

open Preset (Settings)

/-- After any history each step gives what it gives without caches. A preset that can be rendered
displays what it renders, or nothing where that fails, and a render depends only on the steps that
set up its own preset. -/
theorem transparent_run (steps : List Step) :
    (empty.run steps).2.map Answer.outcome = Settings.outcomes .empty steps ∧
      (∀ name result,
        ((empty.run steps).1.step (.render name none none)).2.outcome = .rendered result →
        ∃ text, ((empty.run steps).1.step (.display name)).2.outcome = .displayed text ∧
          (∀ shown, result = .ok shown → text = shown) ∧
          (text = "" ↔ (∃ error, result = .error error) ∨ result = .ok "")) ∧
      ∀ s name, s.setsUp name = false → ∀ template data,
        ((empty.run (steps ++ [s])).1.step (.render name template data)).2.outcome =
          ((empty.run steps).1.step (.render name template data)).2.outcome := by
  obtain ⟨hrun, houtcomes⟩ := Represents.empty.run steps
  refine ⟨houtcomes, fun name result hresult => ?_, fun s name hs template data => ?_⟩
  · rw [(hrun.render name none none).2, Settings.ask] at hresult
    rw [(hrun.display name).2, Settings.ask]
    cases hfind : (steps.foldl Settings.step .empty).find? name with
    | none =>
      rw [hfind] at hresult
      cases hresult
    | some s =>
      rw [hfind] at hresult
      cases hresult
      exact ⟨s.display, rfl, s.display_eq⟩
  · have hmore := (Represents.empty.run (steps ++ [s])).1
    rw [List.foldl_append, List.foldl_cons, List.foldl_nil] at hmore
    rw [(hmore.render name template data).2, (hrun.render name template data).2]
    exact Settings.ask_step hs _ _

end Workshop

end Logicless
