import Mathlib
import Logicless.Proofs.Render.Alike
import Logicless.Proofs.Render.MergedScope

namespace Logicless

theorem Number.isZero_iff {n : Number} :
    n.isZero = true ↔ ∃ negative, n = .finite negative .zero := by
  constructor
  · intro h
    cases n with
    | nan => cases h
    | infinite negative => cases h
    | finite negative m =>
      refine ⟨negative, ?_⟩
      obtain ⟨significand, scale, hlt, hnormal, hscale⟩ := m
      obtain rfl : significand = 0 := beq_iff_eq.1 h
      obtain rfl | hle := hnormal
      · rfl
      · exact absurd hle (by decide)
  · rintro ⟨negative, rfl⟩
    rfl

namespace Value

inductive Falsy : Value → Prop
  | null : Falsy .null
  | bool : Falsy (.bool false)
  | zero (negative : Bool) : Falsy (.number (.finite negative .zero))
  | nan : Falsy (.number .nan)
  | string : Falsy (.string "")
  | sequence : Falsy (.sequence [])
  | mapping : Falsy (.mapping [])

theorem falsy_iff {v : Value} : v.Falsy ↔ v.isTruthy = false := by
  constructor
  · rintro (_ | _ | _ | _ | _ | _ | _) <;> rfl
  · intro h
    cases v with
    | null => exact .null
    | bool b =>
      cases h
      exact .bool
    | number n =>
      cases n with
      | nan => exact .nan
      | infinite negative => cases h
      | finite negative m =>
        have hzero : (Number.finite negative m).isZero = true := by simpa [isTruthy] using h
        obtain ⟨negative, hm⟩ := Number.isZero_iff.1 hzero
        rw [hm]
        exact .zero negative
    | string s =>
      have hs : s = "" := by simpa [isTruthy] using h
      rw [hs]
      exact .string
    | sequence items =>
      have hitems : items = [] := by simpa [isTruthy] using h
      rw [hitems]
      exact .sequence
    | mapping entries =>
      have hentries : entries = [] := by simpa [isTruthy] using h
      rw [hentries]
      exact .mapping

end Value

namespace Scope

variable {scope inner : Scope} {name : String} {v : Value}

/-- A scope that looks names up as another one does, except for the keys of a value if that is a
mapping. -/
inductive Overridden (scope : Scope) : Value → Scope → Prop
  | mapping {entries : Dictionary Value} {inner : Scope}
      (h : ∀ name, inner.lookup? name = (entries.find? name).or (scope.lookup? name)) :
      Overridden scope (.mapping entries) inner
  | other {v : Value} {inner : Scope} (hv : ∀ entries, v ≠ .mapping entries)
      (h : ∀ name, inner.lookup? name = scope.lookup? name) : Overridden scope v inner

theorem Overridden.agree (h : Overridden scope v inner) : Agree (v :: scope) inner := by
  intro name
  rw [lookup?_cons]
  cases h with
  | mapping h => exact (h name).symm
  | other hv h =>
    cases v with
    | mapping entries => exact absurd rfl (hv entries)
    | null | bool _ | number _ | string _ | sequence _ => exact (h name).symm

theorem overridden_cons (scope : Scope) (v : Value) : Overridden scope v (v :: scope) := by
  cases v with
  | mapping entries => exact .mapping fun name => lookup?_cons name (.mapping entries) scope
  | null | bool _ | number _ | string _ | sequence _ => exact .other nofun fun _ => rfl

theorem forall₂_overridden (scope : Scope) (items : List Value) :
    List.Forall₂ scope.Overridden items (items.map (· :: scope)) := by
  rw [List.forall₂_map_right_iff, List.forall₂_same]
  exact fun item _ => scope.overridden_cons item

theorem truthy?_eq_none (h : ∀ v, scope.lookup? name = some v → v.Falsy) :
    scope.truthy? name = none := by
  rw [truthy?, Option.filter_eq_none_iff]
  intro v hv
  rw [Value.falsy_iff.1 (h v hv)]
  exact Bool.false_ne_true

theorem truthy?_eq_some (h : scope.lookup? name = some v) (hv : ¬ v.Falsy) :
    scope.truthy? name = some v := by
  rw [Value.falsy_iff, Bool.not_eq_false] at hv
  rw [truthy?, h, Option.filter_some, hv]
  rfl

end Scope

namespace Node

/-- What the children of a section and the others of the inverted section behind it show, given the
text that nodes have in a scope. -/
inductive SectionsShow (text : Scope → List Node → String) (scope : Scope) (name : String)
    (children others : List Node) : String → Prop
  | inverted (h : ∀ v, scope.lookup? name = some v → v.Falsy) :
      SectionsShow text scope name children others (text scope others)
  | sequence {items : List Value} {inners : List Scope}
      (h : scope.lookup? name = some (.sequence items)) (hne : items ≠ [])
      (hinners : List.Forall₂ scope.Overridden items inners) :
      SectionsShow text scope name children others
        (String.join (inners.map fun inner => text inner children))
  | mapping {entries : Dictionary Value} {inner : Scope}
      (h : scope.lookup? name = some (.mapping entries)) (hne : entries ≠ [])
      (hinner : scope.Overridden (.mapping entries) inner) :
      SectionsShow text scope name children others (text inner children)
  | other {v : Value} (h : scope.lookup? name = some v) (hv : ¬ v.Falsy)
      (hsequence : ∀ items, v ≠ .sequence items) (hmapping : ∀ entries, v ≠ .mapping entries) :
      SectionsShow text scope name children others (text scope children)

theorem exists_sectionsShow (text : Scope → List Node → String) (scope : Scope) (name : String)
    (children others : List Node) :
    ∃ shown, SectionsShow text scope name children others shown := by
  by_cases hfalsy : ∀ v, scope.lookup? name = some v → v.Falsy
  · exact ⟨_, .inverted hfalsy⟩
  · push Not at hfalsy
    obtain ⟨v, h, hv⟩ := hfalsy
    cases v with
    | sequence items =>
      have hne : items ≠ [] := by
        rintro rfl
        exact hv .sequence
      exact ⟨_, .sequence h hne (scope.forall₂_overridden items)⟩
    | mapping entries =>
      have hne : entries ≠ [] := by
        rintro rfl
        exact hv .mapping
      exact ⟨_, .mapping h hne (scope.overridden_cons _)⟩
    | null | bool _ | number _ | string _ => exact ⟨_, .other h hv nofun nofun⟩

section

variable {text : Scope → List Node → String} {scope : Scope} {name shown : String}
  {children others : List Node}
  (htext : ∀ {scope other : Scope}, scope.Agree other → ∀ ns, text scope ns = text other ns)
include htext

theorem map_text_of_overridden {items : List Value} {inners : List Scope}
    (h : List.Forall₂ scope.Overridden items inners) :
    (items.map (· :: scope)).map (text · children) = inners.map (text · children) := by
  induction h with
  | nil => rfl
  | cons hinner _ ih =>
    simp only [List.map_cons]
    rw [htext hinner.agree, ih]

theorem SectionsShow.join_eq (h : SectionsShow text scope name children others shown) :
    String.join ((scope.ofSection name false).map (text · children)) ++
      String.join ((scope.ofSection name true).map (text · others)) = shown := by
  cases h with
  | inverted h => simp [Scope.ofSection, Scope.truthy?_eq_none h]
  | sequence h hne hinners =>
    have htruthy := Scope.truthy?_eq_some h (by rintro ⟨⟩; exact hne rfl)
    simp only [Scope.ofSection, htruthy, Value.sectionScopes]
    rw [map_text_of_overridden htext hinners]
    simp
  | mapping h hne hinner =>
    have htruthy := Scope.truthy?_eq_some h (by rintro ⟨⟩; exact hne rfl)
    simp [Scope.ofSection, htruthy, Value.sectionScopes, htext hinner.agree]
  | @other v h hv hsequence hmapping =>
    have htruthy := Scope.truthy?_eq_some h hv
    cases v with
    | sequence items => exact absurd rfl (hsequence items)
    | mapping entries => exact absurd rfl (hmapping entries)
    | null | bool _ | number _ | string _ => simp [Scope.ofSection, htruthy, Value.sectionScopes]

end

section

variable (resolve : Resolver) (options : RenderOptions) (depth : Nat)

def writtenIn (scope : Scope) (ns : List Node) : String :=
  (writeAll resolve options depth ⟨scope, ""⟩ ns).output

theorem writtenIn_eq_shownIn (scope : Scope) (ns : List Node) :
    writtenIn resolve options depth scope ns =
      shownIn resolve (options.maxPartialDepth - depth) scope ns := by
  rw [writtenIn, writeAll_eq_shownIn, Rendering.write, String.empty_append]

theorem writeAll_eq_writtenIn (scope : Scope) (output : String) (ns : List Node) :
    writeAll resolve options depth ⟨scope, output⟩ ns =
      ⟨scope, output ++ writtenIn resolve options depth scope ns⟩ := by
  rw [writeAll_eq_shownIn, writtenIn_eq_shownIn]
  rfl

theorem writtenIn_congr {scope other : Scope} (h : scope.Agree other) (ns : List Node) :
    writtenIn resolve options depth scope ns = writtenIn resolve options depth other ns := by
  rw [writtenIn_eq_shownIn, writtenIn_eq_shownIn, h.shownIn_eq]

theorem writtenIn_block (scope : Scope) (name : String) (inverted : Bool)
    (children rest : List Node) :
    writtenIn resolve options depth scope (.block name inverted children :: rest) =
      String.join ((scope.ofSection name inverted).map
        (writtenIn resolve options depth · children)) ++
          writtenIn resolve options depth scope rest := by
  simp only [writtenIn_eq_shownIn, shownIn_eq_showAllWith, showAllWith, showWith]

/-- Of a section and the inverted section behind it, exactly one shows its children: the plain one
where the name has a value that is not falsy, with the keys of the value or of each of its elements
over the scope. What comes behind them sees the scope as it was. -/
theorem writeAll_sections (scope : Scope) (name : String) (children others : List Node) :
    (∃ shown, SectionsShow (writtenIn resolve options depth) scope name children others shown) ∧
      ∀ shown, SectionsShow (writtenIn resolve options depth) scope name children others shown →
        ∀ (output : String) (rest : List Node),
          writeAll resolve options depth ⟨scope, output⟩
              (.block name false children :: .block name true others :: rest) =
            ⟨scope, output ++ (shown ++ writtenIn resolve options depth scope rest)⟩ := by
  refine ⟨exists_sectionsShow _ scope name children others, ?_⟩
  intro shown h output rest
  rw [← h.join_eq (writtenIn_congr resolve options depth), writeAll_eq_writtenIn, writtenIn_block,
    writtenIn_block, String.append_assoc]

end

def mixedElements : List Value :=
  [.mapping [("n", .string "a")], .bool false, .mapping [("n", .null)]]

def mixedScope : Scope :=
  [.mapping [("n", .string "o"), ("s", .sequence mixedElements)]]

theorem writeAll_sections_mixed_elements :
    writeAll .none .default 0 ⟨mixedScope, ">"⟩
        [.block "s" false [.interpolation "n" true, .text ","], .block "s" true [.text "none"],
          .interpolation "n" true] =
      ⟨mixedScope, ">a,o,,o"⟩ := by
  have hlookup : mixedScope.lookup? "s" = some (.sequence mixedElements) := by
    rfl
  obtain ⟨-, hsections⟩ := writeAll_sections .none .default 0 mixedScope "s"
    [.interpolation "n" true, .text ","] [.text "none"]
  rw [hsections _ (.sequence hlookup (List.cons_ne_nil _ _) (mixedScope.forall₂_overridden _))]
  cbv

end Node

end Logicless
