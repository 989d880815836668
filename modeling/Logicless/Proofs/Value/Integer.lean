import Mathlib
import Logicless.Proofs.Html.Escape
import Logicless.Proofs.Number.Whole
import Logicless.Proofs.Template.Seam
import Logicless.Proofs.Template.Spelling
import Logicless.Value.Integer

namespace Logicless

open Text

theorem toString_eq_integerText (k : Int) : toString k = integerText k := by
  cases k with
  | ofNat n =>
    rw [integerText, if_neg (by simp)]
    exact (String.empty_append (s := Nat.repr n)).symm
  | negSucc n =>
    rw [integerText, if_pos (Int.negSucc_lt_zero n)]
    rfl

theorem toList_integerText (k : Int) :
    (integerText k).toList = (if k < 0 then ['-'] else []) ++ Nat.toDigits 10 k.natAbs := by
  rw [integerText, String.toList_append, String.toList_ofList]
  split <;> rfl

theorem integerText_inj {k l : Int} : integerText k = integerText l ↔ k = l := by
  rw [← toString_eq_integerText, ← toString_eq_integerText]
  exact Int.repr_inj

theorem Html.escape_integerText (k : Int) : escape (integerText k) = integerText k := by
  apply escape_eq_self
  intro c hc hmarkup
  rw [toList_integerText, List.mem_append] at hc
  simp only [List.mem_cons, List.not_mem_nil, or_false] at hmarkup
  rcases hc with hc | hc
  · split at hc
    · rw [List.mem_singleton.1 hc] at hmarkup
      exact absurd hmarkup (by decide)
    · cases hc
  · have hdigit := isDigit_of_mem_toDigits hc
    rcases hmarkup with rfl | rfl | rfl | rfl <;> exact absurd hdigit (by decide)

theorem signed_natAbs (k : Int) : (if decide (k < 0) then -(k.natAbs : Int) else k.natAbs) = k := by
  by_cases h : k < 0
  · rw [if_pos (decide_eq_true h)]
    omega
  · rw [if_neg (by simpa using h)]
    omega

namespace Magnitude

variable {m : Magnitude} {n one : Nat} (hone : one = Nat.pow 2 1074) (hm : m.units = n * one)
include hone hm

theorem isWhole_of_units : m.isWhole = true := by
  rw [isWhole, hm, ← hone, Nat.mul_mod_left]
  rfl

theorem floor_of_units : m.floor = n := by
  rw [floor, hm, ← hone, Nat.mul_div_cancel n (pos_of_eq_two_pow hone)]

end Magnitude

namespace Number

theorem output_of_lt {negative : Bool} {m : Magnitude} (hwhole : m.isWhole = true)
    (hlt : m.floor < 10 ^ 15) :
    (finite negative m).output = integerText (finite negative m).toInt64.toInt := by
  have hword : (finite negative m).toInt64.toInt =
      if negative then -(m.floor : Int) else m.floor := by
    apply Int64.toInt_ofIntClamp
    · rw [Int64.toInt_minValue]
      split <;> omega
    · rw [Int64.toInt_maxValue]
      split <;> omega
  rw [hword, ← toString_eq_integerText, output, if_pos]
  simpa [hwhole] using hlt

section Exact

variable {k : Int} (h : k.natAbs ≤ 2 ^ 53)
include h

/-- Up to 2⁵³ an integer is a number. -/
theorem exists_ofInt_eq {one : Nat} (hone : one = Nat.pow 2 1074) :
    ∃ m : Magnitude, ofInt k = .finite (k < 0) m ∧ m.units = k.natAbs * one := by
  obtain ⟨m, hnearest, hm⟩ := Magnitude.nearest?_of_le hone h
  rw [ofInt, ← hone, hnearest]
  exact ⟨m, rfl, hm⟩

theorem text_ofInt : Layout.output.text (ofInt k) = integerText k := by
  obtain ⟨one, hone⟩ : ∃ one, one = Nat.pow 2 1074 := ⟨_, rfl⟩
  obtain ⟨m, hk, hm⟩ := exists_ofInt_eq h hone
  have hpositional : Layout.output.magnitudeText m =
      Layout.output.positionalText (m.shortest Layout.output.tie) := by
    rw [Layout.magnitudeText, if_pos (by simp [Layout.output])]
  rw [hk, Layout.text, hpositional, Magnitude.positionalText_shortest hone hm h rfl, integerText]
  simp only [decide_eq_true_eq]

theorem output_ofInt :
    (ofInt k).output =
      if k.natAbs < 10 ^ 15 then integerText (ofInt k).toInt64.toInt
      else Layout.output.text (ofInt k) := by
  obtain ⟨one, hone⟩ : ∃ one, one = Nat.pow 2 1074 := ⟨_, rfl⟩
  obtain ⟨m, hk, hm⟩ := exists_ofInt_eq h hone
  have hwhole := Magnitude.isWhole_of_units hone hm
  have hfloor := Magnitude.floor_of_units hone hm
  rw [hk]
  split
  · next hlt => exact output_of_lt hwhole (hfloor ▸ hlt)
  · next hge =>
    rw [output, if_neg]
    simpa [hwhole, hfloor] using hge

end Exact

theorem toInt64_ofInt {k : Int64} (h : k.toInt.natAbs ≤ 2 ^ 53) : (ofInt k.toInt).toInt64 = k := by
  obtain ⟨one, hone⟩ : ∃ one, one = Nat.pow 2 1074 := ⟨_, rfl⟩
  obtain ⟨m, hk, hm⟩ := exists_ofInt_eq h hone
  rw [hk, toInt64, Magnitude.floor_of_units hone hm, signed_natAbs, Int64.ofIntClamp_toInt]

end Number

namespace Template

theorem exists_compile_variable {name : String} (hname : Node.IsPlainName name)
    (hhead : name.toList.head? ≠ some '{') (hlast : name.toList.getLast? ≠ some '}') :
    ∃ t, compile ("\x7b\x7b" ++ name ++ "\x7d\x7d") = .ok t ∧
      t.nodes = [.interpolation name true] := by
  have hspelling : TagSpelling .escapedVariable name.toList
      (openMark ++ ([] ++ name.toList ++ []) ++ closeMark) :=
    .plain ⟨nofun, nofun, fun h => absurd h hlast⟩ fun h => absurd h hhead
  have hprintable : Lexeme.Printable true (.tag .escapedVariable name) := hname
  obtain ⟨body, hbody, hsource, hclassify⟩ := hspelling.exists_body hprintable
  have hchars : ("\x7b\x7b" ++ name ++ "\x7d\x7d").toList = body.source := by
    rw [hsource]
    simp [openMark, closeMark]
  have htokens := tokenize_tag hbody hchars
  rw [TagBody.token, hclassify, String.ofList_toList] at htokens
  have hnodes := Node.ofSource_of_tokens htokens
  exact ⟨⟨_, [.interpolation name true], hnodes⟩, compile_eq_ok_iff.2 rfl, rfl⟩

theorem render_variable {t : Template} {name : String} (h : t.nodes = [.interpolation name true])
    {data v : Value} (hdata : data.get? name = some v) (resolve : Resolver)
    (options : RenderOptions) : t.render resolve options data = Html.escape v.output := by
  rw [render, Node.render, h, Node.writeAll, Node.writeAll, Node.write, Scope.lookup?_cons, hdata]
  simp [Rendering.write, Value.shown]

end Template

namespace Value

/-- Up to 2⁵³ an integer is shown as its digits on both sides of 10¹⁵, from where on it is no longer
written as an integer; it is a word that can be read back from the number. -/
theorem output_ofInt64 (k : Int64) (h : k.toInt.natAbs ≤ 2 ^ 53) :
    (ofInt64 k).output = integerText k.toInt ∧
      (∀ name, Node.IsPlainName name → name.toList.head? ≠ some '{' →
        name.toList.getLast? ≠ some '}' →
          ∃ t, Template.compile ("\x7b\x7b" ++ name ++ "\x7d\x7d") = .ok t ∧
            ∀ (resolve : Resolver) (options : RenderOptions) (data : Value),
              data.get? name = some (ofInt64 k) →
                t.render resolve options data = integerText k.toInt) ∧
      ((Number.ofInt k.toInt).output =
        if k.toInt.natAbs < 10 ^ 15 then integerText (Number.ofInt k.toInt).toInt64.toInt
        else Layout.output.text (.ofInt k.toInt)) ∧
      (Number.ofInt k.toInt).toInt64 = k ∧
      Layout.output.text (.ofInt k.toInt) = integerText k.toInt ∧
      ∀ l : Int64, l.toInt.natAbs ≤ 2 ^ 53 → ((ofInt64 k).output = (ofInt64 l).output ↔ k = l) := by
  have houtput {k : Int64} (h : k.toInt.natAbs ≤ 2 ^ 53) :
      (ofInt64 k).output = integerText k.toInt := by
    rw [ofInt64, output, Number.output_ofInt h, Number.toInt64_ofInt h, Number.text_ofInt h,
      ite_self]
  refine ⟨houtput h, fun name hname hhead hlast => ?_, Number.output_ofInt h,
    Number.toInt64_ofInt h, Number.text_ofInt h, fun l hl => ?_⟩
  · obtain ⟨t, ht, hnodes⟩ := Template.exists_compile_variable hname hhead hlast
    refine ⟨t, ht, fun resolve options data hdata => ?_⟩
    rw [Template.render_variable hnodes hdata, houtput h, Html.escape_integerText]
  · rw [houtput h, houtput hl, integerText_inj, Int64.toInt_inj]

theorem output_ofInt64_least :
    (ofInt64 (-9007199254740992)).output = "-9007199254740992" ∧
      (∃ t, Template.compile "\x7b\x7bn\x7d\x7d" = .ok t ∧
        t.render .none .default (.ofEntries [("n", ofInt64 (-9007199254740992))]) =
          "-9007199254740992") ∧
      Layout.output.text (.ofInt (-9007199254740992)) = "-9007199254740992" := by
  have htext : integerText (-9007199254740992) = "-9007199254740992" := by
    decide
  obtain ⟨houtput, hrender, -, -, hlayout, -⟩ := output_ofInt64 (-9007199254740992) (by decide)
  obtain ⟨t, ht, hrender⟩ := hrender "n" ⟨⟨by decide, by decide⟩, by decide⟩ (by decide) (by decide)
  exact ⟨houtput.trans htext, ⟨t, ht, (hrender _ _ _ rfl).trans htext⟩, hlayout.trans htext⟩

end Value

end Logicless
