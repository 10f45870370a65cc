import Dashboards.Proofs.Text.Ranges
import Dashboards.Url.Idna

/-!
# ASCII in domain names

The tables are about characters beyond ASCII, except for the capital letters.

* `findRule_sound`          the rule that is found is one of the table and covers the character;
* `mapped?_plain`           a character of ASCII that is no capital letter stands for itself;
* `labelOk_plain`           a label of such characters is in its final form;
* `runsRightToLeft_ascii`   and no character of ASCII runs from right to left.
-/

namespace Dashboards
namespace Url
namespace Idna
open Text (Ranges)

/-- A character of ASCII that is no capital letter. -/
structure Plain (c : Char) : Prop where
  ascii : c.toNat < 128
  small : c.toNat < 0x41 ∨ 0x5A < c.toNat

instance (c : Char) : Decidable (Plain c) :=
  decidable_of_iff (c.toNat < 128 ∧ (c.toNat < 0x41 ∨ 0x5A < c.toNat))
    ⟨fun ⟨h, h'⟩ => ⟨h, h'⟩, fun ⟨h, h'⟩ => ⟨h, h'⟩⟩

/-! ### the sets -/

/-- All ranges of a set begin beyond ASCII. -/
def Beyond (r : Ranges) : Prop := ∀ p ∈ r.toList, 128 ≤ p.1

theorem Beyond.not_has {r : Ranges} (h : Beyond r) {n : Nat} (hn : n < 128) : r.has n = false :=
  Ranges.not_has fun p hp => .inl (Nat.lt_of_lt_of_le hn (h p hp))

theorem beyond_of_list (cs : List Char)
    (h : (Ranges.readList none none cs).all (128 ≤ ·.1) = true) :
    Beyond (.read (String.ofList cs)) := by
  intro p hp
  rw [Ranges.read_toList] at hp
  exact of_decide_eq_true (List.all_eq_true.mp h p hp)

/-- The sets that are asked about a character beside `allowed`. -/
def foreignSets : List Ranges :=
  [ignored, markRanges, rightToLeftRanges, arabicLetterRanges, arabicNumberRanges]

set_option maxRecDepth 1000000 in
theorem beyond_foreignSets : ∀ r ∈ foreignSets, Beyond r := by
  simp only [foreignSets, List.forall_mem_cons, List.not_mem_nil, false_implies, implies_true,
    and_true]
  unfold ignored markRanges rightToLeftRanges arabicLetterRanges arabicNumberRanges
  refine ⟨?_, ?_, ?_, ?_, ?_⟩
  all_goals
    apply beyond_of_list
    decide +kernel

/-- None of these sets has a character of ASCII. -/
theorem not_has_ascii {n : Nat} (hn : n < 128) :
    ignored.has n = false ∧ markRanges.has n = false ∧ rightToLeftRanges.has n = false ∧
      arabicLetterRanges.has n = false ∧ arabicNumberRanges.has n = false := by
  have hall : ∀ r ∈ foreignSets, r.has n = false := fun r hr =>
    (beyond_foreignSets r hr).not_has hn
  simpa only [foreignSets, List.forall_mem_cons, List.not_mem_nil, false_implies, implies_true,
    and_true] using hall

theorem has_of_list (cs : List Char) {n : Nat} {p : Nat × Nat}
    (h : Ranges.rising 0 (Ranges.readList none none cs) = true)
    (hp : p ∈ Ranges.readList none none cs) (hlow : p.1 ≤ n) (hhigh : n ≤ p.2) :
    (Ranges.read (String.ofList cs)).has n = true := by
  rw [Ranges.has_iff (by rwa [Ranges.read_toList]), Ranges.read_toList]
  exact ⟨p, hp, hlow, hhigh⟩

set_option maxRecDepth 1000000 in
theorem allowed_has {n : Nat} (hn : n < 128) : allowed.has n = true := by
  unfold allowed
  apply has_of_list (p := (0, 0x7F))
  · decide +kernel
  · decide +kernel
  · exact Nat.zero_le n
  · exact Nat.le_of_lt_succ hn

/-! ### the rules -/

theorem findRule_sound {rs : Array Rule} {n fuel lo hi : Nat} {r : Rule} (hhi : hi ≤ rs.size)
    (h : findRule rs n fuel lo hi = some r) : r ∈ rs.toList ∧ r.low ≤ n ∧ n ≤ r.high := by
  fun_induction findRule rs n fuel lo hi with
  | case1 => cases h
  | case2 fuel lo hi hlt mid m hlow ih => exact ih (by omega) h
  | case3 fuel lo hi hlt mid m hlow hhigh ih => exact ih hhi h
  | case4 fuel lo hi hlt mid m hlow hhigh =>
    have hmid : mid < rs.size := by omega
    have hm : m = rs[mid] := by
      simp only [m, Array.getD_eq_getD_getElem?, Array.getElem?_eq_getElem hmid, Option.getD_some]
    obtain rfl := Option.some.inj h
    exact ⟨by simp [hm], by omega, by omega⟩
  | case5 => cases h

/-- No plain character lies between these numbers. -/
def Foreign (low high : Nat) : Prop := 128 ≤ low ∨ 0x41 ≤ low ∧ high ≤ 0x5A

instance (low high : Nat) : Decidable (Foreign low high) := inferInstanceAs (Decidable (_ ∨ _))

/-- The word of a table of rules is about such numbers. -/
def isForeign (w : List Char) : Bool :=
  let b := bounds (w.takeWhile (!isOperator ·))
  w = [] || decide (Foreign b.1 b.2)

theorem foreign_of_words (cs : List Char)
    (h : (splitAt (fun c => c = ' ' || c = '\n') cs).all isForeign = true) :
    ∀ r ∈ (readRules (String.ofList cs)).toList, Foreign r.low r.high := by
  intro r hr
  rw [readRules, String.toList_ofList, List.toList_toArray] at hr
  obtain ⟨w, hw, rfl⟩ := List.mem_map.mp hr
  obtain ⟨hw, hne⟩ := List.mem_filter.mp hw
  have hf := List.all_eq_true.mp h w hw
  simp only [isForeign, of_decide_eq_true hne, decide_false, Bool.false_or, decide_eq_true_eq] at hf
  exact hf

set_option maxRecDepth 1000000 in
theorem foreign_rules : ∀ r ∈ rules.toList, Foreign r.low r.high := by
  unfold rules
  apply foreign_of_words
  decide +kernel

/-! ### characters and labels -/

theorem mapped?_plain {c : Char} (h : Plain c) : mapped? c = some [c] := by
  have hrule : findRule rules c.toNat (rules.size + 1) 0 rules.size = none := by
    rw [Option.eq_none_iff_forall_ne_some]
    intro r hr
    obtain ⟨hmem, hlow, hhigh⟩ := findRule_sound (Nat.le_refl _) hr
    have hascii := h.ascii
    have hsmall := h.small
    rcases foreign_rules r hmem with hf | hf
    · omega
    · omega
  obtain ⟨hkept, -⟩ := not_has_ascii h.ascii
  have hallowed : allowed.has c.toNat = true := allowed_has h.ascii
  -- The tables become variables before the definition is applied, so that nothing computes them.
  suffices hf : ∀ f, f = mapped? → f c = some [c] from hf _ rfl
  intro f hf
  delta mapped? at hf
  generalize rules = rs at hf hrule
  generalize ignored = is at hf hkept
  generalize allowed = al at hf hallowed
  simp only [hf, hrule, hkept, hallowed, Option.bind_none, if_true, Bool.false_eq_true, if_false]

theorem isValid_iff {c : Char} : isValid c = true ↔ mapped? c = some [c] := by
  rw [isValid, decide_eq_true_eq]

theorem isValid_plain {c : Char} (h : Plain c) : isValid c = true :=
  isValid_iff.mpr (mapped?_plain h)

theorem isMark_ascii {c : Char} (h : c.toNat < 128) : isMark c = false :=
  (not_has_ascii h).2.1

theorem runsRightToLeft_ascii {c : Char} (h : c.toNat < 128) : runsRightToLeft c = false := by
  obtain ⟨-, -, h1, h2, h3⟩ := not_has_ascii h
  rw [runsRightToLeft, Direction.ofChar]
  simp only [h1, h2, h3, Bool.false_eq_true, if_false]
  repeat' split
  all_goals rfl

theorem joinersOk_ascii {before cs : List Char} (h : ∀ c ∈ cs, c.toNat < 128) :
    joinersOk before cs = true := by
  induction cs generalizing before with
  | nil => rfl
  | cons c cs ih =>
    obtain ⟨hc, h⟩ := List.forall_mem_cons.mp h
    have h1 : c ≠ nonJoiner := fun e => by rw [e] at hc; exact absurd hc (by decide)
    have h2 : c ≠ joiner := fun e => by rw [e] at hc; exact absurd hc (by decide)
    rw [joinersOk, if_neg h1, if_neg h2, ih h]
    rfl

theorem labelOk_plain {cs : List Char} (h : ∀ c ∈ cs, Plain c) : labelOk cs = true := by
  have hv : cs.all isValid = true := List.all_eq_true.mpr fun c hc => isValid_plain (h c hc)
  have hj : joinersOk [] cs = true := joinersOk_ascii fun c hc => (h c hc).ascii
  have hm : cs.head?.any isMark = false := by
    cases cs with
    | nil => rfl
    | cons c cs =>
      rw [List.head?_cons, Option.any_some]
      exact isMark_ascii (h c List.mem_cons_self).ascii
  rw [labelOk, hv, hj, hm]
  rfl

end Idna
end Url
end Dashboards
