import Dashboards.Proofs.Json.Printed
import Dashboards.Yaml.Scalar
import Mathlib.Algebra.Group.Int.Defs

/-!
# Integers in plain scalars

* `natural?_toDigits`   a number is read from its decimal digits;
* `int?_toString`       and so is an integer from its text, if 64 bits hold it;
* `ofPlain_toString`    a plain scalar with this text stands for it.
-/

namespace Dashboards
namespace Yaml
namespace Scalar

/-! ### digits -/

theorem digitValue?_digitChar : ∀ k < 10, digitValue? 10 k.digitChar = some k := by
  decide

theorem natural?_toDigits (n : Nat) : natural? 10 (Nat.toDigits 10 n) = some n := by
  rw [natural?, if_neg (by rw [List.isEmpty_iff]; exact Nat.toDigits_ne_nil)]
  induction n using Nat.strongRecOn with
  | ind n ih =>
    rw [Nat.toDigits_eq_if (by decide)]
    split
    · rename_i hn
      rw [List.foldl_cons, List.foldl_nil, digitValue?_digitChar n hn]
      exact congrArg some (by omega)
    · rw [List.foldl_append, ih (n / 10) (by omega), List.foldl_cons, List.foldl_nil,
        digitValue?_digitChar _ (Nat.mod_lt n (by decide))]
      exact congrArg some (by omega)

theorem isDigit_toDigits {n : Nat} {c : Char} (h : c ∈ Nat.toDigits 10 n) : c.isDigit = true :=
  Nat.isDigit_of_mem_toDigits (by decide) (by decide) h

/-- Behind a leading zero there is nothing. -/
theorem eq_nil_of_zero {n : Nat} {r : List Char} (h : Nat.toDigits 10 n = '0' :: r) : r = [] := by
  by_cases hn : n = 0
  · subst hn
    exact (List.cons.inj h).2.symm
  · obtain ⟨c, cs, he, hc⟩ := Json.head_toDigits hn
    exact absurd (List.cons.inj (he.symm.trans h)).1 hc

theorem based?_toDigits (n : Nat) : based? (Nat.toDigits 10 n) = none := by
  rw [based?.eq_def]
  split
  · rename_i h
    cases eq_nil_of_zero h
  · rename_i h
    cases eq_nil_of_zero h
  · rename_i h
    cases eq_nil_of_zero h
  · rfl

theorem not_sign {n : Nat} {c : Char} {r : List Char} (h : Nat.toDigits 10 n = c :: r) :
    c ≠ '-' ∧ c ≠ '+' := by
  have hc : c.isDigit = true := isDigit_toDigits (n := n) (h ▸ List.mem_cons_self)
  constructor <;> (rintro rfl; revert hc; decide)

theorem isZeroPadded_toDigits (n : Nat) : isZeroPadded (Nat.toDigits 10 n) = false := by
  rw [isZeroPadded.eq_def]
  dsimp only
  split
  · rename_i h
    split at h
    · rename_i hsign
      exact absurd rfl (not_sign hsign).1
    · rename_i hsign
      exact absurd rfl (not_sign hsign).2
    · cases eq_nil_of_zero h
  · rfl

theorem magnitude?_toDigits (n : Nat) : magnitude? (Nat.toDigits 10 n) = some n := by
  rw [magnitude?, based?_toDigits, isZeroPadded_toDigits, if_neg Bool.false_ne_true,
    natural?_toDigits]
  rfl

/-! ### integers -/

theorem toList_ofNat (n : Nat) : (toString (n : Int)).toList = Nat.toDigits 10 n :=
  String.toList_ofList

theorem toList_neg {n : Nat} (hn : n ≠ 0) :
    (toString (-(n : Int))).toList = '-' :: Nat.toDigits 10 n := by
  obtain ⟨m, rfl⟩ := Nat.exists_eq_succ_of_ne_zero hn
  show ("-" ++ Nat.repr (m + 1)).toList = _
  rw [String.toList_append]
  exact congrArg ('-' :: ·) String.toList_ofList

/-- Positive or negative, with the digits of the same number. -/
theorem int_cases (i : Int) : ∃ n : Nat, i = n ∨ n ≠ 0 ∧ i = -n := by
  refine ⟨i.natAbs, ?_⟩
  omega

theorem int?_toString {i : Int} (hmin : -2 ^ 63 ≤ i) (hmax : i < 2 ^ 64) :
    int? (toString i).toList = some (.number (.int i)) := by
  obtain ⟨n, rfl | ⟨hn, rfl⟩⟩ := int_cases i
  · rw [toList_ofNat, int?.eq_def]
    split
    · rename_i h
      exact absurd rfl (not_sign h).1
    · have hlt : n < Nat.pow 2 64 := Int.ofNat_lt.mp hmax
      split
      · rename_i h
        exact absurd rfl (not_sign h).2
      · rw [magnitude?_toDigits]
        exact if_pos hlt
  · have hle : n ≤ Nat.pow 2 63 := by
      show n ≤ 9223372036854775808
      omega
    rw [toList_neg hn, int?.eq_def]
    show (magnitude? (Nat.toDigits 10 n) >>= fun n => _) = _
    rw [magnitude?_toDigits]
    exact if_pos hle

theorem head_toString (i : Int) : ∃ c r, (toString i).toList = c :: r ∧
    (c.isDigit = true ∨ c = '-') := by
  obtain ⟨n, rfl | ⟨hn, rfl⟩⟩ := int_cases i
  · obtain ⟨c, r, h⟩ := List.exists_cons_of_ne_nil (Nat.toDigits_ne_nil (b := 10) (n := n))
    exact ⟨c, r, (toList_ofNat n).trans h,
      .inl (isDigit_toDigits (n := n) (h ▸ List.mem_cons_self))⟩
  · exact ⟨_, _, toList_neg hn, .inr rfl⟩

/-- The words for nothing and for truth values. -/
def words : List String :=
  ["null", "Null", "NULL", "~", "true", "True", "TRUE", "false", "False", "FALSE"]

theorem not_words {s : String} (h : ∀ w ∈ words, s ≠ w) : isNull s = false ∧ bool? s = none := by
  simp only [words, List.forall_mem_cons] at h
  constructor
  · simp [isNull, h]
  · simp [bool?, h]

theorem toString_ne (i : Int) : ∀ w ∈ words, toString i ≠ w := by
  have hwords : ∀ w ∈ words, w.toList.head?.any (fun c => c.isDigit || c = '-') = false := by
    decide +kernel
  rintro w hw rfl
  obtain ⟨c, r, h, hc⟩ := head_toString i
  have hfirst := hwords _ hw
  rw [h, List.head?_cons, Option.any_some, Bool.or_eq_false_iff, decide_eq_false_iff_not] at hfirst
  rw [hfirst.1] at hc
  exact hc.elim Bool.false_ne_true hfirst.2

theorem ofPlain_toString {i : Int} (hmin : -2 ^ 63 ≤ i) (hmax : i < 2 ^ 64) :
    ofPlain (toString i) = .number (.int i) := by
  obtain ⟨hnull, hbool⟩ := not_words (toString_ne i)
  have hempty : (toString i).isEmpty = false := by
    obtain ⟨c, r, h, -⟩ := head_toString i
    rw [Bool.eq_false_iff, Ne, String.isEmpty_iff]
    intro he
    rw [he] at h
    cases h
  rw [ofPlain, hempty, hnull, hbool, int?_toString hmin hmax]
  rfl

end Scalar
end Yaml
end Dashboards
