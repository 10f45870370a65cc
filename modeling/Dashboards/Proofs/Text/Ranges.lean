import Mathlib.Data.List.Basic
import Dashboards.Text.Ranges

/-!
# Looking numbers up in ranges

* `readList`    the ranges of a text as a list, as `Ranges.read` puts them into its array;
* `rising`      the ranges are ascending and disjoint;
* `has_iff`     of such ranges the search finds exactly the numbers that lie in one of them;
* `not_has`     it finds none that lies outside of all, whatever the ranges are like.
-/

namespace Dashboards
namespace Text
namespace Ranges

/-! ### the text -/

def closed (lo n : Option Nat) : List (Nat × Nat) :=
  match n with
  | none => []
  | some n => [(lo.getD n, n)]

def readList (lo n : Option Nat) : List Char → List (Nat × Nat)
  | [] => closed lo n
  | c :: cs =>
    if c = ' ' || c = '\n' then closed lo n ++ readList none none cs
    else if c = '-' then readList n none cs
    else readList lo (some (n.getD 0 * 16 + hexDigit c)) cs

theorem close_toList (acc : Ranges) (lo n : Option Nat) :
    (close acc lo n).toList = acc.toList ++ closed lo n := by
  cases n with
  | none => exact (List.append_nil _).symm
  | some n => exact Array.toList_push

theorem readFrom_toList (acc : Ranges) (lo n : Option Nat) (cs : List Char) :
    (readFrom acc lo n cs).toList = acc.toList ++ readList lo n cs := by
  fun_induction readFrom acc lo n cs with
  | case1 acc lo n => exact close_toList acc lo n
  | case2 acc lo n c cs h ih =>
    rw [ih, close_toList, readList, if_pos h, List.append_assoc]
  | case3 acc lo n cs h ih => rw [ih, readList, if_neg h, if_pos rfl]
  | case4 acc lo n c cs h h' ih => rw [ih, readList, if_neg h, if_neg h']

theorem read_toList (cs : List Char) :
    (read (String.ofList cs)).toList = readList none none cs := by
  rw [read, String.toList_ofList, readFrom_toList]
  rfl

/-! ### the search -/

/-- Ranges in ascending order, the first of which does not begin before the bound. -/
def rising (bound : Nat) : List (Nat × Nat) → Bool
  | [] => true
  | (a, b) :: ps => bound ≤ a && a ≤ b && rising (b + 1) ps

theorem bound_le {bound : Nat} {ps : List (Nat × Nat)} (h : rising bound ps = true) :
    ∀ p ∈ ps, bound ≤ p.1 ∧ p.1 ≤ p.2 := by
  induction ps generalizing bound with
  | nil => exact List.forall_mem_nil _
  | cons p ps ih =>
    obtain ⟨a, b⟩ := p
    rw [rising, Bool.and_eq_true, Bool.and_eq_true, decide_eq_true_eq, decide_eq_true_eq] at h
    refine List.forall_mem_cons.mpr ⟨h.1, fun q hq => ?_⟩
    have := ih h.2 q hq
    omega

theorem pairwise_of_rising {bound : Nat} {ps : List (Nat × Nat)} (h : rising bound ps = true) :
    ps.Pairwise (fun p q => p.2 < q.1) := by
  induction ps generalizing bound with
  | nil => exact List.Pairwise.nil
  | cons p ps ih =>
    obtain ⟨a, b⟩ := p
    rw [rising, Bool.and_eq_true] at h
    exact List.pairwise_cons.mpr ⟨fun q hq => (bound_le h.2 q hq).1, ih h.2⟩

section
variable {r : Ranges} {n : Nat}

theorem hasBetween_succ {fuel lo hi : Nat} (hlt : lo < hi) (hhi : hi ≤ r.size) :
    hasBetween r n (fuel + 1) lo hi =
      have hmid : (lo + hi) / 2 < r.size := by omega
      if n < r[(lo + hi) / 2].1 then hasBetween r n fuel lo ((lo + hi) / 2)
      else if r[(lo + hi) / 2].2 < n then hasBetween r n fuel ((lo + hi) / 2 + 1) hi
      else true := by
  have hmid : (lo + hi) / 2 < r.size := by omega
  have hget : r.getD ((lo + hi) / 2) (0, 0) = r[(lo + hi) / 2] := by
    rw [Array.getD_eq_getD_getElem?, Array.getElem?_eq_getElem hmid, Option.getD_some]
  rw [hasBetween, if_pos hlt]
  simp only [hget]

theorem hasBetween_sound {fuel lo hi : Nat} (hhi : hi ≤ r.size)
    (h : hasBetween r n fuel lo hi = true) : ∃ p ∈ r.toList, p.1 ≤ n ∧ n ≤ p.2 := by
  induction fuel generalizing lo hi with
  | zero => cases h
  | succ fuel ih =>
    by_cases hlt : lo < hi
    · have hmid : (lo + hi) / 2 < r.size := by omega
      rw [hasBetween_succ hlt hhi] at h
      dsimp only at h
      split at h
      · exact ih (by omega) h
      · split at h
        · exact ih hhi h
        · exact ⟨r[(lo + hi) / 2], by simp, by omega, by omega⟩
    · rw [hasBetween, if_neg hlt] at h
      cases h

theorem not_has (h : ∀ p ∈ r.toList, n < p.1 ∨ p.2 < n) : r.has n = false := by
  rw [Bool.eq_false_iff]
  intro hn
  obtain ⟨p, hp, h1, h2⟩ := hasBetween_sound (Nat.le_refl _) hn
  have := h p hp
  omega

/-- The search narrows down to the range that holds the number. -/
theorem hasBetween_complete (hr : rising 0 r.toList = true) {i : Nat} (hi : i < r.size)
    (h1 : r[i].1 ≤ n) (h2 : n ≤ r[i].2) {fuel lo up : Nat} (hlo : lo ≤ i) (hup : i < up)
    (hsize : up ≤ r.size) (hfuel : up - lo ≤ fuel) : hasBetween r n fuel lo up = true := by
  have hpair := List.pairwise_iff_getElem.mp (pairwise_of_rising hr)
  simp only [Array.length_toList, Array.getElem_toList] at hpair
  induction fuel generalizing lo up with
  | zero => omega
  | succ fuel ih =>
    have hmid : (lo + up) / 2 < r.size := by omega
    have hord := (bound_le hr r[(lo + up) / 2] (by simp)).2
    rw [hasBetween_succ (by omega) hsize]
    dsimp only
    split
    · refine ih hlo (Nat.lt_of_not_le fun hle => ?_) (by omega) (by omega)
      rcases Nat.lt_or_eq_of_le hle with h | h
      · have := hpair _ _ hmid hi h
        omega
      · subst h
        omega
    · split
      · refine ih (Nat.lt_of_not_le fun hle => ?_) hup hsize (by omega)
        rcases Nat.lt_or_eq_of_le hle with h | h
        · have := hpair _ _ hi hmid h
          omega
        · subst h
          omega
      · rfl

theorem has_iff (hr : rising 0 r.toList = true) :
    r.has n = true ↔ ∃ p ∈ r.toList, p.1 ≤ n ∧ n ≤ p.2 := by
  constructor
  · exact hasBetween_sound (Nat.le_refl _)
  · rintro ⟨p, hp, h1, h2⟩
    obtain ⟨i, hi, rfl⟩ := List.getElem_of_mem hp
    exact hasBetween_complete hr hi h1 h2 (Nat.zero_le i) hi (Nat.le_refl _) (by omega)

end
end Ranges
end Text
end Dashboards
