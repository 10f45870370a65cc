import Mathlib.Data.List.TakeWhile

/-!
# Texts split at a character

`takeWhile p` and `dropWhile p` split a list at its first element that fails `p`.

* `takeWhile_stop`, `dropWhile_stop`     what they give if that element is known;
* `takeWhile_until`, `dropWhile_until`   or if the rest is known to begin with one, if at all;
* `split_of_dropWhile`                   and what is known of a list that was split;
* `ne_equals`                            the sign between a key and its value is such an element.
-/

namespace Dashboards
namespace Text

section
variable {α : Type} {p : α → Bool} {front rest cs : List α} {c : α}

theorem takeWhile_stop (hf : ∀ x ∈ front, p x = true) (hc : p c = false) :
    (front ++ c :: rest).takeWhile p = front := by
  rw [List.takeWhile_append_of_pos hf, List.takeWhile_cons_of_neg (by simp [hc]), List.append_nil]

theorem dropWhile_stop (hf : ∀ x ∈ front, p x = true) (hc : p c = false) :
    (front ++ c :: rest).dropWhile p = c :: rest := by
  rw [List.dropWhile_append_of_pos hf, List.dropWhile_cons_of_neg (by simp [hc])]

theorem takeWhile_until (hf : ∀ x ∈ front, p x = true) (hr : ∀ x ∈ rest.head?, p x = false) :
    (front ++ rest).takeWhile p = front := by
  cases rest with
  | nil => rw [List.append_nil, List.takeWhile_eq_self_iff.mpr hf]
  | cons c rest => exact takeWhile_stop hf (hr c rfl)

theorem dropWhile_until (hf : ∀ x ∈ front, p x = true) (hr : ∀ x ∈ rest.head?, p x = false) :
    (front ++ rest).dropWhile p = rest := by
  cases rest with
  | nil => rw [List.append_nil, List.dropWhile_eq_nil_iff.mpr hf]
  | cons c rest => exact dropWhile_stop hf (hr c rfl)

/-- Where a list has been split, everything before that place passes. -/
theorem split_of_dropWhile (h : cs.dropWhile p = c :: rest) :
    cs = cs.takeWhile p ++ c :: rest ∧ (∀ x ∈ cs.takeWhile p, p x = true) ∧ p c = false := by
  refine ⟨?_, fun x hx => List.mem_takeWhile_imp hx, ?_⟩
  · rw [← h, List.takeWhile_append_dropWhile]
  · have hc := List.head?_dropWhile_not p cs
    rw [h] at hc
    simpa using hc

end

theorem ne_equals {front : List Char} (h : '=' ∉ front) :
    ∀ c ∈ front, decide (c ≠ '=') = true :=
  fun _ hc => decide_eq_true (ne_of_mem_of_not_mem hc h)

end Text
end Dashboards
