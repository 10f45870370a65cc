import Mathlib.Data.List.DropRight
import Dashboards.Text.Blank

/-!
# Trimmed texts

* `Bare`               no blank at either end, for any notion of a blank;
* `Bare.trim_eq`       a bare text is left as it is;
* `bare_trimChars`     trimming leaves a bare text;
* `trimChars_around`   and takes off nothing but blanks.
-/

namespace Dashboards
namespace Text

structure Bare (blank : Char → Bool) (cs : List Char) : Prop where
  first : ∀ c ∈ cs.head?, blank c = false
  last : ∀ c ∈ cs.getLast?, blank c = false

section
variable {blank blank' : Char → Bool} {cs : List Char}

/-- A text without blanks at its ends has none of a smaller kind there. -/
theorem Bare.mono (h : Bare blank cs) (hb : ∀ c, blank' c = true → blank c = true) :
    Bare blank' cs := by
  have hn : ∀ c, blank c = false → blank' c = false := by
    intro c hc
    rw [Bool.eq_false_iff]
    intro hc'
    rw [hb c hc'] at hc
    exact Bool.noConfusion hc
  exact ⟨fun c hc => hn c (h.first c hc), fun c hc => hn c (h.last c hc)⟩

theorem Bare.dropWhile_eq (h : Bare blank cs) : cs.dropWhile blank = cs := by
  cases cs with
  | nil => rfl
  | cons c cs => rw [List.dropWhile_cons_of_neg (by simp [h.first c rfl])]

theorem Bare.rdropWhile_eq (h : Bare blank cs) : cs.rdropWhile blank = cs := by
  rw [List.rdropWhile_eq_self_iff]
  intro hne hc
  rw [h.last _ (List.getLast?_eq_some_getLast hne)] at hc
  exact Bool.noConfusion hc

/-- Blanks around a bare text have to be none. -/
theorem Bare.eq_nil {w v w' : List Char} (h : Bare blank (w ++ (v ++ w')))
    (hw : ∀ c ∈ w, blank c = true) (hw' : ∀ c ∈ w', blank c = true) : w = [] ∧ w' = [] := by
  constructor
  · cases w with
    | nil => rfl
    | cons c w =>
      have h1 := h.first c rfl
      rw [hw c List.mem_cons_self] at h1
      exact Bool.noConfusion h1
  · rcases List.eq_nil_or_concat w' with rfl | ⟨l, c, rfl⟩
    · rfl
    · have h1 := h.last c (by simp)
      rw [hw' c (by simp)] at h1
      exact Bool.noConfusion h1

end

theorem bare_trimChars (cs : List Char) : Bare isBlank (trimChars cs) := by
  refine ⟨fun c hc => ?_, fun c hc => ?_⟩
  · -- What is left is a front part of the text without its first blanks.
    obtain ⟨ds, e⟩ : trimChars cs <+: trimStart cs := List.rdropWhile_prefix isBlank (trimStart cs)
    have hstop := List.head?_dropWhile_not isBlank cs
    rw [show cs.dropWhile isBlank = trimChars cs ++ ds from e.symm, List.head?_append,
      Option.mem_def.mp hc] at hstop
    exact hstop
  · have hstop := List.head?_dropWhile_not isBlank (trimStart cs).reverse
    rw [trimChars, trimEnd, List.getLast?_reverse] at hc
    rw [Option.mem_def.mp hc] at hstop
    exact hstop

theorem Bare.trim_eq {s : String} (h : Bare isBlank s.toList) : trim s = s := by
  rw [trim, trimChars, trimStart, h.dropWhile_eq]
  show String.ofList (s.toList.rdropWhile isBlank) = s
  rw [h.rdropWhile_eq, String.ofList_toList]

theorem trim_trim (s : String) : trim (trim s) = trim s := by
  refine Bare.trim_eq ?_
  rw [trim, String.toList_ofList]
  exact bare_trimChars s.toList

/-- A text is what trimming leaves of it, with blanks around that. -/
theorem trimChars_around (cs : List Char) :
    ∃ front back, cs = front ++ (trimChars cs ++ back) ∧ (∀ c ∈ front, isBlank c = true) ∧
      ∀ c ∈ back, isBlank c = true := by
  refine ⟨cs.takeWhile isBlank, (trimStart cs).rtakeWhile isBlank, ?_, ?_, ?_⟩
  · have hback : trimChars cs ++ (trimStart cs).rtakeWhile isBlank = trimStart cs :=
      List.rdropWhile_append_rtakeWhile
    rw [hback]
    exact List.takeWhile_append_dropWhile.symm
  · intro c hc
    exact List.mem_takeWhile_imp hc
  · intro c hc
    rw [List.rtakeWhile, List.mem_reverse] at hc
    exact List.mem_takeWhile_imp hc

end Text
end Dashboards
