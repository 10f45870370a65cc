import Dashboards.Json.Document
import Dashboards.Proofs.Json.Cut
import Dashboards.Proofs.Text.Trim

/-!
# Documents

A text is trimmed of the blanks of Unicode before it is read as JSON, which has only four of them.
What is left is bare for both, so that the text of the document is all of it.

* `isText_iff_isValue`    a bare text is derived just when it is a value;
* `read_eq_ok_iff`        reading a bare text keeps it as it is.
-/

namespace Dashboards
namespace Json

/-- The four blanks of JSON are blanks of Unicode. -/
theorem isBlank_subset (c : Char) (h : isBlank c = true) : Text.isBlank c = true := by
  have hc := (isBlank_iff c).mp h
  simp only [List.mem_cons, List.not_mem_nil, or_false] at hc
  rcases hc with rfl | rfl | rfl | rfl <;> rfl

theorem bare_trim (s : String) : Text.Bare isBlank (Text.trim s).toList := by
  rw [Text.trim, String.toList_ofList]
  exact (Text.bare_trimChars s.toList).mono isBlank_subset

theorem IsBlanks.all {w : List Char} (h : IsBlanks w) : ∀ c ∈ w, isBlank c = true :=
  fun c hc => (isBlank_iff c).mpr (h c hc)

theorem IsValue.isText {v : List Char} (h : IsValue v) : IsText v := by
  have ht := IsText.blanks .nil h .nil
  rwa [List.nil_append, List.append_nil] at ht

theorem isText_iff_isValue {cs : List Char} (hb : Text.Bare isBlank cs) :
    IsText cs ↔ IsValue cs := by
  refine ⟨fun h => ?_, IsValue.isText⟩
  cases h with
  | blanks hw hv hw' =>
    obtain ⟨rfl, rfl⟩ := hb.eq_nil hw.all hw'.all
    rwa [List.nil_append, List.append_nil]

/-- There is no text of blanks alone. -/
theorem IsText.not_blank {cs : List Char} (h : IsText cs) : ∃ c ∈ cs, isBlank c = false := by
  obtain ⟨_, hv, _⟩ := h
  obtain ⟨c, _, rfl, hc⟩ := hv.head
  exact ⟨c, by simp, hc.not_blank⟩

/-- Of a value nothing is taken off. -/
theorem IsValue.bare_eq {v : List Char} (h : IsValue v) : bare v = v := by
  have hb := bare_around .nil h .nil
  rwa [List.nil_append, List.append_nil] at hb

theorem Document.read_text (d : Document) : Document.read d.text = .ok d := by
  have hc : check d.text = .ok () := (check_eq_ok_iff d.text).mpr d.isValue.isText
  rw [Document.read]
  split
  · next h =>
    rw [hc] at h
    cases h
  · next h =>
    refine congrArg Except.ok (Document.ext ?_)
    dsimp only
    rw [d.isValue.bare_eq, String.ofList_toList]

theorem read_eq_ok_iff {s : String} (hb : Text.Bare isBlank s.toList) (d : Document) :
    Document.read s = .ok d ↔ d.text = s := by
  constructor
  · intro h
    rw [Document.read] at h
    split at h
    · cases h
    · next hc =>
      have hv := (isText_iff_isValue hb).mp ((check_eq_ok_iff s).mp hc)
      rw [← Except.ok.inj h]
      dsimp only
      rw [hv.bare_eq, String.ofList_toList]
  · rintro rfl
    exact d.read_text

end Json
end Dashboards
