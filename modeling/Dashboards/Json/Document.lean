import Dashboards.Proofs.Json.Scan

/-!
# JSON documents kept as they were written

A document is a text that is one JSON value, without blanks around it.

* `Document.read`   the document that a text holds, if the text is found to be JSON.
-/

namespace Dashboards
namespace Json

/-! ### texts without the blanks around them -/

def bare (cs : List Char) : List Char := ((skip cs).reverse.dropWhile isBlank).reverse

theorem bare_around {w v w' : List Char} (hw : IsBlanks w) (hv : IsValue v) (hw' : IsBlanks w') :
    bare (w ++ (v ++ w')) = v := by
  have hb : IsBlanks w'.reverse := fun c hc => hw' c (List.mem_reverse.mp hc)
  obtain ⟨cs, c, e, hc⟩ := hv.last
  have hlast : skip v.reverse = v.reverse := by
    rw [e, List.reverse_concat]
    exact skip_of_not_blank hc _
  rw [bare, skip_append hw, hv.skip_eq, List.reverse_append,
    show (w'.reverse ++ v.reverse).dropWhile isBlank = v.reverse from
      (skip_append hb v.reverse).trans hlast,
    List.reverse_reverse]

theorem IsText.isValue {cs : List Char} (h : IsText cs) : IsValue (bare cs) := by
  cases h with
  | blanks hw hv hw' =>
    rw [bare_around hw hv hw']
    exact hv

/-! ### documents -/

@[ext]
structure Document where
  text : String
  isValue : IsValue text.toList
deriving DecidableEq

def Document.read (s : String) : Except Fault Document :=
  match h : check s with
  | .error f => .error f
  | .ok () => .ok
    { text := String.ofList (bare s.toList)
      isValue := by
        rw [String.toList_ofList]
        exact ((check_eq_ok_iff s).mp h).isValue }

end Json
end Dashboards
