import Mathlib.Data.List.DropRight
import Dashboards.Proofs.Url.Percent
import Dashboards.Proofs.Url.Pieces
import Dashboards.Url

/-!
# Paths of web addresses

A path is a row of segments with a slash in front of each.

* `Segment`           a segment that a path holds as it is: no point stands for a place in it;
* `Route`             a path that consists of such segments;
* `route_pathText`    every path that is read is one;
* `pathText_route`    and reading it again gives the same path;
* `Route.extend`      segments put behind the slashes that a path ends with take their place.
-/

namespace Dashboards
namespace Url

structure Segment (s : List Char) : Prop where
  admits : ∀ c ∈ s, Admits inPath c
  noSlash : ∀ c ∈ s, isSlash c = false
  single : isSinglePoint s = false
  double : isDoublePoint s = false

instance (s : List Char) : Decidable (Segment s) :=
  decidable_of_iff (s.all (Admits inPath ·) = true ∧ s.all (!isSlash ·) = true ∧
      isSinglePoint s = false ∧ isDoublePoint s = false) <| by
    simp only [List.all_eq_true, decide_eq_true_eq, Bool.not_eq_true']
    exact ⟨fun ⟨h1, h2, h3, h4⟩ => ⟨h1, h2, h3, h4⟩, fun ⟨h1, h2, h3, h4⟩ => ⟨h1, h2, h3, h4⟩⟩

theorem segment_nil : Segment [] := by decide

def slashed (ss : List (List Char)) : List Char := ss.flatMap ('/' :: ·)

def Route (path : List Char) : Prop :=
  ∃ ss, ss ≠ [] ∧ (∀ s ∈ ss, Segment s) ∧ path = slashed ss

theorem slashed_append (ss ss' : List (List Char)) :
    slashed (ss ++ ss') = slashed ss ++ slashed ss' :=
  List.flatMap_append

/-! ### reading -/

section
variable {done ss : List (List Char)}

theorem dropSegment_subset : ∀ s ∈ dropSegment done, s ∈ done := by
  intro s hs
  cases done with
  | nil => exact hs
  | cons d ds =>
    rw [dropSegment] at hs
    split at hs
    · exact hs
    · exact List.mem_cons_of_mem _ hs

/-- Only points are interpreted, and none is left. -/
theorem segment_addSegments (hd : ∀ s ∈ done, Segment s)
    (hs : ∀ s ∈ ss, (∀ c ∈ s, Admits inPath c) ∧ ∀ c ∈ s, isSlash c = false) :
    ∀ s ∈ addSegments done ss, Segment s := by
  have hdrop : ∀ {done : List (List Char)}, (∀ s ∈ done, Segment s) →
      ∀ s ∈ dropSegment done, Segment s :=
    fun h s hs => h s (dropSegment_subset s hs)
  fun_induction addSegments done ss with
  | case1 done => exact hd
  | case2 done s hdouble => exact List.forall_mem_cons.mpr ⟨segment_nil, hdrop hd⟩
  | case3 done s hdouble hsingle => exact List.forall_mem_cons.mpr ⟨segment_nil, hd⟩
  | case4 done s hdouble hsingle =>
    obtain ⟨ha, hn⟩ := hs s List.mem_cons_self
    exact List.forall_mem_cons.mpr
      ⟨⟨ha, hn, Bool.eq_false_iff.mpr hsingle, Bool.eq_false_iff.mpr hdouble⟩, hd⟩
  | case5 done s t rest hdouble ih =>
    exact ih (hdrop hd) (List.forall_mem_cons.mp hs).2
  | case6 done s t rest hdouble hsingle ih => exact ih hd (List.forall_mem_cons.mp hs).2
  | case7 done s t rest hdouble hsingle ih =>
    obtain ⟨⟨ha, hn⟩, hs⟩ := List.forall_mem_cons.mp hs
    exact ih (List.forall_mem_cons.mpr
      ⟨⟨ha, hn, Bool.eq_false_iff.mpr hsingle, Bool.eq_false_iff.mpr hdouble⟩, hd⟩) hs

theorem addSegments_ne_nil (done : List (List Char)) (hss : ss ≠ []) :
    addSegments done ss ≠ [] := by
  fun_induction addSegments done ss with
  | case1 => exact absurd rfl hss
  | case2 | case3 | case4 => exact List.cons_ne_nil _ _
  | case5 _ _ _ _ _ ih | case6 _ _ _ _ _ _ ih | case7 _ _ _ _ _ _ ih =>
    exact ih (List.cons_ne_nil _ _)

theorem addSegments_segments (h : ∀ s ∈ ss, Segment s) :
    addSegments done ss = ss.reverse ++ done := by
  fun_induction addSegments done ss with
  | case1 => rfl
  | case2 _ s hdouble => simp [(h s List.mem_cons_self).double] at hdouble
  | case3 _ s _ hsingle => simp [(h s List.mem_cons_self).single] at hsingle
  | case4 => rfl
  | case5 _ s _ _ hdouble => simp [(h s List.mem_cons_self).double] at hdouble
  | case6 _ s _ _ _ hsingle => simp [(h s List.mem_cons_self).single] at hsingle
  | case7 done s t rest hdouble hsingle ih =>
    rw [ih (List.forall_mem_cons.mp h).2, List.reverse_cons (a := s), List.append_assoc,
      List.singleton_append]

theorem not_isSlash_of_escape {c : Char} (h : c = '%' ∨ ∃ n < 16, c = upperHex n) :
    isSlash c = false := by
  rcases h with rfl | ⟨n, hn, rfl⟩
  · rfl
  · revert n
    decide

theorem route_pathText (cs : List Char) : Route (pathText cs).toList := by
  unfold pathText
  dsimp only
  rw [String.toList_ofList]
  refine ⟨_, fun e => ?_, fun s hs => ?_, rfl⟩
  · rw [List.reverse_eq_nil_iff] at e
    refine addSegments_ne_nil [] (fun e => ?_) e
    exact Idna.splitAt_ne_nil isSlash _ (List.map_eq_nil_iff.mp e)
  · refine segment_addSegments (List.forall_mem_nil Segment) (fun w hw => ?_) s
      (List.mem_reverse.mp hs)
    obtain ⟨v, hv, rfl⟩ := List.mem_map.mp hw
    refine ⟨admits_percentEncode escapable_inPath v, fun c hc => ?_⟩
    rcases mem_percentEncode hc with hescape | ⟨hcv, -⟩
    · exact not_isSlash_of_escape hescape
    · exact Idna.not_sep_of_mem_splitAt v hv c hcv

theorem pathText_route {path : List Char} (h : Route path) :
    pathText path = String.ofList path := by
  obtain ⟨ss, hne, hss, rfl⟩ := h
  cases ss with
  | nil => exact absurd rfl hne
  | cons s ss =>
    have hs : ∀ w ∈ s :: ss, ∀ c ∈ w, isSlash c = false := fun w hw => (hss w hw).noSlash
    obtain ⟨hs, hrest⟩ := List.forall_mem_cons.mp hs
    have hmap : (s :: ss).map (percentEncode inPath) = s :: ss := by
      rw [List.map_congr_left fun w hw => percentEncode_admitted (hss w hw).admits, List.map_id']
    show pathText ('/' :: (s ++ ss.flatMap ('/' :: ·))) = _
    rw [pathText, if_pos (by decide), Idna.splitAt_flatMap (by decide) hrest s hs, hmap,
      addSegments_segments hss, List.append_nil, List.reverse_reverse]
    rfl

end

/-! ### slashes at the end -/

/-- A text without the slashes at its end. -/
def unslashed (cs : List Char) : List Char := cs.rdropWhile (· = '/')

theorem rdropWhile_segments {ss : List (List Char)} (h : ∀ s ∈ ss, Segment s) :
    unslashed (slashed ss) = slashed (ss.rdropWhile (· = [])) := by
  induction ss using List.reverseRecOn with
  | nil => rfl
  | append_singleton ss s ih =>
    rw [List.forall_mem_append, List.forall_mem_singleton] at h
    cases s using List.reverseRecOn with
    | nil =>
      rw [List.rdropWhile_concat_pos _ _ _ (by decide), ← ih h.1, slashed_append]
      exact List.rdropWhile_concat_pos _ _ _ (by decide)
    | append_singleton s c =>
      have hc : isSlash c = false := h.2.noSlash c (by simp)
      rw [List.rdropWhile_concat_neg _ _ _ (by simp), slashed_append]
      have hlast : slashed ss ++ slashed [s ++ [c]] = (slashed ss ++ '/' :: s) ++ [c] := by
        simp [slashed]
      rw [hlast]
      refine List.rdropWhile_concat_neg _ _ _ fun e => ?_
      rw [of_decide_eq_true e] at hc
      cases hc

theorem Route.extend {path : List Char} (h : Route path) {ss : List (List Char)} (hne : ss ≠ [])
    (hss : ∀ s ∈ ss, Segment s) : Route (unslashed path ++ slashed ss) := by
  obtain ⟨ss', -, hss', rfl⟩ := h
  refine ⟨ss'.rdropWhile (· = []) ++ ss, fun e => hne (List.append_eq_nil_iff.mp e).2, ?_, ?_⟩
  · rw [List.forall_mem_append]
    exact ⟨fun s hs => hss' s ((List.rdropWhile_prefix _ _).subset hs), hss⟩
  · rw [rdropWhile_segments hss', slashed_append]

end Url
end Dashboards
