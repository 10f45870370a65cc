import Dashboards.Path

/-!
# Names at the end of paths

* `Path.IsName`            a name that an entry of a directory can have;
* `getLast_join`           a name put behind a path is the last of the pieces;
* `EndsIn`                 the last piece of a path that counts;
* `fileName_eq_some_iff`   this is the file name of the path, unless it is `..`;
* `isName_of_fileName`     so a file name is the name of an entry;
* `fileName_join`          and the name of an entry, put behind a path, is its file name.
-/

namespace Dashboards
open Text (Bytes)
namespace Path

structure IsName (n : Bytes) : Prop where
  slash : slash ∉ n
  idle : isIdle n = false
  up : n ≠ [dot, dot]

instance (n : Bytes) : Decidable (IsName n) :=
  decidable_of_iff (slash ∉ n ∧ isIdle n = false ∧ n ≠ [dot, dot])
    ⟨fun ⟨hs, hi, hu⟩ => ⟨hs, hi, hu⟩, fun h => ⟨h.slash, h.idle, h.up⟩⟩

/-! ### pieces -/

theorem segments_ne_nil (bs : Bytes) : segments bs ≠ [] := by
  cases bs with
  | nil => exact List.cons_ne_nil _ _
  | cons b bs =>
    rw [segments]
    split
    · exact List.cons_ne_nil _ _
    · split <;> exact List.cons_ne_nil _ _

theorem segments_slash (bs : Bytes) : segments (Path.slash :: bs) = [] :: segments bs := by
  rw [segments, if_pos rfl]

theorem segments_append (as bs : Bytes) :
    segments (as ++ Path.slash :: bs) = segments as ++ segments bs := by
  induction as with
  | nil => rw [List.nil_append, segments_slash]; rfl
  | cons a as ih =>
    by_cases ha : a = Path.slash
    · subst ha
      rw [List.cons_append, segments_slash, segments_slash, ih, List.cons_append]
    · rw [List.cons_append, segments, segments, if_neg ha, if_neg ha, ih]
      cases h : segments as with
      | nil => exact absurd h (segments_ne_nil as)
      | cons s ss => rfl

theorem segments_of_not_mem {n : Bytes} (h : Path.slash ∉ n) : segments n = [n] := by
  induction n with
  | nil => rfl
  | cons b bs ih =>
    rw [List.mem_cons, not_or] at h
    rw [segments, if_neg (Ne.symm h.1), ih h.2]

theorem slash_not_mem_segments (bs : Bytes) : ∀ s ∈ segments bs, slash ∉ s := by
  induction bs with
  | nil =>
    intro s hs
    rw [List.mem_singleton.mp hs]
    exact List.not_mem_nil
  | cons b bs ih =>
    intro s hs
    rw [segments] at hs
    by_cases hb : b = slash
    · rw [if_pos hb] at hs
      rcases List.mem_cons.mp hs with rfl | hs
      · exact List.not_mem_nil
      · exact ih s hs
    · rw [if_neg hb] at hs
      cases h : segments bs with
      | nil => exact absurd h (segments_ne_nil bs)
      | cons x xs =>
        rw [h] at hs ih
        rcases List.mem_cons.mp hs with rfl | hs
        · intro hm
          rcases List.mem_cons.mp hm with e | hm
          · exact hb e.symm
          · exact ih x List.mem_cons_self hm
        · exact ih s (List.mem_cons_of_mem _ hs)

theorem not_isAbsolute {n : Bytes} (h : Path.slash ∉ n) : (⟨n⟩ : Path).isAbsolute = false := by
  cases n with
  | nil => rfl
  | cons b bs =>
    rw [List.mem_cons, not_or] at h
    rw [isAbsolute, List.head?_cons, beq_eq_false_iff_ne]
    exact fun e => h.1 (Option.some.inj e).symm

/-! ### names behind paths -/

theorem segments_join (base : Path) {n : Bytes} (h : Path.slash ∉ n) :
    ∃ ss, segments (base.join ⟨n⟩).bytes = ss ++ [n] := by
  rw [join, if_neg (by rw [not_isAbsolute h]; exact Bool.false_ne_true)]
  split
  · rename_i hb
    rcases List.eq_nil_or_concat base.bytes with e | ⟨bs, b, e⟩
    · exact ⟨[], by rw [e, List.nil_append, List.nil_append, segments_of_not_mem h]⟩
    · rw [List.concat_eq_append] at e
      rw [e] at hb ⊢
      have hb : b = Path.slash := by simpa using hb
      exact ⟨segments bs, by rw [hb, List.append_assoc, List.singleton_append, segments_append,
        segments_of_not_mem h]⟩
  · exact ⟨segments base.bytes, by rw [segments_append, segments_of_not_mem h]⟩

theorem getLast_join (base : Path) {n : Bytes} (h : Path.slash ∉ n) :
    (segments (base.join ⟨n⟩).bytes).getLast? = some n := by
  obtain ⟨ss, e⟩ := segments_join base h
  rw [e, List.getLast?_concat]

/-! ### the last name of a path -/

/-- The last piece of a path that counts; those behind it are empty or `.`. -/
def EndsIn (p : Path) (n : Bytes) : Prop :=
  ∃ front back, segments p.bytes = front ++ n :: back ∧ isIdle n = false ∧
    ∀ s ∈ back, isIdle s = true

theorem endsIn_iff {p : Path} {n : Bytes} :
    p.EndsIn n ↔ ((segments p.bytes).filter (!isIdle ·)).getLast? = some n := by
  rw [List.getLast?_filter, List.find?_eq_some_iff_append]
  constructor
  · rintro ⟨front, back, e, hn, hback⟩
    refine ⟨by simpa using hn, back.reverse, front.reverse, by simp [e], fun s hs => ?_⟩
    simpa using hback s (List.mem_reverse.mp hs)
  · rintro ⟨hn, back, front, e, hback⟩
    refine ⟨front.reverse, back.reverse, ?_, by simpa using hn, fun s hs => ?_⟩
    · rw [← List.reverse_reverse (segments p.bytes), e]
      simp
    · simpa using hback s (List.mem_reverse.mp hs)

/-- A start takes an idle piece, if any. -/
theorem filter_body (p : Path) :
    p.body.filter (!isIdle ·) = (segments p.bytes).filter (!isIdle ·) := by
  obtain ⟨s, ss, e⟩ := List.exists_cons_of_ne_nil (segments_ne_nil p.bytes)
  have hdrop : isIdle s = true →
      ((segments p.bytes).drop 1).filter (!isIdle ·) = (segments p.bytes).filter (!isIdle ·) := by
    intro hs
    rw [e, List.filter_cons_of_neg (by simp [hs])]
    rfl
  rw [body]
  split
  · rfl
  · rename_i hplain
    refine hdrop ?_
    rw [start] at hplain
    split at hplain
    · rename_i ha
      obtain ⟨bs, eb⟩ := List.head?_eq_some_iff.mp (beq_iff_eq.mp ha)
      rw [eb, segments_slash] at e
      rw [← (List.cons.inj e).1]
      rfl
    · split at hplain
      · rename_i hd
        rw [e, List.head?_cons] at hd
        rw [Option.some.inj hd]
        rfl
      · exact absurd rfl hplain

theorem fileName_eq_some_iff {p : Path} {n : Bytes} :
    p.fileName? = some n ↔ p.EndsIn n ∧ n ≠ [dot, dot] := by
  rw [fileName?, parts, filter_body, endsIn_iff, List.getLast?_append, List.getLast?_map]
  cases ((segments p.bytes).filter (!isIdle ·)).getLast? with
  | none => cases p.start <;> simp [Start.parts]
  | some s =>
    by_cases hs : s = [dot, dot]
    · simp only [Option.map_some, Option.some_or, Part.ofSegment, if_pos hs]
      constructor
      · intro h
        cases h
      · rintro ⟨h, hn⟩
        exact absurd (Option.some.inj h ▸ hs) hn
    · simp only [Option.map_some, Option.some_or, Part.ofSegment, if_neg hs]
      constructor
      · intro h
        exact ⟨h, Option.some.inj h ▸ hs⟩
      · rintro ⟨h, -⟩
        exact h

theorem isName_of_fileName {p : Path} {n : Bytes} (h : p.fileName? = some n) : IsName n := by
  obtain ⟨⟨front, back, e, hidle, -⟩, hup⟩ := fileName_eq_some_iff.mp h
  have hm : n ∈ segments p.bytes := by
    rw [e]
    exact List.mem_append_right front List.mem_cons_self
  exact ⟨slash_not_mem_segments p.bytes n hm, hidle, hup⟩

theorem fileName_join (base : Path) {n : Bytes} (h : IsName n) :
    (base.join ⟨n⟩).fileName? = some n := by
  obtain ⟨ss, e⟩ := segments_join base h.slash
  exact fileName_eq_some_iff.mpr ⟨⟨ss, [], e, h.idle, by simp⟩, h.up⟩

end Path
end Dashboards
