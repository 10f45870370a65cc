import Mathlib.Data.List.DropRight
import Dashboards.Proofs.Path

/-!
# Paths above and below others

* `segments_below`      the pieces of a path go on with the name that is put behind it;
* `parts_join`          so do its parts;
* `relativeTo_join`     seen from a directory, a path directly below it is its last name;
* `IsAbove`             a path and all those that are left when its last parts are taken off;
* `length_parent`       each of these is shorter than the one before.
-/

namespace Dashboards
open Text (Bytes)
namespace Path

/-! ### a name behind a path -/

section
variable {base : Path} {n : Bytes}

/-- A slash at the end of the path leaves an empty piece, in whose place the name comes. -/
theorem segments_below (hb : base.bytes ≠ []) (hn : slash ∉ n) :
    ∃ ss tail, ss ≠ [] ∧ (∀ s ∈ tail, s = []) ∧ segments base.bytes = ss ++ tail ∧
      segments (base.join ⟨n⟩).bytes = ss ++ [n] := by
  have hrel : ¬ (⟨n⟩ : Path).isAbsolute = true := by
    rw [not_isAbsolute hn]
    exact Bool.false_ne_true
  rw [join, if_neg hrel]
  split
  · rename_i h
    obtain ⟨bs, e⟩ : ∃ bs, base.bytes = bs ++ [slash] := by
      rw [Bool.or_eq_true, List.isEmpty_iff, decide_eq_true_eq] at h
      exact List.getLast?_eq_some_iff.mp (h.resolve_left hb)
    refine ⟨segments bs, [[]], segments_ne_nil bs, by simp, ?_, ?_⟩
    · rw [e, segments_append]
      rfl
    · rw [e, List.append_assoc, List.singleton_append, segments_append, segments_of_not_mem hn]
  · refine ⟨segments base.bytes, [], segments_ne_nil _, by simp, (List.append_nil _).symm, ?_⟩
    rw [segments_append, segments_of_not_mem hn]

theorem isAbsolute_join (hb : base.bytes ≠ []) (hn : slash ∉ n) :
    (base.join ⟨n⟩).isAbsolute = base.isAbsolute := by
  obtain ⟨b, bs, e⟩ := List.exists_cons_of_ne_nil hb
  rw [join, not_isAbsolute hn, if_neg Bool.false_ne_true, isAbsolute, isAbsolute]
  split
  · rw [e, List.cons_append, List.head?_cons, List.head?_cons]
  · rw [e, List.cons_append, List.head?_cons, List.head?_cons]

theorem start_join (hb : base.bytes ≠ []) (hn : slash ∉ n) :
    (base.join ⟨n⟩).start = base.start := by
  obtain ⟨ss, tail, hss, _, e, e'⟩ := segments_below hb hn
  obtain ⟨s, ss, rfl⟩ := List.exists_cons_of_ne_nil hss
  rw [start, start, isAbsolute_join hb hn, e, e', List.cons_append, List.cons_append,
    List.head?_cons, List.head?_cons]

theorem body_below (hb : base.bytes ≠ []) (hn : slash ∉ n) :
    ∃ ss tail, (∀ s ∈ tail, s = []) ∧ base.body = ss ++ tail ∧
      (base.join ⟨n⟩).body = ss ++ [n] := by
  obtain ⟨ss, tail, hss, ht, e, e'⟩ := segments_below hb hn
  obtain ⟨s, ss, rfl⟩ := List.exists_cons_of_ne_nil hss
  rw [body, body, start_join hb hn, e, e']
  cases base.start with
  | plain => exact ⟨s :: ss, tail, ht, rfl, rfl⟩
  | root => exact ⟨ss, tail, ht, rfl, rfl⟩
  | here => exact ⟨ss, tail, ht, rfl, rfl⟩

theorem filter_idle_tail {ss tail : List Bytes} (ht : ∀ s ∈ tail, s = []) :
    (ss ++ tail).filter (!isIdle ·) = ss.filter (!isIdle ·) := by
  have hnil : tail.filter (!isIdle ·) = [] := by
    rw [List.filter_eq_nil_iff]
    intro s hs
    rw [ht s hs]
    decide
  rw [List.filter_append, hnil, List.append_nil]

theorem filter_name (ss : List Bytes) (hn : isIdle n = false) :
    (ss ++ [n]).filter (!isIdle ·) = ss.filter (!isIdle ·) ++ [n] := by
  rw [List.filter_append, List.filter_cons_of_pos (by rw [hn]; rfl), List.filter_nil]

theorem join_empty (hb : base.bytes = []) (p : Path) : base.join p = p := by
  rw [join, hb]
  split
  · rfl
  · rfl

theorem start_name (hn : IsName n) : (⟨n⟩ : Path).start = .plain := by
  rw [start, not_isAbsolute hn.slash, if_neg Bool.false_ne_true, segments_of_not_mem hn.slash,
    if_neg]
  intro e
  have hi := hn.idle
  rw [Option.some.inj e] at hi
  exact absurd hi (by decide)

theorem body_name (hn : IsName n) : (⟨n⟩ : Path).body = [n] := by
  rw [body, start_name hn]
  exact segments_of_not_mem hn.slash

theorem parts_empty (hb : base.bytes = []) : base.parts = [] := by
  obtain ⟨bs⟩ := base
  cases hb
  rfl

theorem parts_name (hn : IsName n) : (⟨n⟩ : Path).parts = [.name n] := by
  have hname : Part.ofSegment n = .name n := if_neg hn.up
  have hpiece := filter_name [] hn.idle
  rw [List.nil_append] at hpiece
  rw [parts, start_name hn, body_name hn, hpiece, ← hname]
  rfl

theorem parts_join (base : Path) (hn : IsName n) :
    (base.join ⟨n⟩).parts = base.parts ++ [.name n] := by
  by_cases hb : base.bytes = []
  · rw [join_empty hb, parts_empty hb, parts_name hn]
    rfl
  · have hname : Part.ofSegment n = .name n := if_neg hn.up
    obtain ⟨ss, tail, ht, e, e'⟩ := body_below hb hn.slash
    rw [parts, parts, start_join hb hn.slash, e, e', filter_idle_tail ht, filter_name ss hn.idle,
      List.map_append, List.append_assoc, ← hname]
    rfl

/-- A path that starts with a name has it in its first piece. -/
theorem head_body_plain (hs : base.start = .plain) (hb : base.bytes ≠ []) :
    ∀ s ∈ base.body.head?, isIdle s = false := by
  intro s hm
  have habs : ¬ base.isAbsolute = true := by
    intro ha
    rw [start, if_pos ha] at hs
    cases hs
  have hhere : ¬ (segments base.bytes).head? = some [dot] := by
    intro hd
    rw [start, if_neg habs, if_pos hd] at hs
    cases hs
  have hbody : base.body = segments base.bytes := by rw [body, hs]
  rw [hbody, Option.mem_def] at hm
  rw [isIdle, Bool.or_eq_false_iff, decide_eq_false_iff_not, decide_eq_false_iff_not]
  constructor
  · rintro rfl
    -- An empty first piece is one in front of a slash.
    obtain ⟨b, bs, e⟩ := List.exists_cons_of_ne_nil hb
    rw [e, segments] at hm
    split at hm
    · rename_i h
      refine habs ?_
      rw [isAbsolute, e, h]
      rfl
    · split at hm <;> cases hm
  · rintro rfl
    exact hhere hm

/-- Only the empty path has no parts. -/
theorem parts_ne_nil (hb : base.bytes ≠ []) : base.parts ≠ [] := by
  rw [parts]
  cases hs : base.start with
  | root => exact List.cons_ne_nil _ _
  | here => exact List.cons_ne_nil _ _
  | plain =>
    intro hp
    have hhead := head_body_plain hs hb
    have hbody : base.body = segments base.bytes := by rw [body, hs]
    obtain ⟨s, ss, e⟩ := List.exists_cons_of_ne_nil (segments_ne_nil base.bytes)
    rw [hbody, e] at hhead hp
    have hnames : ((s :: ss).filter (!isIdle ·)).map Part.ofSegment = [] := hp
    rw [List.map_eq_nil_iff, List.filter_eq_nil_iff] at hnames
    have hidle := hnames s List.mem_cons_self
    rw [hhead s rfl] at hidle
    exact hidle rfl

theorem dropNames_below (ss : List Bytes) (hn : isIdle n = false) :
    dropNames (ss.filter (!isIdle ·)).length (ss ++ [n]) = [n] := by
  have hdrop : ∀ (s : Bytes) (rest : List Bytes) (k : Nat), isIdle s = true →
      dropNames k (s :: rest) = dropNames k rest := by
    intro s rest k hs
    cases k with
    | zero => rw [dropNames, dropNames, List.dropWhile_cons_of_pos hs]
    | succ k => rw [dropNames, dropNames, List.dropWhile_cons_of_pos hs]
  induction ss with
  | nil =>
    rw [List.nil_append, List.filter_nil, List.length_nil, dropNames,
      List.dropWhile_cons_of_neg (by rw [hn]; exact Bool.false_ne_true)]
  | cons s ss ih =>
    cases hs : isIdle s with
    | true =>
      rw [List.filter_cons_of_neg (by rw [hs]; decide), List.cons_append, hdrop s _ _ hs, ih]
    | false =>
      rw [List.filter_cons_of_pos (by rw [hs]; rfl), List.length_cons, List.cons_append, dropNames,
        List.dropWhile_cons_of_neg (by rw [hs]; exact Bool.false_ne_true), List.drop_one,
        List.tail_cons, ih]

theorem trimIdleEnd_name (ss : List Bytes) (hn : isIdle n = false) :
    trimIdleEnd (ss ++ [n]) = ss ++ [n] := by
  rw [trimIdleEnd, List.reverse_append, List.reverse_singleton, List.singleton_append,
    List.dropWhile_cons_of_neg (by rw [hn]; exact Bool.false_ne_true), List.reverse_cons,
    List.reverse_reverse]

/-- A path directly below a directory is seen from there as its last name. -/
theorem relativeTo_join (base : Path) (hn : IsName n) :
    (base.join ⟨n⟩).relativeTo base = ⟨n⟩ := by
  have htrim : trimIdleEnd [n] = [n] := trimIdleEnd_name [] hn.idle
  have hbelow : (base.join ⟨n⟩).isBelow base = true := by
    rw [isBelow, parts_join base hn, List.isPrefixOf_iff_prefix]
    exact List.prefix_append _ _
  rw [relativeTo, if_pos hbelow]
  by_cases hb : base.bytes = []
  · rw [parts_empty hb, join_empty hb, start_name hn, body_name hn, htrim]
    rfl
  · obtain ⟨ss, tail, ht, e, e'⟩ := body_below hb hn.slash
    have hlen : base.parts.length = base.start.parts.length + (ss.filter (!isIdle ·)).length := by
      rw [parts, List.length_append, List.length_map, e, filter_idle_tail ht]
    have hpos := List.length_pos_iff.mpr (parts_ne_nil hb)
    have hleft := dropNames_below ss hn.idle
    split
    · omega
    · rename_i k hk
      have hnames : (if base.start = .plain then dropNames (k + 1) (ss ++ [n])
          else dropNames k (ss ++ [n])) = [n] := by
        cases hs : base.start with
        | plain =>
          rw [hs, show Start.plain.parts.length = 0 from rfl] at hlen
          rw [if_pos rfl, show k + 1 = (ss.filter (!isIdle ·)).length by omega, hleft]
        | root =>
          rw [hs, show Start.root.parts.length = 1 from rfl] at hlen
          rw [if_neg (by decide), show k = (ss.filter (!isIdle ·)).length by omega, hleft]
        | here =>
          rw [hs, show Start.here.parts.length = 1 from rfl] at hlen
          rw [if_neg (by decide), show k = (ss.filter (!isIdle ·)).length by omega, hleft]
      rw [start_join hb hn.slash, e']
      dsimp only
      rw [hnames, htrim]
      rfl

end

/-! ### the paths above -/

theorem joinSegments_cons (b : UInt8) (s : Bytes) (ss : List Bytes) :
    joinSegments ((b :: s) :: ss) = b :: joinSegments (s :: ss) := by
  cases ss <;> rfl

theorem joinSegments_segments (bs : Bytes) : joinSegments (segments bs) = bs := by
  induction bs with
  | nil => rfl
  | cons b bs ih =>
    rw [segments]
    cases h : segments bs with
    | nil => exact absurd h (segments_ne_nil bs)
    | cons s ss =>
      rw [h] at ih
      split
      · rename_i hb
        rw [joinSegments, ih, hb]
        rfl
      · rw [joinSegments_cons, ih]

/-- A path is made of its start and what follows. -/
theorem build_body (p : Path) : build p.start p.body = p := by
  have hj := joinSegments_segments p.bytes
  rw [body]
  cases hs : p.start with
  | plain => exact congrArg Path.mk hj
  | root =>
    rw [start] at hs
    split at hs
    · rename_i ha
      obtain ⟨bs, e⟩ := List.head?_eq_some_iff.mp (beq_iff_eq.mp ha)
      obtain ⟨bytes⟩ := p
      subst e
      dsimp only
      rw [build, segments_slash, List.drop_one, List.tail_cons, joinSegments_segments]
    · split at hs <;> cases hs
  | here =>
    rw [start] at hs
    split at hs
    · cases hs
    · split at hs
      · rename_i hd
        obtain ⟨ss, e⟩ := List.head?_eq_some_iff.mp hd
        dsimp only
        rw [e] at hj ⊢
        rw [build, List.drop_one, List.tail_cons]
        cases ss with
        | nil => exact congrArg Path.mk hj
        | cons s ss => exact congrArg Path.mk hj
      · cases hs

theorem length_joinSegments_concat (ss : List Bytes) (s : Bytes) :
    (joinSegments ss).length + s.length ≤ (joinSegments (ss ++ [s])).length := by
  induction ss with
  | nil => exact (Nat.zero_add _).le
  | cons x xs ih =>
    cases xs with
    | nil =>
      show x.length + s.length ≤ (x ++ slash :: s).length
      rw [List.length_append, List.length_cons]
      omega
    | cons y ys =>
      rw [List.cons_append, List.cons_append, joinSegments, joinSegments, List.length_append,
        List.length_append, List.length_cons, List.length_cons]
      rw [List.cons_append] at ih
      omega

theorem length_joinSegments_mono {ss ss' : List Bytes} (h : ss <+: ss') :
    (joinSegments ss).length ≤ (joinSegments ss').length := by
  obtain ⟨rest, rfl⟩ := h
  induction rest using List.reverseRecOn with
  | nil => rw [List.append_nil]
  | append_singleton rest s ih =>
    have hs := length_joinSegments_concat (ss ++ rest) s
    rw [← List.append_assoc]
    omega

theorem trimIdleEnd_initial (ss : List Bytes) : trimIdleEnd ss <+: ss :=
  List.rdropWhile_prefix isIdle ss

/-- The last piece that counts and those behind it take room. -/
theorem length_joinSegments_dropLast {ss : List Bytes} (h : trimIdleEnd ss ≠ []) :
    (joinSegments (trimIdleEnd (trimIdleEnd ss).dropLast)).length < (joinSegments ss).length := by
  have hlast : isIdle ((trimIdleEnd ss).getLast h) = false := by
    rw [Bool.eq_false_iff]
    exact List.rdropWhile_last_not isIdle ss h
  have hpos : 0 < ((trimIdleEnd ss).getLast h).length := by
    rw [List.length_pos_iff]
    intro e
    rw [e] at hlast
    exact absurd hlast (by decide)
  have h1 := length_joinSegments_mono (trimIdleEnd_initial (trimIdleEnd ss).dropLast)
  have h2 := length_joinSegments_concat (trimIdleEnd ss).dropLast ((trimIdleEnd ss).getLast h)
  have h3 := length_joinSegments_mono (trimIdleEnd_initial ss)
  rw [List.dropLast_append_getLast h] at h2
  omega

/-- The start takes as much room in front of fewer pieces. -/
theorem length_build_lt (st : Start) {ss ss' : List Bytes} (hne : ss' ≠ [])
    (h : (joinSegments ss).length < (joinSegments ss').length) :
    (build st ss).bytes.length < (build st ss').bytes.length := by
  cases st with
  | plain => exact h
  | root => exact Nat.succ_lt_succ h
  | here =>
    have hne' : ¬ ss'.isEmpty = true := fun e => hne (List.isEmpty_iff.mp e)
    rw [build, build, if_neg hne']
    split
    · simp
    · simp only [List.length_cons]
      omega

theorem length_parent {p up : Path} (h : p.parent? = some up) :
    up.bytes.length < p.bytes.length := by
  have hp : (build p.start p.body).bytes.length = p.bytes.length := by rw [build_body]
  rw [parent?] at h
  rw [← hp]
  split at h
  · split at h
    · rename_i hs
      cases h
      rw [hs]
      exact Nat.succ_pos _
    · cases h
  · rename_i hne
    rw [List.isEmpty_iff] at hne
    have hbody : p.body ≠ [] := by
      intro e
      exact hne (by rw [e]; rfl)
    cases h
    exact length_build_lt p.start hbody (length_joinSegments_dropLast hne)

/-- A path itself and the paths that are left when its last parts are taken off. -/
inductive IsAbove (p : Path) : Path → Prop
  | self : IsAbove p p
  | parent {q up : Path} (h : IsAbove p q) (hup : q.parent? = some up) : IsAbove p up

theorem IsAbove.of_parent {p q up : Path} (hup : p.parent? = some up) (h : IsAbove up q) :
    IsAbove p q := by
  induction h with
  | self => exact .parent .self hup
  | parent _ h ih => exact .parent ih h

end Path
end Dashboards
