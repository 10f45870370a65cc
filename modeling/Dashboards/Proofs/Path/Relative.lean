import Dashboards.Proofs.Path.Below

/-!
# Paths seen from others

* `segments_joinSegments`   pieces without slashes that are put together come apart again;
* `parts_joined`            the parts of a path that is put together from pieces;
* `parts_slashed`           a slash behind a path and what follows it add the parts of the latter;
* `relativeTo_parts`        seen from a base, a path below it keeps the parts behind the base;
* `relativeTo_names`        which are all names if the path does not go up.
-/

namespace Dashboards
open Text (Bytes)
namespace Path

/-! ### pieces put together -/

theorem segments_joinSegments {ss : List Bytes} (hne : ss ≠ []) (hs : ∀ s ∈ ss, slash ∉ s) :
    segments (joinSegments ss) = ss := by
  induction ss with
  | nil => exact absurd rfl hne
  | cons s ss ih =>
    have hfirst := hs s List.mem_cons_self
    cases ss with
    | nil => exact segments_of_not_mem hfirst
    | cons x xs =>
      have hrest := ih (List.cons_ne_nil x xs) fun y hy => hs y (List.mem_cons_of_mem _ hy)
      show segments (s ++ slash :: joinSegments (x :: xs)) = s :: x :: xs
      rw [segments_append, segments_of_not_mem hfirst, hrest]
      rfl

/-- The first piece begins with neither a slash nor a point that stands alone. -/
theorem start_joined {s : Bytes} {ss : List Bytes} (hs : ∀ x ∈ s :: ss, slash ∉ x)
    (hi : isIdle s = false) : (⟨joinSegments (s :: ss)⟩ : Path).start = .plain := by
  have hne : s ≠ [] := by
    rintro rfl
    exact absurd hi (by decide)
  obtain ⟨b, bs, rfl⟩ := List.exists_cons_of_ne_nil hne
  have hb : b ≠ slash := by
    rintro rfl
    exact hs _ List.mem_cons_self List.mem_cons_self
  have habs : ¬ (⟨joinSegments ((b :: bs) :: ss)⟩ : Path).isAbsolute = true := by
    intro ha
    rw [isAbsolute, joinSegments_cons, List.head?_cons, beq_iff_eq] at ha
    exact hb (Option.some.inj ha)
  have hhere : ¬ (segments (joinSegments ((b :: bs) :: ss))).head? = some [dot] := by
    intro hd
    rw [segments_joinSegments (List.cons_ne_nil _ _) hs, List.head?_cons] at hd
    rw [Option.some.inj hd] at hi
    exact absurd hi (by decide)
  rw [start, if_neg habs, if_neg hhere]

theorem parts_joined {ss : List Bytes} (hs : ∀ s ∈ ss, slash ∉ s)
    (hi : ∀ s ∈ ss.head?, isIdle s = false) :
    (⟨joinSegments ss⟩ : Path).parts = (ss.filter (!isIdle ·)).map Part.ofSegment := by
  cases ss with
  | nil => rfl
  | cons s ss =>
    have hstart := start_joined hs (hi s rfl)
    rw [parts, body, hstart]
    dsimp only
    rw [segments_joinSegments (List.cons_ne_nil s ss) hs]
    rfl

/-! ### a slash behind a path -/

section
variable {base : Path} {tail : Bytes}

theorem isAbsolute_slashed (hb : base.bytes ≠ []) :
    (⟨base.bytes ++ slash :: tail⟩ : Path).isAbsolute = base.isAbsolute := by
  obtain ⟨b, bs, e⟩ := List.exists_cons_of_ne_nil hb
  rw [isAbsolute, isAbsolute, e, List.cons_append, List.head?_cons, List.head?_cons]

theorem start_slashed (hb : base.bytes ≠ []) :
    (⟨base.bytes ++ slash :: tail⟩ : Path).start = base.start := by
  obtain ⟨s, ss, e⟩ := List.exists_cons_of_ne_nil (segments_ne_nil base.bytes)
  rw [start, start, isAbsolute_slashed hb, segments_append, e, List.cons_append, List.head?_cons,
    List.head?_cons]

theorem body_slashed (hb : base.bytes ≠ []) :
    (⟨base.bytes ++ slash :: tail⟩ : Path).body = base.body ++ segments tail := by
  obtain ⟨s, ss, e⟩ := List.exists_cons_of_ne_nil (segments_ne_nil base.bytes)
  rw [body, body, start_slashed hb, segments_append, e]
  cases base.start with
  | plain => rfl
  | root => rfl
  | here => rfl

theorem parts_slashed (hb : base.bytes ≠ []) : (⟨base.bytes ++ slash :: tail⟩ : Path).parts =
    base.parts ++ ((segments tail).filter (!isIdle ·)).map Part.ofSegment := by
  rw [parts, parts, start_slashed hb, body_slashed hb, List.filter_append, List.map_append,
    List.append_assoc]

theorem ofSegment_name {n : Bytes} (hn : IsName n) : Part.ofSegment n = .name n := if_neg hn.up

/-- Names behind a path, each with a slash in front. -/
theorem parts_behind {ns : List Bytes} (hb : base.bytes ≠ []) (hn : ∀ n ∈ ns, IsName n) :
    (⟨base.bytes ++ ns.flatMap (slash :: ·)⟩ : Path).parts = base.parts ++ ns.map .name := by
  induction ns generalizing base with
  | nil =>
    rw [List.flatMap_nil, List.append_nil, List.map_nil, List.append_nil]
  | cons n ns ih =>
    obtain ⟨hfirst, hrest⟩ := List.forall_mem_cons.mp hn
    have hpiece : (segments n).filter (!isIdle ·) = [n] := by
      rw [segments_of_not_mem hfirst.slash, List.filter_singleton, hfirst.idle]
      rfl
    have hone : (⟨base.bytes ++ slash :: n⟩ : Path).parts = base.parts ++ [.name n] := by
      rw [parts_slashed hb, hpiece, List.map_singleton, ofSegment_name hfirst]
    have hne : (⟨base.bytes ++ slash :: n⟩ : Path).bytes ≠ [] := by simp [hb]
    have hall := ih hne hrest
    rw [hone] at hall
    rw [List.flatMap_cons, ← List.append_assoc, hall, List.append_assoc]
    rfl

end

/-! ### seen from a base -/

theorem filter_dropWhile_idle (ss : List Bytes) :
    (ss.dropWhile isIdle).filter (!isIdle ·) = ss.filter (!isIdle ·) := by
  induction ss with
  | nil => rfl
  | cons s ss ih =>
    cases hs : isIdle s with
    | true => rw [List.dropWhile_cons_of_pos hs, ih, List.filter_cons_of_neg (by simp [hs])]
    | false => rw [List.dropWhile_cons_of_neg (by simp [hs])]

theorem filter_trimIdleEnd (ss : List Bytes) :
    (trimIdleEnd ss).filter (!isIdle ·) = ss.filter (!isIdle ·) := by
  rw [trimIdleEnd, List.filter_reverse, filter_dropWhile_idle, List.filter_reverse,
    List.reverse_reverse]

theorem filter_dropNames (k : Nat) (ss : List Bytes) :
    (dropNames k ss).filter (!isIdle ·) = (ss.filter (!isIdle ·)).drop k := by
  induction k generalizing ss with
  | zero => rw [dropNames, filter_dropWhile_idle, List.drop_zero]
  | succ k ih =>
    rw [dropNames, ih, ← filter_dropWhile_idle ss]
    have hhead := List.head?_dropWhile_not isIdle ss
    cases h : ss.dropWhile isIdle with
    | nil => rw [List.drop_nil, List.filter_nil, List.drop_nil, List.drop_nil]
    | cons x xs =>
      rw [h, List.head?_cons] at hhead
      have hx : isIdle x = false := by simpa using hhead
      rw [List.filter_cons_of_pos (by rw [hx]; rfl), List.drop_one, List.tail_cons,
        List.drop_succ_cons]

theorem dropNames_suffix (k : Nat) (ss : List Bytes) : dropNames k ss <:+ ss := by
  induction k generalizing ss with
  | zero => exact List.dropWhile_suffix isIdle
  | succ k ih =>
    have hdrop : (ss.dropWhile isIdle).drop 1 <:+ ss :=
      (List.drop_suffix 1 _).trans (List.dropWhile_suffix isIdle)
    exact (ih _).trans hdrop

theorem head_dropNames (k : Nat) (ss : List Bytes) :
    ∀ s ∈ (dropNames k ss).head?, isIdle s = false := by
  induction k generalizing ss with
  | zero =>
    intro s hs
    have hhead := List.head?_dropWhile_not isIdle ss
    rw [dropNames, Option.mem_def] at hs
    rw [hs] at hhead
    simpa using hhead
  | succ k ih => exact ih _

theorem slash_not_mem_body (p : Path) : ∀ s ∈ p.body, slash ∉ s := by
  intro s hs
  rw [body] at hs
  have hm : s ∈ segments p.bytes := by
    split at hs
    · exact hs
    · exact List.mem_of_mem_drop hs
  exact slash_not_mem_segments p.bytes s hm

/-- What is left of the pieces are pieces, and the first of them names something. -/
theorem pieces_left (p : Path) (k : Nat) :
    (∀ s ∈ trimIdleEnd (dropNames k p.body), slash ∉ s) ∧
      ∀ s ∈ (trimIdleEnd (dropNames k p.body)).head?, isIdle s = false := by
  have hinitial := trimIdleEnd_initial (dropNames k p.body)
  constructor
  · intro s hs
    exact slash_not_mem_body p s ((dropNames_suffix k p.body).subset (hinitial.subset hs))
  · intro s hs
    obtain ⟨rest, e⟩ := hinitial
    obtain ⟨ss, es⟩ := List.head?_eq_some_iff.mp hs
    refine head_dropNames k p.body s ?_
    rw [← e, es]
    rfl

/-- A path put together from what is left of the pieces of another, without idle ones at its ends. -/
theorem parts_left (p : Path) (k : Nat) :
    (⟨joinSegments (trimIdleEnd (dropNames k p.body))⟩ : Path).parts =
      ((p.body.filter (!isIdle ·)).drop k).map Part.ofSegment := by
  obtain ⟨hslash, hhead⟩ := pieces_left p k
  rw [parts_joined hslash hhead, filter_trimIdleEnd, filter_dropNames]

/-- What follows the parts of a base are parts that stand inside a path: its pieces that name
something, and the same are the parts of the path as it is seen from the base. -/
theorem relativeTo_parts {p base : Path} (hb : base.bytes ≠ []) (h : base.parts <+: p.parts) :
    ∃ ss : List Bytes, (∀ s ∈ ss, slash ∉ s ∧ isIdle s = false) ∧
      p.parts = base.parts ++ ss.map Part.ofSegment ∧
      (p.relativeTo base).parts = ss.map Part.ofSegment := by
  have hbelow : p.isBelow base = true := List.isPrefixOf_iff_prefix.mpr h
  obtain ⟨rest, e⟩ := h
  have hrest : p.parts.drop base.parts.length = rest := by rw [← e, List.drop_left]
  have hsub : ∀ k, ∀ s ∈ (p.body.filter (!isIdle ·)).drop k, slash ∉ s ∧ isIdle s = false := by
    intro k s hs
    obtain ⟨hbody, hidle⟩ := List.mem_filter.mp (List.mem_of_mem_drop hs)
    exact ⟨slash_not_mem_body p s hbody, by simpa using hidle⟩
  rw [relativeTo, if_pos hbelow]
  split
  · rename_i hzero
    exact absurd (List.length_eq_zero_iff.mp hzero) (parts_ne_nil hb)
  · rename_i n hn
    rw [hn] at hrest
    -- Any start but a name takes the first of the parts.
    by_cases hs : p.start = .plain
    · rw [parts, hs] at hrest
      refine ⟨_, hsub (n + 1), ?_, ?_⟩
      · rw [← e, ← hrest, List.map_drop]
        rfl
      · dsimp only
        rw [if_pos hs, parts_left]
    · have hone : ∃ part, p.start.parts = [part] := by
        cases hp : p.start with
        | plain => exact absurd hp hs
        | root => exact ⟨_, rfl⟩
        | here => exact ⟨_, rfl⟩
      obtain ⟨part, hpart⟩ := hone
      rw [parts, hpart] at hrest
      refine ⟨_, hsub n, ?_, ?_⟩
      · rw [← e, ← hrest, List.map_drop]
        rfl
      · dsimp only
        rw [if_neg hs, parts_left]

theorem relativeTo_names {p base : Path} (hb : base.bytes ≠ []) (h : base.parts <+: p.parts)
    (hu : .up ∉ p.parts) : ∃ ns : List Bytes, (∀ n ∈ ns, IsName n) ∧
      p.parts = base.parts ++ ns.map .name ∧ (p.relativeTo base).parts = ns.map .name := by
  obtain ⟨ns, hns, hp, hr⟩ := relativeTo_parts hb h
  have hnames : ∀ n ∈ ns, IsName n := by
    intro n hn
    refine ⟨(hns n hn).1, (hns n hn).2, ?_⟩
    rintro rfl
    refine hu ?_
    rw [hp]
    exact List.mem_append_right _ (List.mem_map.mpr ⟨_, hn, rfl⟩)
  have hmap : ns.map Part.ofSegment = ns.map .name :=
    List.map_congr_left fun n hn => ofSegment_name (hnames n hn)
  rw [hmap] at hp hr
  exact ⟨ns, hnames, hp, hr⟩

end Path
end Dashboards
