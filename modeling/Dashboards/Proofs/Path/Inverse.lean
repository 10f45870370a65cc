import Dashboards.Proofs.Path.Relative

/-!
# Paths behind a base and seen from it

* `parts_join_plain`      behind a base a path that starts with a name or with nothing keeps its parts;
* `parts_relativeTo`      what is left of a path below a base has the parts that follow those of the
                          base;
* `start_relativeTo`      and starts with a name or with nothing, unless the base is empty;
* `relativeTo_inverts`    so a base that was taken off can be put in front again, and the other way
                          round.
-/

namespace Dashboards
open Text (Bytes)
namespace Path

/-! ### behind a base -/

theorem parts_plain {r : Path} (hr : r.start = .plain) :
    r.parts = ((segments r.bytes).filter (!isIdle ·)).map Part.ofSegment := by
  rw [parts, body, hr]
  rfl

/-- The slash may be the first byte, or follow others. -/
theorem parts_after_slash (front tail : Bytes) :
    (⟨front ++ slash :: tail⟩ : Path).parts = (⟨front ++ [slash]⟩ : Path).parts ++
      ((segments tail).filter (!isIdle ·)).map Part.ofSegment := by
  cases front with
  | nil =>
    have hrooted : ∀ bs : Bytes, (⟨slash :: bs⟩ : Path).parts =
        .root :: ((segments bs).filter (!isIdle ·)).map Part.ofSegment := by
      intro bs
      have hs : (⟨slash :: bs⟩ : Path).start = .root := rfl
      rw [parts, body, hs]
      show Part.root :: (((segments (slash :: bs)).drop 1).filter (!isIdle ·)).map Part.ofSegment = _
      rw [segments_slash]
      rfl
    show (⟨slash :: tail⟩ : Path).parts = (⟨slash :: []⟩ : Path).parts ++ _
    rw [hrooted, hrooted]
    rfl
  | cons b bs =>
    have hne : (⟨b :: bs⟩ : Path).bytes ≠ [] := List.cons_ne_nil b bs
    have hempty : ((segments []).filter (!isIdle ·)).map Part.ofSegment = [] := by decide
    show (⟨(⟨b :: bs⟩ : Path).bytes ++ slash :: tail⟩ : Path).parts =
      (⟨(⟨b :: bs⟩ : Path).bytes ++ slash :: []⟩ : Path).parts ++ _
    rw [parts_slashed hne, parts_slashed hne, hempty, List.append_nil]

theorem parts_join_plain {base r : Path} (hr : r.start = .plain) :
    (base.join r).parts = base.parts ++ r.parts := by
  have hrel : ¬ r.isAbsolute = true := by
    intro ha
    rw [start, if_pos ha] at hr
    cases hr
  rw [join, if_neg hrel]
  by_cases hb : base.bytes = []
  · rw [hb, parts_empty hb]
    rfl
  · split
    · rename_i h
      obtain ⟨front, e⟩ : ∃ front, base.bytes = front ++ [slash] := by
        rw [Bool.or_eq_true, List.isEmpty_iff, decide_eq_true_eq] at h
        exact List.getLast?_eq_some_iff.mp (h.resolve_left hb)
      have hbase : base = ⟨front ++ [slash]⟩ := congrArg Path.mk e
      rw [hbase, parts_plain hr, ← parts_after_slash]
      show (⟨front ++ [slash] ++ r.bytes⟩ : Path).parts = _
      rw [List.append_assoc]
      rfl
    · rw [parts_slashed hb, parts_plain hr]

/-! ### seen from a base -/

theorem filter_segments_joined {ss : List Bytes} (hs : ∀ s ∈ ss, slash ∉ s) :
    (segments (joinSegments ss)).filter (!isIdle ·) = ss.filter (!isIdle ·) := by
  cases ss with
  | nil => rfl
  | cons s ss => rw [segments_joinSegments (List.cons_ne_nil s ss) hs]

/-- Idle pieces at the end make no difference to the parts. -/
theorem parts_build_trim (p : Path) : (build p.start (trimIdleEnd p.body)).parts = p.parts := by
  have hinitial := trimIdleEnd_initial p.body
  have hslash : ∀ s ∈ trimIdleEnd p.body, slash ∉ s := fun s hs =>
    slash_not_mem_body p s (hinitial.subset hs)
  have hparts : p.parts =
      p.start.parts ++ ((trimIdleEnd p.body).filter (!isIdle ·)).map Part.ofSegment := by
    rw [filter_trimIdleEnd]
    rfl
  rw [hparts]
  cases hs : p.start with
  | root =>
    show (⟨[] ++ slash :: joinSegments (trimIdleEnd p.body)⟩ : Path).parts = _
    rw [parts_after_slash, filter_segments_joined hslash]
    rfl
  | here =>
    cases h : trimIdleEnd p.body with
    | nil => rfl
    | cons s ss =>
      rw [h] at hslash
      show (⟨[dot] ++ slash :: joinSegments (s :: ss)⟩ : Path).parts = _
      rw [parts_after_slash, filter_segments_joined hslash]
      rfl
  | plain =>
    have hhead : ∀ s ∈ (trimIdleEnd p.body).head?, isIdle s = false := by
      intro s hm
      by_cases hb : p.bytes = []
      · have hnil : trimIdleEnd p.body = [] := by
          rw [body, hs, hb]
          rfl
        rw [hnil] at hm
        cases hm
      · obtain ⟨rest, e⟩ := hinitial
        obtain ⟨ss, es⟩ := List.head?_eq_some_iff.mp hm
        refine head_body_plain hs hb s ?_
        rw [← e, es]
        rfl
    exact parts_joined hslash hhead

/-- What is left of the pieces begins with one that names something. -/
theorem start_left (p : Path) (k : Nat) :
    (⟨joinSegments (trimIdleEnd (dropNames k p.body))⟩ : Path).start = .plain := by
  obtain ⟨hslash, hhead⟩ := pieces_left p k
  cases h : trimIdleEnd (dropNames k p.body) with
  | nil => rfl
  | cons s ss =>
    rw [h] at hslash hhead
    exact start_joined hslash (hhead s rfl)

section
variable {p base : Path}

theorem start_relativeTo (hb : base.bytes ≠ []) (h : base.parts <+: p.parts) :
    (p.relativeTo base).start = .plain := by
  have hbelow : p.isBelow base = true := List.isPrefixOf_iff_prefix.mpr h
  rw [relativeTo, if_pos hbelow]
  split
  · rename_i hzero
    exact absurd (List.length_eq_zero_iff.mp hzero) (parts_ne_nil hb)
  · dsimp only
    split
    · exact start_left p _
    · exact start_left p _

theorem relativeTo_empty (hb : base.bytes = []) :
    p.relativeTo base = build p.start (trimIdleEnd p.body) := by
  have hparts := parts_empty hb
  have hbelow : p.isBelow base = true := by
    rw [isBelow, hparts]
    rfl
  rw [relativeTo, if_pos hbelow, hparts]
  rfl

theorem parts_relativeTo (h : base.parts <+: p.parts) :
    p.parts = base.parts ++ (p.relativeTo base).parts := by
  by_cases hb : base.bytes = []
  · rw [relativeTo_empty hb, parts_build_trim, parts_empty hb]
    rfl
  · obtain ⟨ss, -, hp, hr⟩ := relativeTo_parts hb h
    rw [hr, hp]

theorem relativeTo_apart (h : ¬ base.parts <+: p.parts) : p.relativeTo base = p := by
  have hbelow : ¬ p.isBelow base = true := fun hb => h (List.isPrefixOf_iff_prefix.mp hb)
  rw [relativeTo, if_neg hbelow]

/-! ### there and back -/

theorem parts_join_relativeTo (h : base.parts <+: p.parts) :
    (base.join (p.relativeTo base)).parts = p.parts := by
  by_cases hb : base.bytes = []
  · rw [join_empty hb, relativeTo_empty hb, parts_build_trim]
  · rw [parts_join_plain (start_relativeTo hb h), ← parts_relativeTo h]

theorem start_of_names {r : Path} (hr : ∀ part ∈ r.parts, ∃ n, part = .name n) :
    r.start = .plain := by
  have hstart : ∀ part ∈ r.start.parts, ∃ n, part = .name n := fun part hm =>
    hr part (List.mem_append_left _ hm)
  cases hs : r.start with
  | plain => rfl
  | root =>
    rw [hs] at hstart
    obtain ⟨n, hn⟩ := hstart .root List.mem_cons_self
    cases hn
  | here =>
    rw [hs] at hstart
    obtain ⟨n, hn⟩ := hstart .here List.mem_cons_self
    cases hn

theorem parts_relativeTo_join {r : Path} (hr : r.start = .plain) :
    ((base.join r).relativeTo base).parts = r.parts := by
  have hjoin : (base.join r).parts = base.parts ++ r.parts := parts_join_plain hr
  have hbelow : base.parts <+: (base.join r).parts := ⟨r.parts, hjoin.symm⟩
  have hrel := parts_relativeTo hbelow
  rw [hjoin] at hrel
  exact (List.append_cancel_left hrel).symm

end

/-- A path that is absolute or below a base is the base with what is seen of it from there behind,
part by part, however it is spelled. Any path of names behind a base is seen from there with the
same parts. A path that is not below the base is left as it is. -/
theorem relativeTo_inverts (base : Path) :
    (∀ p : Path, p.isAbsolute = true ∨ base.parts <+: p.parts →
      (base.join (p.relativeTo base)).parts = p.parts) ∧
    (∀ r : Path, (∀ part ∈ r.parts, ∃ n, part = .name n) →
      ((base.join r).relativeTo base).parts = r.parts) ∧
    ∀ p : Path, ¬ base.parts <+: p.parts → p.relativeTo base = p := by
  refine ⟨?_, ?_, ?_⟩
  · intro p hp
    by_cases h : base.parts <+: p.parts
    · exact parts_join_relativeTo h
    · have habs := hp.resolve_right h
      rw [relativeTo_apart h, join, if_pos habs]
  · intro r hr
    exact parts_relativeTo_join (start_of_names hr)
  · intro p h
    exact relativeTo_apart h

/-- Doubled and trailing slashes, points, and a sibling whose name goes on where the base ends. -/
theorem relativeTo_inverts_spelled :
    let base : Path := .ofString "/repo/."
    let p : Path := .ofString "//repo/./a//b/./"
    let r : Path := .ofString "x//y/"
    base.parts <+: p.parts ∧ p.relativeTo base = .ofString "a//b" ∧
      (base.join (p.relativeTo base)).parts = p.parts ∧
      (base.join r).bytes = Text.utf8 "/repo/./x//y/" ∧
      ((base.join r).relativeTo base).parts = [.name [120], .name [121]] ∧
      (Path.ofString "/repo2").relativeTo base = .ofString "/repo2" := by
  intro base p r
  have hbelow : base.parts <+: p.parts := by decide
  have hnames : r.parts = [.name [120], .name [121]] := by decide
  have hname : ∀ part ∈ r.parts, ∃ n, part = .name n := by
    rw [hnames]
    simp
  have hapart : ¬ base.parts <+: (Path.ofString "/repo2").parts := by decide
  obtain ⟨hback, hseen, hleft⟩ := relativeTo_inverts base
  refine ⟨hbelow, by decide, hback p (.inr hbelow), by decide, ?_, hleft _ hapart⟩
  rw [hseen r hname, hnames]

end Path
end Dashboards
