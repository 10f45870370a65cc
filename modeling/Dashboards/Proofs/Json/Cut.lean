import Mathlib.Data.List.Forall2
import Dashboards.Proofs.Json.Scan

/-!
# Texts can be cut in one way only

A value in front of something that cannot continue it ends at one place only, an object has one list
of members, and a list one list of values.

* `IsValue.cut`        the place where a value ends;
* `IsString.cut`       the place where a string ends;
* `IsObject`           an object with the raw texts of its keys and values, in their order;
* `Cuts`               entries that are determined by the text between brackets;
* `IsObject.unique`    the raw texts of keys and values are determined by the text of the object;
* `IsList.unique`      and those of the values by the text of the list.
-/

namespace Dashboards
namespace Json

/-! ### values and strings -/

theorem Ends.of_append {x r : List Char} (h : Ends (x ++ r)) : Ends x := by
  intro c cs e
  subst e
  exact h c (cs ++ r) rfl

/-- A value that starts with another one and goes on with something else is that other one. -/
theorem IsValue.append_eq {v x : List Char} (hv : IsValue v) (hx : IsValue (v ++ x))
    (he : Ends x) : x = [] := by
  -- The walk over the longer value stops after the shorter one, so only blanks can be left.
  have h1 : scan .value [] (v ++ x) = scan .after [] x := hv.walks [] [] x .nil he
  have h2 : scan .value [] (v ++ x ++ []) = scan .after [] [] := hx.walks [] [] [] .nil .nil
  rw [List.append_nil, h1, scan_nil (show skip [] = [] from rfl)] at h2
  have hb : IsBlanks x := reads_of_scan h2
  obtain ⟨cs, c, e, hc⟩ := hx.last
  rcases List.eq_nil_or_concat x with rfl | ⟨ys, y, rfl⟩
  · rfl
  · rw [List.concat_eq_append, ← List.append_assoc] at e
    have hy : y = c := List.singleton_inj.mp (List.append_inj_right' e rfl)
    have hyb := (isBlank_iff y).mpr (hb y (by simp))
    rw [hy, hc] at hyb
    exact Bool.noConfusion hyb

theorem IsValue.cut {v v' r r' : List Char} (hv : IsValue v) (hv' : IsValue v') (hr : Ends r)
    (hr' : Ends r') (h : v ++ r = v' ++ r') : v = v' ∧ r = r' := by
  rcases List.append_eq_append_iff.mp h with ⟨x, rfl, rfl⟩ | ⟨x, rfl, rfl⟩
  · have hx := hv.append_eq hv' hr.of_append
    rw [hx, List.append_nil]
    exact ⟨rfl, rfl⟩
  · have hx := hv'.append_eq hv hr'.of_append
    rw [hx, List.append_nil]
    exact ⟨rfl, rfl⟩

theorem IsString.cut {k k' r r' : List Char} (hk : IsString k) (hk' : IsString k')
    (h : k ++ r = k' ++ r') : k = k' ∧ r = r' := by
  have e : r = r' := by
    obtain ⟨hs⟩ := hk
    obtain ⟨hs'⟩ := hk'
    simp only [List.cons_append, List.append_assoc, List.nil_append, List.cons.injEq, true_and] at h
    have h1 := str_append hs r
    rw [h, str_append hs' r'] at h1
    exact (Except.ok.inj h1).symm
  subst e
  exact ⟨List.append_cancel_right h, rfl⟩

/-- Blanks in front of something else end where that begins. -/
theorem IsBlanks.cut {w w' r r' : List Char} (hw : IsBlanks w) (hw' : IsBlanks w')
    (hr : skip r = r) (hr' : skip r' = r') (h : w ++ r = w' ++ r') : r = r' := by
  have h1 := skip_append hw r
  rw [h, skip_append hw', hr, hr'] at h1
  exact h1.symm

theorem IsString.skip_append {k : List Char} (h : IsString k) (r : List Char) :
    skip (k ++ r) = k ++ r := by
  obtain ⟨cs, rfl⟩ := h.head
  exact skip_of_not_blank rfl _

/-! ### members -/

theorem IsKey.parts {k h : List Char} (hk : IsKey k h) : ∃ w w' w'', IsBlanks w ∧ IsString k ∧
    IsBlanks w' ∧ IsBlanks w'' ∧ h = w ++ (k ++ (w' ++ ':' :: w'')) := by
  obtain ⟨hw, hk, hw', hw''⟩ := hk
  exact ⟨_, _, _, hw, hk, hw', hw'', rfl⟩

theorem IsKey.cut {k k' h h' r r' : List Char} (hk : IsKey k h) (hk' : IsKey k' h')
    (hr : skip r = r) (hr' : skip r' = r') (e : h ++ r = h' ++ r') : k = k' ∧ r = r' := by
  obtain ⟨w1, w2, w3, hw1, hs, hw2, hw3, rfl⟩ := hk.parts
  obtain ⟨w1', w2', w3', hw1', hs', hw2', hw3', rfl⟩ := hk'.parts
  simp only [List.append_assoc, List.cons_append] at e
  have e1 := hw1.cut hw1' (hs.skip_append _) (hs'.skip_append _) e
  obtain ⟨rfl, e2⟩ := hs.cut hs' e1
  have e3 := hw2.cut hw2' (skip_of_not_blank rfl _) (skip_of_not_blank rfl _) e2
  exact ⟨rfl, hw3.cut hw3' hr hr' (List.cons.inj e3).2⟩

/-! ### entries -/

/-- What ends a bracketed value, or separates two of its entries. -/
def Delimits (b : Bracket) (r : List Char) : Prop :=
  ∃ c cs, r = c :: cs ∧ (c = ',' ∨ c = b.closing)

section
variable {b : Bracket} {r r' : List Char}

theorem Delimits.following (b : Bracket) (ps : List Piece) (r : List Char) :
    Delimits b (following ps ++ b.closing :: r) := by
  cases ps with
  | nil => exact ⟨b.closing, r, rfl, .inr rfl⟩
  | cons p ps => exact ⟨',', _, rfl, .inl rfl⟩

theorem Delimits.ends (h : Delimits b r) : Ends r := by
  obtain ⟨c, cs, rfl, hc⟩ := h
  rcases hc with rfl | rfl
  · exact ends_of_ne rfl (by decide) cs
  · cases b <;> exact ends_of_ne rfl (by decide) cs

theorem skip_closing (b : Bracket) (cs : List Char) : skip (b.closing :: cs) = b.closing :: cs := by
  cases b <;> exact skip_of_not_blank rfl cs

theorem Delimits.skip (h : Delimits b r) : skip r = r := by
  obtain ⟨c, cs, rfl, hc⟩ := h
  rcases hc with rfl | rfl
  · exact skip_of_not_blank rfl cs
  · exact skip_closing b cs

/-- Behind what stands in front of it an entry is its value up to the next delimiter. -/
theorem Delimits.cut {p p' : Piece} (hv : IsValue p.value) (hv' : IsValue p'.value)
    (ha : IsBlanks p.after) (ha' : IsBlanks p'.after) (hr : Delimits b r) (hr' : Delimits b r')
    (e : p.value ++ (p.after ++ r) = p'.value ++ (p'.after ++ r')) :
    p.value = p'.value ∧ r = r' := by
  obtain ⟨hvalue, e⟩ := hv.cut hv' (ends_blanks ha hr.ends) (ends_blanks ha' hr'.ends) e
  exact ⟨hvalue, ha.cut ha' hr.skip hr'.skip e⟩

end

theorem holds_piece {μ : Type} {R : μ → Piece → Prop} {ms : List μ} {ps : List Piece}
    (h : List.Forall₂ R ms ps) : ∀ p ∈ ps, ∃ m, R m p := by
  induction h with
  | nil =>
    intro p hp
    cases hp
  | cons h _ ih =>
    intro p hp
    rcases List.mem_cons.mp hp with rfl | hp
    · exact ⟨_, h⟩
    · exact ih p hp

/-- Entries that are cut off in one way only, each with what it holds, and that are no blanks. -/
structure Cuts (b : Bracket) {μ : Type} (R : μ → Piece → Prop) : Prop where
  cut : ∀ {m m' : μ} {p p' : Piece} {r r' : List Char}, R m p → R m' p' → Delimits b r →
    Delimits b r' → p.text ++ r = p'.text ++ r' → m = m' ∧ r = r'
  ne_blanks : ∀ {m : μ} {p : Piece} {w : List Char} (r : List Char), R m p → IsBlanks w →
    w ++ [b.closing] ≠ p.text ++ r

section
variable {b : Bracket} {μ : Type} {R : μ → Piece → Prop} {ms ms' : List μ} {ps ps' : List Piece}

theorem Cuts.following_unique (hR : Cuts b R) (h : List.Forall₂ R ms ps)
    (h' : List.Forall₂ R ms' ps')
    (e : following ps ++ [b.closing] = following ps' ++ [b.closing]) : ms = ms' := by
  have hne : ',' ≠ b.closing := by cases b <;> decide
  induction h generalizing ms' ps' with
  | nil =>
    cases h' with
    | nil => rfl
    | cons _ _ => exact absurd (List.cons.inj e).1.symm hne
  | @cons m p ms ps hm h ih =>
    cases h' with
    | nil => exact absurd (List.cons.inj e).1 hne
    | cons hm' h' =>
      simp only [following_cons, List.cons_append, List.append_assoc, List.cons.injEq,
        true_and] at e
      obtain ⟨rfl, e⟩ := hR.cut hm hm' (.following b _ _) (.following b _ _) e
      rw [ih h' e]

theorem Cuts.inside_unique (hR : Cuts b R) (hne : ps ≠ []) (hne' : ps' ≠ [])
    (h : List.Forall₂ R ms ps) (h' : List.Forall₂ R ms' ps')
    (e : inside ps ++ [b.closing] = inside ps' ++ [b.closing]) : ms = ms' := by
  cases h with
  | nil => exact absurd rfl hne
  | cons hm h =>
    cases h' with
    | nil => exact absurd rfl hne'
    | cons hm' h' =>
      rw [inside_cons, inside_cons, List.append_assoc, List.append_assoc] at e
      obtain ⟨rfl, e⟩ := hR.cut hm hm' (.following b _ _) (.following b _ _) e
      rw [hR.following_unique h h' e]

theorem Cuts.inside_ne (hR : Cuts b R) (hne : ps ≠ []) (h : List.Forall₂ R ms ps) {w : List Char}
    (hw : IsBlanks w) : w ++ [b.closing] ≠ inside ps ++ [b.closing] := by
  cases h with
  | nil => exact absurd rfl hne
  | cons hm h =>
    rw [inside_cons, List.append_assoc]
    exact hR.ne_blanks _ hm hw

end

/-! ### objects -/

/-- A member with the raw texts of its key and its value. -/
def IsMember (m : List Char × List Char) (p : Piece) : Prop :=
  IsKey m.1 p.head ∧ p.value = m.2 ∧ IsValue p.value ∧ IsBlanks p.after

/-- `object`, with the raw texts of the keys and values of its members in their order -/
inductive IsObject : List (List Char × List Char) → List Char → Prop
  | empty {w : List Char} (h : IsBlanks w) : IsObject [] ('\x7b' :: w ++ ['\x7d'])
  | members {ms : List (List Char × List Char)} {ps : List Piece} (hne : ps ≠ [])
      (h : List.Forall₂ IsMember ms ps) : IsObject ms ('\x7b' :: inside ps ++ ['\x7d'])

theorem cuts_member : Cuts .object IsMember where
  cut := by
    rintro m m' p p' r r' ⟨hk, hm, hv, ha⟩ ⟨hk', hm', hv', ha'⟩ hr hr' e
    simp only [Piece.text, List.append_assoc] at e
    obtain ⟨hkey, e⟩ := hk.cut hk' (hv.skip_eq _) (hv'.skip_eq _) e
    obtain ⟨hvalue, e⟩ := Delimits.cut hv hv' ha ha' hr hr' e
    exact ⟨Prod.ext hkey (hm ▸ hm' ▸ hvalue), e⟩
  ne_blanks := by
    intro m p w r hm hw e
    obtain ⟨w1, w2, w3, hw1, hs, _, _, eh⟩ := hm.1.parts
    rw [Piece.text, eh] at e
    simp only [List.append_assoc] at e
    have e1 := hw.cut hw1 (skip_closing .object []) (hs.skip_append _) e
    obtain ⟨cs, eq⟩ := hs.head
    rw [eq] at e1
    exact absurd (List.cons.inj e1).1 (by decide)

theorem IsObject.unique {ms ms' : List (List Char × List Char)} {cs : List Char}
    (h : IsObject ms cs) (h' : IsObject ms' cs) : ms = ms' := by
  obtain ⟨ds, e, ho⟩ : ∃ ds, cs = ds ∧ IsObject ms' ds := ⟨cs, rfl, h'⟩
  cases h with
  | empty hw =>
    cases ho with
    | empty _ => rfl
    | members hne hm => exact absurd (List.cons.inj e).2 (cuts_member.inside_ne hne hm hw)
  | members hne hm =>
    cases ho with
    | empty hw => exact absurd (List.cons.inj e).2.symm (cuts_member.inside_ne hne hm hw)
    | members hne' hm' => exact cuts_member.inside_unique hne hne' hm hm' (List.cons.inj e).2

theorem IsObject.isValue {ms : List (List Char × List Char)} {cs : List Char}
    (h : IsObject ms cs) : IsValue cs := by
  cases h with
  | empty h => exact IsValue.empty .object h
  | members hne h =>
    have hm := holds_piece h
    refine IsValue.entries .object hne (fun p hp => ?_) (fun p hp => ?_) (fun p hp => ?_)
    · obtain ⟨m, hk, _⟩ := hm p hp
      exact ⟨m.1, hk⟩
    · obtain ⟨m, _, _, hv, _⟩ := hm p hp
      exact hv
    · obtain ⟨m, _, _, _, ha⟩ := hm p hp
      exact ha

/-! ### lists -/

/-- An entry of a list with the raw text of its value. -/
def IsItem (v : List Char) (p : Piece) : Prop :=
  IsBlanks p.head ∧ p.value = v ∧ IsValue p.value ∧ IsBlanks p.after

/-- `array`, with the raw texts of its values in their order -/
inductive IsList : List (List Char) → List Char → Prop
  | empty {w : List Char} (h : IsBlanks w) : IsList [] ('[' :: w ++ [']'])
  | items {vs : List (List Char)} {ps : List Piece} (hne : ps ≠ [])
      (h : List.Forall₂ IsItem vs ps) : IsList vs ('[' :: inside ps ++ [']'])

theorem cuts_item : Cuts .list IsItem where
  cut := by
    rintro v v' p p' r r' ⟨hh, hm, hv, ha⟩ ⟨hh', hm', hv', ha'⟩ hr hr' e
    simp only [Piece.text, List.append_assoc] at e
    have e := hh.cut hh' (hv.skip_eq _) (hv'.skip_eq _) e
    obtain ⟨hvalue, e⟩ := Delimits.cut hv hv' ha ha' hr hr' e
    exact ⟨hm ▸ hm' ▸ hvalue, e⟩
  ne_blanks := by
    rintro v p w r ⟨hh, _, hv, _⟩ hw e
    rw [Piece.text, List.append_assoc, List.append_assoc] at e
    have e1 := hw.cut hh (skip_closing .list []) (hv.skip_eq _) e
    obtain ⟨c, cs, eq, hc⟩ := hv.head
    rw [eq] at e1
    exact absurd (List.cons.inj e1).1 (hc.ne_closing .list).symm

theorem IsList.unique {vs vs' : List (List Char)} {cs : List Char} (h : IsList vs cs)
    (h' : IsList vs' cs) : vs = vs' := by
  obtain ⟨ds, e, hl⟩ : ∃ ds, cs = ds ∧ IsList vs' ds := ⟨cs, rfl, h'⟩
  cases h with
  | empty hw =>
    cases hl with
    | empty _ => rfl
    | items hne hm => exact absurd (List.cons.inj e).2 (cuts_item.inside_ne hne hm hw)
  | items hne hm =>
    cases hl with
    | empty hw => exact absurd (List.cons.inj e).2.symm (cuts_item.inside_ne hne hm hw)
    | items hne' hm' => exact cuts_item.inside_unique hne hne' hm hm' (List.cons.inj e).2

theorem IsList.isValue {vs : List (List Char)} {cs : List Char} (h : IsList vs cs) :
    IsValue cs := by
  cases h with
  | empty h => exact IsValue.empty .list h
  | items hne h =>
    have hm := holds_piece h
    refine IsValue.entries .list hne (fun p hp => ?_) (fun p hp => ?_) (fun p hp => ?_)
    · obtain ⟨v, hh, _⟩ := hm p hp
      exact hh
    · obtain ⟨v, _, _, hv, _⟩ := hm p hp
      exact hv
    · obtain ⟨v, _, _, _, ha⟩ := hm p hp
      exact ha

end Json
end Dashboards
