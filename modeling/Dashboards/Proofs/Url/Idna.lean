import Mathlib.Data.Bool.AllAny
import Dashboards.Proofs.Url.Idna.Plain
import Dashboards.Proofs.Url.Pieces
import Dashboards.Proofs.Url.Punycode

/-!
# Domain names in ASCII are in their final form

* `Written`                what a label is written as: itself, or a code behind `xn--`;
* `toAscii?_eq_some_iff`   the steps on the way to a name;
* `toAscii?_again`, `readable_of_again`   the name that they lead to is not changed by them, just
                           when its codes can be read;
* `toAscii?_plain`         nor is a name that has no codes and no capital letters.
-/

namespace Dashboards
namespace Url
namespace Idna

/-! ### names and their labels -/

theorem mapAll?_self {cs : List Char} (h : ∀ c ∈ cs, mapped? c = some [c]) :
    mapAll? cs = some cs := by
  have hm : cs.mapM mapped? = some (cs.map ([·])) := by
    rw [mapM_eq_some_iff, List.forall₂_map_right_iff]
    exact List.forall₂_same.mpr h
  rw [mapAll?, hm, Option.map_some, ← List.flatMap_def, List.flatMap_singleton' cs]

theorem isAscii_iff {cs : List Char} : isAscii cs = true ↔ ∀ c ∈ cs, c.toNat < 128 := by
  rw [isAscii, List.all_eq_true]
  simp only [decide_eq_true_eq]

theorem normal_ascii {cs : List Char} (h : ∀ c ∈ cs, c.toNat < 128) : normal cs = cs := by
  rw [normal, if_pos]
  exact List.all_eq_true.mpr fun c hc => decide_eq_true (Nat.lt_of_lt_of_le (h c hc) (by decide))

theorem joinLabels_cons (l : List Char) {ls : List (List Char)} (h : ls ≠ []) :
    joinLabels (l :: ls) = l ++ '.' :: joinLabels ls := by
  cases ls with
  | nil => exact absurd rfl h
  | cons m ls => rfl

theorem splitAt_joinLabels {ls : List (List Char)} (hne : ls ≠ [])
    (h : ∀ l ∈ ls, ∀ c ∈ l, c ≠ '.') : splitAt (· = '.') (joinLabels ls) = ls := by
  induction ls with
  | nil => exact absurd rfl hne
  | cons l ls ih =>
    obtain ⟨hl, h⟩ := List.forall_mem_cons.mp h
    have hl : ∀ c ∈ l, decide (c = '.') = false := fun c hc => decide_eq_false (hl c hc)
    cases ls with
    | nil => exact splitAt_none hl
    | cons m ls =>
      rw [joinLabels_cons l (List.cons_ne_nil m ls), splitAt_append hl (by decide),
        ih (List.cons_ne_nil m ls) h]

theorem joinLabels_splitAt (cs : List Char) : joinLabels (splitAt (· = '.') cs) = cs := by
  induction cs with
  | nil => rfl
  | cons c cs ih =>
    rw [splitAt]
    split
    · rename_i hc
      rw [joinLabels_cons [] (splitAt_ne_nil _ cs), ih, of_decide_eq_true hc, List.nil_append]
    · split
      · rename_i hnil
        exact absurd hnil (splitAt_ne_nil _ cs)
      · rename_i w ws hw
        rw [hw] at ih
        cases ws with
        | nil => exact congrArg (c :: ·) ih
        | cons v vs => exact congrArg (c :: ·) ih

theorem mem_joinLabels {ls : List (List Char)} {c : Char} (h : c ∈ joinLabels ls) :
    c = '.' ∨ ∃ l ∈ ls, c ∈ l := by
  induction ls with
  | nil => cases h
  | cons l ls ih =>
    cases ls with
    | nil => exact .inr ⟨l, List.mem_cons_self, h⟩
    | cons m ls =>
      rw [joinLabels_cons l (List.cons_ne_nil m ls)] at h
      rcases List.mem_append.mp h with h | h
      · exact .inr ⟨l, List.mem_cons_self, h⟩
      · rcases List.mem_cons.mp h with h | h
        · exact .inl h
        · rcases ih h with h | ⟨k, hk, h⟩
          · exact .inl h
          · exact .inr ⟨k, List.mem_cons_of_mem _ hk, h⟩

/-! ### how a label is written -/

/-- What stands before a code. -/
def sign : List Char := "xn--".toList

theorem expand?_plain {w : List Char} (h : ¬ sign <+: w) :
    expand? w = if labelOk w then some w else none := by
  rw [expand?]
  intro code hcode
  exact h ⟨code, hcode.symm⟩

theorem expand?_code {code l : List Char} (h : expand? (sign ++ code) = some l) :
    Punycode.decode? code = some l ∧ isAscii l = false ∧ labelOk l = true := by
  change expand? ('x' :: 'n' :: '-' :: '-' :: code) = some l at h
  rw [expand?] at h
  split at h
  · cases h
  · split at h
    · cases h
    · rename_i cs hcs
      split at h
      · rename_i hok
        obtain rfl := Option.some.inj h
        simp only [Bool.and_eq_true, Bool.not_eq_true', decide_eq_true_eq] at hok
        exact ⟨hcs, hok.1.1, hok.2⟩
      · cases h

inductive Written (l : List Char) : List Char → Prop where
  | plain (ascii : isAscii l = true) (ok : labelOk l = true) (unsigned : ¬ sign <+: l) : Written l l
  | code (ascii : isAscii l = false) (ok : labelOk l = true) : Written l (sign ++ Punycode.encode l)

section
variable {w l a : List Char}

theorem labelOk_of_expand? (h : expand? w = some l) : labelOk l = true := by
  by_cases hw : sign <+: w
  · obtain ⟨code, rfl⟩ := hw
    exact (expand?_code h).2.2
  · rw [expand?_plain hw] at h
    split at h
    · rename_i hok
      exact Option.some.inj h ▸ hok
    · cases h

/-- What a label stands for has the same characters of ASCII. -/
theorem mem_of_expand? (h : expand? w = some l) : ∀ c ∈ l, c.toNat < 128 → c ∈ w := by
  by_cases hw : sign <+: w
  · obtain ⟨code, rfl⟩ := hw
    exact fun c hc hascii =>
      List.mem_append_right _ (Punycode.mem_decode (expand?_code h).1 c hc hascii)
  · rw [expand?_plain hw] at h
    split at h
    · exact fun c hc _ => Option.some.inj h ▸ hc
    · cases h

theorem written_of_expand? (h : expand? w = some l) (ha : contract? l = some a) : Written l a := by
  have hok := labelOk_of_expand? h
  rw [contract?] at ha
  split at ha
  · rename_i hascii
    obtain rfl := Option.some.inj ha
    refine .plain hascii hok ?_
    rintro ⟨code, hcode⟩
    by_cases hw : sign <+: w
    · obtain ⟨code', rfl⟩ := hw
      rw [(expand?_code h).2.1] at hascii
      cases hascii
    · rw [expand?_plain hw] at h
      split at h
      · exact hw ⟨code, hcode.trans (Option.some.inj h).symm⟩
      · cases h
  · rename_i hascii
    split at ha
    · cases ha
    · exact Option.some.inj ha ▸ .code (Bool.eq_false_iff.mpr hascii) hok

/-- A label is read from what it is written as, unless that is too long. -/
theorem Written.expand? (h : Written l a) (hread : sign <+: a → (expand? a).isSome) :
    Idna.expand? a = some l := by
  cases h with
  | plain ascii ok unsigned => rw [expand?_plain unsigned, if_pos ok]
  | code ascii ok =>
    obtain ⟨l', hl'⟩ := Option.isSome_iff_exists.mp (hread (List.prefix_append _ _))
    have := (expand?_code hl').1
    rw [Punycode.decode?_encode] at this
    rw [hl', this]

theorem plain_sign : ∀ c ∈ sign, Plain c := List.all_iff_forall_prop.mp (by decide)

theorem plain_digitChar : ∀ d < 36, Plain (Punycode.digitChar d) := by decide

/-- The characters of a written label: they are of ASCII and stand for themselves. -/
theorem Written.mapped? (h : Written l a) : ∀ c ∈ a, c.toNat < 128 ∧ mapped? c = some [c] := by
  have hvalid : ∀ ok : labelOk l = true, ∀ c ∈ l, Idna.mapped? c = some [c] := by
    intro ok c hc
    rw [labelOk, Bool.and_eq_true, Bool.and_eq_true] at ok
    exact isValid_iff.mp (List.all_eq_true.mp ok.1.1 c hc)
  have hplain : ∀ {c}, Plain c → c.toNat < 128 ∧ Idna.mapped? c = some [c] :=
    fun h => ⟨h.ascii, mapped?_plain h⟩
  cases h with
  | plain ascii ok => exact fun c hc => ⟨isAscii_iff.mp ascii c hc, hvalid ok c hc⟩
  | code ascii ok =>
    intro c hc
    rcases List.mem_append.mp hc with hc | hc
    · exact hplain (plain_sign c hc)
    · rcases Punycode.mem_encode hc with ⟨hc, hascii⟩ | rfl | ⟨d, hd, rfl⟩
      · exact ⟨hascii, hvalid ok c hc⟩
      · exact hplain (by decide)
      · exact hplain (plain_digitChar d hd)

theorem digitChar_ne_point : ∀ d < 36, Punycode.digitChar d ≠ '.' := by decide

theorem Written.no_point (h : Written l a) (hl : ∀ c ∈ l, c ≠ '.') : ∀ c ∈ a, c ≠ '.' := by
  cases h with
  | plain => exact hl
  | code =>
    intro c hc
    rcases List.mem_append.mp hc with hc | hc
    · rintro rfl
      exact absurd hc (by decide)
    · rcases Punycode.mem_encode hc with ⟨hc, -⟩ | rfl | ⟨d, hd, rfl⟩
      · exact hl c hc
      · decide
      · exact digitChar_ne_point d hd

end

/-! ### the whole name -/

/-- The steps from a text to a name in ASCII. -/
structure Steps (d cs : List Char) (labels as : List (List Char)) (a : List Char) : Prop where
  mapped : mapAll? d = some cs
  expanded : (splitAt (· = '.') (normal cs)).mapM expand? = some labels
  direction : (labels.any (·.any runsRightToLeft) && !labels.all directionOk) = false
  contracted : labels.mapM contract? = some as
  allowed : (joinLabels as).any isForbidden = false
  joined : joinLabels as = a

theorem toAscii?_eq_some_iff {d a : List Char} :
    toAscii? d = some a ↔ ∃ cs labels as, Steps d cs labels as a := by
  simp only [toAscii?, Option.bind_eq_bind, Option.bind_eq_some_iff]
  constructor
  · rintro ⟨cs, hcs, labels, hlabels, h⟩
    split at h
    · cases h
    · rename_i hdirection
      obtain ⟨as, has, h⟩ := Option.bind_eq_some_iff.mp h
      split at h
      · cases h
      · rename_i hallowed
        exact ⟨cs, labels, as, hcs, hlabels, Bool.eq_false_iff.mpr hdirection, has,
          Bool.eq_false_iff.mpr hallowed, Option.some.inj h⟩
  · rintro ⟨cs, labels, as, h⟩
    refine ⟨cs, h.mapped, labels, h.expanded, ?_⟩
    rw [if_neg (by rw [h.direction]; exact Bool.false_ne_true), h.contracted, Option.bind_some,
      if_neg (by rw [h.allowed]; exact Bool.false_ne_true), h.joined]

/-- The labels and what they are written as. -/
theorem written_labels {ws labels as : List (List Char)} (hws : ∀ w ∈ ws, ∀ c ∈ w, c ≠ '.')
    (hexpand : List.Forall₂ (fun w l => expand? w = some l) ws labels)
    (hcontract : List.Forall₂ (fun l a => contract? l = some a) labels as) :
    List.Forall₂ (fun l a => Written l a ∧ ∀ c ∈ a, c ≠ '.') labels as := by
  induction hexpand generalizing as with
  | nil =>
    cases hcontract
    exact .nil
  | cons hl _ ih =>
    cases hcontract with
    | cons ha hcontract =>
      obtain ⟨hw, hws⟩ := List.forall_mem_cons.mp hws
      have hwritten := written_of_expand? hl ha
      refine .cons ⟨hwritten, hwritten.no_point fun c hc e => ?_⟩ (ih hws hcontract)
      exact hw c (mem_of_expand? hl c hc (by rw [e]; decide)) e

section
variable {d cs a : List Char} {labels as : List (List Char)}

theorem Steps.written (h : Steps d cs labels as a) :
    List.Forall₂ (fun l a => Written l a ∧ ∀ c ∈ a, c ≠ '.') labels as := by
  refine written_labels (fun w hw c hc => ?_) (mapM_eq_some_iff.mp h.expanded)
    (mapM_eq_some_iff.mp h.contracted)
  exact of_decide_eq_false (not_sep_of_mem_splitAt w hw c hc)

theorem Steps.as_ne_nil (h : Steps d cs labels as a) : as ≠ [] := by
  have h1 := (mapM_eq_some_iff.mp h.expanded).length_eq
  have h2 := (mapM_eq_some_iff.mp h.contracted).length_eq
  have h3 := splitAt_ne_nil (· = '.') (normal cs)
  rw [← List.length_pos_iff] at h3 ⊢
  omega

theorem Steps.splitAt_eq (h : Steps d cs labels as a) : splitAt (· = '.') a = as := by
  rw [← h.joined]
  refine splitAt_joinLabels h.as_ne_nil fun b hb => ?_
  obtain ⟨l, -, hl⟩ := exists_of_mem_forall₂ h.written b hb
  exact hl.2

theorem Steps.mapped? (h : Steps d cs labels as a) :
    ∀ c ∈ a, c.toNat < 128 ∧ Idna.mapped? c = some [c] := by
  intro c hc
  rw [← h.joined] at hc
  rcases mem_joinLabels hc with rfl | ⟨b, hb, hc⟩
  · exact ⟨by decide, mapped?_plain (by decide)⟩
  · obtain ⟨l, -, hl⟩ := exists_of_mem_forall₂ h.written b hb
    exact hl.1.mapped? c hc

end

theorem ascii_of_toAscii? {d a : List Char} (h : toAscii? d = some a) :
    ∀ c ∈ a, c.toNat < 128 ∧ isForbidden c = false := by
  obtain ⟨cs, labels, as, h⟩ := toAscii?_eq_some_iff.mp h
  have hallowed := h.allowed
  rw [h.joined, List.any_eq_false] at hallowed
  exact fun c hc => ⟨(h.mapped? c hc).1, Bool.eq_false_iff.mpr (hallowed c hc)⟩

/-- The codes of a name can be read. -/
def Readable (name : List Char) : Prop :=
  ∀ w ∈ splitAt (· = '.') name, sign <+: w → (expand? w).isSome

/-- A name in ASCII is not changed again. -/
theorem toAscii?_again {d a : List Char} (h : toAscii? d = some a) (hread : Readable a) :
    toAscii? a = some a := by
  obtain ⟨cs, labels, as, h⟩ := toAscii?_eq_some_iff.mp h
  rw [Readable, h.splitAt_eq] at hread
  have hmapped := h.mapped?
  have hexpanded : List.Forall₂ (fun w l => expand? w = some l) as labels := by
    refine List.Forall₂.imp ?_ ((List.forall₂_and_left as labels).mpr ⟨hread, h.written.flip⟩)
    exact fun w l ⟨hr, hl, _⟩ => hl.expand? hr
  refine toAscii?_eq_some_iff.mpr ⟨a, labels, as, ?_⟩
  refine ⟨?_, ?_, h.direction, h.contracted, h.allowed, h.joined⟩
  · exact mapAll?_self fun c hc => (hmapped c hc).2
  · rw [normal_ascii fun c hc => (hmapped c hc).1, h.splitAt_eq]
    exact mapM_eq_some_iff.mpr hexpanded

/-- It has to be readable for that. -/
theorem readable_of_again {d a b : List Char} (h : toAscii? d = some a) (h' : toAscii? a = some b) :
    Readable a := by
  obtain ⟨_, _, _, h⟩ := toAscii?_eq_some_iff.mp h
  obtain ⟨cs, labels, as, h'⟩ := toAscii?_eq_some_iff.mp h'
  have hcs : cs = a :=
    Option.some.inj (h'.mapped.symm.trans (mapAll?_self fun c hc => (h.mapped? c hc).2))
  have hexpanded := h'.expanded
  rw [hcs, normal_ascii fun c hc => (h.mapped? c hc).1] at hexpanded
  intro w hw _
  obtain ⟨l, -, hl⟩ := exists_of_mem_forall₂ (mapM_eq_some_iff.mp hexpanded).flip w hw
  exact Option.isSome_iff_exists.mpr ⟨l, hl⟩

theorem readable_of_no_sign {name : List Char} (h : 'x' ∉ name) : Readable name :=
  fun w hw hsign => absurd (mem_of_mem_splitAt w hw 'x' (hsign.subset (by decide))) h

/-- Nor is a name without codes and capital letters. -/
theorem toAscii?_plain {d : List Char} (h : ∀ c ∈ d, Plain c) (hf : d.any isForbidden = false)
    (hw : ∀ w ∈ splitAt (· = '.') d, ¬ sign <+: w) : toAscii? d = some d := by
  have hplain : ∀ w ∈ splitAt (· = '.') d, ∀ c ∈ w, Plain c :=
    fun w hw c hc => h c (mem_of_mem_splitAt w hw c hc)
  have hascii : ∀ w ∈ splitAt (· = '.') d, isAscii w = true :=
    fun w hw => isAscii_iff.mpr fun c hc => (hplain w hw c hc).ascii
  refine toAscii?_eq_some_iff.mpr ⟨d, splitAt (· = '.') d, splitAt (· = '.') d, ?_⟩
  refine ⟨?_, ?_, ?_, ?_, ?_, ?_⟩
  · exact mapAll?_self fun c hc => mapped?_plain (h c hc)
  · rw [normal_ascii fun c hc => (h c hc).ascii, mapM_eq_some_iff, List.forall₂_same]
    intro w hmem
    rw [expand?_plain (hw w hmem), if_pos (labelOk_plain (hplain w hmem))]
  · rw [Bool.and_eq_false_iff, List.any_eq_false]
    refine .inl fun w hmem => ?_
    rw [List.any_eq_true]
    rintro ⟨c, hc, hright⟩
    rw [runsRightToLeft_ascii (hplain w hmem c hc).ascii] at hright
    cases hright
  · rw [mapM_eq_some_iff, List.forall₂_same]
    intro w hmem
    rw [contract?, if_pos (hascii w hmem)]
  · rw [joinLabels_splitAt, hf]
  · exact joinLabels_splitAt d

end Idna
end Url
end Dashboards
