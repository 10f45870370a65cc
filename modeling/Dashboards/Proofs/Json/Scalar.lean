import Dashboards.Json.Grammar

/-!
# Reading the parts of JSON texts

Each reader takes exactly one part of the grammar off the front of a text. For every reader there
are two statements, in this order: a part that the grammar derives is read whole
(`skip_append`, `str_append`, `unsigned_append`, `scalar_append`, `key_append`), and what has been
read is such a part (`skip_sound`, `str_sound`, `unsigned_sound`, `scalar_sound`, `key_sound`).

A number has no closing character: it is read whole only if what follows cannot continue it
(`Ends`).
-/

namespace Dashboards
namespace Json

/-! ### blanks -/

theorem skip_append {w : List Char} (hw : IsBlanks w) (r : List Char) : skip (w ++ r) = skip r := by
  induction w with
  | nil => rfl
  | cons c w ih =>
    have hc : isBlank c = true := (isBlank_iff c).mpr (hw c List.mem_cons_self)
    have ih' := ih (fun d hd => hw d (List.mem_cons_of_mem c hd))
    rw [List.cons_append, skip, List.dropWhile_cons_of_pos hc]
    exact ih'

theorem skip_of_not_blank {c : Char} (hc : isBlank c = false) (cs : List Char) :
    skip (c :: cs) = c :: cs := by
  rw [skip, List.dropWhile_cons_of_neg (by simp [hc])]

theorem IsValue.skip_eq {v : List Char} (h : IsValue v) (r : List Char) :
    skip (v ++ r) = v ++ r := by
  obtain ⟨c, cs, rfl, hc⟩ := h.head
  exact skip_of_not_blank hc.not_blank _

theorem skip_sound (cs : List Char) : ∃ w, IsBlanks w ∧ cs = w ++ skip cs := by
  refine ⟨cs.takeWhile isBlank, fun c hc => ?_, List.takeWhile_append_dropWhile.symm⟩
  exact (isBlank_iff c).mp (List.all_eq_true.mp List.all_takeWhile c hc)

theorem skip_head {cs r : List Char} {c : Char} (h : skip cs = c :: r) : isBlank c = false := by
  have hstop := List.head?_dropWhile_not isBlank cs
  rw [show cs.dropWhile isBlank = c :: r from h] at hstop
  exact hstop

/-- A text without anything but blanks. -/
theorem skip_eq_nil {cs : List Char} (h : skip cs = []) : IsBlanks cs := by
  obtain ⟨w, hw, e⟩ := skip_sound cs
  rw [h, List.append_nil] at e
  exact e ▸ hw

/-! ### strings -/

theorem str_plain {c : Char} (hn : 0x20 ≤ c.toNat) (hq : c ≠ '"') (hb : c ≠ '\\')
    (cs : List Char) : str (c :: cs) = str cs := by
  rw [str]
  · rw [if_neg (by omega)]
  · exact fun h => hq h
  · exact fun _ h _ => hb h
  · exact fun h _ => hb h
  · exact fun _ _ h _ => hb h

theorem str_escape {c : Char} (hc : c ∈ escapable) (cs : List Char) :
    str ('\\' :: c :: cs) = str cs := by
  have hu : c ≠ 'u' := by
    rintro rfl
    exact absurd hc (by decide)
  rw [str]
  · rw [if_pos]
    simpa [escapable, or_assoc] using hc
  · exact fun h => hu h

theorem str_number {a b c d : Char} (ha : IsHexDigit a) (hb : IsHexDigit b) (hc : IsHexDigit c)
    (hd : IsHexDigit d) (cs : List Char) :
    str ('\\' :: 'u' :: a :: b :: c :: d :: cs) = str cs := by
  rw [str, if_pos]
  simp only [(isHex_iff _).mpr ha, (isHex_iff _).mpr hb, (isHex_iff _).mpr hc,
    (isHex_iff _).mpr hd, Bool.and_self]

theorem str_append {s : List Char} (h : IsStringBody s) (r : List Char) :
    str (s ++ '"' :: r) = .ok r := by
  induction h with
  | nil => rfl
  | plain hn hq hb _ ih => rw [List.cons_append, str_plain hn hq hb, ih]
  | escape hc _ ih => rw [List.cons_append, List.cons_append, str_escape hc, ih]
  | number ha hb hc hd _ ih => simp only [List.cons_append]; rw [str_number ha hb hc hd, ih]

theorem str_sound {cs r : List Char} (h : str cs = .ok r) :
    ∃ s, IsStringBody s ∧ cs = s ++ '"' :: r := by
  fun_induction str cs with
  | case1 => cases h
  | case2 cs => cases h; exact ⟨[], .nil, rfl⟩
  | case3 a b c d cs hx ih =>
    obtain ⟨s, hs, rfl⟩ := ih h
    simp only [Bool.and_eq_true, isHex_iff] at hx
    exact ⟨_, .number hx.1.1.1 hx.1.1.2 hx.1.2 hx.2 hs, rfl⟩
  | case4 => cases h
  | case5 => split at h <;> cases h
  | case6 => split at h <;> cases h
  | case7 => cases h
  | case8 c cs _ hc ih =>
    obtain ⟨s, hs, rfl⟩ := ih h
    refine ⟨_, .escape ?_ hs, rfl⟩
    simpa [escapable, or_assoc] using hc
  | case9 => cases h
  | case10 => cases h
  | case11 c cs hq _ _ hb hn ih =>
    obtain ⟨s, hs, rfl⟩ := ih h
    obtain ⟨d, ds, e⟩ : ∃ d ds, s ++ '"' :: r = d :: ds := by
      cases s with
      | nil => exact ⟨_, _, rfl⟩
      | cons d ds => exact ⟨d, _, rfl⟩
    exact ⟨_, .plain (by omega) hq (fun hc => hb d ds hc e) hs, rfl⟩

/-! ### numbers -/

/-- The text does not start with a digit. -/
def NoDigit (r : List Char) : Prop := ∀ c cs, r = c :: cs → ¬ IsDigit c

/-- The text does not go on with a number. -/
def Ends (r : List Char) : Prop :=
  ∀ c cs, r = c :: cs → ¬ IsDigit c ∧ c ≠ '.' ∧ c ≠ 'e' ∧ c ≠ 'E'

theorem Ends.nil : Ends [] := by
  intro c cs h
  cases h

theorem Ends.noDigit {r : List Char} (h : Ends r) : NoDigit r := fun c cs e => (h c cs e).1

theorem digits_append {ds : List Char} (hd : ∀ c ∈ ds, IsDigit c) {r : List Char}
    (hr : NoDigit r) : digits (ds ++ r) = r := by
  induction ds with
  | nil =>
    cases r with
    | nil => rfl
    | cons c cs =>
      have hc : ¬ c.isDigit = true := fun h => hr c cs rfl ((isDigit_iff c).mp h)
      exact List.dropWhile_cons_of_neg hc
  | cons d ds ih =>
    have h1 : d.isDigit = true := (isDigit_iff d).mpr (hd d List.mem_cons_self)
    rw [List.cons_append, digits, List.dropWhile_cons_of_pos h1]
    exact ih (fun c hc => hd c (List.mem_cons_of_mem d hc))

theorem digits_sound (cs : List Char) : ∃ ds, (∀ c ∈ ds, IsDigit c) ∧ cs = ds ++ digits cs := by
  refine ⟨cs.takeWhile Char.isDigit, fun c hc => ?_, List.takeWhile_append_dropWhile.symm⟩
  exact (isDigit_iff c).mp (List.all_eq_true.mp List.all_takeWhile c hc)

theorem someDigits_append {ds : List Char} (hd : IsDigits ds) {r : List Char} (hr : NoDigit r) :
    someDigits (ds ++ r) = .ok r := by
  obtain ⟨hne, hd⟩ := hd
  cases ds with
  | nil => exact absurd rfl hne
  | cons d ds =>
    rw [List.cons_append, someDigits, if_pos ((isDigit_iff d).mpr (hd d List.mem_cons_self)),
      digits_append (fun c hc => hd c (List.mem_cons_of_mem d hc)) hr]

theorem someDigits_sound {cs r : List Char} (h : someDigits cs = .ok r) :
    ∃ ds, IsDigits ds ∧ cs = ds ++ r := by
  cases cs with
  | nil => cases h
  | cons c cs =>
    rw [someDigits] at h
    split at h
    · next hc =>
      cases h
      obtain ⟨ds, hd, e⟩ := digits_sound cs
      refine ⟨c :: ds, ⟨List.cons_ne_nil c ds, ?_⟩, ?_⟩
      · exact List.forall_mem_cons.mpr ⟨(isDigit_iff c).mp hc, hd⟩
      · rw [List.cons_append, ← e]
    · cases h

theorem exponent_append {e : List Char} (he : IsExponent e) {r : List Char} (hr : Ends r) :
    exponent (e ++ r) = .ok r := by
  cases he with
  | absent =>
    cases r with
    | nil => rfl
    | cons c cs =>
      obtain ⟨_, _, h1, h2⟩ := hr c cs rfl
      have hc : ¬ (decide (c = 'e') || decide (c = 'E')) = true := by simp [h1, h2]
      rw [List.nil_append]
      unfold exponent
      exact if_neg hc
  | @unsigned e ds he hd =>
    have h := someDigits_append hd hr.noDigit
    obtain ⟨hne, hd⟩ := hd
    cases ds with
    | nil => exact absurd rfl hne
    | cons d ds =>
      have hd1 := hd d List.mem_cons_self
      rw [List.cons_append, exponent, if_pos (by simpa using he), h]
      · exact fun _ e1 => hd1.ne rfl (List.cons.inj e1).1
      · exact fun _ e1 => hd1.ne rfl (List.cons.inj e1).1
  | @signed e s ds he hs hd =>
    have h := someDigits_append hd hr.noDigit
    rcases hs with rfl | rfl
    · rw [List.cons_append, List.cons_append, exponent, if_pos (by simpa using he), h]
    · rw [List.cons_append, List.cons_append, exponent, if_pos (by simpa using he), h]

theorem exponent_sound {cs r : List Char} (h : exponent cs = .ok r) :
    ∃ e, IsExponent e ∧ cs = e ++ r := by
  unfold exponent at h
  split at h
  · split at h
    · next c cs hc =>
      have he : c = 'e' ∨ c = 'E' := by simpa using hc
      split at h
      · obtain ⟨ds, hd, rfl⟩ := someDigits_sound h
        exact ⟨_, .signed he (.inl rfl) hd, rfl⟩
      · obtain ⟨ds, hd, rfl⟩ := someDigits_sound h
        exact ⟨_, .signed he (.inr rfl) hd, rfl⟩
      · obtain ⟨ds, hd, rfl⟩ := someDigits_sound h
        exact ⟨_, .unsigned he hd, rfl⟩
    · cases h
      exact ⟨[], .absent, rfl⟩
  · cases h
    exact ⟨[], .absent, rfl⟩

/-- Without a point, what stands behind the integer is read as an exponent. -/
theorem fraction_of_ne {c : Char} (hc : c ≠ '.') (cs : List Char) :
    fraction (c :: cs) = exponent (c :: cs) := by
  unfold fraction
  split
  · next e => exact absurd (List.cons.inj e).1 hc
  · rfl

theorem IsExponent.head {e : List Char} (he : IsExponent e) :
    e = [] ∨ ∃ c cs, e = c :: cs ∧ (c = 'e' ∨ c = 'E') := by
  cases he with
  | absent => exact .inl rfl
  | unsigned he _ => exact .inr ⟨_, _, rfl, he⟩
  | signed he _ _ => exact .inr ⟨_, _, rfl, he⟩

/-- What a number goes on with after its digits, or what follows the number. -/
theorem noDigit_exponent {e : List Char} (he : IsExponent e) {r : List Char} (hr : Ends r) :
    NoDigit (e ++ r) := by
  intro c cs h
  rcases he.head with rfl | ⟨d, ds, rfl, hd⟩
  · exact hr.noDigit c cs h
  · rw [List.cons_append] at h
    rw [← (List.cons.inj h).1]
    rcases hd with rfl | rfl
    · exact fun hx => hx.ne (d := 'e') rfl rfl
    · exact fun hx => hx.ne (d := 'E') rfl rfl

theorem fraction_append {f e : List Char} (hf : IsFraction f) (he : IsExponent e) {r : List Char}
    (hr : Ends r) : fraction (f ++ (e ++ r)) = .ok r := by
  have h := exponent_append he hr
  cases hf with
  | absent =>
    rw [List.nil_append]
    rcases he.head with rfl | ⟨d, ds, rfl, hd⟩
    · cases r with
      | nil => rfl
      | cons c cs =>
        rw [List.nil_append, fraction_of_ne (hr c cs rfl).2.1]
        exact h
    · have hne : d ≠ '.' := by rcases hd with rfl | rfl <;> decide
      rw [List.cons_append, fraction_of_ne hne]
      exact h
  | point hd =>
    rw [List.cons_append, fraction, someDigits_append hd (noDigit_exponent he hr)]
    exact h

theorem fraction_sound {cs r : List Char} (h : fraction cs = .ok r) :
    ∃ f e, IsFraction f ∧ IsExponent e ∧ cs = f ++ (e ++ r) := by
  unfold fraction at h
  split at h
  · split at h
    · next h' =>
      obtain ⟨ds, hd, rfl⟩ := someDigits_sound h'
      obtain ⟨e, he, rfl⟩ := exponent_sound h
      exact ⟨_, e, .point hd, he, rfl⟩
    · cases h
  · obtain ⟨e, he, rfl⟩ := exponent_sound h
    exact ⟨[], e, .absent, he, rfl⟩

theorem noDigit_fraction {f e : List Char} (hf : IsFraction f) (he : IsExponent e) {r : List Char}
    (hr : Ends r) : NoDigit (f ++ (e ++ r)) := by
  cases hf with
  | absent => exact noDigit_exponent he hr
  | point _ =>
    intro c cs h
    rw [← (List.cons.inj h).1]
    exact fun hx => hx.ne (d := '.') rfl rfl

theorem unsigned_append {n : List Char} (hn : IsUnsigned n) {r : List Char} (hr : Ends r) :
    unsigned (n ++ r) = .ok r := by
  obtain ⟨hi, hf, he⟩ := hn
  have h := fraction_append hf he hr
  have h0 := noDigit_fraction hf he hr
  rw [List.append_assoc, List.append_assoc]
  cases hi with
  | zero =>
    rw [List.cons_append, List.nil_append]
    generalize hx : _ ++ (_ ++ r) = x at h h0 ⊢
    cases x with
    | nil =>
      cases h
      rfl
    | cons c cs =>
      have hc : ¬ c.isDigit = true := fun h => h0 c cs rfl ((isDigit_iff c).mp h)
      rw [unsigned, if_neg hc]
      exact h
  | @digits c cs hc hne hd =>
    rw [List.cons_append, unsigned, if_pos ((isDigit_iff c).mpr hc), digits_append hd h0]
    · exact h
    · exact fun _ _ hz _ => hne hz
    · exact fun hz _ => hne hz

theorem unsigned_sound {cs r : List Char} (h : unsigned cs = .ok r) :
    ∃ n, IsUnsigned n ∧ cs = n ++ r := by
  unfold unsigned at h
  split at h
  · split at h
    · cases h
    · obtain ⟨f, e, hf, he, e1⟩ := fraction_sound h
      refine ⟨_, .parts .zero hf he, ?_⟩
      rw [e1, List.append_assoc, List.append_assoc]
      rfl
  · cases h
    exact ⟨_, .parts .zero .absent .absent, rfl⟩
  · next c cs h1 h2 =>
    split at h
    · next hc =>
      have h0 : c ≠ '0' := by
        rintro rfl
        cases cs with
        | nil => exact h2 rfl rfl
        | cons d ds => exact h1 d ds rfl rfl
      obtain ⟨ds, hd, e1⟩ := digits_sound cs
      obtain ⟨f, e, hf, he, e2⟩ := fraction_sound h
      refine ⟨_, .parts (.digits ((isDigit_iff c).mp hc) h0 hd) hf he, ?_⟩
      rw [List.append_assoc, List.append_assoc, ← e2, List.cons_append, ← e1]
    · cases h
  · cases h

/-! ### values without parts, and keys -/

theorem word_append (w r : List Char) : word w (w ++ r) = .ok r := by
  induction w with
  | nil => cases r <;> rfl
  | cons c w ih => rw [List.cons_append, word, if_pos rfl, ih]

theorem word_sound {w cs r : List Char} (h : word w cs = .ok r) : cs = w ++ r := by
  induction w generalizing cs with
  | nil =>
    cases h
    rfl
  | cons c w ih =>
    cases cs with
    | nil => cases h
    | cons d cs =>
      rw [word] at h
      split at h
      · next hd => rw [hd, List.cons_append, ih h]
      · cases h

theorem scalar_digit {c : Char} (hc : IsDigit c) (cs : List Char) :
    scalar (c :: cs) = unsigned (c :: cs) := by
  rw [scalar, if_pos ((isDigit_iff c).mpr hc)]
  · exact hc.ne rfl
  · exact hc.ne rfl
  · exact hc.ne rfl
  · exact hc.ne rfl
  · exact hc.ne rfl

theorem scalar_append {v : List Char} (hv : IsScalar v) {r : List Char} (hr : Ends r) :
    scalar (v ++ r) = .ok r := by
  cases hv with
  | word h =>
    simp only [words, List.mem_cons, List.not_mem_nil, or_false] at h
    rcases h with rfl | rfl | rfl
    · exact word_append ['u', 'l', 'l'] r
    · exact word_append ['r', 'u', 'e'] r
    · exact word_append ['a', 'l', 's', 'e'] r
  | number h =>
    cases h with
    | plain h =>
      have hu := unsigned_append h hr
      obtain ⟨c, cs, rfl, hc⟩ := h.head
      rw [List.cons_append] at hu ⊢
      rw [scalar_digit hc, hu]
    | minus h => exact unsigned_append h hr
  | string h =>
    obtain ⟨h⟩ := h
    rw [List.cons_append, List.cons_append, List.append_assoc]
    exact str_append h r

theorem scalar_sound {cs r : List Char} (h : scalar cs = .ok r) :
    ∃ v, IsScalar v ∧ cs = v ++ r := by
  unfold scalar at h
  split at h
  · obtain ⟨s, hs, rfl⟩ := str_sound h
    exact ⟨_, .string (.quotes hs), by simp⟩
  · obtain ⟨n, hn, rfl⟩ := unsigned_sound h
    exact ⟨_, .number (.minus hn), rfl⟩
  · rw [word_sound h]
    exact ⟨_, .word (w := ['n', 'u', 'l', 'l']) (by decide), rfl⟩
  · rw [word_sound h]
    exact ⟨_, .word (w := ['t', 'r', 'u', 'e']) (by decide), rfl⟩
  · rw [word_sound h]
    exact ⟨_, .word (w := ['f', 'a', 'l', 's', 'e']) (by decide), rfl⟩
  · split at h
    · obtain ⟨n, hn, e⟩ := unsigned_sound h
      exact ⟨n, .number (.plain hn), e⟩
    · cases h
  · cases h

theorem key_append {k w : List Char} (hk : IsString k) (hw : IsBlanks w) (r : List Char) :
    key (k ++ (w ++ ':' :: r)) = .ok r := by
  obtain ⟨hs⟩ := hk
  rw [List.cons_append, List.cons_append, List.append_assoc, key, List.cons_append,
    List.nil_append, str_append hs]
  simp only [skip_append hw, skip_of_not_blank (c := ':') rfl]

theorem key_sound {cs r : List Char} (h : key cs = .ok r) :
    ∃ k w, IsString k ∧ IsBlanks w ∧ cs = k ++ (w ++ ':' :: r) := by
  unfold key at h
  split at h
  · split at h
    · cases h
    · next r' h1 =>
      obtain ⟨s, hs, rfl⟩ := str_sound h1
      obtain ⟨w, hw, e⟩ := skip_sound r'
      split at h
      · next h' =>
        cases h
        rw [h'] at e
        exact ⟨_, w, .quotes hs, hw, by simp [e]⟩
      · cases h
      · cases h
  · cases h
  · cases h

end Json
end Dashboards
