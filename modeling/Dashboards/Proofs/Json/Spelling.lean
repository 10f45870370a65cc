import Dashboards.Json.Grammar

/-!
# Texts between quotes

What stands between the quotes of a string spells a text (RFC 8259, section 7): a character stands
for itself, behind a backslash for another one, or is given by the number of one or two UTF-16 code
units. The number of a lone surrogate spells nothing.

* `Spells`            a text with one of its spellings;
* `Spells.unique`     a spelling is that of one text;
* `spells_escape`     the spelling that texts are printed with;
* `Says`, `says_quote`   the same with the quotes around.
-/

namespace Dashboards
namespace Json

/-! ### spellings -/

/-- what stands behind a backslash, and the character that is meant -/
def shorts : List (Char × Char) :=
  [('"', '"'), ('\\', '\\'), ('/', '/'), ('b', '\x08'), ('f', '\x0c'), ('n', '\n'), ('r', '\r'),
    ('t', '\t')]

def hexValue (c : Char) : Nat :=
  if c.toNat ≤ 0x39 then c.toNat - 0x30
  else if c.toNat ≤ 0x46 then c.toNat - 0x37
  else c.toNat - 0x57

/-- Four hexadecimal digits. -/
structure CodeUnit where
  a : Char
  b : Char
  c : Char
  d : Char

namespace CodeUnit

def value (u : CodeUnit) : Nat :=
  ((hexValue u.a * 16 + hexValue u.b) * 16 + hexValue u.c) * 16 + hexValue u.d

structure Valid (u : CodeUnit) : Prop where
  a : IsHexDigit u.a
  b : IsHexDigit u.b
  c : IsHexDigit u.c
  d : IsHexDigit u.d

/-- How the unit is written. -/
def chars (u : CodeUnit) : List Char := ['\\', 'u', u.a, u.b, u.c, u.d]

end CodeUnit

/-- The text, and what stands between the quotes of a string that spells it. -/
inductive Spells : List Char → List Char → Prop
  | nil : Spells [] []
  | plain {c : Char} {s cs : List Char} (hn : 0x20 ≤ c.toNat) (hq : c ≠ '"') (hb : c ≠ '\\')
      (h : Spells s cs) : Spells (c :: s) (c :: cs)
  | short {c e : Char} {s cs : List Char} (he : (e, c) ∈ shorts) (h : Spells s cs) :
      Spells (c :: s) ('\\' :: e :: cs)
  | unit {c : Char} {u : CodeUnit} {s cs : List Char} (hu : u.Valid) (hc : c.toNat = u.value)
      (h : Spells s cs) : Spells (c :: s) (u.chars ++ cs)
  | pair {c : Char} {u v : CodeUnit} {s cs : List Char} (hu : u.Valid) (hv : v.Valid)
      (hhigh : 0xD800 ≤ u.value ∧ u.value ≤ 0xDBFF) (hlow : 0xDC00 ≤ v.value ∧ v.value ≤ 0xDFFF)
      (hc : c.toNat = 0x10000 + (u.value - 0xD800) * 0x400 + (v.value - 0xDC00))
      (h : Spells s cs) : Spells (c :: s) (u.chars ++ (v.chars ++ cs))

theorem isStringBody_unit {u : CodeUnit} (hu : u.Valid) {cs : List Char} (h : IsStringBody cs) :
    IsStringBody (u.chars ++ cs) :=
  .number hu.a hu.b hu.c hu.d h

theorem Spells.isStringBody {s cs : List Char} (h : Spells s cs) : IsStringBody cs := by
  induction h with
  | nil => exact .nil
  | plain hn hq hb _ ih => exact .plain hn hq hb ih
  | @short c e s cs he _ ih =>
    have hall : ∀ x ∈ shorts, x.1 ∈ escapable := by decide
    exact .escape (hall _ he) ih
  | unit hu _ _ ih => exact isStringBody_unit hu ih
  | pair hu hv _ _ _ _ ih => exact isStringBody_unit hu (isStringBody_unit hv ih)

/-! ### one text only -/

theorem short_unique {e c c' : Char} (h : (e, c) ∈ shorts) (h' : (e, c') ∈ shorts) : c = c' := by
  have hall : ∀ x ∈ shorts, ∀ y ∈ shorts, x.1 = y.1 → x.2 = y.2 := by decide
  exact hall _ h _ h' rfl

theorem short_ne_u {c : Char} : ('u', c) ∉ shorts := by
  intro h
  have hall : ∀ x ∈ shorts, x.1 ≠ 'u' := by decide
  exact hall _ h rfl

/-- No character has the number of a surrogate. -/
theorem not_surrogate (c : Char) : ¬ (0xD800 ≤ c.toNat ∧ c.toNat ≤ 0xDFFF) := by
  rintro ⟨hlow, hhigh⟩
  have hlow : 0xD800 ≤ c.val.toNat := hlow
  have hhigh : c.val.toNat ≤ 0xDFFF := hhigh
  rcases c.valid with h | h
  · have h : c.val.toNat < 0xD800 := h
    omega
  · have h : 0xDFFF < c.val.toNat := h.1
    omega

theorem CodeUnit.chars_append {u u' : CodeUnit} {cs cs' : List Char}
    (h : u.chars ++ cs = u'.chars ++ cs') : u = u' ∧ cs = cs' := by
  obtain ⟨a, b, c, d⟩ := u
  obtain ⟨a', b', c', d'⟩ := u'
  simp only [chars, List.cons_append, List.nil_append, List.cons.injEq, true_and] at h
  obtain ⟨rfl, rfl, rfl, rfl, rfl⟩ := h
  exact ⟨rfl, rfl⟩

theorem Spells.unique {s s' cs : List Char} (h : Spells s cs) (h' : Spells s' cs) : s = s' := by
  induction h generalizing s' with
  | nil => cases h' with
    | nil => rfl
  | @plain c s cs hn hq hb h ih =>
    cases h' with
    | plain _ _ _ h' => rw [ih h']
    | short _ _ => exact absurd rfl hb
    | unit _ _ _ => exact absurd rfl hb
    | pair _ _ _ _ _ _ => exact absurd rfl hb
  | @short c e s cs he h ih =>
    generalize hx : '\\' :: e :: cs = x at h'
    cases h' with
    | nil => cases hx
    | plain _ _ hb _ => exact absurd (List.cons.inj hx).1.symm hb
    | short he' h' =>
      cases hx
      rw [ih h', short_unique he he']
    | unit _ _ _ =>
      cases hx
      exact absurd he short_ne_u
    | pair _ _ _ _ _ _ =>
      cases hx
      exact absurd he short_ne_u
  | @unit c u s cs hu hc h ih =>
    generalize hx : u.chars ++ cs = x at h'
    cases h' with
    | nil => cases hx
    | plain _ _ hb _ => exact absurd (List.cons.inj hx).1.symm hb
    | short he _ =>
      cases hx
      exact absurd he short_ne_u
    | unit _ hc' h' =>
      obtain ⟨rfl, rfl⟩ := CodeUnit.chars_append hx
      rw [ih h', Char.toNat_inj.mp (hc.trans hc'.symm)]
    | pair _ _ hhigh _ _ _ =>
      obtain ⟨rfl, rfl⟩ := CodeUnit.chars_append hx
      exact absurd ⟨hc ▸ hhigh.1, by omega⟩ (not_surrogate c)
  | @pair c u v s cs hu hv hhigh hlow hc h ih =>
    generalize hx : u.chars ++ (v.chars ++ cs) = x at h'
    cases h' with
    | nil => cases hx
    | plain _ _ hb _ => exact absurd (List.cons.inj hx).1.symm hb
    | short he _ =>
      cases hx
      exact absurd he short_ne_u
    | @unit c' _ _ _ _ hc' _ =>
      obtain ⟨rfl, -⟩ := CodeUnit.chars_append hx
      exact absurd ⟨hc' ▸ hhigh.1, by omega⟩ (not_surrogate c')
    | pair _ _ _ _ hc' h' =>
      obtain ⟨rfl, hrest⟩ := CodeUnit.chars_append hx
      obtain ⟨rfl, rfl⟩ := CodeUnit.chars_append hrest
      rw [ih h', Char.toNat_inj.mp (hc.trans hc'.symm)]

/-! ### the spelling that is printed -/

/-- Controls without a short spelling are given by their number. -/
theorem control_unit {n : Nat} (h : n < 0x20) :
    let u : CodeUnit := ⟨'0', '0', Text.hexChar false (n / 16), Text.hexChar false (n % 16)⟩
    u.value = n ∧ (isHex u.c = true ∧ isHex u.d = true) := by
  revert n
  decide

theorem escape_short : ∀ x ∈ shorts.erase ('/', '/'), escape x.2 = ['\\', x.1] := by decide

theorem spells_escape_cons {c : Char} {s cs : List Char} (h : Spells s cs) :
    Spells (c :: s) (escape c ++ cs) := by
  by_cases hc : c ∈ (shorts.erase ('/', '/')).map (·.2)
  · obtain ⟨x, hx, rfl⟩ := List.mem_map.mp hc
    rw [escape_short x hx]
    exact .short (List.mem_of_mem_erase hx) h
  · have hne : ∀ d ∈ (shorts.erase ('/', '/')).map (·.2), c ≠ d := fun d hd e => hc (e ▸ hd)
    have hq := hne '"' (by decide)
    have hb := hne '\\' (by decide)
    rw [escape, if_neg hq, if_neg hb, if_neg (hne '\x08' (by decide)),
      if_neg (hne '\x0c' (by decide)), if_neg (hne '\n' (by decide)),
      if_neg (hne '\r' (by decide)), if_neg (hne '\t' (by decide))]
    split
    · rename_i hlow
      obtain ⟨hvalue, hx, hy⟩ := control_unit hlow
      have hzero : IsHexDigit '0' := (isHex_iff '0').mp rfl
      exact .unit ⟨hzero, hzero, (isHex_iff _).mp hx, (isHex_iff _).mp hy⟩ hvalue.symm h
    · rename_i hlow
      exact .plain (Nat.le_of_not_lt hlow) hq hb h

theorem spells_escape (s : List Char) : Spells s (s.flatMap escape) := by
  induction s with
  | nil => exact .nil
  | cons c s ih => exact spells_escape_cons ih

/-! ### strings -/

/-- A string that spells the text. -/
inductive Says (s : String) : List Char → Prop
  | quotes {cs : List Char} (h : Spells s.toList cs) : Says s ('"' :: cs ++ ['"'])

theorem Says.isString {s : String} {cs : List Char} (h : Says s cs) : IsString cs := by
  obtain ⟨h⟩ := h
  exact .quotes h.isStringBody

theorem Says.unique {s s' : String} {cs : List Char} (h : Says s cs) (h' : Says s' cs) :
    s = s' := by
  obtain ⟨h⟩ := h
  generalize hx : '"' :: _ ++ ['"'] = x at h'
  obtain ⟨h'⟩ := h'
  rw [List.append_cancel_right (List.cons.inj hx).2] at h
  exact String.toList_inj.mp (h.unique h')

theorem says_quote (s : String) : Says s (quote s) := .quotes (spells_escape s.toList)

end Json
end Dashboards
