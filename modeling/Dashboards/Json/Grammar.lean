import Dashboards.Json.Check
import Dashboards.Json.Value

/-!
# The grammar of JSON texts (RFC 8259)

A text is derived from rules, without regard to how it is checked.

* `IsString`, `IsNumber`   a string in its quotes, and a number;
* `Piece`, `IsHead`        one entry of a bracketed value: what stands in front of its value, the
                           value, and the blanks behind it;
* `IsValue`                a value of any kind, nested to any depth, without blanks around it;
* `IsText`                 a value with blanks around it.

`IsValue.head` says what a value can start with, and `IsValue.last` that it does not end with a
blank.
-/

namespace Dashboards
namespace Json

/-! ### blanks, strings and numbers -/

/-- `ws`: space, tab, line feed and carriage return, any number of them -/
def IsBlanks (cs : List Char) : Prop := ∀ c ∈ cs, c ∈ [' ', '\t', '\n', '\r']

/-- `DIGIT` -/
def IsDigit (c : Char) : Prop := 0x30 ≤ c.toNat ∧ c.toNat ≤ 0x39

/-- `HEXDIG`, in either case -/
def IsHexDigit (c : Char) : Prop :=
  IsDigit c ∨ (0x41 ≤ c.toNat ∧ c.toNat ≤ 0x46) ∨ (0x61 ≤ c.toNat ∧ c.toNat ≤ 0x66)

/-- the characters that may stand behind a backslash, `u` apart -/
def escapable : List Char := ['"', '\\', '/', 'b', 'f', 'n', 'r', 't']

/-- what stands between quotes; the number of an escape may be that of a lone surrogate -/
inductive IsStringBody : List Char → Prop
  | nil : IsStringBody []
  | plain {c : Char} {cs : List Char} (hn : 0x20 ≤ c.toNat) (hq : c ≠ '"') (hb : c ≠ '\\')
      (h : IsStringBody cs) : IsStringBody (c :: cs)
  | escape {c : Char} {cs : List Char} (hc : c ∈ escapable) (h : IsStringBody cs) :
      IsStringBody ('\\' :: c :: cs)
  | number {a b c d : Char} {cs : List Char} (ha : IsHexDigit a) (hb : IsHexDigit b)
      (hc : IsHexDigit c) (hd : IsHexDigit d) (h : IsStringBody cs) :
      IsStringBody ('\\' :: 'u' :: a :: b :: c :: d :: cs)

inductive IsString : List Char → Prop
  | quotes {cs : List Char} (h : IsStringBody cs) : IsString ('"' :: cs ++ ['"'])

/-- `1*DIGIT` -/
def IsDigits (cs : List Char) : Prop := cs ≠ [] ∧ ∀ c ∈ cs, IsDigit c

/-- `int`: a zero alone, or digits that do not start with one -/
inductive IsInteger : List Char → Prop
  | zero : IsInteger ['0']
  | digits {c : Char} {cs : List Char} (hc : IsDigit c) (h0 : c ≠ '0')
      (h : ∀ d ∈ cs, IsDigit d) : IsInteger (c :: cs)

/-- `[ frac ]` -/
inductive IsFraction : List Char → Prop
  | absent : IsFraction []
  | point {ds : List Char} (h : IsDigits ds) : IsFraction ('.' :: ds)

/-- `[ exp ]` -/
inductive IsExponent : List Char → Prop
  | absent : IsExponent []
  | unsigned {e : Char} {ds : List Char} (he : e = 'e' ∨ e = 'E') (h : IsDigits ds) :
      IsExponent (e :: ds)
  | signed {e s : Char} {ds : List Char} (he : e = 'e' ∨ e = 'E') (hs : s = '+' ∨ s = '-')
      (h : IsDigits ds) : IsExponent (e :: s :: ds)

/-- a number without its sign -/
inductive IsUnsigned : List Char → Prop
  | parts {i f e : List Char} (hi : IsInteger i) (hf : IsFraction f) (he : IsExponent e) :
      IsUnsigned (i ++ (f ++ e))

inductive IsNumber : List Char → Prop
  | plain {cs : List Char} (h : IsUnsigned cs) : IsNumber cs
  | minus {cs : List Char} (h : IsUnsigned cs) : IsNumber ('-' :: cs)

/-! ### values -/

def words : List (List Char) :=
  [['n', 'u', 'l', 'l'], ['t', 'r', 'u', 'e'], ['f', 'a', 'l', 's', 'e']]

/-- a value without brackets -/
inductive IsScalar : List Char → Prop
  | word {w : List Char} (h : w ∈ words) : IsScalar w
  | number {n : List Char} (h : IsNumber n) : IsScalar n
  | string {s : List Char} (h : IsString s) : IsScalar s

/-- One entry between brackets, up to the next comma or the closing bracket. -/
structure Piece where
  head : List Char
  value : List Char
  after : List Char

def Piece.text (p : Piece) : List Char := p.head ++ (p.value ++ p.after)

/-- what stands in front of a member's value: the key, as it is written, and the colon -/
inductive IsKey : List Char → List Char → Prop
  | colon {k w w' w'' : List Char} (hw : IsBlanks w) (hk : IsString k) (hw' : IsBlanks w')
      (hw'' : IsBlanks w'') : IsKey k (w ++ (k ++ (w' ++ ':' :: w'')))

/-- what stands in front of the value of an entry: blanks in a list, a key in an object -/
def IsHead : Bracket → List Char → Prop
  | .list, h => IsBlanks h
  | .object, h => ∃ k, IsKey k h

def Bracket.opening : Bracket → Char
  | .list => '['
  | .object => '\x7b'

/-- entries with commas between them -/
def inside (ps : List Piece) : List Char := Value.between [','] (ps.map Piece.text)

/-- `value`, without the blanks around it -/
inductive IsValue : List Char → Prop
  | scalar {v : List Char} (h : IsScalar v) : IsValue v
  | empty (b : Bracket) {w : List Char} (h : IsBlanks w) : IsValue (b.opening :: w ++ [b.closing])
  | entries (b : Bracket) {ps : List Piece} (hne : ps ≠ []) (hh : ∀ p ∈ ps, IsHead b p.head)
      (hv : ∀ p ∈ ps, IsValue p.value) (ha : ∀ p ∈ ps, IsBlanks p.after) :
      IsValue (b.opening :: inside ps ++ [b.closing])

/-- `JSON-text` -/
inductive IsText : List Char → Prop
  | blanks {w v w' : List Char} (hw : IsBlanks w) (hv : IsValue v) (hw' : IsBlanks w') :
      IsText (w ++ (v ++ w'))

/-! ### the classes of characters as they are tested for -/

theorem isBlank_iff (c : Char) : isBlank c = true ↔ c ∈ [' ', '\t', '\n', '\r'] := by
  simp only [isBlank, Bool.or_eq_true, decide_eq_true_eq, List.mem_cons, List.not_mem_nil, or_false,
    or_assoc]

theorem isDigit_iff (c : Char) : c.isDigit = true ↔ IsDigit c := by
  simp only [Char.isDigit, ge_iff_le, Bool.and_eq_true, decide_eq_true_eq, UInt32.le_iff_toNat_le]
  exact Iff.rfl

theorem isHex_iff (c : Char) : isHex c = true ↔ IsHexDigit c := by
  have h : ∀ d : Char, d.val.toNat = d.toNat := fun _ => rfl
  have ha : 'a'.toNat = 0x61 := rfl
  have hf : 'f'.toNat = 0x66 := rfl
  have hA : 'A'.toNat = 0x41 := rfl
  have hF : 'F'.toNat = 0x46 := rfl
  simp only [isHex, IsHexDigit, IsDigit, Bool.or_eq_true, isDigit_iff, Bool.and_eq_true,
    decide_eq_true_eq,
    Char.le_def, UInt32.le_iff_toNat_le, h]
  omega

theorem IsDigit.ne {c d : Char} (hc : IsDigit c) (hd : d.isDigit = false) : c ≠ d := by
  rintro rfl
  rw [(isDigit_iff c).mpr hc] at hd
  exact Bool.noConfusion hd

theorem IsBlanks.nil : IsBlanks [] := by
  intro c hc
  cases hc

theorem IsBlanks.append {v w : List Char} (hv : IsBlanks v) (hw : IsBlanks w) :
    IsBlanks (v ++ w) := by
  intro c hc
  rcases List.mem_append.mp hc with h | h
  · exact hv c h
  · exact hw c h

/-! ### how texts start -/

/-- the characters that a value without brackets starts with -/
inductive StartsScalar : Char → Prop
  | letter {c : Char} (h : c ∈ ['n', 't', 'f']) : StartsScalar c
  | minus : StartsScalar '-'
  | digit {c : Char} (h : IsDigit c) : StartsScalar c
  | quote : StartsScalar '"'

/-- the characters that a value starts with -/
inductive Starts : Char → Prop
  | scalar {c : Char} (h : StartsScalar c) : Starts c
  | opening (b : Bracket) : Starts b.opening

theorem StartsScalar.ne {c d : Char} (h : StartsScalar c) (hd : d ∉ ['n', 't', 'f', '-', '"'])
    (hn : d.isDigit = false) : c ≠ d := by
  rintro rfl
  cases h with
  | letter h =>
    simp only [List.mem_cons, List.not_mem_nil, or_false] at h
    rcases h with rfl | rfl | rfl <;> exact hd (by decide)
  | minus => exact hd (by decide)
  | digit h => exact h.ne hn rfl
  | quote => exact hd (by decide)

theorem StartsScalar.ne_opening {c : Char} (h : StartsScalar c) (b : Bracket) : c ≠ b.opening := by
  cases b with
  | list => exact h.ne (by decide) rfl
  | object => exact h.ne (by decide) rfl

theorem Starts.ne {c d : Char} (h : Starts c) (hd : d ∉ ['n', 't', 'f', '-', '"'])
    (hn : d.isDigit = false) (hb : ∀ b : Bracket, d ≠ b.opening) : c ≠ d := by
  cases h with
  | scalar h => exact h.ne hd hn
  | opening b => exact (hb b).symm

theorem Starts.not_blank {c : Char} (h : Starts c) : isBlank c = false := by
  have h1 : c ≠ ' ' := h.ne (by decide) rfl (fun b => by cases b <;> decide)
  have h2 : c ≠ '\t' := h.ne (by decide) rfl (fun b => by cases b <;> decide)
  have h3 : c ≠ '\n' := h.ne (by decide) rfl (fun b => by cases b <;> decide)
  have h4 : c ≠ '\r' := h.ne (by decide) rfl (fun b => by cases b <;> decide)
  simp [isBlank, h1, h2, h3, h4]

theorem Starts.ne_closing {c : Char} (h : Starts c) (b : Bracket) : c ≠ b.closing := by
  cases b with
  | list => exact h.ne (by decide) rfl (fun b => by cases b <;> decide)
  | object => exact h.ne (by decide) rfl (fun b => by cases b <;> decide)

theorem IsString.head {s : List Char} (h : IsString s) : ∃ cs, s = '"' :: cs := by
  obtain ⟨_⟩ := h
  exact ⟨_, rfl⟩

theorem IsUnsigned.head {n : List Char} (h : IsUnsigned n) : ∃ c cs, n = c :: cs ∧ IsDigit c := by
  obtain ⟨hi, _, _⟩ := h
  cases hi with
  | zero => exact ⟨'0', _, rfl, (isDigit_iff '0').mp rfl⟩
  | digits hc _ _ => exact ⟨_, _, rfl, hc⟩

theorem IsScalar.head {v : List Char} (h : IsScalar v) :
    ∃ c cs, v = c :: cs ∧ StartsScalar c := by
  cases h with
  | word hw =>
    simp only [words, List.mem_cons, List.not_mem_nil, or_false] at hw
    rcases hw with rfl | rfl | rfl
    · exact ⟨_, _, rfl, .letter (by decide)⟩
    · exact ⟨_, _, rfl, .letter (by decide)⟩
    · exact ⟨_, _, rfl, .letter (by decide)⟩
  | number hn =>
    cases hn with
    | plain hu =>
      obtain ⟨c, cs, rfl, hc⟩ := hu.head
      exact ⟨c, cs, rfl, .digit hc⟩
    | minus hu => exact ⟨_, _, rfl, .minus⟩
  | string hs =>
    obtain ⟨cs, rfl⟩ := hs.head
    exact ⟨_, cs, rfl, .quote⟩

theorem IsValue.head {v : List Char} (h : IsValue v) : ∃ c cs, v = c :: cs ∧ Starts c := by
  cases h with
  | scalar hs =>
    obtain ⟨c, cs, rfl, hc⟩ := hs.head
    exact ⟨c, cs, rfl, .scalar hc⟩
  | empty b _ => exact ⟨_, _, rfl, .opening b⟩
  | entries b _ _ _ _ => exact ⟨_, _, rfl, .opening b⟩

/-! ### how texts end -/

theorem IsDigit.not_blank {c : Char} (h : IsDigit c) : isBlank c = false :=
  (Starts.scalar (.digit h)).not_blank

theorem IsUnsigned.not_blank {n : List Char} (h : IsUnsigned n) : ∀ c ∈ n, isBlank c = false := by
  obtain ⟨hi, hf, he⟩ := h
  intro c hc
  rcases List.mem_append.mp hc with h | h
  · cases hi with
    | zero =>
      rw [List.mem_singleton.mp h]
      rfl
    | digits hd _ hds =>
      rcases List.mem_cons.mp h with rfl | h
      · exact hd.not_blank
      · exact (hds c h).not_blank
  · rcases List.mem_append.mp h with h | h
    · cases hf with
      | absent => cases h
      | point hd =>
        rcases List.mem_cons.mp h with rfl | h
        · rfl
        · exact (hd.2 c h).not_blank
    · cases he with
      | absent => cases h
      | unsigned he hd =>
        rcases List.mem_cons.mp h with rfl | h
        · rcases he with rfl | rfl <;> rfl
        · exact (hd.2 c h).not_blank
      | signed he hs hd =>
        rcases List.mem_cons.mp h with rfl | h
        · rcases he with rfl | rfl <;> rfl
        · rcases List.mem_cons.mp h with rfl | h
          · rcases hs with rfl | rfl <;> rfl
          · exact (hd.2 c h).not_blank

theorem IsScalar.last {v : List Char} (h : IsScalar v) :
    ∃ cs c, v = cs ++ [c] ∧ isBlank c = false := by
  cases h with
  | word hw =>
    simp only [words, List.mem_cons, List.not_mem_nil, or_false] at hw
    rcases hw with rfl | rfl | rfl
    · exact ⟨['n', 'u', 'l'], 'l', rfl, rfl⟩
    · exact ⟨['t', 'r', 'u'], 'e', rfl, rfl⟩
    · exact ⟨['f', 'a', 'l', 's'], 'e', rfl, rfl⟩
  | number hn =>
    have hb : ∀ c ∈ v, isBlank c = false := by
      cases hn with
      | plain hu => exact hu.not_blank
      | minus hu => exact List.forall_mem_cons.mpr ⟨rfl, hu.not_blank⟩
    obtain ⟨c, cs, e, _⟩ := (IsScalar.number hn).head
    have hne : v ≠ [] := e ▸ List.cons_ne_nil c cs
    exact ⟨v.dropLast, v.getLast hne, (List.dropLast_concat_getLast hne).symm,
      hb _ (List.getLast_mem hne)⟩
  | string hs =>
    obtain ⟨_⟩ := hs
    exact ⟨_, '"', rfl, rfl⟩

theorem IsValue.last {v : List Char} (h : IsValue v) :
    ∃ cs c, v = cs ++ [c] ∧ isBlank c = false := by
  cases h with
  | scalar h => exact h.last
  | empty b _ => exact ⟨_, b.closing, rfl, by cases b <;> rfl⟩
  | entries b _ _ _ _ => exact ⟨_, b.closing, rfl, by cases b <;> rfl⟩

/-! ### entries -/

theorem between_cons (sep x : List Char) (xs : List (List Char)) :
    Value.between sep (x :: xs) = x ++ xs.flatMap (sep ++ ·) := by
  induction xs generalizing x with
  | nil => simp [Value.between]
  | cons y ys ih =>
    rw [Value.between, ih y, List.flatMap_cons, List.append_assoc, List.append_assoc]

/-- The entries after the first, each with its comma. -/
def following (ps : List Piece) : List Char := ps.flatMap fun p => ',' :: p.text

theorem inside_cons (p : Piece) (ps : List Piece) : inside (p :: ps) = p.text ++ following ps := by
  rw [inside, List.map_cons, between_cons, List.flatMap_map]
  rfl

theorem following_cons (p : Piece) (ps : List Piece) :
    following (p :: ps) = ',' :: (p.text ++ following ps) := rfl

end Json
end Dashboards
