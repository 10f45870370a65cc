import Dashboards.Text.Utf8

/-!
# Checking JSON texts

`Json.check s` accepts exactly the JSON texts: one value of any kind, nested to any depth, with
blanks (space, tab, line feed, carriage return) around it. A text that is none is refused with the
first fault and its place.

* `str`, `unsigned`, `word`   what is left after a string, a number or one of the three words;
* `scan`                    walks over values with an explicit stack of the open brackets;
* `check`                   the whole text, with line and column (in bytes) of a fault.
-/

namespace Dashboards
namespace Json

inductive Problem where
  | endInValue
  | endInList
  | endInObject
  | endInString
  | missingColon
  | missingListComma
  | missingObjectComma
  | badWord
  | noValue
  | badEscape
  | badNumber
  | controlCharacter
  | keyNotString
  | trailing
deriving DecidableEq

/-- The place of a problem: the text that was left, and how many bytes further it is reported. -/
structure Stop where
  problem : Problem
  rest : List Char
  ahead : Nat

structure Fault where
  problem : Problem
  line : Nat
  column : Nat
deriving DecidableEq

def isBlank (c : Char) : Bool := c = ' ' || c = '\t' || c = '\n' || c = '\r'

def skip (cs : List Char) : List Char := cs.dropWhile isBlank

def isHex (c : Char) : Bool :=
  c.isDigit || ('a' ≤ c && c ≤ 'f') || ('A' ≤ c && c ≤ 'F')

/-- What is left after the end of a string whose opening quote has been read. -/
def str : List Char → Except Stop (List Char)
  | [] => .error ⟨.endInString, [], 0⟩
  | '"' :: cs => .ok cs
  | '\\' :: 'u' :: cs =>
    match cs with
    | a :: b :: c :: d :: r =>
      if isHex a && isHex b && isHex c && isHex d then str r
      else .error ⟨.badEscape, cs, 4⟩
    | _ => if Text.byteSize cs < 4 then .error ⟨.endInString, [], 0⟩ else .error ⟨.badEscape, cs, 4⟩
  | ['\\'] => .error ⟨.endInString, [], 0⟩
  | '\\' :: c :: cs =>
    if c = '"' || c = '\\' || c = '/' || c = 'b' || c = 'f' || c = 'n' || c = 'r' || c = 't'
    then str cs
    else .error ⟨.badEscape, c :: cs, 1⟩
  | c :: cs => if c.toNat < 0x20 then .error ⟨.controlCharacter, c :: cs, 0⟩ else str cs

def digits (cs : List Char) : List Char := cs.dropWhile Char.isDigit

/-- At least one digit. -/
def someDigits : List Char → Except Stop (List Char)
  | [] => .error ⟨.badNumber, [], 1⟩
  | c :: cs => if c.isDigit then .ok (digits cs) else .error ⟨.badNumber, c :: cs, 1⟩

def exponent : List Char → Except Stop (List Char)
  | c :: cs =>
    if c = 'e' || c = 'E' then
      match cs with
      | '+' :: r => someDigits r
      | '-' :: r => someDigits r
      | r => someDigits r
    else .ok (c :: cs)
  | [] => .ok []

def fraction : List Char → Except Stop (List Char)
  | '.' :: cs =>
    match someDigits cs with
    | .ok r => exponent r
    | .error e => .error e
  | cs => exponent cs

/-- What is left after a number; its sign has been read. No digit follows a leading zero. -/
def unsigned : List Char → Except Stop (List Char)
  | '0' :: c :: cs => if c.isDigit then .error ⟨.badNumber, c :: cs, 1⟩ else fraction (c :: cs)
  | '0' :: [] => .ok []
  | c :: cs => if c.isDigit then fraction (digits cs) else .error ⟨.badNumber, c :: cs, 1⟩
  | [] => .error ⟨.badNumber, [], 1⟩

/-- What is left after the letters of a word. -/
def word : List Char → List Char → Except Stop (List Char)
  | [], cs => .ok cs
  | _ :: _, [] => .error ⟨.endInValue, [], 0⟩
  | w :: ws, c :: cs => if c = w then word ws cs else .error ⟨.badWord, c :: cs, 1⟩

/-- What is left after a value without parts. -/
def scalar : List Char → Except Stop (List Char)
  | '"' :: cs => str cs
  | '-' :: cs => unsigned cs
  | 'n' :: cs => word ['u', 'l', 'l'] cs
  | 't' :: cs => word ['r', 'u', 'e'] cs
  | 'f' :: cs => word ['a', 'l', 's', 'e'] cs
  | c :: cs => if c.isDigit then unsigned (c :: cs) else .error ⟨.noValue, c :: cs, 1⟩
  | [] => .error ⟨.endInValue, [], 0⟩

/-- What is left after a key and its colon. -/
def key : List Char → Except Stop (List Char)
  | '"' :: cs =>
    match str cs with
    | .error e => .error e
    | .ok r =>
      match skip r with
      | ':' :: r => .ok r
      | [] => .error ⟨.endInObject, [], 0⟩
      | c :: r => .error ⟨.missingColon, c :: r, 1⟩
  | [] => .error ⟨.endInObject, [], 0⟩
  | c :: cs => .error ⟨.keyNotString, c :: cs, 1⟩

section lengths

theorem skip_length (cs : List Char) : (skip cs).length ≤ cs.length :=
  (List.dropWhile_sublist isBlank).length_le

theorem digits_length (cs : List Char) : (digits cs).length ≤ cs.length :=
  (List.dropWhile_sublist Char.isDigit).length_le

theorem str_length {cs r : List Char} (h : str cs = .ok r) : r.length < cs.length := by
  fun_induction str cs with
  | case1 => cases h
  | case2 => cases h; simp
  | case3 a b c d r _ ih => have := ih h; simp only [List.length_cons]; omega
  | case4 => cases h
  | case5 => split at h <;> cases h
  | case6 => split at h <;> cases h
  | case7 => cases h
  | case8 c cs _ _ ih => have := ih h; simp only [List.length_cons]; omega
  | case9 => cases h
  | case10 => cases h
  | case11 c cs _ _ _ _ _ ih => have := ih h; simp only [List.length_cons]; omega

theorem someDigits_length {cs r : List Char} (h : someDigits cs = .ok r) :
    r.length < cs.length := by
  cases cs with
  | nil => simp [someDigits] at h
  | cons c cs =>
    have := digits_length cs
    simp only [someDigits] at h
    split at h
    · cases h; simp only [List.length_cons]; omega
    · simp at h

theorem exponent_length {cs r : List Char} (h : exponent cs = .ok r) : r.length ≤ cs.length := by
  unfold exponent at h
  split at h
  · split at h
    · split at h <;> have := someDigits_length h <;> simp only [List.length_cons] at * <;> omega
    · cases h; exact Nat.le_refl _
  · cases h; exact Nat.le_refl _

theorem fraction_length {cs r : List Char} (h : fraction cs = .ok r) : r.length ≤ cs.length := by
  unfold fraction at h
  split at h
  · split at h
    · rename_i h'
      have := someDigits_length h'
      have := exponent_length h
      simp only [List.length_cons]
      omega
    · simp at h
  · exact exponent_length h

theorem unsigned_length {cs r : List Char} (h : unsigned cs = .ok r) : r.length < cs.length := by
  unfold unsigned at h
  split at h
  · split at h
    · simp at h
    · have := fraction_length h
      simp only [List.length_cons] at *
      omega
  · cases h; simp
  · rename_i c cs _ _
    split at h
    · have := fraction_length h
      have := digits_length cs
      simp only [List.length_cons]
      omega
    · simp at h
  · simp at h

theorem word_length {ws cs r : List Char} (h : word ws cs = .ok r) : r.length ≤ cs.length := by
  induction ws generalizing cs with
  | nil => cases h; exact Nat.le_refl _
  | cons w ws ih =>
    cases cs with
    | nil => simp [word] at h
    | cons c cs =>
      simp only [word] at h
      split at h
      · have := ih h
        simp only [List.length_cons]
        omega
      · simp at h

theorem scalar_length {cs r : List Char} (h : scalar cs = .ok r) : r.length < cs.length := by
  unfold scalar at h
  split at h
  · have := str_length h; simp only [List.length_cons]; omega
  · have := unsigned_length h; simp only [List.length_cons]; omega
  · have := word_length h; simp only [List.length_cons]; omega
  · have := word_length h; simp only [List.length_cons]; omega
  · have := word_length h; simp only [List.length_cons]; omega
  · split at h
    · exact unsigned_length h
    · simp at h
  · simp at h

theorem key_length {cs r : List Char} (h : key cs = .ok r) : r.length < cs.length := by
  unfold key at h
  split at h
  · split at h
    · simp at h
    · rename_i r' h'
      have h1 := str_length h'
      have h2 := skip_length r'
      split at h
      · rename_i h3
        cases h
        rw [h3] at h2
        simp only [List.length_cons] at *
        omega
      · simp at h
      · simp at h
  · simp at h
  · simp at h

end lengths

inductive Bracket where
  | list
  | object
deriving DecidableEq

/-- What comes next: a value, the first entry of a bracket just opened, or what follows a value. -/
inductive Mode where
  | value
  | first
  | after
deriving DecidableEq

def Bracket.closing : Bracket → Char
  | .list => ']'
  | .object => '\x7d'

def Bracket.endProblem : Bracket → Problem
  | .list => .endInList
  | .object => .endInObject

def Bracket.commaProblem : Bracket → Problem
  | .list => .missingListComma
  | .object => .missingObjectComma

def Mode.rank : Mode → Nat
  | .first => 1
  | _ => 0

/-- Reads to the end of the text; `brackets` holds the open brackets, the innermost first. -/
def scan (mode : Mode) (brackets : List Bracket) (cs : List Char) : Except Stop Unit :=
  match _h : skip cs with
  | [] =>
    match mode, brackets with
    | .value, _ => .error ⟨.endInValue, [], 0⟩
    | _, [] => .ok ()
    | _, b :: _ => .error ⟨b.endProblem, [], 0⟩
  | c :: r =>
    match mode, brackets with
    | .value, _ =>
      if c = '[' then scan .first (.list :: brackets) r
      else if c = '\x7b' then scan .first (.object :: brackets) r
      else match _hs : scalar (c :: r) with
        | .ok r' => scan .after brackets r'
        | .error e => .error e
    | _, [] => .error ⟨.trailing, c :: r, 1⟩
    | .after, b :: bs =>
      if c = b.closing then scan .after bs r
      else if c = ',' then
        match b with
        | .list => scan .value brackets r
        | .object =>
          match _hk : key (skip r) with
          | .ok r' => scan .value brackets r'
          | .error e => .error e
      else .error ⟨b.commaProblem, c :: r, 1⟩
    | .first, b :: bs =>
      if c = b.closing then scan .after bs r
      else match b with
        | .list => scan .value brackets (c :: r)
        | .object =>
          match _hk : key (c :: r) with
          | .ok r' => scan .value brackets r'
          | .error e => .error e
termination_by 2 * cs.length + mode.rank
decreasing_by
  all_goals
    have hl := skip_length cs
    rw [_h] at hl
    simp only [List.length_cons] at hl
    simp only [Mode.rank, List.length_cons]
  any_goals omega
  · have := scalar_length _hs
    simp only [List.length_cons] at this
    omega
  · have := key_length _hk
    have := skip_length r
    omega
  · have := key_length _hk
    simp only [List.length_cons] at this
    omega

/-- Line and column of a byte of the text, both counted as readers of messages do: the first line
is 1, the column is the number of bytes since the line began. -/
def place (bs : Text.Bytes) : Nat × Nat :=
  bs.foldl (fun (p : Nat × Nat) b => if b = 10 then (p.1 + 1, 0) else (p.1, p.2 + 1)) (1, 0)

/-- Tells whether the text is one JSON value. -/
def check (s : String) : Except Fault Unit :=
  match scan .value [] s.toList with
  | .ok () => .ok ()
  | .error stop =>
    let bs := Text.utf8 s
    let (line, column) := place (bs.take (bs.length - Text.byteSize stop.rest + stop.ahead))
    .error ⟨stop.problem, line, column⟩

def Problem.message : Problem → String
  | .endInValue => "EOF while parsing a value"
  | .endInList => "EOF while parsing a list"
  | .endInObject => "EOF while parsing an object"
  | .endInString => "EOF while parsing a string"
  | .missingColon => "expected `:`"
  | .missingListComma => "expected `,` or `]`"
  | .missingObjectComma => "expected `,` or `\x7d`"
  | .badWord => "expected ident"
  | .noValue => "expected value"
  | .badEscape => "invalid escape"
  | .badNumber => "invalid number"
  | .controlCharacter => "control character (\\u0000-\\u001F) found while parsing a string"
  | .keyNotString => "key must be a string"
  | .trailing => "trailing characters"

def Fault.message (f : Fault) : String :=
  f.problem.message ++ " at line " ++ toString f.line ++ " column " ++ toString f.column

end Json
end Dashboards
