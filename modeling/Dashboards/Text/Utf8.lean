/-!
# UTF-8

* `utf8 s`        the bytes of a text, and `byteSize cs` the number of those of its characters;
* `Utf8.chunk`    the longest acceptable piece at the head of a byte list: a character, or the
                  bytes that cannot be part of one;
* `fromUtf8? bs`  the text, when every piece is a character;
* `lossy bs`      the text in which each unacceptable piece reads U+FFFD.
-/

namespace Dashboards
namespace Text

abbrev Bytes := List UInt8

def utf8 (s : String) : Bytes :=
  s.toList.flatMap String.utf8EncodeChar

/-- The number of bytes that characters take. -/
def byteSize : List Char → Nat
  | [] => 0
  | c :: cs => c.utf8Size + byteSize cs

namespace Utf8

/-- A character with its rest, or the number of bytes of an unacceptable piece. -/
inductive Chunk where
  | char (c : Char) (rest : Bytes)
  | junk (rest : Bytes)

def isTail (b : UInt8) : Bool :=
  0x80 ≤ b && b ≤ 0xBF

/-- The range of the second byte after the leading byte `b`: overlong forms, surrogates and
numbers above U+10FFFF are excluded here. -/
def secondOk (b s : UInt8) : Bool :=
  if b = 0xE0 then 0xA0 ≤ s && s ≤ 0xBF
  else if b = 0xED then 0x80 ≤ s && s ≤ 0x9F
  else if b = 0xF0 then 0x90 ≤ s && s ≤ 0xBF
  else if b = 0xF4 then 0x80 ≤ s && s ≤ 0x8F
  else isTail s

def low (b : UInt8) : Nat := b.toNat % 64

/-- The head of `b :: rest`. A piece cut short is junk up to the byte that does not fit. -/
def chunk (b : UInt8) (rest : Bytes) : Chunk :=
  if b < 0x80 then .char (Char.ofNat b.toNat) rest
  else if 0xC2 ≤ b && b ≤ 0xDF then
    match rest with
    | s :: rest => if isTail s then .char (Char.ofNat (b.toNat % 32 * 64 + low s)) rest
                   else .junk (s :: rest)
    | [] => .junk []
  else if 0xE0 ≤ b && b ≤ 0xEF then
    match rest with
    | s :: rest =>
      if secondOk b s then
        match rest with
        | t :: rest =>
          if isTail t then .char (Char.ofNat (b.toNat % 16 * 4096 + low s * 64 + low t)) rest
          else .junk (t :: rest)
        | [] => .junk []
      else .junk (s :: rest)
    | [] => .junk []
  else if 0xF0 ≤ b && b ≤ 0xF4 then
    match rest with
    | s :: rest =>
      if secondOk b s then
        match rest with
        | t :: rest =>
          if isTail t then
            match rest with
            | u :: rest =>
              if isTail u then
                .char (Char.ofNat (b.toNat % 8 * 262144 + low s * 4096 + low t * 64 + low u)) rest
              else .junk (u :: rest)
            | [] => .junk []
          else .junk (t :: rest)
        | [] => .junk []
      else .junk (s :: rest)
    | [] => .junk []
  else .junk rest

def Chunk.rest : Chunk → Bytes
  | .char _ rest => rest
  | .junk rest => rest

theorem chunk_rest_le (b : UInt8) (bs : Bytes) : (chunk b bs).rest.length ≤ bs.length := by
  unfold chunk
  repeat' split
  all_goals simp only [Chunk.rest, List.length_cons]
  all_goals omega

end Utf8

/-- The text of a byte list that is UTF-8 throughout. -/
def fromUtf8? : Bytes → Option (List Char)
  | [] => some []
  | b :: bs =>
    match _h : Utf8.chunk b bs with
    | .char c rest => (fromUtf8? rest).map (c :: ·)
    | .junk _ => none
termination_by bs => bs.length
decreasing_by
  have := Utf8.chunk_rest_le b bs
  rw [_h] at this
  simp only [Utf8.Chunk.rest] at this
  simp only [List.length_cons]
  omega

/-- The pieces of a byte list, each a character or the bytes that are none. -/
def pieces : Bytes → List (Char ⊕ Bytes)
  | [] => []
  | b :: bs =>
    match h : Utf8.chunk b bs with
    | .char c rest => .inl c :: pieces rest
    | .junk rest => .inr ((b :: bs).take (bs.length + 1 - rest.length)) :: pieces rest
termination_by bs => bs.length
decreasing_by
  all_goals
    have := Utf8.chunk_rest_le b bs
    rw [h] at this
    simp only [Utf8.Chunk.rest] at this
    simp only [List.length_cons]
    omega

/-- The text in which every piece that is no character reads U+FFFD. -/
def lossy (bs : Bytes) : String :=
  String.ofList ((pieces bs).map fun
    | .inl c => c
    | .inr _ => Char.ofNat 0xFFFD)

def text? (bs : Bytes) : Option String :=
  (fromUtf8? bs).map String.ofList

end Text
end Dashboards
