import Dashboards.Text.Utf8

/-!
# Texts read from bytes

* `encode_ofNat`       the bytes of a character that is given by its number;
* `chunk_sound`        a character is read from its own bytes;
* `encode_cons`        and the bytes of a character read as this character;
* `fromUtf8?_sound`, `fromUtf8?_encode`   a text is read from its own bytes and from no others;
* `text?_eq_some_iff`  so that bytes have a text just when they are those of it;
* `lossy_of_fromUtf8?`  and nothing of it is lost when other bytes would be replaced;
* `ascii_of_mem_utf8`  a byte of an ASCII character is that of such a character.
-/

namespace Dashboards
namespace Text
namespace Utf8

/-- The bytes of the character of a number. -/
def encode (n : Nat) : Bytes :=
  if n ≤ 0x7F then [UInt8.ofNat n]
  else if n ≤ 0x7FF then [UInt8.ofNat (n / 64 % 0x20 + 0xC0), UInt8.ofNat (n % 0x40 + 0x80)]
  else if n ≤ 0xFFFF then
    [UInt8.ofNat (n / 4096 % 0x10 + 0xE0), UInt8.ofNat (n / 64 % 0x40 + 0x80),
      UInt8.ofNat (n % 0x40 + 0x80)]
  else
    [UInt8.ofNat (n / 262144 % 0x08 + 0xF0), UInt8.ofNat (n / 4096 % 0x40 + 0x80),
      UInt8.ofNat (n / 64 % 0x40 + 0x80), UInt8.ofNat (n % 0x40 + 0x80)]

theorem encode_ofNat {n : Nat} (h : n.isValidChar) :
    String.utf8EncodeChar (Char.ofNat n) = encode n := by
  have hn : (Char.ofNat n).val.toNat = n := by
    rw [Char.ofNat, dif_pos h]
    rfl
  rw [String.utf8EncodeChar, hn]
  rfl

theorem ofNat_eq {n : Nat} {b : UInt8} (h : n = b.toNat) : UInt8.ofNat n = b := by
  rw [h, UInt8.ofNat_toNat]

theorem isTail_iff (b : UInt8) : isTail b = true ↔ 0x80 ≤ b.toNat ∧ b.toNat ≤ 0xBF := by
  rw [isTail, Bool.and_eq_true, decide_eq_true_eq, decide_eq_true_eq, UInt8.le_iff_toNat_le,
    UInt8.le_iff_toNat_le]
  exact Iff.rfl

/-- The second byte, with what keeps overlong forms, surrogates and numbers out of range away. -/
theorem secondOk_bounds {b s : UInt8} (h : secondOk b s = true) :
    (0x80 ≤ s.toNat ∧ s.toNat ≤ 0xBF) ∧ (b.toNat = 0xE0 → 0xA0 ≤ s.toNat) ∧
      (b.toNat = 0xED → s.toNat ≤ 0x9F) ∧ (b.toNat = 0xF0 → 0x90 ≤ s.toNat) ∧
      (b.toNat = 0xF4 → s.toNat ≤ 0x8F) := by
  have hE0 : (0xE0 : UInt8).toNat = 0xE0 := rfl
  have hED : (0xED : UInt8).toNat = 0xED := rfl
  have hF0 : (0xF0 : UInt8).toNat = 0xF0 := rfl
  have hF4 : (0xF4 : UInt8).toNat = 0xF4 := rfl
  simp only [secondOk, isTail, ← UInt8.toNat_inj, hE0, hED, hF0, hF4] at h
  split at h
  · simp [UInt8.le_iff_toNat_le] at h
    omega
  · split at h
    · simp [UInt8.le_iff_toNat_le] at h
      omega
    · split at h
      · simp [UInt8.le_iff_toNat_le] at h
        omega
      · split at h
        · simp [UInt8.le_iff_toNat_le] at h
          omega
        · simp [UInt8.le_iff_toNat_le] at h
          omega

theorem encode_one {b : UInt8} (h : b.toNat < 0x80) : encode b.toNat = [b] := by
  rw [encode, if_pos (by omega), UInt8.ofNat_toNat]

theorem encode_two {b s : UInt8} (hb : 0xC2 ≤ b.toNat ∧ b.toNat ≤ 0xDF)
    (hs : 0x80 ≤ s.toNat ∧ s.toNat ≤ 0xBF) : encode (b.toNat % 32 * 64 + low s) = [b, s] := by
  rw [low, encode, if_neg (by omega), if_pos (by omega)]
  rw [ofNat_eq (show _ = b.toNat by omega), ofNat_eq (show _ = s.toNat by omega)]

theorem encode_three {b s t : UInt8} (hb : 0xE0 ≤ b.toNat ∧ b.toNat ≤ 0xEF)
    (hs : 0x80 ≤ s.toNat ∧ s.toNat ≤ 0xBF) (he : b.toNat = 0xE0 → 0xA0 ≤ s.toNat)
    (ht : 0x80 ≤ t.toNat ∧ t.toNat ≤ 0xBF) :
    encode (b.toNat % 16 * 4096 + low s * 64 + low t) = [b, s, t] := by
  rw [low, low, encode, if_neg (by omega), if_neg (by omega), if_pos (by omega)]
  rw [ofNat_eq (show _ = b.toNat by omega), ofNat_eq (show _ = s.toNat by omega),
    ofNat_eq (show _ = t.toNat by omega)]

theorem encode_four {b s t u : UInt8} (hb : 0xF0 ≤ b.toNat ∧ b.toNat ≤ 0xF4)
    (hs : 0x80 ≤ s.toNat ∧ s.toNat ≤ 0xBF) (he : b.toNat = 0xF0 → 0x90 ≤ s.toNat)
    (ht : 0x80 ≤ t.toNat ∧ t.toNat ≤ 0xBF) (hu : 0x80 ≤ u.toNat ∧ u.toNat ≤ 0xBF) :
    encode (b.toNat % 8 * 262144 + low s * 4096 + low t * 64 + low u) = [b, s, t, u] := by
  rw [low, low, low, encode, if_neg (by omega), if_neg (by omega), if_neg (by omega)]
  rw [ofNat_eq (show _ = b.toNat by omega), ofNat_eq (show _ = s.toNat by omega),
    ofNat_eq (show _ = t.toNat by omega), ofNat_eq (show _ = u.toNat by omega)]

theorem chunk_sound {b : UInt8} {bs rest : Bytes} {c : Char} (h : chunk b bs = .char c rest) :
    b :: bs = String.utf8EncodeChar c ++ rest := by
  unfold chunk at h
  split at h
  · rename_i hb
    cases h
    have hb' : b.toNat < 0x80 := UInt8.lt_iff_toNat_lt.mp hb
    rw [encode_ofNat (.inl (by omega)), encode_one hb']
    rfl
  · split at h
    · rename_i hb
      have hb' : 0xC2 ≤ b.toNat ∧ b.toNat ≤ 0xDF := by simpa [UInt8.le_iff_toNat_le] using hb
      split at h
      · split at h
        · rename_i s rest hs
          cases h
          have ht := (isTail_iff s).mp hs
          rw [encode_ofNat (.inl (by unfold low; omega)), encode_two hb' ht]
          rfl
        · cases h
      · cases h
    · split at h
      · rename_i hb
        have hb' : 0xE0 ≤ b.toNat ∧ b.toNat ≤ 0xEF := by simpa [UInt8.le_iff_toNat_le] using hb
        split at h
        · split at h
          · rename_i s rest hs
            obtain ⟨ht, he, hsur, _, _⟩ := secondOk_bounds hs
            split at h
            · split at h
              · rename_i u rest hu
                cases h
                have hu' := (isTail_iff u).mp hu
                rw [encode_ofNat (by unfold Nat.isValidChar low; omega),
                  encode_three hb' ht he hu']
                rfl
              · cases h
            · cases h
          · cases h
        · cases h
      · split at h
        · rename_i hb
          have hb' : 0xF0 ≤ b.toNat ∧ b.toNat ≤ 0xF4 := by simpa [UInt8.le_iff_toNat_le] using hb
          split at h
          · split at h
            · rename_i s rest hs
              obtain ⟨ht, _, _, he, hmax⟩ := secondOk_bounds hs
              split at h
              · split at h
                · rename_i u rest hu
                  have hu' := (isTail_iff u).mp hu
                  split at h
                  · split at h
                    · rename_i v rest hv
                      cases h
                      have hv' := (isTail_iff v).mp hv
                      rw [encode_ofNat (by unfold Nat.isValidChar low; omega),
                        encode_four hb' ht he hu' hv']
                      rfl
                    · cases h
                  · cases h
                · cases h
              · cases h
            · cases h
          · cases h
        · cases h

/-! ### characters from their bytes -/

theorem toNat_ofNat_lt {n : Nat} (hn : n < 256) : (UInt8.ofNat n).toNat = n := by
  rw [UInt8.toNat_ofNat', Nat.mod_eq_of_lt hn]

theorem isTail_ofNat (n : Nat) : isTail (UInt8.ofNat (n % 0x40 + 0x80)) = true := by
  rw [isTail_iff, toNat_ofNat_lt (by omega)]
  omega

theorem low_ofNat (n : Nat) : low (UInt8.ofNat (n % 0x40 + 0x80)) = n % 0x40 := by
  rw [low, toNat_ofNat_lt (by omega)]
  omega

theorem chunk_two {b s : UInt8} {rest : Bytes} (hb : 0xC2 ≤ b.toNat ∧ b.toNat ≤ 0xDF)
    (hs : isTail s = true) :
    chunk b (s :: rest) = .char (Char.ofNat (b.toNat % 32 * 64 + low s)) rest := by
  rw [chunk.eq_def, if_neg (by simp [UInt8.lt_iff_toNat_lt]; omega),
    if_pos (by simp [UInt8.le_iff_toNat_le]; omega)]
  dsimp only
  rw [if_pos hs]

theorem chunk_three {b s t : UInt8} {rest : Bytes} (hb : 0xE0 ≤ b.toNat ∧ b.toNat ≤ 0xEF)
    (hs : secondOk b s = true) (ht : isTail t = true) :
    chunk b (s :: t :: rest) =
      .char (Char.ofNat (b.toNat % 16 * 4096 + low s * 64 + low t)) rest := by
  rw [chunk.eq_def, if_neg (by simp [UInt8.lt_iff_toNat_lt]; omega),
    if_neg (by simp [UInt8.le_iff_toNat_le]; omega),
    if_pos (by simp [UInt8.le_iff_toNat_le]; omega)]
  simp only [hs, ht, if_true]

theorem chunk_four {b s t u : UInt8} {rest : Bytes} (hb : 0xF0 ≤ b.toNat ∧ b.toNat ≤ 0xF4)
    (hs : secondOk b s = true) (ht : isTail t = true) (hu : isTail u = true) :
    chunk b (s :: t :: u :: rest) =
      .char (Char.ofNat (b.toNat % 8 * 262144 + low s * 4096 + low t * 64 + low u)) rest := by
  rw [chunk.eq_def, if_neg (by simp [UInt8.lt_iff_toNat_lt]; omega),
    if_neg (by simp [UInt8.le_iff_toNat_le]; omega),
    if_neg (by simp [UInt8.le_iff_toNat_le]; omega),
    if_pos (by simp [UInt8.le_iff_toNat_le]; omega)]
  simp only [hs, ht, hu, if_true]

theorem secondOk_of_bounds {b s : UInt8} (h : 0x80 ≤ s.toNat ∧ s.toNat ≤ 0xBF)
    (h0 : b.toNat = 0xE0 → 0xA0 ≤ s.toNat) (hd : b.toNat = 0xED → s.toNat ≤ 0x9F)
    (hf : b.toNat = 0xF0 → 0x90 ≤ s.toNat) (h4 : b.toNat = 0xF4 → s.toNat ≤ 0x8F) :
    secondOk b s = true := by
  simp only [secondOk, isTail, ← UInt8.toNat_inj]
  split
  · simp [UInt8.le_iff_toNat_le]
    rename_i e
    have := h0 e
    omega
  · split
    · simp [UInt8.le_iff_toNat_le]
      rename_i e
      have := hd e
      omega
    · split
      · simp [UInt8.le_iff_toNat_le]
        rename_i e
        have := hf e
        omega
      · split
        · simp [UInt8.le_iff_toNat_le]
          rename_i e
          have := h4 e
          omega
        · simp [UInt8.le_iff_toNat_le]
          omega

theorem encode_cons {n : Nat} (h : n.isValidChar) (rest : Bytes) :
    ∃ b bs, encode n = b :: bs ∧ chunk b (bs ++ rest) = .char (Char.ofNat n) rest := by
  have hn : n < 0xD800 ∨ 0xDFFF < n ∧ n < 0x110000 := h
  rw [encode]
  split
  · refine ⟨_, _, rfl, ?_⟩
    have hb : (UInt8.ofNat n).toNat = n := toNat_ofNat_lt (by omega)
    rw [chunk.eq_def, if_pos (by rw [UInt8.lt_iff_toNat_lt, hb]; change n < 128; omega), hb]
    rfl
  · split
    · refine ⟨_, _, rfl, ?_⟩
      have hb : (UInt8.ofNat (n / 64 % 0x20 + 0xC0)).toNat = n / 64 % 0x20 + 0xC0 :=
        toNat_ofNat_lt (by omega)
      rw [List.singleton_append, chunk_two (by omega) (isTail_ofNat n), hb, low_ofNat]
      congr 2
      omega
    · split
      · refine ⟨_, _, rfl, ?_⟩
        have hb : (UInt8.ofNat (n / 4096 % 0x10 + 0xE0)).toNat = n / 4096 % 0x10 + 0xE0 :=
          toNat_ofNat_lt (by omega)
        have hs : (UInt8.ofNat (n / 64 % 0x40 + 0x80)).toNat = n / 64 % 0x40 + 0x80 :=
          toNat_ofNat_lt (by omega)
        rw [List.cons_append, List.singleton_append, chunk_three (by omega)
          (secondOk_of_bounds (by omega) (by omega) (by omega) (by omega) (by omega))
          (isTail_ofNat n), hb, low_ofNat, low_ofNat]
        congr 2
        omega
      · refine ⟨_, _, rfl, ?_⟩
        have hb : (UInt8.ofNat (n / 262144 % 0x08 + 0xF0)).toNat = n / 262144 % 0x08 + 0xF0 :=
          toNat_ofNat_lt (by omega)
        have hs : (UInt8.ofNat (n / 4096 % 0x40 + 0x80)).toNat = n / 4096 % 0x40 + 0x80 :=
          toNat_ofNat_lt (by omega)
        rw [List.cons_append, List.cons_append, List.singleton_append, chunk_four (by omega)
          (secondOk_of_bounds (by omega) (by omega) (by omega) (by omega) (by omega))
          (isTail_ofNat _) (isTail_ofNat n), hb, low_ofNat, low_ofNat, low_ofNat]
        congr 2
        omega

/-- Behind the first byte, and in front of others, no byte is an ASCII character. -/
theorem ascii_of_mem_encode {n : Nat} {b : UInt8} (hb : b.toNat < 0x80) (h : b ∈ encode n) :
    n = b.toNat := by
  have hlarge : ∀ m, 0x80 ≤ m → m < 256 → b ≠ UInt8.ofNat m := by
    intro m hm hlt e
    rw [e, toNat_ofNat_lt hlt] at hb
    omega
  rw [encode] at h
  split at h
  · rw [List.mem_singleton.mp h, toNat_ofNat_lt (by omega)]
  · split at h
    · simp only [List.mem_cons, List.not_mem_nil, or_false] at h
      rcases h with h | h
      · exact absurd h (hlarge _ (by omega) (by omega))
      · exact absurd h (hlarge _ (by omega) (by omega))
    · split at h
      · simp only [List.mem_cons, List.not_mem_nil, or_false] at h
        rcases h with h | h | h
        · exact absurd h (hlarge _ (by omega) (by omega))
        · exact absurd h (hlarge _ (by omega) (by omega))
        · exact absurd h (hlarge _ (by omega) (by omega))
      · simp only [List.mem_cons, List.not_mem_nil, or_false] at h
        rcases h with h | h | h | h
        · exact absurd h (hlarge _ (by omega) (by omega))
        · exact absurd h (hlarge _ (by omega) (by omega))
        · exact absurd h (hlarge _ (by omega) (by omega))
        · exact absurd h (hlarge _ (by omega) (by omega))

end Utf8

theorem utf8_append (s t : String) : utf8 (s ++ t) = utf8 s ++ utf8 t := by
  rw [utf8, String.toList_append, List.flatMap_append]
  rfl

theorem fromUtf8?_sound {bs : Bytes} {cs : List Char} (h : fromUtf8? bs = some cs) :
    bs = cs.flatMap String.utf8EncodeChar := by
  fun_induction fromUtf8? bs generalizing cs with
  | case1 =>
    cases h
    rfl
  | case2 b bs c rest hc ih =>
    obtain ⟨ds, hd, rfl⟩ := Option.map_eq_some_iff.mp h
    rw [Utf8.chunk_sound hc, List.flatMap_cons, ih hd]
  | case3 => cases h

/-- The bytes of characters read as these characters. -/
theorem fromUtf8?_encode (cs : List Char) :
    fromUtf8? (cs.flatMap String.utf8EncodeChar) = some cs := by
  induction cs with
  | nil => rw [List.flatMap_nil, fromUtf8?]
  | cons c cs ih =>
    obtain ⟨b, bs, e, hc⟩ := Utf8.encode_cons c.valid (cs.flatMap String.utf8EncodeChar)
    rw [← Utf8.encode_ofNat c.valid] at e
    rw [show Char.ofNat c.val.toNat = c from Char.ofNat_toNat c] at e hc
    rw [List.flatMap_cons, e, List.cons_append, fromUtf8?]
    split
    · rename_i c' rest hc'
      rw [hc] at hc'
      cases hc'
      rw [ih]
      rfl
    · rename_i hc'
      rw [hc] at hc'
      cases hc'

/-- Bytes have a text just when they are those of it. -/
theorem text?_eq_some_iff {bs : Bytes} {s : String} : text? bs = some s ↔ bs = utf8 s := by
  constructor
  · intro h
    obtain ⟨cs, hcs, rfl⟩ := Option.map_eq_some_iff.mp h
    rw [utf8, String.toList_ofList]
    exact fromUtf8?_sound hcs
  · rintro rfl
    rw [text?, utf8, fromUtf8?_encode, Option.map_some, String.ofList_toList]

theorem lossy_of_fromUtf8? {bs : Bytes} {cs : List Char} (h : fromUtf8? bs = some cs) :
    lossy bs = String.ofList cs := by
  have hp : pieces bs = cs.map .inl := by
    fun_induction fromUtf8? bs generalizing cs with
    | case1 =>
      cases h
      rw [pieces]
      rfl
    | case2 b bs c rest hc ih =>
      obtain ⟨ds, hd, rfl⟩ := Option.map_eq_some_iff.mp h
      rw [pieces]
      split
      · rename_i hc'
        rw [hc] at hc'
        cases hc'
        rw [ih hd, List.map_cons]
      · rename_i hc'
        rw [hc] at hc'
        cases hc'
    | case3 => cases h
  rw [lossy, hp, List.map_map]
  exact congrArg String.ofList (List.map_id cs)

theorem lossy_utf8 (s : String) : lossy (utf8 s) = s := by
  rw [utf8, lossy_of_fromUtf8? (fromUtf8?_encode s.toList), String.ofList_toList]

theorem ascii_of_mem_utf8 {s : String} {b : UInt8} (hb : b.toNat < 0x80) (h : b ∈ utf8 s) :
    Char.ofNat b.toNat ∈ s.toList := by
  obtain ⟨c, hc, hm⟩ := List.mem_flatMap.mp h
  have he := Utf8.encode_ofNat c.valid
  rw [show Char.ofNat c.val.toNat = c from Char.ofNat_toNat c] at he
  rw [he] at hm
  rw [← Utf8.ascii_of_mem_encode hb hm]
  rwa [show Char.ofNat c.val.toNat = c from Char.ofNat_toNat c]

theorem utf8_injective {s s' : String} (h : utf8 s = utf8 s') : s = s' := by
  rw [← lossy_utf8 s, h, lossy_utf8]

end Text
end Dashboards
