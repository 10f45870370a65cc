import Dashboards.Proofs.Text.Utf8

/-!
# The order of texts

Texts are ordered like their bytes.

* `encode_lt`   the bytes of a character come before those of one with a larger number;
* `utf8_lt`     so that of two texts the bytes of the smaller one come first.
-/

namespace Dashboards
namespace Text
namespace Utf8

/-- The first byte decides, or the others do. -/
theorem cons_ofNat_lt {m n : Nat} {x y : Bytes} (hm : m < 256) (hn : n < 256) (hle : m ≤ n)
    (h : m = n → x < y) : UInt8.ofNat m :: x < UInt8.ofNat n :: y := by
  rw [List.cons_lt_cons_iff, UInt8.lt_iff_toNat_lt, ← UInt8.toNat_inj, toNat_ofNat_lt hm,
    toNat_ofNat_lt hn]
  exact (Nat.lt_or_eq_of_le hle).imp_right fun e => ⟨e, h e⟩

/-- Whatever follows, the bytes of the smaller number come first. -/
theorem encode_lt {m n : Nat} (h : m < n) (hn : n < 0x110000) (x y : Bytes) :
    encode m ++ x < encode n ++ y := by
  rw [encode, encode]
  -- Of different length, the first bytes differ; otherwise the bytes are compared one by one.
  split
  · split
    · exact cons_ofNat_lt (by omega) (by omega) (by omega) (by omega)
    · split
      · exact cons_ofNat_lt (by omega) (by omega) (by omega) (by omega)
      · split <;> exact cons_ofNat_lt (by omega) (by omega) (by omega) (by omega)
  · rw [if_neg (by omega : ¬ n ≤ 0x7F)]
    split
    · split
      · exact cons_ofNat_lt (by omega) (by omega) (by omega) fun _ =>
          cons_ofNat_lt (by omega) (by omega) (by omega) (by omega)
      · split <;> exact cons_ofNat_lt (by omega) (by omega) (by omega) (by omega)
    · rw [if_neg (by omega : ¬ n ≤ 0x7FF)]
      split
      · split
        · exact cons_ofNat_lt (by omega) (by omega) (by omega) fun _ =>
            cons_ofNat_lt (by omega) (by omega) (by omega) fun _ =>
              cons_ofNat_lt (by omega) (by omega) (by omega) (by omega)
        · exact cons_ofNat_lt (by omega) (by omega) (by omega) (by omega)
      · rw [if_neg (by omega : ¬ n ≤ 0xFFFF)]
        exact cons_ofNat_lt (by omega) (by omega) (by omega) fun _ =>
          cons_ofNat_lt (by omega) (by omega) (by omega) fun _ =>
            cons_ofNat_lt (by omega) (by omega) (by omega) fun _ =>
              cons_ofNat_lt (by omega) (by omega) (by omega) (by omega)

theorem encode_char (c : Char) : String.utf8EncodeChar c = encode c.toNat := by
  have h := encode_ofNat (n := c.toNat) c.valid
  rwa [Char.ofNat_toNat] at h

theorem toNat_lt (c : Char) : c.toNat < 0x110000 := by
  have h : c.toNat.isValidChar := c.valid
  rcases h with h | ⟨-, h⟩
  · omega
  · exact h

end Utf8

open Utf8

theorem flatMap_encode_lt {cs ds : List Char} (h : cs < ds) :
    cs.flatMap String.utf8EncodeChar < ds.flatMap String.utf8EncodeChar := by
  induction h with
  | nil =>
    rename_i d ds
    obtain ⟨b, bs, he, -⟩ := encode_cons (n := d.toNat) d.valid []
    rw [List.flatMap_cons, encode_char, he]
    exact List.nil_lt_cons ..
  | rel hlt =>
    rw [List.flatMap_cons, List.flatMap_cons, encode_char, encode_char]
    exact encode_lt hlt (toNat_lt _) _ _
  | cons _ ih =>
    rw [List.flatMap_cons, List.flatMap_cons]
    exact List.append_left_lt ih

theorem utf8_lt {s t : String} (h : s < t) : utf8 s < utf8 t :=
  flatMap_encode_lt (String.lt_iff.mp h)

end Text
end Dashboards
