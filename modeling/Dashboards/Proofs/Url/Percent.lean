import Dashboards.Url.Percent

/-!
# Percent encoding settles

* `Admits`                    the characters that a part of a URL holds as they are;
* `admits_percentEncode`      an encoded text has no others;
* `percentEncode_admitted`    such a text is not changed any more.
-/

namespace Dashboards
namespace Url

/-- A character of printable ASCII that is not reserved. -/
structure Admits (reserved : Reserved) (c : Char) : Prop where
  low : 0x20 ≤ c.toNat
  high : c.toNat < 0x7F
  free : c ∉ reserved

instance (reserved : Reserved) (c : Char) : Decidable (Admits reserved c) :=
  decidable_of_iff (0x20 ≤ c.toNat ∧ c.toNat < 0x7F ∧ c ∉ reserved)
    ⟨fun ⟨h, h', h''⟩ => ⟨h, h', h''⟩, fun ⟨h, h', h''⟩ => ⟨h, h', h''⟩⟩

/-- What escapes are made of is admitted. -/
structure Escapable (reserved : Reserved) : Prop where
  sign : Admits reserved '%'
  digit : ∀ n < 16, Admits reserved (upperHex n)

section
variable {reserved : Reserved} {c : Char} {cs : List Char}

theorem Admits.not_space (h : Admits reserved c) (hs : ' ' ∈ reserved) : 0x20 < c.toNat := by
  refine Nat.lt_of_le_of_ne h.low fun e => h.free ?_
  rwa [← Char.toNat_inj.mp (show ' '.toNat = c.toNat from e)]

theorem percentChar_admitted (h : Admits reserved c) : percentChar reserved c = [c] := by
  have h1 := h.low
  have h2 := h.high
  rw [percentChar, if_neg]
  simp only [Bool.or_eq_true, decide_eq_true_eq, List.contains_iff_mem]
  exact fun hc => hc.elim (by omega) h.free

theorem mem_percentByte {b : UInt8} (h : c ∈ percentByte b) :
    c = '%' ∨ ∃ n < 16, c = upperHex n := by
  have hb := b.toNat_lt
  rw [percentByte] at h
  simp only [List.mem_cons, List.not_mem_nil, or_false] at h
  rcases h with h | h | h
  · exact .inl h
  · exact .inr ⟨_, by omega, h⟩
  · exact .inr ⟨_, by omega, h⟩

/-- A character of an encoded text belongs to an escape or to the text. -/
theorem mem_percentEncode (h : c ∈ percentEncode reserved cs) :
    (c = '%' ∨ ∃ n < 16, c = upperHex n) ∨
      c ∈ cs ∧ 0x20 ≤ c.toNat ∧ c.toNat < 0x7F ∧ c ∉ reserved := by
  obtain ⟨d, hd, h⟩ := List.mem_flatMap.mp h
  rw [percentChar] at h
  split at h
  · obtain ⟨b, -, h⟩ := List.mem_flatMap.mp h
    exact .inl (mem_percentByte h)
  · rename_i hn
    simp only [Bool.or_eq_true, decide_eq_true_eq, List.contains_iff_mem, not_or] at hn
    rw [List.mem_singleton.mp h]
    exact .inr ⟨hd, by omega, by omega, hn.2⟩

theorem admits_percentEncode (hr : Escapable reserved) (cs : List Char) :
    ∀ c ∈ percentEncode reserved cs, Admits reserved c := by
  intro c hc
  rcases mem_percentEncode hc with (rfl | ⟨n, hn, rfl⟩) | ⟨-, h, h', h''⟩
  · exact hr.sign
  · exact hr.digit n hn
  · exact ⟨h, h', h''⟩

theorem admits_encoded (hr : Escapable reserved) (cs : List Char) :
    ∀ c ∈ (String.ofList (percentEncode reserved cs)).toList, Admits reserved c := by
  rw [String.toList_ofList]
  exact admits_percentEncode hr cs

theorem percentEncode_admitted (h : ∀ c ∈ cs, Admits reserved c) :
    percentEncode reserved cs = cs := by
  rw [percentEncode]
  induction cs with
  | nil => rfl
  | cons c cs ih =>
    obtain ⟨hc, h⟩ := List.forall_mem_cons.mp h
    rw [List.flatMap_cons, percentChar_admitted hc, ih h, List.singleton_append]

end

/-! ### the parts of a URL -/

theorem escapable_inFragment : Escapable inFragment := ⟨by decide, by decide⟩

theorem escapable_inQuery : Escapable inQuery := ⟨by decide, by decide⟩

theorem escapable_inPath : Escapable inPath := ⟨by decide, by decide⟩

theorem escapable_inUserinfo : Escapable inUserinfo := ⟨by decide, by decide⟩

end Url
end Dashboards
