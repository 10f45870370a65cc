import Mathlib.Data.List.Basic
import Mathlib.Data.List.InsertIdx
import Mathlib.Tactic.Ring
import Dashboards.Proofs.Text.Split
import Dashboards.Url.Punycode

/-!
# Punycode is read back

* `decodeNumber?_encodeNumber`   a difference is read from its digits;
* `Sync`                         writer and reader stand at the same place of a label: what the
                                 reader has is the part of the label that the writer has dealt with;
* `Sync.pass`, `Sync.write`      one character of the label keeps them together;
* `Between`                      so they are together at the end of each round over the label;
* `decode?_encode`               so every label is read back;
* `mem_encode`, `mem_decode`     of ASCII, the written form holds the same characters as the label,
                                 a hyphen and digits.
-/

namespace Dashboards
namespace Url
namespace Punycode

/-! ### numbers -/

theorem digitValue?_digitChar : ∀ d < 36, digitValue? (digitChar d) = some d := by decide

theorem digitChar_ne_hyphen : ∀ d < 36, digitChar d ≠ '-' := by decide

/-- The digits from position `k` on stand for a number of times the weight of that position. -/
theorem decodeNumber?_encodeNumber (bias k q w i : Nat) (rest : List Char) :
    decodeNumber? bias (encodeNumber bias k q ++ rest) k w i = some (i + q * w, rest) := by
  fun_induction encodeNumber bias k q generalizing w i with
  | case1 k q t hq =>
    have ht : threshold bias k ≤ 26 := threshold_le bias k
    have hq' : q < threshold bias k := hq
    rw [List.singleton_append, decodeNumber?, digitValue?_digitChar q (by omega)]
    dsimp only
    rw [if_pos hq']
  | case2 k q t hq ih =>
    have ht : threshold bias k ≤ 26 := threshold_le bias k
    have htq : t ≤ q := Nat.le_of_not_lt hq
    have hmod : (q - t) % (36 - t) < 36 - t := Nat.mod_lt _ (by omega)
    have hdiv : (q - t) % (36 - t) + (36 - t) * ((q - t) / (36 - t)) = q - t := Nat.mod_add_div _ _
    rw [List.cons_append, decodeNumber?, digitValue?_digitChar _ (by omega)]
    dsimp only
    rw [if_neg (by omega), ih]
    congr 2
    calc i + (t + (q - t) % (36 - t)) * w + (q - t) / (36 - t) * (w * (36 - t))
        = i + (t + ((q - t) % (36 - t) + (36 - t) * ((q - t) / (36 - t)))) * w := by ring
      _ = i + q * w := by rw [hdiv, Nat.add_sub_cancel' htq]

theorem encodeNumber_ne_nil (bias k q : Nat) : encodeNumber bias k q ≠ [] := by
  rw [encodeNumber]
  split
  · exact List.cons_ne_nil _ _
  · exact List.cons_ne_nil _ _

theorem mem_encodeNumber {bias k q : Nat} {c : Char} (h : c ∈ encodeNumber bias k q) :
    ∃ d < 36, c = digitChar d := by
  fun_induction encodeNumber bias k q with
  | case1 k q t hq =>
    have ht : threshold bias k ≤ 26 := threshold_le bias k
    exact ⟨q, by omega, List.mem_singleton.mp h⟩
  | case2 k q t hq ih =>
    have ht : threshold bias k ≤ 26 := threshold_le bias k
    have hmod : (q - t) % (36 - t) < 36 - t := Nat.mod_lt _ (by omega)
    rcases List.mem_cons.mp h with rfl | h
    · exact ⟨_, by omega, rfl⟩
    · exact ih h

/-! ### the label -/

theorem insertIdx_length {α : Type} (front back : List α) (x : α) :
    (front ++ back).insertIdx front.length x = front ++ x :: back := by
  induction front with
  | nil => rfl
  | cons a front ih => rw [List.cons_append, List.length_cons, List.insertIdx_succ_cons, ih]; rfl

/-- One step of the reader, at a difference `d`. -/
theorem decodeFrom?_encodeNumber (bias n i d : Nat) (out rest : List Char) :
    decodeFrom? bias n i out (encodeNumber bias 36 d ++ rest) =
      if (n + (i + d) / (out.length + 1)).isValidChar then
        decodeFrom? (adapt d (out.length + 1) (i = 0)) (n + (i + d) / (out.length + 1))
          ((i + d) % (out.length + 1) + 1)
          (out.insertIdx ((i + d) % (out.length + 1))
            (Char.ofNat (n + (i + d) / (out.length + 1)))) rest
      else none := by
  have hread := decodeNumber?_encodeNumber bias 36 d 1 i rest
  cases hcode : encodeNumber bias 36 d with
  | nil => exact absurd hcode (encodeNumber_ne_nil bias 36 d)
  | cons c cs =>
    rw [hcode, Nat.mul_one] at hread
    rw [List.cons_append] at hread ⊢
    rw [decodeFrom?]
    split
    · rename_i h
      rw [hread] at h
      cases h
    · rename_i j rest' h
      rw [hread] at h
      obtain ⟨rfl, rfl⟩ := Prod.mk.inj (Option.some.inj h)
      rw [Nat.add_sub_cancel_left]

/-- The characters of a label that have been dealt with when those equal to `m` are written and the
label is split at the place that has been reached. -/
def shown (m : Nat) (pre suf : List Char) : List Char :=
  pre.filter (·.toNat ≤ m) ++ suf.filter (·.toNat < m)

/-- The reader, who has `i` and `n`, has to go forward by the writer's difference to get to the
place that the writer has reached. -/
structure Sync (basics m : Nat) (pre suf : List Char) (e : Encoder) (n i : Nat) : Prop where
  handled : e.handled = (shown m pre suf).length
  delta : i + e.delta = (m - n) * (e.handled + 1) + (pre.filter (·.toNat ≤ m)).length
  order : n ≤ m
  first : i = 0 ↔ e.handled = basics
  begun : basics ≤ e.handled

section
variable {basics m n i : Nat} {pre suf : List Char} {e : Encoder} {c : Char}

/-- A character that is not written now. -/
theorem Sync.pass (h : Sync basics m pre (c :: suf) e n i) (hc : c.toNat ≠ m) :
    Sync basics m (pre ++ [c]) suf (e.see basics m c) n i ∧
      shown m (pre ++ [c]) suf = shown m pre (c :: suf) ∧ (e.see basics m c).out = e.out ∧
      (e.see basics m c).bias = e.bias := by
  obtain ⟨handled, delta, order, first, begun⟩ := h
  rcases Nat.lt_or_gt_of_ne hc with hlt | hgt
  · have hs : shown m (pre ++ [c]) suf = shown m pre (c :: suf) := by
      simp [shown, hlt, Nat.le_of_lt hlt]
    have hsee : e.see basics m c = { e with delta := e.delta + 1 } := by
      rw [Encoder.see, if_pos hlt]
    rw [hsee]
    refine ⟨⟨by rw [hs]; exact handled, ?_, order, first, begun⟩, hs, rfl, rfl⟩
    rw [List.filter_append, List.length_append]
    simp only [List.filter_singleton, hlt.le, decide_true, cond_true, List.length_singleton]
    omega
  · have hs : shown m (pre ++ [c]) suf = shown m pre (c :: suf) := by
      simp [shown, Nat.not_le.mpr hgt, Nat.not_lt.mpr hgt.le]
    have hsee : e.see basics m c = e := by
      rw [Encoder.see, if_neg (Nat.not_lt.mpr hgt.le), if_neg hc]
    rw [hsee]
    refine ⟨⟨by rw [hs]; exact handled, ?_, order, first, begun⟩, hs, rfl, rfl⟩
    rw [List.filter_append, List.length_append]
    simpa [Nat.not_le.mpr hgt] using delta

/-- A character that is written now is put where it belongs. -/
theorem Sync.write (h : Sync basics m pre (c :: suf) e n i) (hc : c.toNat = m) :
    Sync basics m (pre ++ [c]) suf (e.see basics m c) m
        ((pre.filter (·.toNat ≤ m)).length + 1) ∧
      ∃ code, (e.see basics m c).out = e.out ++ code ∧ ∀ rest,
        decodeFrom? e.bias n i (shown m pre (c :: suf)) (code ++ rest) =
          decodeFrom? (e.see basics m c).bias m ((pre.filter (·.toNat ≤ m)).length + 1)
            (shown m (pre ++ [c]) suf) rest := by
  obtain ⟨handled, delta, order, first, begun⟩ := h
  have hshown : shown m pre (c :: suf) =
      pre.filter (·.toNat ≤ m) ++ suf.filter (·.toNat < m) := by
    simp [shown, hc]
  have hshown' : shown m (pre ++ [c]) suf =
      pre.filter (·.toNat ≤ m) ++ c :: suf.filter (·.toNat < m) := by
    simp [shown, hc]
  have hsee : e.see basics m c = ⟨e.out ++ encodeNumber e.bias 36 e.delta, 0,
      adapt e.delta (e.handled + 1) (e.handled = basics), e.handled + 1⟩ := by
    rw [Encoder.see, if_neg (by omega), if_pos hc]
  have hle : (pre.filter (·.toNat ≤ m)).length < e.handled + 1 := by
    rw [handled, hshown, List.length_append]
    omega
  have hdiv : (i + e.delta) / (e.handled + 1) = m - n := by
    rw [delta, Nat.mul_comm, Nat.mul_add_div (by omega), Nat.div_eq_of_lt hle, Nat.add_zero]
  have hmod : (i + e.delta) % (e.handled + 1) = (pre.filter (·.toNat ≤ m)).length := by
    rw [delta, Nat.mul_comm, Nat.mul_add_mod, Nat.mod_eq_of_lt hle]
  have hm : n + (m - n) = m := Nat.add_sub_cancel' order
  rw [hsee]
  refine ⟨⟨?_, ?_, Nat.le_refl m, ?_, Nat.le_succ_of_le begun⟩,
    encodeNumber e.bias 36 e.delta, rfl, fun rest => ?_⟩
  · show e.handled + 1 = _
    rw [handled, hshown, hshown', List.length_append, List.length_append, List.length_cons]
    rfl
  · rw [List.filter_append, List.length_append]
    simp [hc]
  · show _ + 1 = 0 ↔ e.handled + 1 = basics
    omega
  · rw [decodeFrom?_encodeNumber, ← handled, hdiv, hmod, hm, if_pos (hc ▸ c.valid), ← hc,
      Char.ofNat_toNat, hc, hshown, hshown', insertIdx_length]
    simp only [first]

/-- The same between two rounds: all characters below `b` have been dealt with. -/
structure Between (cs : List Char) (basics b : Nat) (e : Encoder) (n i : Nat) : Prop where
  handled : e.handled = (cs.filter (·.toNat < b)).length
  delta : i + e.delta = (b - n) * (e.handled + 1)
  order : n ≤ b
  first : i = 0 ↔ e.handled = basics
  begun : basics ≤ e.handled

/-- A round begins for `m`, when no character lies between `b` and `m`. -/
theorem Between.start {cs : List Char} {b : Nat} (h : Between cs basics b e n i) (hbm : b ≤ m)
    (hleast : ∀ c ∈ cs, b ≤ c.toNat → m ≤ c.toNat) :
    cs.filter (·.toNat < b) = shown m [] cs ∧
      Sync basics m [] cs { e with delta := e.delta + (m - b) * (e.handled + 1) } n i := by
  have hpart : cs.filter (·.toNat < b) = shown m [] cs := by
    refine List.filter_congr fun c hc => decide_eq_decide.mpr ⟨fun h => by omega, fun h => ?_⟩
    exact Nat.lt_of_not_le fun h' => absurd (hleast c hc h') (by omega)
  refine ⟨hpart, hpart ▸ h.handled, ?_, Nat.le_trans h.order hbm, h.first, h.begun⟩
  have horder := h.order
  have hsum : m - n = (b - n) + (m - b) := by omega
  rw [hsum, Nat.add_mul, ← h.delta]
  exact (Nat.add_assoc i e.delta _).symm

theorem shown_all (m : Nat) (cs : List Char) : shown m cs [] = cs.filter (·.toNat < m + 1) := by
  rw [shown, List.filter_nil, List.append_nil]
  exact List.filter_congr fun c _ => decide_eq_decide.mpr Nat.lt_succ_iff.symm

/-- It ends when the whole label has been gone over. -/
theorem Sync.next {cs : List Char} (h : Sync basics m cs [] e n i) :
    Between cs basics (m + 1) { e with delta := e.delta + 1 } n i := by
  have horder := h.order
  have hdelta := h.delta
  have hcount : (cs.filter (·.toNat ≤ m)).length = e.handled := by
    rw [h.handled, shown, List.filter_nil, List.append_nil]
  refine ⟨by rw [← shown_all, h.handled], ?_, by omega, h.first, h.begun⟩
  have hnext : m + 1 - n = (m - n) + 1 := by omega
  rw [hcount] at hdelta
  show i + (e.delta + 1) = (m + 1 - n) * (e.handled + 1)
  rw [hnext, Nat.succ_mul]
  omega

end

/-! ### character after character -/

section
variable {cs : List Char} {basics : Nat}

/-- What is written from a state on, when the reader stands there with `n`, `i` and a part of the
label, lets him read the whole of it. -/
def Completes (cs : List Char) (e : Encoder) (n i : Nat) (part : List Char) (final : Encoder) :
    Prop :=
  ∃ code, final.out = e.out ++ code ∧ decodeFrom? e.bias n i part code = some cs

/-- The rest of the label, while the characters equal to `m` are written. -/
theorem completes_fold {m : Nat} (next : Encoder → Encoder)
    (hnext : ∀ e n i, Sync basics m cs [] e n i → Completes cs e n i (shown m cs []) (next e))
    (pre suf : List Char) (hcs : cs = pre ++ suf) {e : Encoder} {n i : Nat}
    (h : Sync basics m pre suf e n i) :
    Completes cs e n i (shown m pre suf) (next (suf.foldl (Encoder.see basics m) e)) := by
  induction suf generalizing pre e n i with
  | nil =>
    rw [List.append_nil] at hcs
    subst hcs
    exact hnext e n i h
  | cons c suf ih =>
    have hcs' : cs = (pre ++ [c]) ++ suf := by rw [hcs, List.append_assoc, List.singleton_append]
    rw [List.foldl_cons]
    by_cases hc : c.toNat = m
    · obtain ⟨hs, code, hout, hread⟩ := h.write hc
      obtain ⟨code', hout', hread'⟩ := ih (pre ++ [c]) hcs' hs
      exact ⟨code ++ code', by rw [hout', hout, List.append_assoc], by rw [hread, hread']⟩
    · obtain ⟨hs, hshown, hout, hbias⟩ := h.pass hc
      obtain ⟨code, hout', hread⟩ := ih (pre ++ [c]) hcs' hs
      exact ⟨code, by rw [hout', hout], by rw [← hshown, ← hbias]; exact hread⟩

/-- All characters from `b` on, whose codes are given in ascending order. -/
theorem completes_encodeFrom {ms : List Nat} (hms : ms.Pairwise (· < ·)) {b : Nat}
    (hb : ∀ m ∈ ms, b ≤ m) (hall : ∀ c ∈ cs, b ≤ c.toNat → c.toNat ∈ ms) {e : Encoder}
    {n i : Nat} (h : Between cs basics b e n i) :
    Completes cs e n i (cs.filter (·.toNat < b)) (encodeFrom cs basics ms b e) := by
  induction ms generalizing b e n i with
  | nil =>
    have hself : cs.filter (·.toNat < b) = cs := by
      refine List.filter_eq_self.mpr fun c hc => decide_eq_true (Nat.lt_of_not_le fun h => ?_)
      exact List.not_mem_nil (hall c hc h)
    rw [hself]
    exact ⟨[], by rw [encodeFrom, List.append_nil], by rw [decodeFrom?]⟩
  | cons m ms ih =>
    obtain ⟨hlt, hms⟩ := List.pairwise_cons.mp hms
    have hleast : ∀ c ∈ cs, b ≤ c.toNat → m ≤ c.toNat := by
      intro c hc h
      rcases List.mem_cons.mp (hall c hc h) with h | h
      · exact h.ge
      · exact (hlt _ h).le
    have hbm : b ≤ m := hb m List.mem_cons_self
    obtain ⟨hpart, hstart⟩ := h.start hbm hleast
    rw [hpart]
    refine completes_fold (fun e => encodeFrom cs basics ms (m + 1)
      { e with delta := e.delta + 1 }) (fun e' n' i' h => ?_) [] cs
      (List.nil_append cs).symm hstart
    rw [shown_all]
    refine ih hms (fun x hx => hlt x hx) (fun c hc h' => ?_) h.next
    exact (List.mem_cons.mp (hall c hc (by omega))).resolve_left (by omega)

end

theorem mem_insertOnce {x y : Nat} {l : List Nat} : y ∈ insertOnce x l ↔ y = x ∨ y ∈ l := by
  fun_induction insertOnce x l with
  | case1 => simp
  | case2 => simp
  | case3 => simp
  | case4 _ _ _ _ ih => simp [ih, or_left_comm]

theorem insertOnce_ascending {x : Nat} {l : List Nat} (h : l.Pairwise (· < ·)) :
    (insertOnce x l).Pairwise (· < ·) := by
  fun_induction insertOnce x l with
  | case1 => exact List.pairwise_singleton _ _
  | case2 y ys hlt =>
    refine List.pairwise_cons.mpr ⟨List.forall_mem_cons.mpr ⟨hlt, fun z hz => ?_⟩, h⟩
    exact Nat.lt_trans hlt ((List.pairwise_cons.mp h).1 z hz)
  | case3 => exact h
  | case4 y ys hlt hne ih =>
    obtain ⟨hy, hys⟩ := List.pairwise_cons.mp h
    refine List.pairwise_cons.mpr ⟨fun z hz => ?_, ih hys⟩
    rcases mem_insertOnce.mp hz with rfl | hz
    · omega
    · exact hy z hz

/-- The codes of characters, in ascending order and each once. -/
theorem codes_ascending (cs : List Char) :
    (cs.foldr (fun c acc => insertOnce c.toNat acc) []).Pairwise (· < ·) := by
  induction cs with
  | nil => exact List.Pairwise.nil
  | cons c cs ih => exact insertOnce_ascending ih

theorem mem_codes {cs : List Char} {n : Nat} :
    n ∈ cs.foldr (fun c acc => insertOnce c.toNat acc) [] ↔ ∃ c ∈ cs, c.toNat = n := by
  induction cs with
  | nil => simp
  | cons c cs ih => simp [mem_insertOnce, ih, eq_comm]

/-! ### the whole -/

theorem mem_encodeFrom {cs : List Char} {basics b : Nat} {ms : List Nat} {e : Encoder} {c : Char}
    (h : c ∈ (encodeFrom cs basics ms b e).out) : c ∈ e.out ∨ ∃ d < 36, c = digitChar d := by
  have hfold : ∀ (m : Nat) (cs : List Char) (e : Encoder),
      c ∈ (cs.foldl (Encoder.see basics m) e).out → c ∈ e.out ∨ ∃ d < 36, c = digitChar d := by
    intro m cs
    induction cs with
    | nil => exact fun e h => .inl h
    | cons a cs ih =>
      intro e h
      rcases ih _ h with h | h
      · rw [Encoder.see] at h
        split at h
        · exact .inl h
        · split at h
          · exact (List.mem_append.mp h).imp_right mem_encodeNumber
          · exact .inl h
      · exact .inr h
  induction ms generalizing b e with
  | nil => exact .inl h
  | cons m ms ih =>
    rcases ih h with h | h
    · exact hfold m cs ⟨e.out, e.delta + (m - b) * (e.handled + 1), e.bias, e.handled⟩ h
    · exact .inr h

theorem mem_encode {cs : List Char} {c : Char} (h : c ∈ encode cs) :
    (c ∈ cs ∧ c.toNat < 128) ∨ c = '-' ∨ ∃ d < 36, c = digitChar d := by
  rw [encode] at h
  rcases List.mem_append.mp h with h | h
  · rcases List.mem_append.mp h with h | h
    · obtain ⟨hc, hlt⟩ := List.mem_filter.mp h
      exact .inl ⟨hc, of_decide_eq_true hlt⟩
    · split at h
      · cases h
      · exact .inr (.inl (List.mem_singleton.mp h))
  · rcases mem_encodeFrom h with h | h
    · cases h
    · exact .inr (.inr h)

section
variable {front code : List Char}

theorem decode?_bare (h : ∀ c ∈ code, c ≠ '-') : decode? code = decodeFrom? 72 128 0 [] code := by
  have h' : ∀ c ∈ code.reverse, decide (c ≠ '-') = true :=
    fun c hc => decide_eq_true (h c (List.mem_reverse.mp hc))
  rw [decode?, List.takeWhile_eq_self_iff.mpr h', List.reverse_reverse, if_pos]
  simp

theorem decode?_behind (hf : front ≠ []) (ha : ∀ c ∈ front, c.toNat < 128)
    (h : ∀ c ∈ code, c ≠ '-') :
    decode? (front ++ '-' :: code) = decodeFrom? 72 128 0 front code := by
  have h' : ∀ c ∈ code.reverse, decide (c ≠ '-') = true :=
    fun c hc => decide_eq_true (h c (List.mem_reverse.mp hc))
  have hreverse : (front ++ '-' :: code).reverse = code.reverse ++ '-' :: front.reverse := by simp
  have hlength : (front ++ '-' :: code).length - code.length - 1 = front.length := by
    rw [List.length_append, List.length_cons]
    omega
  rw [decode?, hreverse, Text.takeWhile_stop h' (by decide), List.reverse_reverse, hlength,
    List.take_left, if_neg (by simpa using hf), if_pos]
  exact List.all_eq_true.mpr fun c hc => decide_eq_true (ha c hc)

end

theorem decode?_encode (cs : List Char) : decode? (encode cs) = some cs := by
  have hothers : ∀ c ∈ cs, 128 ≤ c.toNat →
      c.toNat ∈ (cs.filter (128 ≤ ·.toNat)).foldr (fun c acc => insertOnce c.toNat acc) [] :=
    fun c hc h => mem_codes.mpr ⟨c, List.mem_filter.mpr ⟨hc, decide_eq_true h⟩, rfl⟩
  have hleast : ∀ m ∈ (cs.filter (128 ≤ ·.toNat)).foldr (fun c acc => insertOnce c.toNat acc) [],
      128 ≤ m := by
    intro m hm
    obtain ⟨c, hc, rfl⟩ := mem_codes.mp hm
    exact of_decide_eq_true (List.mem_filter.mp hc).2
  obtain ⟨code, hout, hread⟩ : Completes cs ⟨[], 0, 72, (cs.filter (·.toNat < 128)).length⟩ 128 0
      (cs.filter (·.toNat < 128)) _ :=
    completes_encodeFrom (codes_ascending _) hleast hothers
      ⟨rfl, by simp, Nat.le_refl _, by simp, Nat.le_refl _⟩
  have hcode : ∀ c ∈ code, c ≠ '-' := by
    intro c hc
    rcases mem_encodeFrom (hout ▸ List.mem_append_right _ hc) with h | ⟨d, hd, rfl⟩
    · cases h
    · exact digitChar_ne_hyphen d hd
  have hascii : ∀ c ∈ cs.filter (·.toNat < 128), c.toNat < 128 :=
    fun c hc => of_decide_eq_true (List.mem_filter.mp hc).2
  rw [encode, hout, List.nil_append]
  cases hbasic : cs.filter (·.toNat < 128) with
  | nil =>
    rw [hbasic] at hread
    exact (decode?_bare hcode).trans hread
  | cons b bs =>
    rw [hbasic] at hread hascii
    rw [if_neg (by simp), List.append_assoc, List.singleton_append,
      decode?_behind (List.cons_ne_nil _ _) hascii hcode]
    exact hread

/-! ### characters of ASCII -/

theorem mem_decodeFrom {bias n i : Nat} {out code cs : List Char} (hn : 128 ≤ n)
    (h : decodeFrom? bias n i out code = some cs) :
    ∀ c ∈ cs, c.toNat < 128 → c ∈ out := by
  fun_induction decodeFrom? bias n i out code with
  | case1 => exact fun c hc _ => Option.some.inj h ▸ hc
  | case2 => cases h
  | case3 bias n i out d ds j rest hnumber count m hvalid ih =>
    intro c hc hascii
    have hmem := ih (Nat.le_add_right_of_le hn) h c hc hascii
    rcases List.eq_or_mem_of_mem_insertIdx hmem with rfl | hc
    · rw [Char.ofNat, dif_pos hvalid] at hascii
      exact absurd hascii (Nat.not_lt.mpr (Nat.le_add_right_of_le hn))
    · exact hc
  | case4 => cases h

/-- A reader adds no characters of ASCII to those of the written form. -/
theorem mem_decode {code cs : List Char} (h : decode? code = some cs) :
    ∀ c ∈ cs, c.toNat < 128 → c ∈ code := by
  rw [decode?] at h
  split at h
  · exact fun c hc hascii => absurd (mem_decodeFrom (Nat.le_refl _) h c hc hascii) List.not_mem_nil
  · split at h
    · exact fun c hc hascii => List.mem_of_mem_take (mem_decodeFrom (Nat.le_refl _) h c hc hascii)
    · cases h

end Punycode
end Url
end Dashboards
