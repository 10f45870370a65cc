import Mathlib.Algebra.Group.Nat.Defs
import Mathlib.Data.List.Induction
import Dashboards.Proofs.Text.Split
import Dashboards.Proofs.Url.Pieces
import Dashboards.Url.Address

/-!
# Numeric addresses are read back

* `numberIn?_toDigits`   a number is read from its digits;
* `ipv4?_ipv4Text`       a number of 32 bits is read from the text of the address;
* `ipv6?_ipv6Text`       eight groups are read from theirs, whichever row of zeros is left out;
* `ipv4?_lt`, `ipv6?_groups`   which numbers and groups an address has.
-/

namespace Dashboards
namespace Url

/-! ### numbers -/

theorem digitIn?_digitChar {b d : Nat} (hb : b ≤ 16) (hd : d < b) :
    digitIn? b (Nat.digitChar d) = some d := by
  have hv : ∀ d < 16, digitIn? 16 (Nat.digitChar d) = some d := by decide
  have h := hv d (by omega)
  rw [digitIn?, Option.filter_eq_some_iff] at h ⊢
  exact ⟨h.1, decide_eq_true hd⟩

theorem digitIn?_lt {b d : Nat} {c : Char} (h : digitIn? b c = some d) : d < b := by
  rw [digitIn?, Option.filter_eq_some_iff] at h
  exact of_decide_eq_true h.2

theorem numberIn?_concat (b : Nat) (cs : List Char) (c : Char) :
    numberIn? b (cs ++ [c]) =
      (numberIn? b cs).bind fun n => (digitIn? b c).bind fun d => some (n * b + d) := by
  rw [numberIn?, List.foldl_append]
  rfl

theorem numberIn?_toDigits {b : Nat} (hb : 1 < b) (hb' : b ≤ 16) (n : Nat) :
    numberIn? b (Nat.toDigits b n) = some n := by
  induction n using Nat.strongRecOn with
  | ind n ih =>
    rw [Nat.toDigits_eq_if hb]
    split
    · rename_i h
      rw [← List.nil_append [n.digitChar], numberIn?_concat, digitIn?_digitChar hb' h]
      simp [numberIn?]
    · rename_i h
      rw [numberIn?_concat, ih (n / b) (Nat.div_lt_self (by omega) hb),
        digitIn?_digitChar hb' (Nat.mod_lt n (by omega))]
      simp [Nat.div_add_mod']

/-- A number to which a digit is added. -/
theorem digit_lt {m d b k : Nat} (hm : m < k) (hd : d < b) : m * b + d < k * b :=
  calc m * b + d < m * b + b := Nat.add_lt_add_left hd _
    _ = (m + 1) * b := (Nat.succ_mul m b).symm
    _ ≤ k * b := Nat.mul_le_mul_right b hm

theorem numberIn?_lt {b : Nat} {cs : List Char} {n : Nat} (h : numberIn? b cs = some n) :
    n < b ^ cs.length := by
  induction cs using List.reverseRecOn generalizing n with
  | nil =>
    cases h
    exact Nat.one_pos
  | append_singleton cs c ih =>
    rw [numberIn?_concat] at h
    obtain ⟨m, hm, h⟩ := Option.bind_eq_some_iff.mp h
    obtain ⟨d, hd, h⟩ := Option.bind_eq_some_iff.mp h
    cases h
    rw [List.length_append, List.length_singleton, Nat.pow_succ]
    exact digit_lt (ih hm) (digitIn?_lt hd)

/-! ### four numbers -/

theorem ipv4Number?_text :
    ∀ x < 256, ipv4Number? (toString x).toList = some x ∧
      (toString x).toList.all Char.isDigit = true ∧ (toString x).toList ≠ [] := by
  decide +kernel

theorem ipv4Text_toList (n : Nat) : (ipv4Text n).toList =
    (toString (n / 16777216 % 256)).toList ++
      [n / 65536 % 256, n / 256 % 256, n % 256].flatMap fun x => '.' :: (toString x).toList := by
  rw [ipv4Text, String.toList_intercalate]
  simp

theorem pointParts_ipv4Text (n : Nat) : pointParts (ipv4Text n).toList =
    [n / 16777216 % 256, n / 65536 % 256, n / 256 % 256, n % 256].map
      fun x => (toString x).toList := by
  have hpoint : ∀ x < 256, ∀ c ∈ (toString x).toList, decide (c = '.') = false := by
    intro x hx c hc
    have hd := List.all_eq_true.mp (ipv4Number?_text x hx).2.1 c hc
    refine decide_eq_false fun e => ?_
    rw [e] at hd
    exact absurd hd (by decide)
  rw [pointParts, ipv4Text_toList, ← List.flatMap_map]
  refine Idna.splitAt_flatMap (by decide) (fun w hw => ?_) _ (hpoint _ (by omega))
  simp only [List.map_cons, List.map_nil, List.mem_cons, List.not_mem_nil, or_false] at hw
  rcases hw with rfl | rfl | rfl
  · exact hpoint _ (by omega)
  · exact hpoint _ (by omega)
  · exact hpoint _ (by omega)

/-- The text of an address ends in a number, so that it is read as one. -/
theorem looksNumeric_ipv4Text (n : Nat) : looksNumeric (ipv4Text n).toList = true := by
  obtain ⟨-, hd, hne⟩ := ipv4Number?_text (n % 256) (by omega)
  have hlast : lastPart (ipv4Text n).toList = (toString (n % 256)).toList := by
    rw [lastPart, pointParts_ipv4Text]
    simp only [List.map_cons, List.map_nil, List.reverse_cons, List.reverse_nil, List.nil_append,
      List.cons_append]
    split
    · rename_i h
      exact absurd (List.cons.inj h).1 hne
    · rename_i h
      exact (List.cons.inj h).1.symm
    · rename_i h
      exact absurd h (List.cons_ne_nil _ _)
  rw [looksNumeric, hlast, hd, Bool.and_true, Bool.or_eq_true]
  left
  simp

theorem ipv4?_ipv4Text {n : Nat} (hn : n < 2 ^ 32) : ipv4? (ipv4Text n).toList = some n := by
  obtain ⟨ha, -, -⟩ := ipv4Number?_text (n / 16777216 % 256) (by omega)
  obtain ⟨hb, -, -⟩ := ipv4Number?_text (n / 65536 % 256) (by omega)
  obtain ⟨hc, -, -⟩ := ipv4Number?_text (n / 256 % 256) (by omega)
  obtain ⟨hd, -, hne⟩ := ipv4Number?_text (n % 256) (by omega)
  rw [ipv4?, pointParts_ipv4Text]
  simp only [List.map_cons, List.map_nil, List.getLast?_cons_cons, List.getLast?_singleton,
    Option.some.injEq, hne, if_false, List.length_cons, List.length_nil, List.mapM_cons,
    List.mapM_nil, ha, hb, hc, hd, Option.bind_eq_bind, Option.bind_some, Option.pure_def,
    List.dropLast_cons_cons, List.dropLast_singleton, List.any_cons, List.any_nil,
    List.foldl_cons, List.foldl_nil]
  rw [if_neg (by decide), if_neg (by simp; omega), Option.some.injEq]
  show (((0 * 256 + n / 16777216 % 256) * 256 + n / 65536 % 256) * 256 + n / 256 % 256) * 256 +
    n % 256 = n
  omega

/-- Numbers of eight bits, one behind the other. -/
theorem foldl_lt {front : List Nat} (h : ∀ x ∈ front, x ≤ 255) :
    front.foldl (fun n x => n * 256 + x) 0 < 256 ^ front.length := by
  induction front using List.reverseRecOn with
  | nil => exact Nat.one_pos
  | append_singleton front x ih =>
    rw [List.forall_mem_append, List.forall_mem_singleton] at h
    rw [List.foldl_append, List.length_append, List.length_singleton, Nat.pow_succ, List.foldl_cons,
      List.foldl_nil]
    exact digit_lt (ih h.1) (Nat.lt_succ_of_le h.2)

theorem ipv4?_lt {cs : List Char} {n : Nat} (h : ipv4? cs = some n) : n < 2 ^ 32 := by
  rw [ipv4?] at h
  dsimp only at h
  generalize (if (pointParts cs).getLast? = some [] then (pointParts cs).dropLast
    else pointParts cs) = parts at h
  split at h
  · cases h
  · rename_i hlen
    obtain ⟨numbers, hnumbers, h⟩ := Option.bind_eq_some_iff.mp h
    obtain ⟨last, hlast, h⟩ := Option.bind_eq_some_iff.mp h
    split at h
    · cases h
    · rename_i hbounds
      simp only [Bool.or_eq_true, List.any_eq_true, decide_eq_true_eq, not_or, not_exists, not_and,
        not_lt, not_le, ge_iff_le, gt_iff_lt] at hbounds
      obtain ⟨hfront, hlt⟩ := hbounds
      have hlt : last < 256 ^ (4 - numbers.dropLast.length) := hlt
      have hcount := (Idna.mapM_eq_some_iff.mp hnumbers).length_eq
      have hk : numbers.dropLast.length ≤ 4 := by
        rw [List.length_dropLast]
        omega
      have hfold := foldl_lt hfront
      rw [← Option.some.inj h]
      show numbers.dropLast.foldl _ 0 * 256 ^ (4 - numbers.dropLast.length) + last < 2 ^ 32
      calc _ < 256 ^ numbers.dropLast.length * 256 ^ (4 - numbers.dropLast.length) :=
            digit_lt hfold hlt
        _ = 256 ^ 4 := by rw [← Nat.pow_add, Nat.add_sub_cancel' hk]

/-! ### eight groups -/

/-- Groups with a colon behind each. -/
def leading (gs : List Nat) : List Char := gs.flatMap (hexText · ++ [':'])

theorem hexText_ne_nil (g : Nat) : hexText g ≠ [] := Nat.toDigits_ne_nil

theorem hexText_digits (g : Nat) : ∀ c ∈ hexText g, (digitIn? 16 c).isSome = true := by
  induction g using Nat.strongRecOn with
  | ind g ih =>
    rw [hexText, Nat.toDigits_eq_if (by decide)]
    split
    · rename_i h
      rw [List.forall_mem_singleton, digitIn?_digitChar (by decide) h]
      rfl
    · rename_i h
      rw [List.forall_mem_append, List.forall_mem_singleton,
        digitIn?_digitChar (by decide) (Nat.mod_lt g (by decide))]
      exact ⟨ih _ (Nat.div_lt_self (by omega) (by decide)), rfl⟩

theorem colons_cons_cons (g g' : Nat) (gs : List Nat) :
    colons (g :: g' :: gs) = hexText g ++ ':' :: colons (g' :: gs) := by
  simp [colons]

theorem colons_concat (gs : List Nat) (g : Nat) : colons (gs ++ [g]) = leading gs ++ hexText g := by
  induction gs with
  | nil => simp [colons, leading]
  | cons a as ih =>
    cases as with
    | nil => simp [colons, leading]
    | cons b bs =>
      rw [List.cons_append, List.cons_append, colons_cons_cons, ← List.cons_append, ih]
      simp [leading]

theorem leading_concat (gs : List Nat) (g : Nat) :
    leading (gs ++ [g]) = leading gs ++ (hexText g ++ [':']) := by
  simp [leading]

section
variable {g : Nat} {acc : List Nat} {gap : Option Nat} {fuel : Nat}

/-- A group of at most four digits is read as a whole. -/
theorem takeWhile_hexText (hg : g < 65536) (rest : List Char)
    (hrest : ∀ c ∈ rest.head?, digitIn? 16 c = none) :
    ((hexText g ++ rest).take 4).takeWhile (fun c => (digitIn? 16 c).isSome) = hexText g := by
  have hlen : (hexText g).length ≤ 4 := (Nat.length_toDigits_le_iff (by decide) (by decide)).mpr hg
  rw [List.take_append, List.take_of_length_le hlen]
  cases hr : rest.take (4 - (hexText g).length) with
  | nil => rw [List.append_nil, List.takeWhile_eq_self_iff.mpr (hexText_digits g)]
  | cons c cs =>
    refine Text.takeWhile_stop (hexText_digits g) ?_
    have hc := congrArg List.head? hr
    rw [List.head?_take] at hc
    split at hc
    · cases hc
    · rw [hrest c hc]
      rfl

theorem hexText_cons (g : Nat) : ∃ c cs, hexText g = c :: cs ∧ c ≠ ':' := by
  cases h : hexText g with
  | nil => exact absurd h (hexText_ne_nil g)
  | cons c cs =>
    refine ⟨c, cs, rfl, fun e => ?_⟩
    have hc := hexText_digits g c (by rw [h]; exact List.mem_cons_self)
    rw [e] at hc
    exact absurd hc (by decide)

/-- The group that a text ends with. -/
theorem ipv6Groups?_last (hg : g < 65536) (hacc : acc.length < 8) :
    ipv6Groups? (fuel + 1) acc gap (hexText g) = some (acc ++ [g], gap) := by
  have htake := takeWhile_hexText hg [] (by simp)
  obtain ⟨c, cs, hcs, hne⟩ := hexText_cons g
  rw [List.append_nil] at htake
  rw [hcs] at htake ⊢
  rw [ipv6Groups?, if_neg (by omega), if_neg hne]
  dsimp only
  rw [htake, List.drop_length, ← hcs, hexText, numberIn?_toDigits (by decide) (by decide)]
  rfl

/-- A group with a colon behind it. -/
theorem ipv6Groups?_group (hg : g < 65536) (hacc : acc.length < 8) {rest : List Char}
    (hrest : rest ≠ []) : ipv6Groups? (fuel + 1) acc gap (hexText g ++ ':' :: rest) =
      ipv6Groups? fuel (acc ++ [g]) gap rest := by
  have htake := takeWhile_hexText hg (':' :: rest) (by simp; decide)
  obtain ⟨c, cs, hcs, hne⟩ := hexText_cons g
  rw [hcs, List.cons_append] at htake ⊢
  rw [ipv6Groups?, if_neg (by omega), if_neg hne]
  dsimp only
  rw [htake, ← List.cons_append, List.drop_left, ← hcs, hexText,
    numberIn?_toDigits (by decide) (by decide)]
  exact if_neg (by simpa using hrest)

theorem ipv6Groups?_leading {gs : List Nat} (hgs : ∀ g ∈ gs, g < 65536)
    (hacc : acc.length + gs.length ≤ 8) {rest : List Char} (hrest : rest ≠ []) :
    ipv6Groups? (fuel + gs.length) acc gap (leading gs ++ rest) =
      ipv6Groups? fuel (acc ++ gs) gap rest := by
  induction gs generalizing acc with
  | nil => simp [leading]
  | cons g gs ih =>
    obtain ⟨hg, hgs⟩ := List.forall_mem_cons.mp hgs
    rw [List.length_cons] at hacc
    have hne : leading gs ++ rest ≠ [] := fun e => hrest (List.append_eq_nil_iff.mp e).2
    rw [show leading (g :: gs) ++ rest = hexText g ++ ':' :: (leading gs ++ rest) by simp [leading],
      List.length_cons, ← Nat.add_assoc, ipv6Groups?_group hg (by omega) hne,
      ih hgs (by rw [List.length_append, List.length_singleton]; omega), List.append_assoc,
      List.singleton_append]

theorem ipv6Groups?_colons {gs : List Nat} (hgs : ∀ g ∈ gs, g < 65536)
    (hacc : acc.length + gs.length ≤ 8) (hfuel : gs.length ≤ fuel) :
    ipv6Groups? fuel acc gap (colons gs) = some (acc ++ gs, gap) := by
  cases gs using List.reverseRecOn with
  | nil => cases fuel <;> simp [colons, ipv6Groups?]
  | append_singleton gs g =>
    rw [List.forall_mem_append, List.forall_mem_singleton] at hgs
    rw [List.length_append, List.length_singleton] at hacc hfuel
    obtain ⟨fuel', rfl⟩ : ∃ fuel', fuel = (fuel' + 1) + gs.length :=
      ⟨fuel - gs.length - 1, by omega⟩
    rw [colons_concat, ipv6Groups?_leading hgs.1 (by omega) (hexText_ne_nil g),
      ipv6Groups?_last hgs.2 (by rw [List.length_append]; omega), List.append_assoc]

/-- Two colons stand for zeros. -/
theorem ipv6Groups?_gap {gs : List Nat} (hgs : ∀ g ∈ gs, g < 65536)
    (hacc : acc.length + 1 + gs.length ≤ 8) (hfuel : gs.length ≤ fuel) :
    ipv6Groups? (fuel + 1) acc none (':' :: colons gs) =
      some (acc ++ 0 :: gs, some (acc.length + 1)) := by
  rw [ipv6Groups?, if_neg (by omega), if_pos rfl, if_neg (by simp),
    ipv6Groups?_colons hgs (by rw [List.length_append, List.length_singleton]; omega) hfuel,
    List.append_assoc, List.singleton_append]

end

/-- Zeros fill the groups up to eight. -/
def fill (acc : List Nat) : Option Nat → Option (List Nat)
  | none => if acc.length = 8 then some acc else none
  | some k => some (acc.take k ++ List.replicate (8 - acc.length) 0 ++ acc.drop k)

theorem ipv6?_gap_first (cs : List Char) : ipv6? (':' :: ':' :: cs) =
    (ipv6Groups? (cs.length + 3) [0] (some 1) cs).bind fun p => fill p.1 p.2 := by
  rw [ipv6?]
  cases ipv6Groups? (cs.length + 3) [0] (some 1) cs with
  | none => rfl
  | some p => obtain ⟨acc, _ | k⟩ := p <;> rfl

theorem ipv6?_group_first {cs : List Char} (hc : ∀ c ∈ cs.head?, c ≠ ':') (hlen : 2 ≤ cs.length) :
    ipv6? cs = (ipv6Groups? (cs.length + 1) [] none cs).bind fun p => fill p.1 p.2 := by
  match cs, hc, hlen with
  | c :: d :: cs, hc, _ =>
    rw [ipv6?]
    · show (ipv6Groups? (cs.length + 3) [] none (c :: d :: cs)) >>= _ = _
      cases ipv6Groups? (cs.length + 3) [] none (c :: d :: cs) with
      | none => rfl
      | some p => obtain ⟨acc, _ | k⟩ := p <;> rfl
    all_goals simp [hc c rfl]

theorem leading_cons_head {g : Nat} {gs : List Nat} {rest : List Char} :
    ∀ c ∈ (leading (g :: gs) ++ rest).head?, c ≠ ':' := by
  obtain ⟨c, cs, hcs, hne⟩ := hexText_cons g
  simpa [leading, hcs] using hne

theorem length_le_leading (gs : List Nat) : 2 * gs.length ≤ (leading gs).length := by
  induction gs with
  | nil => rfl
  | cons g gs ih =>
    have h := List.length_pos_iff.mpr (hexText_ne_nil g)
    rw [show leading (g :: gs) = hexText g ++ ':' :: leading gs by simp [leading],
      List.length_append, List.length_cons, List.length_cons]
    omega

theorem colons_colon {gs : List Nat} (h : gs ≠ []) (rest : List Char) :
    colons gs ++ ':' :: rest = leading gs ++ rest := by
  cases gs using List.reverseRecOn with
  | nil => exact absurd rfl h
  | append_singleton gs g => rw [colons_concat, leading_concat]; simp

theorem length_le_colons (gs : List Nat) : gs.length ≤ (colons gs).length := by
  cases gs using List.reverseRecOn with
  | nil => exact Nat.zero_le _
  | append_singleton gs g =>
    have h := List.length_pos_iff.mpr (hexText_ne_nil g)
    have h' := length_le_leading gs
    rw [colons_concat, List.length_append, List.length_append, List.length_singleton]
    omega

/-- Groups around two colons. -/
theorem ipv6?_around {front back : List Nat} (hf : ∀ g ∈ front, g < 65536)
    (hb : ∀ g ∈ back, g < 65536) (hlen : front.length + back.length ≤ 7) :
    ipv6? (colons front ++ ':' :: ':' :: colons back) =
      some (front ++ List.replicate (8 - front.length - back.length) 0 ++ back) := by
  have hfill : fill (front ++ 0 :: back) (some (front.length + 1)) =
      some (front ++ List.replicate (8 - front.length - back.length) 0 ++ back) := by
    have hzeros : 8 - front.length - back.length = 8 - (front ++ 0 :: back).length + 1 := by
      rw [List.length_append, List.length_cons]
      omega
    have hsplit : front ++ 0 :: back = (front ++ [0]) ++ back := by simp
    have hcount : front.length + 1 = (front ++ [0]).length := by simp
    rw [fill, hzeros, List.replicate_succ, hsplit, hcount, List.take_left, List.drop_left]
    simp
  have hlong := length_le_colons back
  cases front with
  | nil =>
    show ipv6? (':' :: ':' :: colons back) = _
    have hroom : [0].length + back.length ≤ 8 := by
      rw [List.length_singleton]
      rw [List.length_nil] at hlen
      omega
    rw [ipv6?_gap_first, ipv6Groups?_colons hb hroom (by omega)]
    exact hfill
  | cons g gs =>
    have hlead := length_le_leading (g :: gs)
    rw [List.length_cons] at hlen hlead
    rw [colons_colon (List.cons_ne_nil _ _), ipv6?_group_first leading_cons_head
      (by rw [List.length_append]; omega)]
    obtain ⟨fuel, hfuel, hle⟩ : ∃ fuel,
        (leading (g :: gs) ++ ':' :: colons back).length + 1 = fuel + 1 + (g :: gs).length ∧
          back.length ≤ fuel := by
      rw [List.length_append, List.length_cons, List.length_cons]
      exact ⟨(leading (g :: gs)).length + (colons back).length - gs.length, by omega, by omega⟩
    rw [hfuel, ipv6Groups?_leading hf (by simp; omega) (List.cons_ne_nil _ _),
      ipv6Groups?_gap hb (by simp; omega) hle]
    exact hfill

theorem ipv6?_eight {gs : List Nat} (hgs : ∀ g ∈ gs, g < 65536) (hlen : gs.length = 8) :
    ipv6? (colons gs) = some gs := by
  have hlong := length_le_colons gs
  have hhead : ∀ c ∈ (colons gs).head?, c ≠ ':' := by
    match gs, hlen with
    | g :: g' :: gs, _ =>
      obtain ⟨c, cs, hcs, hne⟩ := hexText_cons g
      rw [colons_cons_cons, hcs]
      simpa using hne
  rw [ipv6?_group_first hhead (by omega), ipv6Groups?_colons hgs (by simp; omega) (by omega)]
  simp [fill, hlen]

/-! ### the row of zeros -/

/-- The row that is left out: it begins at the start and is so long. -/
theorem zeroRow_zeros (gs : List Nat) :
    (gs.drop (zeroRow gs).1).take (zeroRow gs).2 = List.replicate (zeroRow gs).2 0 := by
  rw [zeroRow]
  generalize List.range 8 = indices
  have hstart : (gs.drop (0, 0).1).take (0, 0).2 = List.replicate (0, 0).2 0 := rfl
  generalize ((0, 0) : Nat × Nat) = best at hstart ⊢
  induction indices generalizing best with
  | nil => exact hstart
  | cons i is ih =>
    rw [List.foldl_cons]
    refine ih _ ?_
    dsimp only
    split
    · have hrow : (gs.drop i).takeWhile (· = 0) <+: gs.drop i := List.takeWhile_prefix _
      rw [← List.prefix_iff_eq_take.mp hrow]
      refine List.eq_replicate_iff.mpr ⟨rfl, fun x hx => ?_⟩
      have h := List.mem_takeWhile_imp hx
      exact of_decide_eq_true h
    · exact hstart

theorem ipv6?_ipv6Text {gs : List Nat} (hgs : ∀ g ∈ gs, g < 65536) (hlen : gs.length = 8) :
    ipv6? (ipv6Text gs).toList = some gs := by
  have hzeros := zeroRow_zeros gs
  rw [ipv6Text]
  generalize zeroRow gs = row at hzeros ⊢
  obtain ⟨start, n⟩ := row
  dsimp only at hzeros ⊢
  split
  · rw [String.toList_ofList, ipv6?_eight hgs hlen]
  · rename_i hn
    have hfront : ∀ g ∈ gs.take start, g < 65536 := fun g hg => hgs g (List.mem_of_mem_take hg)
    have hback : ∀ g ∈ gs.drop (start + n), g < 65536 := fun g hg =>
      hgs g (List.mem_of_mem_drop hg)
    have hcount := congrArg List.length hzeros
    rw [List.length_take, List.length_drop, List.length_replicate, hlen] at hcount
    have hsplit : gs = gs.take start ++ (List.replicate n 0 ++ gs.drop (start + n)) := by
      rw [← hzeros, ← List.drop_drop, List.take_append_drop, List.take_append_drop]
    rw [String.toList_ofList, ipv6?_around hfront hback
      (by rw [List.length_take, List.length_drop]; omega)]
    have hn : 8 - (gs.take start).length - (gs.drop (start + n)).length = n := by
      rw [List.length_take, List.length_drop]
      omega
    rw [hn, List.append_assoc, ← hsplit]

/-! ### characters -/

theorem mem_ipv4Text {n : Nat} {c : Char} (h : c ∈ (ipv4Text n).toList) :
    c = '.' ∨ c.isDigit = true := by
  have hdigits : ∀ x < 256, ∀ c ∈ (toString x).toList, c.isDigit = true :=
    fun x hx => List.all_eq_true.mp (ipv4Number?_text x hx).2.1
  rw [ipv4Text_toList] at h
  rcases List.mem_append.mp h with h | h
  · exact .inr (hdigits _ (by omega) c h)
  · obtain ⟨x, hx, h⟩ := List.mem_flatMap.mp h
    rcases List.mem_cons.mp h with h | h
    · exact .inl h
    · simp only [List.mem_cons, List.not_mem_nil, or_false] at hx
      exact .inr (hdigits x (by omega) c h)

theorem mem_colons {gs : List Nat} {c : Char} (h : c ∈ colons gs) :
    c = ':' ∨ (digitIn? 16 c).isSome = true := by
  induction gs with
  | nil => cases h
  | cons g gs ih =>
    cases gs with
    | nil =>
      rw [← List.nil_append [g], colons_concat] at h
      exact .inr (hexText_digits g c h)
    | cons g' gs =>
      rw [colons_cons_cons] at h
      rcases List.mem_append.mp h with h | h
      · exact .inr (hexText_digits g c h)
      · exact (List.mem_cons.mp h).elim .inl ih

theorem mem_ipv6Text {gs : List Nat} {c : Char} (h : c ∈ (ipv6Text gs).toList) :
    c = ':' ∨ (digitIn? 16 c).isSome = true := by
  rw [ipv6Text] at h
  split at h
  rename_i start n hrow
  split at h
  · rw [String.toList_ofList] at h
    exact mem_colons h
  · rw [String.toList_ofList] at h
    rcases List.mem_append.mp h with h | h
    · exact mem_colons h
    · rcases List.mem_cons.mp h with h | h
      · exact .inl h
      · exact (List.mem_cons.mp h).elim .inl mem_colons

/-! ### which groups are read -/

theorem octet?_le {cs : List Char} {n : Nat} (h : octet? cs = some n) : n ≤ 255 := by
  rw [octet?.eq_def] at h
  split at h
  · cases h
  · cases h
  · exact of_decide_eq_true (Option.filter_eq_some_iff.mp h).2

theorem ipv4Groups?_groups {cs : List Char} {gs : List Nat} (h : ipv4Groups? cs = some gs) :
    (∀ g ∈ gs, g < 65536) ∧ gs.length = 2 := by
  obtain ⟨numbers, hnumbers, h⟩ := Option.bind_eq_some_iff.mp h
  split at h
  · rename_i a b c d
    have hle : ∀ x ∈ [a, b, c, d], x ≤ 255 := by
      intro x hx
      obtain ⟨w, -, hw⟩ := Idna.exists_of_mem_mapM hnumbers x hx
      exact octet?_le hw
    cases h
    simp only [List.mem_cons, List.not_mem_nil, or_false, forall_eq_or_imp, forall_eq] at hle ⊢
    exact ⟨⟨by omega, by omega⟩, rfl⟩
  · cases h

/-- The groups of an address, or of its beginning. -/
structure Groups (gs : List Nat) : Prop where
  small : ∀ g ∈ gs, g < 65536
  few : gs.length ≤ 8

theorem Groups.concat {gs : List Nat} (h : Groups gs) {g : Nat} (hg : g < 65536)
    (hl : gs.length ≠ 8) : Groups (gs ++ [g]) := by
  refine ⟨List.forall_mem_append.mpr ⟨h.small, List.forall_mem_singleton.mpr hg⟩, ?_⟩
  have := h.few
  rw [List.length_append, List.length_singleton]
  omega

theorem value_lt (p : Char → Bool) (cs : List Char) :
    (numberIn? 16 ((cs.take 4).takeWhile p)).getD 0 < 65536 := by
  have hlen : ((cs.take 4).takeWhile p).length ≤ 4 :=
    Nat.le_trans (List.takeWhile_prefix p).length_le (by rw [List.length_take]; omega)
  cases h : numberIn? 16 ((cs.take 4).takeWhile p) with
  | none => decide
  | some n =>
    calc n < 16 ^ ((cs.take 4).takeWhile p).length := numberIn?_lt h
      _ ≤ 16 ^ 4 := Nat.pow_le_pow_right (by decide) hlen

theorem ipv6Groups?_groups {fuel : Nat} {acc : List Nat} {gap : Option Nat} {cs : List Char}
    {r : List Nat × Option Nat} (h : ipv6Groups? fuel acc gap cs = some r) (ha : Groups acc) :
    Groups r.1 := by
  fun_induction ipv6Groups? fuel acc gap cs with
  | case1 | case2 =>
    cases h
    exact ha
  | case3 | case4 | case7 | case9 | case11 => cases h
  | case5 _ _ _ _ hl _ ih => exact ih h (ha.concat (by decide) hl)
  | case6 _ _ _ c cs hl =>
    cases h
    exact ha.concat (value_lt _ (c :: cs)) hl
  | case8 _ acc _ c cs hl _ digits _ _ hfit =>
    obtain ⟨gs, hgs, rfl⟩ := Option.map_eq_some_iff.mp h
    obtain ⟨hsmall, htwo⟩ := ipv4Groups?_groups hgs
    refine ⟨List.forall_mem_append.mpr ⟨ha.small, hsmall⟩, ?_⟩
    rw [Bool.or_eq_true, decide_eq_true_eq] at hfit
    rw [List.length_append]
    omega
  | case10 _ _ _ c cs hl _ _ _ _ _ _ ih => exact ih h (ha.concat (value_lt _ (c :: cs)) hl)

theorem fill_groups {acc gs : List Nat} (gap : Option Nat) (h : fill acc gap = some gs)
    (ha : Groups acc) : (∀ g ∈ gs, g < 65536) ∧ gs.length = 8 := by
  cases gap with
  | none =>
    rw [fill] at h
    split at h
    · rename_i hl
      cases h
      exact ⟨ha.small, hl⟩
    · cases h
  | some k =>
    cases h
    have hfew := ha.few
    refine ⟨fun g hg => ?_, ?_⟩
    · rcases List.mem_append.mp hg with hg | hg
      · rcases List.mem_append.mp hg with hg | hg
        · exact ha.small g (List.mem_of_mem_take hg)
        · rw [List.eq_of_mem_replicate hg]
          decide
      · exact ha.small g (List.mem_of_mem_drop hg)
    · rw [List.length_append, List.length_append, List.length_replicate, List.length_take,
        List.length_drop]
      omega

theorem ipv6?_groups {cs : List Char} {gs : List Nat} (h : ipv6? cs = some gs) :
    (∀ g ∈ gs, g < 65536) ∧ gs.length = 8 := by
  unfold ipv6? at h
  dsimp only at h
  split at h
  · obtain ⟨⟨acc, gap⟩, hread, h⟩ := Option.bind_eq_some_iff.mp h
    refine fill_groups gap ?_ (ipv6Groups?_groups hread ⟨by simp, by simp⟩)
    cases gap <;> exact h
  · cases h
  · cases h
  · cases h
  · obtain ⟨⟨acc, gap⟩, hread, h⟩ := Option.bind_eq_some_iff.mp h
    refine fill_groups gap ?_ (ipv6Groups?_groups hread ⟨by simp, by simp⟩)
    cases gap <;> exact h

end Url
end Dashboards
