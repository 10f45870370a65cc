import Mathlib
import Dashboards.Config
import Dashboards.Proofs.Text.Split

/-!
# Adding parameters

* `Params.IsKey`        the pattern `[A-Za-z_][A-Za-z0-9_.-]*`, for the whole of a text;
* `insert_eq_ok_iff`    one parameter is added if its key is a new name;
* `Params.Admits`       what a list of parameters has to be like to be added to others;
* `insertAll_iff`       which decides whether it is added, and what is there then;
* `Assigns`, `assignAll_eq_ok_iff`   assignments are added as the parameters that they stand for.
-/

namespace Dashboards
namespace Params

/-! ### keys -/

/-- The class `[A-Za-z_]`. -/
def KeyStart (c : Char) : Prop := ('A' ≤ c ∧ c ≤ 'Z') ∨ ('a' ≤ c ∧ c ≤ 'z') ∨ c = '_'

/-- The class `[A-Za-z0-9_.-]`. -/
def KeyRest (c : Char) : Prop := KeyStart c ∨ ('0' ≤ c ∧ c ≤ '9') ∨ c = '.' ∨ c = '-'

/-- The pattern `^[A-Za-z_][A-Za-z0-9_.-]*$`, where `$` is the very end of the text. -/
def IsKey (s : String) : Prop := ∃ c cs, s.toList = c :: cs ∧ KeyStart c ∧ ∀ d ∈ cs, KeyRest d

theorem isFirstKeyChar_iff (c : Char) : isFirstKeyChar c = true ↔ KeyStart c := by
  simp [isFirstKeyChar, KeyStart, Char.isAlpha, Char.isUpper, Char.isLower, Char.le_def, or_assoc]

theorem isKeyChar_iff (c : Char) : isKeyChar c = true ↔ KeyRest c := by
  simp only [isKeyChar, KeyRest, KeyStart, Char.isAlphanum, Char.isAlpha, Char.isUpper,
    Char.isLower, Char.isDigit, Char.le_def, Bool.or_eq_true, Bool.and_eq_true, decide_eq_true_eq,
    ge_iff_le]
  tauto

theorem isKey_iff (s : String) : isKey s = true ↔ IsKey s := by
  rw [isKey, IsKey]
  cases s.toList with
  | nil => simp
  | cons c cs => simp [isFirstKeyChar_iff, isKeyChar_iff]

/-! ### one parameter -/

section
variable {k v : String} {es : List (String × String)} {p q : Params}

theorem isKey_of_mem {e : String × String} (he : e ∈ p.entries) : IsKey e.1 :=
  (isKey_iff e.1).mp (p.named e he)

theorem insert_eq_ok_iff :
    p.insert k v = .ok q ↔ IsKey k ∧ k ∉ p.keys ∧ q.entries = insertSorted k v p.entries := by
  rw [insert, ← isKey_iff]
  split
  · rename_i hk
    split
    · rename_i hp
      simp [hp]
    · rename_i hp
      rw [Except.ok.injEq, Params.ext_iff]
      exact ⟨fun e => ⟨hk, hp, e.symm⟩, fun h => h.2.2.symm⟩
  · rename_i hk
    simp [hk]

theorem exists_insert (hk : IsKey k) (hp : k ∉ p.keys) : ∃ q, p.insert k v = .ok q :=
  ⟨p.insertNew k v ((isKey_iff k).mpr hk) hp, insert_eq_ok_iff.mpr ⟨hk, hp, rfl⟩⟩

theorem perm_of_insert (h : p.insert k v = .ok q) : q.entries.Perm ((k, v) :: p.entries) := by
  obtain ⟨-, -, e⟩ := insert_eq_ok_iff.mp h
  rw [e]
  exact insertSorted_perm k v p.entries

/-- The order leaves no choice. -/
theorem eq_of_ascending {α : Type} {xs ys : List (String × α)} (hx : xs.Pairwise (·.1 < ·.1))
    (hy : ys.Pairwise (·.1 < ·.1)) (h : xs.Perm ys) : xs = ys :=
  List.Perm.eq_of_pairwise (fun _ _ _ _ h h' => absurd h (String.lt_asymm h')) hx hy h

theorem eq_of_perm (h : p.entries.Perm q.entries) : p = q :=
  Params.ext (eq_of_ascending p.ascending q.ascending h)

/-! ### one after the other -/

/-- Each key is well formed, new, and given once. -/
structure Admits (taken ks : List String) : Prop where
  isKey : ∀ k ∈ ks, IsKey k
  fresh : ∀ k ∈ ks, k ∉ taken
  distinct : ks.Nodup

theorem admits_nil (taken : List String) : Admits taken [] :=
  ⟨List.forall_mem_nil _, List.forall_mem_nil _, List.nodup_nil⟩

theorem admits_cons {taken ks : List String} :
    Admits taken (k :: ks) ↔ IsKey k ∧ k ∉ taken ∧ Admits (k :: taken) ks := by
  constructor
  · rintro ⟨hi, hf, hd⟩
    obtain ⟨hik, hi⟩ := List.forall_mem_cons.mp hi
    obtain ⟨hfk, hf⟩ := List.forall_mem_cons.mp hf
    obtain ⟨hk, hd⟩ := List.nodup_cons.mp hd
    refine ⟨hik, hfk, hi, fun j hj hm => ?_, hd⟩
    rcases List.mem_cons.mp hm with rfl | hm
    · exact hk hj
    · exact hf j hj hm
  · rintro ⟨hi, hf, h⟩
    refine ⟨List.forall_mem_cons.mpr ⟨hi, h.isKey⟩, List.forall_mem_cons.mpr ⟨hf, ?_⟩, ?_⟩
    · exact fun j hj hm => h.fresh j hj (List.mem_cons_of_mem _ hm)
    · exact List.nodup_cons.mpr ⟨fun hm => h.fresh k hm List.mem_cons_self, h.distinct⟩

theorem Admits.perm {taken taken' ks : List String} (h : Admits taken ks)
    (hp : taken.Perm taken') : Admits taken' ks :=
  ⟨h.isKey, fun k hk hm => h.fresh k hk (hp.mem_iff.mpr hm), h.distinct⟩

/-- A list is added if it may be, and then its parameters stand beside those before. -/
theorem insertAll_iff : p.insertAll es = .ok q ↔
    Admits p.keys (es.map (·.1)) ∧ q.entries.Perm (es ++ p.entries) := by
  induction es generalizing p with
  | nil =>
    rw [insertAll, List.nil_append]
    constructor
    · rintro ⟨⟩
      exact ⟨admits_nil _, .rfl⟩
    · rintro ⟨-, hperm⟩
      rw [eq_of_perm hperm.symm]
  | cons e es ih =>
    obtain ⟨k, v⟩ := e
    rw [insertAll, List.map_cons, admits_cons]
    cases hi : p.insert k v with
    | error f =>
      constructor
      · exact fun h => nomatch h
      · rintro ⟨⟨hk, hf, -⟩, -⟩
        obtain ⟨p', hp'⟩ := exists_insert (v := v) hk hf
        rw [hp'] at hi
        cases hi
    | ok p' =>
      have hp' := perm_of_insert hi
      have hkeys : p'.keys.Perm (k :: p.keys) := hp'.map Prod.fst
      have hq : q.entries.Perm (es ++ p'.entries) ↔ q.entries.Perm ((k, v) :: es ++ p.entries) :=
        ⟨fun h => h.trans ((hp'.append_left es).trans List.perm_middle),
          fun h => h.trans (List.perm_middle.symm.trans (hp'.symm.append_left es))⟩
      obtain ⟨hk, hf, -⟩ := insert_eq_ok_iff.mp hi
      dsimp only
      rw [ih, hq]
      exact ⟨fun ⟨h, h'⟩ => ⟨⟨hk, hf, h.perm hkeys⟩, h'⟩,
        fun ⟨⟨_, _, h⟩, h'⟩ => ⟨h.perm hkeys.symm, h'⟩⟩

theorem exists_insertAll (h : Admits p.keys (es.map (·.1))) : ∃ q, p.insertAll es = .ok q := by
  induction es generalizing p with
  | nil => exact ⟨p, rfl⟩
  | cons e es ih =>
    obtain ⟨k, v⟩ := e
    obtain ⟨hk, hf, h⟩ := admits_cons.mp h
    obtain ⟨q, hi⟩ := exists_insert (v := v) hk hf
    rw [insertAll, hi]
    exact ih (h.perm ((perm_of_insert hi).map Prod.fst).symm)

theorem insertAll_append (es fs : List (String × String)) :
    p.insertAll (es ++ fs) = p.insertAll es >>= (·.insertAll fs) := by
  induction es generalizing p with
  | nil => rfl
  | cons e es ih =>
    obtain ⟨k, v⟩ := e
    rw [List.cons_append, insertAll, insertAll]
    cases p.insert k v with
    | error f => rfl
    | ok p => exact ih

end
end Params

/-! ### assignments -/

/-- The text is the key, possibly with blanks around it, then the first `=`, then the value. -/
def Assigns (raw : String) (e : String × String) : Prop :=
  ∃ left, raw.toList = left ++ '=' :: e.2.toList ∧ '=' ∉ left ∧
    e.1 = Text.trim (String.ofList left)

/-- What stands before the first `=`, without blanks around it. -/
def assignedKey (raw : String) : String :=
  Text.trim (String.ofList (raw.toList.takeWhile (· ≠ '=')))

theorem parseAssignment_eq_ok_iff {raw : String} {e : String × String} :
    parseAssignment raw = .ok e ↔ Assigns raw e := by
  obtain ⟨k, v⟩ := e
  rw [parseAssignment, Assigns]
  constructor
  · intro h
    cases hd : raw.toList.dropWhile (· ≠ '=') with
    | nil =>
      rw [hd] at h
      cases h
    | cons c cs =>
      rw [hd] at h
      obtain ⟨hk, hv⟩ := Prod.mk.inj (Except.ok.inj h)
      obtain ⟨hsplit, hfront, hc⟩ := Text.split_of_dropWhile hd
      rw [show c = '=' by simpa using hc] at hsplit
      refine ⟨raw.toList.takeWhile (· ≠ '='), ?_, fun hm => ?_, hk.symm⟩
      · rw [← hv, String.toList_ofList]
        exact hsplit
      · exact of_decide_eq_true (hfront _ hm) rfl
  · rintro ⟨left, hraw, hleft, hk⟩
    rw [hraw, Text.takeWhile_stop (Text.ne_equals hleft) (by decide),
      Text.dropWhile_stop (Text.ne_equals hleft) (by decide)]
    dsimp only at hk ⊢
    rw [String.ofList_toList, ← hk]

theorem Assigns.key_eq {raw : String} {e : String × String} (h : Assigns raw e) :
    e.1 = assignedKey raw := by
  obtain ⟨left, hraw, hleft, hk⟩ := h
  rw [assignedKey, hraw, Text.takeWhile_stop (Text.ne_equals hleft) (by decide), hk]

theorem exists_assigns_iff {raw : String} : (∃ e, Assigns raw e) ↔ '=' ∈ raw.toList := by
  constructor
  · rintro ⟨e, left, hraw, -⟩
    rw [hraw]
    exact List.mem_append_right _ List.mem_cons_self
  · intro h
    cases hd : raw.toList.dropWhile (· ≠ '=') with
    | nil => exact absurd rfl (of_decide_eq_true (List.dropWhile_eq_nil_iff.mp hd _ h))
    | cons c cs => exact ⟨_, parseAssignment_eq_ok_iff.mp (by rw [parseAssignment, hd])⟩

theorem assigns_keys {raws : List String} {es : List (String × String)}
    (h : List.Forall₂ Assigns raws es) : es.map (·.1) = raws.map assignedKey := by
  induction h with
  | nil => rfl
  | cons h _ ih => rw [List.map_cons, List.map_cons, ih, h.key_eq]

theorem exists_assigned_iff {raws : List String} :
    (∃ es, List.Forall₂ Assigns raws es) ↔ ∀ raw ∈ raws, '=' ∈ raw.toList := by
  induction raws with
  | nil => simp
  | cons raw raws ih =>
    rw [List.forall_mem_cons, ← ih, ← exists_assigns_iff]
    constructor
    · rintro ⟨_, h⟩
      cases h with
      | cons he hes => exact ⟨⟨_, he⟩, _, hes⟩
    · rintro ⟨⟨e, he⟩, es, hes⟩
      exact ⟨e :: es, .cons he hes⟩

namespace Config

/-- Assignments are added as what they stand for. -/
theorem assignAll_eq_ok_iff {raws : List String} {p q : Params} : assignAll p raws = .ok q ↔
    ∃ es, List.Forall₂ Assigns raws es ∧ p.insertAll es = .ok q := by
  induction raws generalizing p with
  | nil => simp [assignAll, Params.insertAll]
  | cons raw raws ih =>
    rw [assignAll]
    cases ha : parseAssignment raw with
    | error f =>
      constructor
      · rintro ⟨⟩
      · rintro ⟨_, hes, -⟩
        cases hes with
        | cons he _ =>
          rw [parseAssignment_eq_ok_iff.mpr he] at ha
          cases ha
    | ok e =>
      obtain ⟨k, v⟩ := e
      have hadd : (∃ es, List.Forall₂ Assigns (raw :: raws) es ∧ p.insertAll es = .ok q) ↔
          ∃ es, List.Forall₂ Assigns raws es ∧ p.insertAll ((k, v) :: es) = .ok q := by
        constructor
        · rintro ⟨_, hes, h⟩
          cases hes with
          | cons he hes =>
            rw [← parseAssignment_eq_ok_iff, ha] at he
            cases he
            exact ⟨_, hes, h⟩
        · rintro ⟨es, hes, h⟩
          exact ⟨_, .cons (parseAssignment_eq_ok_iff.mp ha) hes, h⟩
      rw [hadd]
      show ((p.insert k v) >>= (assignAll · raws)) = .ok q ↔ _
      simp only [Params.insertAll]
      cases p.insert k v with
      | error f =>
        constructor
        · rintro ⟨⟩
        · rintro ⟨_, _, ⟨⟩⟩
      | ok p => exact ih

end Config
end Dashboards
