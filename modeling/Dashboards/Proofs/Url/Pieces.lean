import Mathlib.Data.List.Forall2
import Dashboards.Url.Idna.Mapping

/-!
# Pieces between separators

`splitAt p` cuts a text at each character that satisfies `p`.

* `not_sep_of_mem_splitAt`   no piece has a separator in it;
* `splitAt_append`           a text cut at one of its separators;
* `splitAt_flatMap`          pieces without separators come back, each behind its separator;
* `mapM_eq_some_iff`         reading all pieces gives what reading each of them gives.
-/

namespace Dashboards
namespace Url
namespace Idna

section
variable {p : Char → Bool} {cs : List Char}

theorem splitAt_ne_nil (p : Char → Bool) (cs : List Char) : splitAt p cs ≠ [] := by
  cases cs with
  | nil => exact List.cons_ne_nil _ _
  | cons c cs =>
    rw [splitAt]
    split
    · exact List.cons_ne_nil _ _
    · split
      · exact List.cons_ne_nil _ _
      · exact List.cons_ne_nil _ _

theorem splitAt_sep {c : Char} (hc : p c = true) (cs : List Char) :
    splitAt p (c :: cs) = [] :: splitAt p cs := by
  rw [splitAt, if_pos hc]

theorem splitAt_none (h : ∀ c ∈ cs, p c = false) : splitAt p cs = [cs] := by
  induction cs with
  | nil => rfl
  | cons c cs ih =>
    obtain ⟨hc, h⟩ := List.forall_mem_cons.mp h
    rw [splitAt, if_neg (by simp [hc]), ih h]

theorem splitAt_append {sep : Char} {rest : List Char} (h : ∀ c ∈ cs, p c = false)
    (hs : p sep = true) : splitAt p (cs ++ sep :: rest) = cs :: splitAt p rest := by
  induction cs with
  | nil => exact splitAt_sep hs rest
  | cons c cs ih =>
    obtain ⟨hc, h⟩ := List.forall_mem_cons.mp h
    rw [List.cons_append, splitAt, if_neg (by simp [hc]), ih h]

theorem not_sep_of_mem_splitAt : ∀ w ∈ splitAt p cs, ∀ c ∈ w, p c = false := by
  induction cs with
  | nil => simp [splitAt]
  | cons c cs ih =>
    rw [splitAt]
    split
    · exact List.forall_mem_cons.mpr ⟨List.forall_mem_nil _, ih⟩
    · rename_i hc
      have hc : p c = false := Bool.eq_false_iff.mpr hc
      split
      · simpa using hc
      · rename_i w ws hw
        rw [hw] at ih
        obtain ⟨h, h'⟩ := List.forall_mem_cons.mp ih
        exact List.forall_mem_cons.mpr ⟨List.forall_mem_cons.mpr ⟨hc, h⟩, h'⟩

theorem mem_of_mem_splitAt : ∀ w ∈ splitAt p cs, ∀ c ∈ w, c ∈ cs := by
  induction cs with
  | nil => simp [splitAt]
  | cons c cs ih =>
    rw [splitAt]
    split
    · refine List.forall_mem_cons.mpr ⟨List.forall_mem_nil _, fun w hw d hd => ?_⟩
      exact List.mem_cons_of_mem _ (ih w hw d hd)
    · split
      · simp
      · rename_i v vs hv
        rw [hv] at ih
        obtain ⟨h, h'⟩ := List.forall_mem_cons.mp ih
        refine List.forall_mem_cons.mpr ⟨fun d hd => ?_, fun w hw d hd => ?_⟩
        · exact (List.mem_cons.mp hd).elim (fun e => e ▸ List.mem_cons_self)
            fun hd => List.mem_cons_of_mem _ (h d hd)
        · exact List.mem_cons_of_mem _ (h' w hw d hd)

/-- The pieces of a text in which each of them has the same separator in front. -/
theorem splitAt_flatMap {sep : Char} {ws : List (List Char)} (hs : p sep = true)
    (h : ∀ w ∈ ws, ∀ c ∈ w, p c = false) (w : List Char) (hw : ∀ c ∈ w, p c = false) :
    splitAt p (w ++ ws.flatMap (sep :: ·)) = w :: ws := by
  induction ws generalizing w with
  | nil => rw [List.flatMap_nil, List.append_nil, splitAt_none hw]
  | cons v vs ih =>
    obtain ⟨hv, h⟩ := List.forall_mem_cons.mp h
    rw [List.flatMap_cons, List.cons_append, splitAt_append hw hs, ih h v hv]

end

theorem mapM_eq_some_iff {α β : Type} {f : α → Option β} {as : List α} {bs : List β} :
    as.mapM f = some bs ↔ List.Forall₂ (fun a b => f a = some b) as bs := by
  induction as generalizing bs with
  | nil => simp [List.forall₂_nil_left_iff, eq_comm]
  | cons a as ih =>
    rw [List.mapM_cons, List.forall₂_cons_left_iff]
    simp only [Option.bind_eq_bind, Option.bind_eq_some_iff, Option.pure_def, Option.some.injEq, ih]
    constructor
    · rintro ⟨b, hb, bs', hbs, rfl⟩
      exact ⟨b, bs', hb, hbs, rfl⟩
    · rintro ⟨b, bs', hb, hbs, rfl⟩
      exact ⟨b, hb, bs', hbs, rfl⟩

theorem exists_of_mem_forall₂ {α β : Type} {r : α → β → Prop} {as : List α} {bs : List β}
    (h : List.Forall₂ r as bs) : ∀ b ∈ bs, ∃ a ∈ as, r a b := by
  induction h with
  | nil => exact List.forall_mem_nil _
  | cons hab _ ih =>
    refine List.forall_mem_cons.mpr ⟨⟨_, List.mem_cons_self, hab⟩, fun b hb => ?_⟩
    obtain ⟨a, ha, h⟩ := ih b hb
    exact ⟨a, List.mem_cons_of_mem _ ha, h⟩

theorem exists_of_mem_mapM {α β : Type} {f : α → Option β} {as : List α} {bs : List β}
    (h : as.mapM f = some bs) : ∀ b ∈ bs, ∃ a ∈ as, f a = some b :=
  exists_of_mem_forall₂ (mapM_eq_some_iff.mp h)

end Idna
end Url
end Dashboards
