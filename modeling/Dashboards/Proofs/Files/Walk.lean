import Dashboards.Files

/-!
# Where paths lead

* `lookup_of_mem`       keys that stand once are looked up;
* `get?_put`            the map after a change at one place;
* `Place.Holds`         what the map says about the place where a walk ends (`holds_walk`);
* `Grown`               a tree in which files have been written and nothing else has changed;
* `Grown.find`          paths lead to the same places in a grown tree;
* `find_following`      a path that is not a link leads to the same place with and without following
                        links at its end;
* `getLast_find`        where no links at the end are followed, the last name of the path is that of
                        the place.
-/

namespace Dashboards
open Text (Bytes)
namespace Files

/-! ### lists of keys and values -/

section
variable {α β : Type} [BEq α] [LawfulBEq α] [DecidableEq α] {k : α} {xs : List (α × β)}

theorem lookup_cons_ite (x : α × β) (xs : List (α × β)) :
    (x :: xs).lookup k = if k = x.1 then some x.2 else xs.lookup k := by
  rw [List.lookup_cons]
  by_cases hk : k = x.1
  · rw [if_pos hk, beq_iff_eq.mpr hk]
  · rw [if_neg hk, beq_eq_false_iff_ne.mpr hk]

theorem lookup_of_mem (hs : xs.Pairwise fun x y => x.1 ≠ y.1) {x : α × β} (hx : x ∈ xs) :
    xs.lookup x.1 = some x.2 := by
  induction xs with
  | nil => cases hx
  | cons y ys ih =>
    obtain ⟨hy, hs⟩ := List.pairwise_cons.mp hs
    rw [lookup_cons_ite]
    rcases List.mem_cons.mp hx with rfl | hx
    · rw [if_pos rfl]
    · rw [if_neg (hy x hx).symm, ih hs hx]

theorem mem_of_lookup {e : β} (h : xs.lookup k = some e) : (k, e) ∈ xs := by
  induction xs with
  | nil => cases h
  | cons y ys ih =>
    rw [lookup_cons_ite] at h
    split at h
    · rename_i hy
      cases h
      rw [hy]
      exact List.mem_cons_self
    · exact List.mem_cons_of_mem _ (ih h)

end

section
variable {t t' : Files} {l m : Location} {e : Entry}

/-! ### the map -/

theorem lookup_append_new {xs : List (Location × Entry)} (h : xs.any (·.1 = l) = false) :
    (xs ++ [(l, e)]).lookup m = if m = l then some e else xs.lookup m := by
  induction xs with
  | nil => exact lookup_cons_ite (l, e) []
  | cons x xs ih =>
    rw [List.any_cons, Bool.or_eq_false_iff, decide_eq_false_iff_not] at h
    rw [List.cons_append, lookup_cons_ite, lookup_cons_ite, ih h.2]
    by_cases hx : m = x.1
    · rw [if_pos hx, if_pos hx, if_neg (fun hl => h.1 (hx.symm.trans hl))]
    · rw [if_neg hx, if_neg hx]

theorem lookup_map_change {xs : List (Location × Entry)} (h : xs.any (·.1 = l) = true) :
    (xs.map fun x => if x.1 = l then (l, e) else x).lookup m
      = if m = l then some e else xs.lookup m := by
  induction xs with
  | nil => cases h
  | cons x xs ih =>
    rw [List.map_cons, lookup_cons_ite, lookup_cons_ite]
    by_cases hx : x.1 = l
    · rw [if_pos hx, hx]
      by_cases hm : m = l
      · rw [if_pos hm, if_pos hm]
      · rw [if_neg hm, if_neg hm, if_neg hm]
        by_cases ha : xs.any (·.1 = l) = true
        · rw [ih ha, if_neg hm]
        · -- Nothing else stands at the place, so nothing else changes.
          congr 1
          refine (List.map_congr_left (fun y hy => ?_)).trans (List.map_id xs)
          exact if_neg (fun hy' => ha (List.any_eq_true.mpr ⟨y, hy, decide_eq_true hy'⟩))
    · rw [if_neg hx]
      rw [List.any_cons, decide_eq_false hx, Bool.false_or] at h
      rw [ih h]
      by_cases hm : m = x.1
      · rw [if_pos hm, if_pos hm, if_neg (fun hl => hx (hm.symm.trans hl))]
      · rw [if_neg hm, if_neg hm]

@[simp]
theorem cwd_put : (t.put l e).cwd = t.cwd := by
  rw [put]
  split <;> rfl

theorem get?_root : t.get? [] = some .directory := if_pos rfl

theorem get?_put (hl : l ≠ []) : (t.put l e).get? m = if m = l then some e else t.get? m := by
  by_cases hm : m = []
  · subst hm
    rw [get?_root, get?_root, if_neg hl.symm]
  · rw [get?, if_neg hm, get?, if_neg hm, put]
    split
    · rename_i h
      exact lookup_map_change h
    · rename_i h
      exact lookup_append_new (Bool.eq_false_iff.mpr h)

end

/-! ### one step of a walk -/

/-- What becomes of a walk at one name: it ends, or goes on from another directory. -/
inductive Step where
  | done (r : Except Cause Place)
  | go (links : Nat) (here : Location) (rest : List Bytes)

/-- The step from a directory to the entry of a name. -/
def enter (t : Files) (follow : Bool) (links : Nat) (here : Location) (s : Bytes)
    (rest : List Bytes) : Step :=
  let last := rest.all (· = [])
  match t.get? (here ++ [s]) with
  | none => .done (if last then .ok (.free (here ++ [s]) (!rest.isEmpty)) else .error .noEntry)
  | some .directory => .go links (here ++ [s]) rest
  | some (.file c x) =>
    .done (if rest.isEmpty then .ok (.taken (here ++ [s]) (.file c x)) else .error .notDirectory)
  | some .special =>
    .done (if rest.isEmpty then .ok (.taken (here ++ [s]) .special) else .error .notDirectory)
  | some (.link target) =>
    if last && !follow then .done (.ok (.taken (here ++ [s]) (.link target)))
    else match links with
      | 0 => .done (.error .linkLoop)
      | links + 1 =>
        if target.bytes.isEmpty then .done (.error .noEntry)
        else .go links (if target.isAbsolute then [] else here)
          (Path.segments target.bytes ++ rest)

def step (t : Files) (follow : Bool) (links : Nat) (here : Location) (s : Bytes)
    (rest : List Bytes) : Step :=
  if Path.isIdle s then .go links here rest
  else if isUp s then .go links here.dropLast rest
  else if s.length > 255 then .done (.error .nameTooLong)
  else t.enter follow links here s rest

theorem walk_nil (t : Files) (follow : Bool) (links : Nat) (here : Location) :
    t.walk follow links here [] = .ok (.taken here .directory) := by
  rw [walk]

theorem walk_cons (t : Files) (follow : Bool) (links : Nat) (here : Location) (s : Bytes)
    (rest : List Bytes) : t.walk follow links here (s :: rest) =
      match t.step follow links here s rest with
      | .done r => r
      | .go links here rest => t.walk follow links here rest := by
  rw [walk, step]
  by_cases hi : Path.isIdle s = true
  · rw [if_pos hi, if_pos hi]
  rw [if_neg hi, if_neg hi]
  by_cases hu : isUp s = true
  · rw [if_pos hu, if_pos hu]
  rw [if_neg hu, if_neg hu]
  by_cases hl : s.length > 255
  · rw [if_pos hl, if_pos hl]
  rw [if_neg hl, if_neg hl, enter]
  dsimp only
  cases t.get? (here ++ [s]) with
  | none => rfl
  | some e =>
    cases e with
    | directory => rfl
    | file c x => rfl
    | special => rfl
    | link target =>
      dsimp only
      split
      · rfl
      · cases links with
        | zero => rfl
        | succ links => dsimp only; split <;> rfl

/-- Everything that a step can do. -/
inductive Steps (t : Files) (follow : Bool) (here : Location) (s : Bytes) (rest : List Bytes) :
    Nat → Step → Prop
  | idle {links : Nat} (h : Path.isIdle s = true) : Steps t follow here s rest links
      (.go links here rest)
  | up {links : Nat} (h : isUp s = true) : Steps t follow here s rest links
      (.go links here.dropLast rest)
  | refused {links : Nat} (c : Cause) : Steps t follow here s rest links (.done (.error c))
  | free {links : Nat} (hg : t.get? (here ++ [s]) = none) (hr : rest.all (· = []) = true) :
      Steps t follow here s rest links (.done (.ok (.free (here ++ [s]) (!rest.isEmpty))))
  | file {links : Nat} {c : Bytes} {x : Bool} (hg : t.get? (here ++ [s]) = some (.file c x))
      (hr : rest = []) :
      Steps t follow here s rest links (.done (.ok (.taken (here ++ [s]) (.file c x))))
  | special {links : Nat} (hg : t.get? (here ++ [s]) = some .special) (hr : rest = []) :
      Steps t follow here s rest links (.done (.ok (.taken (here ++ [s]) .special)))
  | link {links : Nat} {target : Path} (hg : t.get? (here ++ [s]) = some (.link target))
      (hf : follow = false) (hr : rest.all (· = []) = true) :
      Steps t follow here s rest links (.done (.ok (.taken (here ++ [s]) (.link target))))
  | directory {links : Nat} (hg : t.get? (here ++ [s]) = some .directory) :
      Steps t follow here s rest links (.go links (here ++ [s]) rest)
  | follow {links : Nat} {target : Path} (hg : t.get? (here ++ [s]) = some (.link target))
      (hr : rest.all (· = []) = true → follow = true) :
      Steps t follow here s rest (links + 1)
        (.go links (if target.isAbsolute then [] else here) (Path.segments target.bytes ++ rest))

theorem steps_enter (t : Files) (follow : Bool) (links : Nat) (here : Location) (s : Bytes)
    (rest : List Bytes) : Steps t follow here s rest links (t.enter follow links here s rest) := by
  rw [enter]
  split
  · rename_i hg
    split
    · rename_i hl
      exact .free hg hl
    · exact .refused _
  · rename_i hg
    exact .directory hg
  · rename_i c x hg
    split
    · rename_i hr
      exact .file hg (List.isEmpty_iff.mp hr)
    · exact .refused _
  · rename_i hg
    split
    · rename_i hr
      exact .special hg (List.isEmpty_iff.mp hr)
    · exact .refused _
  · rename_i target hg
    split
    · rename_i hl
      rw [Bool.and_eq_true, Bool.not_eq_true'] at hl
      exact .link hg hl.2 hl.1
    · rename_i hl
      split
      · exact .refused _
      · split
        · exact .refused _
        · refine .follow hg (fun ha => ?_)
          rwa [ha, Bool.true_and, Bool.not_eq_true', Bool.not_eq_false] at hl

theorem steps_step (t : Files) (follow : Bool) (links : Nat) (here : Location) (s : Bytes)
    (rest : List Bytes) : Steps t follow here s rest links (t.step follow links here s rest) := by
  rw [step]
  split
  · exact .idle ‹_›
  · split
    · exact .up ‹_›
    · split
      · exact .refused _
      · exact steps_enter t follow links here s rest

/-- A step that goes on leaves fewer links to follow, or fewer names to go. -/
theorem step_lt {t : Files} {follow : Bool} {links links' : Nat} {here here' : Location} {s : Bytes}
    {rest rest' : List Bytes} (h : t.step follow links here s rest = .go links' here' rest') :
    links' < links ∨ (links' = links ∧ rest'.length < (s :: rest).length) := by
  have hs := steps_step t follow links here s rest
  rw [h] at hs
  cases hs with
  | idle _ => exact .inr ⟨rfl, Nat.lt_succ_self _⟩
  | up _ => exact .inr ⟨rfl, Nat.lt_succ_self _⟩
  | directory _ => exact .inr ⟨rfl, Nat.lt_succ_self _⟩
  | follow _ _ => exact .inl (Nat.lt_succ_self _)

/-- What every step hands on holds of all walks. -/
theorem walk_induction (t : Files) (follow : Bool) {motive : Nat → Location → List Bytes → Prop}
    (nil : ∀ links here, motive links here [])
    (cons : ∀ links here s rest, (∀ links' here' rest',
      t.step follow links here s rest = .go links' here' rest' → motive links' here' rest') →
      motive links here (s :: rest)) :
    ∀ links here ss, motive links here ss
  | links, here, [] => nil links here
  | links, here, s :: rest => cons links here s rest fun links' here' rest' _ =>
    walk_induction t follow nil cons links' here' rest'
termination_by links _ ss => (links, ss.length)
decreasing_by
  rename_i e
  rcases step_lt e with hl | ⟨rfl, hl⟩
  · exact Prod.Lex.left _ _ hl
  · exact Prod.Lex.right _ hl

/-! ### what stands where a path leads -/

/-- The map at a place; nothing is said of directories, which `..` may have led to. -/
def Place.Holds (t : Files) : Place → Prop
  | .free l _ => t.get? l = none
  | .taken _ .directory => True
  | .taken l e => t.get? l = some e

def Place.location : Place → Location
  | .free l _ => l
  | .taken l _ => l

theorem holds_walk {t : Files} {follow : Bool} {links : Nat} {here : Location} {ss : List Bytes}
    {pl : Place} (h : t.walk follow links here ss = .ok pl) : pl.Holds t := by
  induction links, here, ss using walk_induction t follow with
  | nil links here =>
    rw [walk_nil] at h
    cases h
    trivial
  | cons links here s rest ih =>
    rw [walk_cons] at h
    have hs := steps_step t follow links here s rest
    cases e : t.step follow links here s rest with
    | done r =>
      rw [e] at h hs
      cases h
      cases hs with
      | free hg _ => exact hg
      | file hg _ => exact hg
      | special hg _ => exact hg
      | link hg _ _ => exact hg
    | go links' here' rest' =>
      rw [e] at h
      exact ih links' here' rest' e h

/-- The path ends with a name, without a slash behind it. -/
structure Names (p : Path) (n : Bytes) : Prop where
  last : (Path.segments p.bytes).getLast? = some n
  idle : Path.isIdle n = false
  up : isUp n = false

theorem not_idle_nil {n : Bytes} (hi : Path.isIdle n = false) : n ≠ [] := by
  rintro rfl
  exact absurd hi (by decide)

theorem nil_of_all_nil {rest : List Bytes} {n : Bytes} (hi : Path.isIdle n = false)
    (hr : rest.getLast? = some n ∨ rest = []) (ha : rest.all (· = []) = true) : rest = [] := by
  rcases hr with hr | hr
  · have h := List.all_eq_true.mp ha n (List.mem_of_getLast? hr)
    exact absurd (of_decide_eq_true h) (not_idle_nil hi)
  · exact hr

/-- The last name of a path is that of the place it leads to, unless a link is followed there. -/
theorem getLast_walk {t : Files} {links : Nat} {here : Location} {ss : List Bytes} {n : Bytes}
    {pl : Place} (hi : Path.isIdle n = false) (hu : isUp n = false)
    (h : t.walk false links here ss = .ok pl)
    (hn : ss.getLast? = some n ∨ ss = [] ∧ here.getLast? = some n) :
    pl.location.getLast? = some n := by
  induction links, here, ss using walk_induction t false with
  | nil links here =>
    rw [walk_nil] at h
    cases h
    rcases hn with hn | ⟨_, hn⟩
    · cases hn
    · exact hn
  | cons links here s rest ih =>
    -- The name comes last in what is left, or it is the one at hand.
    have hr : rest.getLast? = some n ∨ rest = [] ∧ s = n := by
      rcases hn with hn | ⟨hn, _⟩
      · cases rest with
        | nil => exact .inr ⟨rfl, Option.some.inj hn⟩
        | cons r rest =>
          rw [List.getLast?_cons_cons] at hn
          exact .inl hn
      · cases hn
    have hnil := nil_of_all_nil hi (hr.imp_right And.left)
    have hlast : rest = [] → (here ++ [s]).getLast? = some n := by
      rintro rfl
      rcases hr with hr | ⟨_, rfl⟩
      · cases hr
      · exact List.getLast?_concat
    rw [walk_cons] at h
    have hs := steps_step t false links here s rest
    cases e : t.step false links here s rest with
    | done r =>
      rw [e] at h hs
      cases h
      cases hs with
      | free _ ha => exact hlast (hnil ha)
      | file _ hr => exact hlast hr
      | special _ hr => exact hlast hr
      | link _ _ ha => exact hlast (hnil ha)
    | go links' here' rest' =>
      rw [e] at h
      refine ih links' here' rest' e h ?_
      rw [e] at hs
      cases hs with
      | idle hs =>
        refine hr.imp_right (fun ⟨_, hsn⟩ => ?_)
        rw [hsn, hi] at hs
        exact Bool.noConfusion hs
      | up hs =>
        refine hr.imp_right (fun ⟨_, hsn⟩ => ?_)
        rw [hsn, hu] at hs
        exact Bool.noConfusion hs
      | directory _ => exact hr.imp_right (fun ⟨hr, _⟩ => ⟨hr, hlast hr⟩)
      | follow _ ha =>
        rcases hr with hr | ⟨hr, _⟩
        · exact .inl (by rw [List.getLast?_append, hr]; rfl)
        · exact absurd (ha (by rw [hr]; rfl)) Bool.false_ne_true

theorem step_following (t : Files) (links : Nat) (here : Location) (s : Bytes)
    (rest : List Bytes) : (∃ l target, t.step false links here s rest
        = .done (.ok (.taken l (.link target)))) ∨
      t.step true links here s rest = t.step false links here s rest := by
  rw [step, step]
  split
  · exact .inr rfl
  · split
    · exact .inr rfl
    · split
      · exact .inr rfl
      · rw [enter, enter]
        cases t.get? (here ++ [s]) with
        | none => exact .inr rfl
        | some e =>
          cases e with
          | directory => exact .inr rfl
          | file c x => exact .inr rfl
          | special => exact .inr rfl
          | link target =>
            by_cases ha : rest.all (· = []) = true
            · exact .inl ⟨here ++ [s], target, by simp only [ha]; rfl⟩
            · rw [Bool.not_eq_true] at ha
              exact .inr (by simp only [ha]; rfl)

/-- Whether links are followed at the end makes no difference where no link stands. -/
theorem walk_following (t : Files) (links : Nat) (here : Location) (ss : List Bytes) :
    (∃ l target, t.walk false links here ss = .ok (.taken l (.link target))) ∨
      t.walk true links here ss = t.walk false links here ss := by
  induction links, here, ss using walk_induction t false with
  | nil links here => exact .inr (by rw [walk_nil, walk_nil])
  | cons links here s rest ih =>
    rw [walk_cons, walk_cons]
    rcases step_following t links here s rest with ⟨l, target, e⟩ | e
    · exact .inl ⟨l, target, by rw [e]⟩
    · rw [e]
      cases e' : t.step false links here s rest with
      | done r => exact .inr rfl
      | go links' here' rest' => exact ih links' here' rest' e'

/-! ### trees that grow -/

/-- Files have been written, over files and where nothing was; all else is as it was. -/
structure Grown (t t' : Files) : Prop where
  cwd : t'.cwd = t.cwd
  get : ∀ l, t'.get? l = t.get? l ∨
    ((t.get? l = none ∨ ∃ c x, t.get? l = some (.file c x)) ∧ ∃ c x, t'.get? l = some (.file c x))

theorem Grown.refl (t : Files) : Grown t t := ⟨rfl, fun _ => .inl rfl⟩

theorem Grown.trans {t t' t'' : Files} (h : Grown t t') (h' : Grown t' t'') : Grown t t'' := by
  refine ⟨h'.cwd.trans h.cwd, fun l => ?_⟩
  rcases h.get l with e | ⟨hb, hf⟩
  · rw [← e]
    exact h'.get l
  · refine .inr ⟨hb, ?_⟩
    rcases h'.get l with e' | ⟨_, hf'⟩
    · rw [e']
      exact hf
    · exact hf'

/-- Where a path leads in a tree and in the one that has grown from it. -/
inductive Follows : Except Cause Place → Except Cause Place → Prop
  | same (r : Except Cause Place) : Follows r r
  | filled (l : Location) (c : Bytes) (x : Bool) :
      Follows (.ok (.free l false)) (.ok (.taken l (.file c x)))
  | rewritten (l : Location) (c c' : Bytes) (x x' : Bool) :
      Follows (.ok (.taken l (.file c x))) (.ok (.taken l (.file c' x')))
  | refused (c c' : Cause) : Follows (.error c) (.error c')
  | barred (l : Location) (c : Cause) : Follows (.ok (.free l true)) (.error c)

theorem Grown.step {t t' : Files} (h : Grown t t') (follow : Bool) (links : Nat) (here : Location)
    (s : Bytes) (rest : List Bytes) :
    t'.step follow links here s rest = t.step follow links here s rest ∨
      ∃ r r', t.step follow links here s rest = .done r ∧
        t'.step follow links here s rest = .done r' ∧ Follows r r' := by
  rw [Files.step, Files.step]
  split
  · exact .inl rfl
  · split
    · exact .inl rfl
    · split
      · exact .inl rfl
      · rcases h.get (here ++ [s]) with e | ⟨hb, c', x', hf⟩
        · exact .inl (by rw [enter, enter, e])
        · refine .inr ?_
          rcases hb with hb | ⟨c, x, hb⟩
          · rw [enter, enter, hb, hf]
            refine ⟨_, _, rfl, rfl, ?_⟩
            cases rest with
            | nil => exact .filled _ c' x'
            | cons r rest =>
              split
              · exact .barred _ _
              · exact .refused _ _
          · rw [enter, enter, hb, hf]
            refine ⟨_, _, rfl, rfl, ?_⟩
            cases rest with
            | nil => exact .rewritten _ c c' x x'
            | cons r rest => exact .refused _ _

theorem Grown.walk {t t' : Files} (h : Grown t t') (follow : Bool) (links : Nat) (here : Location)
    (ss : List Bytes) : Follows (t.walk follow links here ss) (t'.walk follow links here ss) := by
  induction links, here, ss using walk_induction t follow with
  | nil links here =>
    rw [walk_nil, walk_nil]
    exact .same _
  | cons links here s rest ih =>
    rw [walk_cons, walk_cons]
    rcases h.step follow links here s rest with e | ⟨r, r', e, e', hr⟩
    · rw [e]
      cases e' : t.step follow links here s rest with
      | done r => exact .same r
      | go links' here' rest' => exact ih links' here' rest' e'
    · rw [e, e']
      exact hr

/-! ### paths -/

theorem holds_find {t : Files} {p : Path} {follow : Bool} {pl : Place}
    (h : t.find p follow = .ok pl) : pl.Holds t := by
  rw [find] at h
  split at h
  · cases h
  · split at h
    · cases h
    · split at h
      · cases h
      · exact holds_walk h

theorem find_following (t : Files) (p : Path) :
    (∃ l target, t.find p false = .ok (.taken l (.link target))) ∨ t.find p = t.find p false := by
  rw [find, find]
  split
  · exact .inr rfl
  · split
    · exact .inr rfl
    · split
      · exact .inr rfl
      · exact walk_following t _ _ _

theorem getLast_find {t : Files} {p : Path} {n : Bytes} {pl : Place} (hn : Names p n)
    (h : t.find p false = .ok pl) : pl.location.getLast? = some n := by
  rw [find] at h
  split at h
  · cases h
  · split at h
    · cases h
    · split at h
      · cases h
      · exact getLast_walk hn.idle hn.up h (.inl hn.last)

theorem Grown.find {t t' : Files} (h : Grown t t') (p : Path) (follow : Bool) :
    Follows (t.find p follow) (t'.find p follow) := by
  rw [Files.find, Files.find]
  split
  · exact .same _
  · split
    · exact .same _
    · split
      · exact .same _
      · rw [h.cwd]
        exact h.walk _ _ _ _

end Files
end Dashboards
