import Dashboards.Proofs.Files.Write
import Dashboards.Proofs.Path.Below

/-!
# Directories that are made

* `Keeps`                  the directories and links of a tree are still there;
* `Keeps.find_directory`   and so paths lead to the same directories;
* `find_made`              a directory stands where it has been made;
* `makeDirs_eq`            a directory is made by way of those above it;
* `Builds`                 the trees that are reached on the way, whatever comes of it
                           (`builds_makeDirs`);
* `Builds.get?`            every new entry is a directory to which a path above leads;
* `directoryOf?`           the place of a directory, which is there if it could be made
                           (`directory_of_makeDirs`); it is not made again (`makeDirs_again`).
-/

namespace Dashboards
open Text (Bytes)
namespace Files

section
variable {t t' t'' : Files} {l : Location} {e : Entry}

/-! ### directories that stay -/

/-- What directs a walk is still there: the directories and the links. -/
structure Keeps (t t' : Files) : Prop where
  cwd : t'.cwd = t.cwd
  directory : ∀ l, t.get? l = some .directory → t'.get? l = some .directory
  link : ∀ l target, t.get? l = some (.link target) → t'.get? l = some (.link target)

theorem Keeps.refl (t : Files) : Keeps t t := ⟨rfl, fun _ h => h, fun _ _ h => h⟩

theorem Keeps.trans (h : Keeps t t') (h' : Keeps t' t'') : Keeps t t'' :=
  ⟨h'.cwd.trans h.cwd, fun l hl => h'.directory l (h.directory l hl),
    fun l target hl => h'.link l target (h.link l target hl)⟩

theorem Grown.keeps (h : Grown t t') : Keeps t t' := by
  refine ⟨h.cwd, fun l hl => ?_, fun l target hl => ?_⟩
  · rcases h.get l with e | ⟨hn | ⟨c, x, hf⟩, _⟩
    · rw [e, hl]
    · rw [hn] at hl
      cases hl
    · rw [hf] at hl
      cases hl
  · rcases h.get l with e | ⟨hn | ⟨c, x, hf⟩, _⟩
    · rw [e, hl]
    · rw [hn] at hl
      cases hl
    · rw [hf] at hl
      cases hl

theorem ne_root_of_free (h : t.get? l = none) : l ≠ [] := by
  rintro rfl
  rw [get?_root] at h
  cases h

theorem keeps_put (h : t.get? l = none) : Keeps t (t.put l e) := by
  have hother : ∀ m e', t.get? m = some e' → (t.put l e).get? m = some e' := by
    intro m e' hm
    have hne : m ≠ l := by
      rintro rfl
      rw [h] at hm
      cases hm
    rw [get?_put (ne_root_of_free h), if_neg hne, hm]
  exact ⟨cwd_put, fun m hm => hother m _ hm, fun m target hm => hother m _ hm⟩

theorem Keeps.step (h : Keeps t t') {follow : Bool} {links links' : Nat} {here here' : Location}
    {s : Bytes} {rest rest' : List Bytes}
    (hs : t.step follow links here s rest = .go links' here' rest') :
    t'.step follow links here s rest = .go links' here' rest' := by
  rw [Files.step] at hs ⊢
  by_cases hi : Path.isIdle s = true
  · rwa [if_pos hi] at hs ⊢
  rw [if_neg hi] at hs ⊢
  by_cases hu : isUp s = true
  · rwa [if_pos hu] at hs ⊢
  rw [if_neg hu] at hs ⊢
  by_cases hl : s.length > 255
  · rw [if_pos hl] at hs
    cases hs
  rw [if_neg hl] at hs ⊢
  rw [enter] at hs ⊢
  cases hg : t.get? (here ++ [s]) with
  | none =>
    rw [hg] at hs
    cases hs
  | some e =>
    rw [hg] at hs
    cases e with
    | directory =>
      rw [h.directory _ hg]
      exact hs
    | file c x => cases hs
    | special => cases hs
    | link target =>
      rw [h.link _ _ hg]
      exact hs

theorem Keeps.walk_directory (h : Keeps t t') {follow : Bool} {links : Nat} {here : Location}
    {ss : List Bytes} (hw : t.walk follow links here ss = .ok (.taken l .directory)) :
    t'.walk follow links here ss = .ok (.taken l .directory) := by
  induction links, here, ss using walk_induction t follow with
  | nil links here =>
    rw [walk_nil] at hw ⊢
    exact hw
  | cons links here s rest ih =>
    rw [walk_cons] at hw ⊢
    have hs := steps_step t follow links here s rest
    cases e : t.step follow links here s rest with
    | done r =>
      rw [e] at hw hs
      cases hw
      cases hs
    | go links' here' rest' =>
      rw [e] at hw
      rw [h.step e]
      exact ih links' here' rest' e hw

end

section
variable {t t' : Files} {p : Path} {follow : Bool} {l : Location}

theorem Keeps.find_directory (h : Keeps t t') (hf : t.find p follow = .ok (.taken l .directory)) :
    t'.find p follow = .ok (.taken l .directory) := by
  rw [find] at hf ⊢
  split at hf
  · cases hf
  · rename_i hn
    rw [if_neg hn]
    split at hf
    · cases hf
    · rename_i he
      rw [if_neg he]
      split at hf
      · cases hf
      · rename_i hl
        rw [if_neg hl, h.cwd]
        exact h.walk_directory hf

theorem entry_directory_iff :
    t.entry p = .ok (l, .directory) ↔ t.find p = .ok (.taken l .directory) := by
  constructor
  · exact entry_eq_ok
  · intro h
    rw [entry, h]

theorem isDirectory_iff :
    t.isDirectory p = true ↔ ∃ l, t.find p = .ok (.taken l .directory) := by
  simp only [← entry_directory_iff]
  rw [isDirectory]
  constructor
  · intro h
    split at h
    · rename_i l he
      exact ⟨l, he⟩
    · cases h
  · rintro ⟨l, he⟩
    rw [he]

/-! ### directories that are made -/

theorem walk_idle {links : Nat} {here : Location} {ss : List Bytes}
    (hs : ss.all (· = []) = true) :
    t.walk follow links here ss = .ok (.taken here .directory) := by
  induction ss with
  | nil => exact walk_nil t follow links here
  | cons s ss ih =>
    rw [List.all_cons, Bool.and_eq_true, decide_eq_true_eq] at hs
    obtain ⟨rfl, hs⟩ := hs
    rw [walk_cons]
    exact ih hs

theorem step_go {links links' : Nat} {here here' : Location} {s : Bytes}
    {rest rest' : List Bytes} (h : t.step false links here s rest = .go links' here' rest') :
    t.step follow links here s rest = .go links' here' rest' := by
  cases follow with
  | false => exact h
  | true =>
    rcases step_following t links here s rest with ⟨m, target, e⟩ | e
    · rw [h] at e
      cases e
    · rw [e, h]

/-- A step to a free place leads on when a directory has been made there. -/
theorem step_made (follow : Bool) {slash : Bool} {links : Nat} {here : Location} {s : Bytes}
    {rest : List Bytes}
    (h : t.step false links here s rest = .done (.ok (.free l slash))) :
    (t.put l .directory).step follow links here s rest = .go links l rest ∧
      rest.all (· = []) = true := by
  rw [Files.step] at h ⊢
  by_cases hi : Path.isIdle s = true
  · rw [if_pos hi] at h
    cases h
  rw [if_neg hi] at h ⊢
  by_cases hu : isUp s = true
  · rw [if_pos hu] at h
    cases h
  rw [if_neg hu] at h ⊢
  by_cases hlen : s.length > 255
  · rw [if_pos hlen] at h
    cases h
  rw [if_neg hlen] at h ⊢
  have hs := steps_enter t false links here s rest
  rw [h] at hs
  cases hs with
  | free hg hr =>
    rw [enter, get?_put (ne_root_of_free hg), if_pos rfl]
    exact ⟨rfl, hr⟩

theorem walk_made {slash : Bool} {links : Nat} {here : Location} {ss : List Bytes}
    (h : t.walk false links here ss = .ok (.free l slash)) :
    (t.put l .directory).walk follow links here ss = .ok (.taken l .directory) := by
  have hl : t.get? l = none := holds_walk h
  induction links, here, ss using walk_induction t false with
  | nil links here =>
    rw [walk_nil] at h
    cases h
  | cons links here s rest ih =>
    rw [walk_cons] at h
    rw [walk_cons]
    cases e : t.step false links here s rest with
    | done r =>
      rw [e] at h
      obtain rfl : r = _ := h
      obtain ⟨hs, hr⟩ := step_made follow e
      rw [hs]
      exact walk_idle hr
    | go links' here' rest' =>
      rw [e] at h
      rw [(keeps_put hl).step (step_go e)]
      exact ih links' here' rest' e h

theorem find_made {slash : Bool} (h : t.find p false = .ok (.free l slash)) :
    (t.put l .directory).find p follow = .ok (.taken l .directory) := by
  rw [find] at h ⊢
  split at h
  · cases h
  · rename_i hn
    rw [if_neg hn]
    split at h
    · cases h
    · rename_i he
      rw [if_neg he]
      split at h
      · cases h
      · rename_i hlen
        rw [if_neg hlen, cwd_put]
        exact walk_made h

theorem makeDir_eq_ok_iff : t.makeDir p = .ok t' ↔
    ∃ l slash, t.find p false = .ok (.free l slash) ∧ t' = t.put l .directory := by
  rw [makeDir]
  constructor
  · intro h
    split at h
    · cases h
    · cases h
    · rename_i l slash hf
      exact ⟨l, slash, hf, (Except.ok.inj h).symm⟩
  · rintro ⟨l, slash, hf, rfl⟩
    rw [hf]

theorem ensureDir_eq_ok (h : t.ensureDir p = .ok t') :
    t.makeDir p = .ok t' ∨ t' = t ∧ t.isDirectory p = true := by
  rw [ensureDir] at h
  split at h
  · rename_i hm
    exact .inl (hm.trans h)
  · split at h
    · rename_i hd
      exact .inr ⟨(Except.ok.inj h).symm, hd⟩
    · cases h

/-! ### with all directories above -/

/-- The fuel is no part of the result: every call is for a shorter path. -/
theorem makeDirsWithin_enough {n m : Nat} (hn : p.bytes.length < n) (hm : p.bytes.length < m) :
    makeDirsWithin n t p = makeDirsWithin m t p := by
  induction n generalizing m p t with
  | zero => omega
  | succ n ih =>
    cases m with
    | zero => omega
    | succ m =>
      rw [makeDirsWithin, makeDirsWithin]
      cases hup : p.parent? with
      | none => rfl
      | some up =>
        have hlt := Path.length_parent hup
        dsimp only
        rw [ih (p := up) (m := m) (by omega) (by omega)]

/-- A directory is made by way of those above it, from the outside in. -/
theorem makeDirs_eq (t : Files) (p : Path) : t.makeDirs p =
    if p.bytes.isEmpty then (.ok (), t)
    else match t.makeDir p with
      | .ok t => (.ok (), t)
      | .error c =>
        if c = .noEntry then
          match p.parent? with
          | none => (.error (.stated "failed to create whole tree"), t)
          | some up =>
            match t.makeDirs up with
            | (.error c, t) => (.error c, t)
            | (.ok (), t) =>
              match t.ensureDir p with
              | .ok t => (.ok (), t)
              | .error c => (.error c, t)
        else if t.isDirectory p then (.ok (), t)
        else (.error c, t) := by
  rw [makeDirs, makeDirsWithin]
  cases hup : p.parent? with
  | none => rfl
  | some up =>
    have hlt := Path.length_parent hup
    simp only [makeDirs]
    rewrite [makeDirsWithin_enough (m := up.bytes.length + 1) hlt (by omega)]
    rfl

/-- The trees that are reached when the directories of the paths above are made, one at a time. -/
inductive Builds (p : Path) : Files → Files → Prop
  | refl (t : Files) : Builds p t t
  | made {t t' : Files} {q : Path} {l : Location} {slash : Bool} (hq : p.IsAbove q)
      (hf : t.find q false = .ok (.free l slash)) (h : Builds p (t.put l .directory) t') :
      Builds p t t'

theorem Builds.trans {t'' : Files} (h : Builds p t t') (h' : Builds p t' t'') :
    Builds p t t'' := by
  induction h with
  | refl t => exact h'
  | made hq hf _ ih => exact .made hq hf (ih h')

theorem Builds.of_parent {up : Path} (hup : p.parent? = some up) (h : Builds up t t') :
    Builds p t t' := by
  induction h with
  | refl t => exact .refl t
  | made hq hf _ ih => exact .made (.of_parent hup hq) hf ih

theorem builds_makeDir (h : t.makeDir p = .ok t') : Builds p t t' := by
  obtain ⟨l, slash, hf, rfl⟩ := makeDir_eq_ok_iff.mp h
  exact .made .self hf (.refl _)

theorem builds_ensureDir (h : t.ensureDir p = .ok t') : Builds p t t' := by
  rcases ensureDir_eq_ok h with hm | ⟨rfl, _⟩
  · exact builds_makeDir hm
  · exact .refl _

/-- Whether it succeeds or not, nothing but directories above the path is made. -/
theorem builds_makeDirs (p : Path) (t : Files) : Builds p t (t.makeDirs p).2 := by
  generalize hn : p.bytes.length = n
  induction n using Nat.strong_induction_on generalizing p t with
  | _ n ih =>
    rw [makeDirs_eq]
    split
    · exact .refl t
    split
    · rename_i t' hm
      exact builds_makeDir hm
    split
    · cases hup : p.parent? with
      | none => exact .refl t
      | some up =>
        have hbelow := (ih _ (hn ▸ Path.length_parent hup) up t rfl).of_parent hup
        dsimp only
        generalize t.makeDirs up = r at hbelow
        obtain ⟨r, t'⟩ := r
        cases r with
        | error c => exact hbelow
        | ok u =>
          dsimp only
          split
          · rename_i t'' he
            exact hbelow.trans (builds_ensureDir he)
          · exact hbelow
    · split
      · exact .refl t
      · exact .refl t

theorem Builds.keeps (h : Builds p t t') : Keeps t t' := by
  induction h with
  | refl t => exact .refl t
  | made _ hf _ ih => exact (keeps_put (holds_find hf)).trans ih

/-- A new entry is a directory, and a path above leads to it. -/
theorem Builds.get? (h : Builds p t t') (l : Location) : t'.get? l = t.get? l ∨
    t.get? l = none ∧ t'.get? l = some .directory ∧
      ∃ q, p.IsAbove q ∧ t'.find q = .ok (.taken l .directory) := by
  induction h with
  | refl t => exact .inl rfl
  | @made t t' q m slash hq hf h ih =>
    have hm : t.get? m = none := holds_find hf
    by_cases hl : l = m
    · subst hl
      have hnew : (t.put l .directory).get? l = some .directory := by
        rw [get?_put (ne_root_of_free hm), if_pos rfl]
      exact .inr ⟨hm, h.keeps.directory l hnew, q, hq, h.keeps.find_directory (find_made hf)⟩
    · rw [get?_put (ne_root_of_free hm), if_neg hl] at ih
      exact ih

/-! ### the directory of a path -/

/-- The location of a directory. The empty path stands for the working directory. -/
def directoryOf? (t : Files) (p : Path) : Option Location :=
  if p.bytes.isEmpty then some t.cwd
  else match t.find p with
    | .ok (.taken l .directory) => some l
    | _ => none

theorem directoryOf_eq_some_iff : t.directoryOf? p = some l ↔
    p.bytes = [] ∧ l = t.cwd ∨ p.bytes ≠ [] ∧ t.find p = .ok (.taken l .directory) := by
  rw [directoryOf?]
  by_cases hp : p.bytes = []
  · rw [if_pos (List.isEmpty_iff.mpr hp), Option.some_inj]
    simp [hp, eq_comm]
  · rw [if_neg (mt List.isEmpty_iff.mp hp)]
    simp only [hp, false_and, false_or, ne_eq, not_false_eq_true, true_and]
    constructor
    · intro h
      split at h
      · rename_i hf
        cases h
        exact hf
      · cases h
    · intro h
      rw [h]

theorem Keeps.directoryOf (h : Keeps t t') (hd : t.directoryOf? p = some l) :
    t'.directoryOf? p = some l := by
  rw [directoryOf_eq_some_iff] at hd ⊢
  rw [h.cwd]
  exact hd.imp_right (And.imp_right h.find_directory)

theorem directory_of_makeDir (h : t.makeDir p = .ok t') :
    ∃ l, t'.find p = .ok (.taken l .directory) := by
  obtain ⟨l, slash, hf, rfl⟩ := makeDir_eq_ok_iff.mp h
  exact ⟨l, find_made hf⟩

/-- A directory that could be made is there. -/
theorem directory_of_makeDirs (h : t.makeDirs p = (.ok (), t')) :
    ∃ l, t'.directoryOf? p = some l := by
  by_cases hp : p.bytes = []
  · exact ⟨t'.cwd, directoryOf_eq_some_iff.mpr (.inl ⟨hp, rfl⟩)⟩
  have hfound : ∃ l, t'.find p = .ok (.taken l .directory) := by
    rw [makeDirs_eq, if_neg (mt List.isEmpty_iff.mp hp)] at h
    split at h
    · rename_i t₁ hm
      cases h
      exact directory_of_makeDir hm
    split at h
    · split at h
      · cases h
      split at h
      · cases h
      split at h
      · rename_i t₂ he
        cases h
        rcases ensureDir_eq_ok he with hm | ⟨rfl, hd⟩
        · exact directory_of_makeDir hm
        · exact isDirectory_iff.mp hd
      · cases h
    · split at h
      · rename_i hd
        cases h
        exact isDirectory_iff.mp hd
      · cases h
  obtain ⟨l, hl⟩ := hfound
  exact ⟨l, directoryOf_eq_some_iff.mpr (.inr ⟨hp, hl⟩)⟩

/-- A directory that is there is not made again. -/
theorem makeDirs_again (h : t.directoryOf? p = some l) : t.makeDirs p = (.ok (), t) := by
  rw [makeDirs_eq]
  rcases directoryOf_eq_some_iff.mp h with ⟨hp, _⟩ | ⟨hp, hf⟩
  · rw [if_pos (List.isEmpty_iff.mpr hp)]
  · rw [if_neg (mt List.isEmpty_iff.mp hp)]
    -- Something stands at the end of the path, be it a link.
    have hm : t.makeDir p = .error .fileExists := by
      rw [makeDir]
      rcases find_following t p with ⟨m, target, e⟩ | e
      · rw [e]
      · rw [← e, hf]
    rw [hm]
    dsimp only
    rw [if_neg (by decide), if_pos (isDirectory_iff.mpr ⟨l, hf⟩)]

end
end Files
end Dashboards
