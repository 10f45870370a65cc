import Dashboards.Proofs.Files.Directories

/-!
# Files inside a directory

A name behind the path of a directory leads into this directory.

* `find_inside`         the place of such a name;
* `obstacle?`           what keeps a name from being looked up, whatever stands there;
* `write_place`         a file that is written is put there;
* `put_again`           to put what is there changes nothing;
* `write_again`, `write_refused_again`   a write comes to the same when it is made once more;
* `LinkFree`            trees without links.
-/

namespace Dashboards
open Text (Bytes)
namespace Files

section
variable {t t' : Files} {p : Path} {n c : Bytes} {l : Location}

/-! ### the place of a name -/

/-- What follows behind a directory makes no difference to the way there. -/
theorem step_inside {links links' : Nat} {here here' : Location} {s : Bytes}
    {ss tail rest : List Bytes} (more : List Bytes)
    (h : t.step true links here s (ss ++ tail) = .go links' here' rest) :
    ∃ ss', rest = ss' ++ tail ∧
      t.step true links here s (ss ++ more) = .go links' here' (ss' ++ more) := by
  rw [Files.step] at h ⊢
  by_cases hi : Path.isIdle s = true
  · rw [if_pos hi] at h ⊢
    cases h
    exact ⟨ss, rfl, rfl⟩
  rw [if_neg hi] at h ⊢
  by_cases hu : isUp s = true
  · rw [if_pos hu] at h ⊢
    cases h
    exact ⟨ss, rfl, rfl⟩
  rw [if_neg hu] at h ⊢
  by_cases hl : s.length > 255
  · rw [if_pos hl] at h
    cases h
  rw [if_neg hl] at h ⊢
  rw [enter] at h ⊢
  cases hg : t.get? (here ++ [s]) with
  | none =>
    rw [hg] at h
    cases h
  | some e =>
    rw [hg] at h
    cases e with
    | directory =>
      cases h
      exact ⟨ss, rfl, rfl⟩
    | file c x => cases h
    | special => cases h
    | link target =>
      simp only [Bool.not_true, Bool.and_false, Bool.false_eq_true, ↓reduceIte] at h ⊢
      cases links with
      | zero => cases h
      | succ links =>
        dsimp only at h ⊢
        split at h
        · cases h
        · rename_i ht
          cases h
          exact ⟨Path.segments target.bytes ++ ss, (List.append_assoc _ _ _).symm, by
            rw [if_neg ht, List.append_assoc]⟩

theorem walk_inside {links : Nat} {here : Location} {ss tail : List Bytes}
    (ht : ∀ s ∈ tail, s = [])
    (h : t.walk true links here (ss ++ tail) = .ok (.taken l .directory)) (n : Bytes) :
    ∃ links', t.walk true links here (ss ++ [n]) = t.walk true links' l [n] := by
  generalize hz : ss ++ tail = zs at h
  induction links, here, zs using walk_induction t true generalizing ss with
  | nil links here =>
    obtain ⟨rfl, -⟩ := List.append_eq_nil_iff.mp hz
    rw [walk_nil] at h
    cases h
    exact ⟨links, rfl⟩
  | cons links here s rest ih =>
    cases ss with
    | nil =>
      have hall : (s :: rest).all (· = []) = true := by
        rw [← hz, List.nil_append, List.all_eq_true]
        exact fun x hx => decide_eq_true (ht x hx)
      rw [walk_idle hall] at h
      cases h
      exact ⟨links, rfl⟩
    | cons s' ss =>
      rw [List.cons_append] at hz
      obtain ⟨rfl, rfl⟩ := List.cons.inj hz
      rw [walk_cons] at h
      have hs := steps_step t true links here s' (ss ++ tail)
      cases e : t.step true links here s' (ss ++ tail) with
      | done r =>
        rw [e] at h hs
        cases h
        cases hs
      | go links' here' rest' =>
        rw [e] at h
        obtain ⟨ss', rfl, e'⟩ := step_inside [n] e
        rw [List.cons_append, walk_cons, e']
        exact ih links' here' _ e rfl h

/-- What the map says of a place in a directory. -/
def placeAt (t : Files) (l : Location) : Place :=
  match t.get? l with
  | none => .free l false
  | some e => .taken l e

theorem walk_name {links : Nat} (hn : Path.IsName n)
    (hl : ∀ target, t.get? (l ++ [n]) ≠ some (.link target)) :
    t.walk true links l [n] =
      if n.length > 255 then .error .nameTooLong else .ok (t.placeAt (l ++ [n])) := by
  have hidle : ¬ Path.isIdle n = true := by
    rw [hn.idle]
    exact Bool.false_ne_true
  have hup : ¬ isUp n = true := fun h => hn.up (of_decide_eq_true h)
  rw [walk_cons, Files.step, if_neg hidle, if_neg hup]
  by_cases hlen : n.length > 255
  · rw [if_pos hlen, if_pos hlen]
  · rw [if_neg hlen, if_neg hlen, placeAt]
    unfold enter
    cases hg : t.get? (l ++ [n]) with
    | none => rfl
    | some e =>
      cases e with
      | directory => exact walk_nil t true links _
      | file c x => rfl
      | special => rfl
      | link target => exact absurd hg (hl target)

/-- What keeps a name behind a path from being looked up, whatever stands there. -/
def obstacle? (p : Path) (n : Bytes) : Option Cause :=
  if (p.join ⟨n⟩).bytes.contains 0 then some .nulInPath
  else if (p.join ⟨n⟩).bytes.length ≥ 4096 then some .nameTooLong
  else if n.length > 255 then some .nameTooLong
  else none

/-- A name behind the path of a directory is looked up in this directory. -/
theorem find_inside (hd : t.directoryOf? p = some l) (hn : Path.IsName n)
    (hl : ∀ target, t.get? (l ++ [n]) ≠ some (.link target)) :
    t.find (p.join ⟨n⟩) = match obstacle? p n with
      | some cause => .error cause
      | none => .ok (t.placeAt (l ++ [n])) := by
  have hne : ¬ List.isEmpty (p.join ⟨n⟩).bytes = true := by
    rw [List.isEmpty_iff]
    intro e
    have hlast := Path.getLast_join p hn.slash
    rw [e] at hlast
    have hidle := hn.idle
    rw [← Option.some.inj hlast] at hidle
    exact absurd hidle (by decide)
  have hwalk : ∃ links, t.walk true 40 (if (p.join ⟨n⟩).isAbsolute then [] else t.cwd)
      (Path.segments (p.join ⟨n⟩).bytes) = t.walk true links l [n] := by
    rcases directoryOf_eq_some_iff.mp hd with ⟨hp, rfl⟩ | ⟨hp, hf⟩
    · rw [Path.join_empty hp, Path.not_isAbsolute hn.slash,
        if_neg Bool.false_ne_true, Path.segments_of_not_mem hn.slash]
      exact ⟨40, rfl⟩
    · obtain ⟨ss, tail, _, ht, e, e'⟩ := Path.segments_below hp hn.slash
      rw [Path.isAbsolute_join hp hn.slash, e']
      refine walk_inside ht ?_ n
      rw [find] at hf
      split at hf
      · cases hf
      split at hf
      · cases hf
      split at hf
      · cases hf
      · rw [← e]
        exact hf
  obtain ⟨links, hwalk⟩ := hwalk
  rw [find, obstacle?, if_neg hne, hwalk, walk_name hn hl]
  split
  · rfl
  split
  · rfl
  split
  · rfl
  · rfl

/-! ### what is written -/

/-- A file that is written inside a directory is put under its name. -/
theorem write_place (hd : t.directoryOf? p = some l) (hn : Path.IsName n)
    (hl : ∀ target, t.get? (l ++ [n]) ≠ some (.link target))
    (hw : t.write (p.join ⟨n⟩) c = .ok t') :
    ∃ x, t.Opens (p.join ⟨n⟩) (l ++ [n]) x ∧ t' = t.put (l ++ [n]) (.file c x) := by
  obtain ⟨m, x, ho, rfl⟩ := write_eq_ok_iff.mp hw
  have hf := find_inside hd hn hl
  have hm : m = l ++ [n] := by
    rw [placeAt] at hf
    rcases ho with ⟨ho, _⟩ | ⟨c₀, ho⟩
    · rw [ho] at hf
      split at hf
      · cases hf
      · split at hf
        · exact (Place.free.inj (Except.ok.inj hf)).1
        · cases hf
    · rw [ho] at hf
      split at hf
      · cases hf
      · split at hf
        · cases hf
        · exact (Place.taken.inj (Except.ok.inj hf)).1
  subst hm
  exact ⟨x, ho, rfl⟩

theorem mem_of_get? {e : Entry} (hl : l ≠ []) (h : t.get? l = some e) : (l, e) ∈ t.entries := by
  rw [Files.get?, if_neg hl] at h
  exact mem_of_lookup h

/-- To put what is there changes nothing. -/
theorem put_again {e : Entry} (hl : l ≠ []) (h : t.get? l = some e) :
    t.put l e = t := by
  have hm := mem_of_get? hl h
  have hany : t.entries.any (·.1 = l) = true :=
    List.any_eq_true.mpr ⟨_, hm, decide_eq_true rfl⟩
  rw [put, dif_pos hany]
  have hmap : (t.entries.map fun x => if x.1 = l then (l, e) else x) = t.entries := by
    refine (List.map_congr_left fun x hx => ?_).trans (List.map_id _)
    split
    · rename_i hx₁
      have h₁ := lookup_of_mem t.single hx
      have h₂ := lookup_of_mem t.single hm
      rw [hx₁] at h₁
      rw [h₁] at h₂
      exact Prod.ext hx₁.symm (Option.some.inj h₂).symm
    · rfl
  exact Files.ext hmap rfl

/-! ### what is written again -/

section
variable {T : Files} (hd : t.directoryOf? p = some l) (hD : T.directoryOf? p = some l)
  (hn : Path.IsName n) (hl : ∀ target, t.get? (l ++ [n]) ≠ some (.link target))
  (hL : ∀ target, T.get? (l ++ [n]) ≠ some (.link target))
include hd hD hn hl hL

/-- Where the file that was written stands unchanged, it is written again without a change. -/
theorem write_again (hw : t.write (p.join ⟨n⟩) c = .ok t')
    (h : T.get? (l ++ [n]) = t'.get? (l ++ [n])) : T.write (p.join ⟨n⟩) c = .ok T := by
  obtain ⟨x, ho, rfl⟩ := write_place hd hn hl hw
  have hne : l ++ [n] ≠ [] := ho.ne_root
  rw [get?_put hne, if_pos rfl] at h
  have hfree : obstacle? p n = none := by
    have hf := find_inside hd hn hl
    cases hob : obstacle? p n with
    | none => rfl
    | some cause =>
      rw [hob] at hf
      rcases ho with ⟨ho, _⟩ | ⟨c₀, ho⟩
      · rw [ho] at hf
        cases hf
      · rw [ho] at hf
        cases hf
  have hF := find_inside hD hn hL
  rw [hfree, placeAt, h] at hF
  refine write_eq_ok_iff.mpr ⟨l ++ [n], x, .inr ⟨c, hF⟩, ?_⟩
  rw [put_again hne h]

/-- Where nothing has changed, a write is refused for the same cause. -/
theorem write_refused_again {cause : Cause} (hw : t.write (p.join ⟨n⟩) c = .error cause)
    (h : T.get? (l ++ [n]) = t.get? (l ++ [n])) : T.write (p.join ⟨n⟩) c = .error cause := by
  have hfind : T.find (p.join ⟨n⟩) = t.find (p.join ⟨n⟩) := by
    rw [find_inside hd hn hl, find_inside hD hn hL, placeAt, placeAt, h]
  rw [write] at hw ⊢
  rw [hfind]
  cases hf : t.find (p.join ⟨n⟩) with
  | error cause' =>
    rw [hf] at hw
    exact hw
  | ok place =>
    rw [hf] at hw
    cases place with
    | free m slash =>
      cases slash with
      | false => cases hw
      | true => exact hw
    | taken m e =>
      cases e with
      | directory => exact hw
      | file c₀ x => cases hw
      | special => exact hw
      | link target => exact hw

end

/-! ### trees without links -/

def LinkFree (t : Files) : Prop := ∀ x ∈ t.entries, ∀ target, x.2 ≠ .link target

theorem LinkFree.get? (h : t.LinkFree) (l : Location) (target : Path) :
    t.get? l ≠ some (.link target) := by
  intro hl
  have hne : l ≠ [] := by
    rintro rfl
    rw [get?_root] at hl
    cases hl
  exact h _ (mem_of_get? hne hl) target rfl

theorem LinkFree.put (h : t.LinkFree) {e : Entry} (he : ∀ target, e ≠ .link target) :
    (t.put l e).LinkFree := by
  intro x hx
  rw [Files.put] at hx
  split at hx
  · obtain ⟨y, hy, rfl⟩ := List.mem_map.mp hx
    split
    · exact he
    · exact h y hy
  · rcases List.mem_append.mp hx with hx | hx
    · exact h x hx
    · obtain rfl := List.mem_singleton.mp hx
      exact he

end
end Files
end Dashboards
