import Dashboards.Proofs.Files.Walk

/-!
# Reading what was written

* `Opens`               the place whose file a path opens for writing;
* `Writable`            files can be written there, whatever they hold;
* `grown_write`         a write makes a tree grow, so that it changes neither where other paths lead
                        (`Grown.opens`) nor what can be written (`Grown.writable_iff`);
* `read_write`          a file holds what was written last;
* `read_write_other`    and writes under other names leave it alone, unless links are in play.
-/

namespace Dashboards
open Text (Bytes)
namespace Files

section
variable {t t' : Files} {p q : Path} {l : Location} {c c' : Bytes} {x : Bool}

/-! ### the place of a file -/

/-- The path leads to a place for a file: a free one, or one with a file, which may have the
permission to be run. -/
def Opens (t : Files) (p : Path) (l : Location) (x : Bool) : Prop :=
  (t.find p = .ok (.free l false) ∧ x = false) ∨ ∃ c, t.find p = .ok (.taken l (.file c x))

theorem Opens.get? (h : t.Opens p l x) :
    t.get? l = none ∨ ∃ c, t.get? l = some (.file c x) := by
  rcases h with ⟨h, _⟩ | ⟨c, h⟩
  · exact .inl (holds_find h)
  · exact .inr ⟨c, holds_find h⟩

theorem Opens.ne_root (h : t.Opens p l x) : l ≠ [] := by
  rintro rfl
  rcases h.get? with h | ⟨c, h⟩
  · rw [get?_root] at h
    cases h
  · rw [get?_root] at h
    cases h

theorem write_eq_ok_iff :
    t.write p c = .ok t' ↔ ∃ l x, t.Opens p l x ∧ t' = t.put l (.file c x) := by
  rw [write]
  constructor
  · intro h
    split at h
    · cases h
    · rename_i l c₀ x hf
      exact ⟨l, x, .inr ⟨c₀, hf⟩, (Except.ok.inj h).symm⟩
    · cases h
    · cases h
    · cases h
    · rename_i l hf
      exact ⟨l, false, .inl ⟨hf, rfl⟩, (Except.ok.inj h).symm⟩
  · rintro ⟨l, x, ⟨hf, rfl⟩ | ⟨c₀, hf⟩, rfl⟩
    · rw [hf]
    · rw [hf]

theorem Opens.grown (h : t.Opens p l x) : Grown t (t.put l (.file c x)) := by
  refine ⟨cwd_put, fun m => ?_⟩
  rw [get?_put h.ne_root]
  by_cases hm : m = l
  · subst hm
    rw [if_pos rfl]
    refine .inr ⟨h.get?.imp_right (fun ⟨c, hc⟩ => ⟨c, x, hc⟩), c, x, rfl⟩
  · rw [if_neg hm]
    exact .inl rfl

theorem grown_write (h : t.write p c = .ok t') : Grown t t' := by
  obtain ⟨l, x, ho, rfl⟩ := write_eq_ok_iff.mp h
  exact ho.grown

/-- The place of a file stays where it is when files are written. -/
theorem Grown.opens (h : Grown t t') : (∃ x, t'.Opens p l x) ↔ ∃ x, t.Opens p l x := by
  have hf := h.find p true
  constructor
  · rintro ⟨x, ⟨ho, rfl⟩ | ⟨c, ho⟩⟩
    · rw [ho] at hf
      generalize e : t.find p = r at hf
      cases hf with
      | same _ => exact ⟨false, .inl ⟨e, rfl⟩⟩
    · rw [ho] at hf
      generalize e : t.find p = r at hf
      cases hf with
      | same _ => exact ⟨x, .inr ⟨c, e⟩⟩
      | filled _ _ _ => exact ⟨false, .inl ⟨e, rfl⟩⟩
      | rewritten _ c₀ _ x₀ _ => exact ⟨x₀, .inr ⟨c₀, e⟩⟩
  · rintro ⟨x, ⟨ho, rfl⟩ | ⟨c, ho⟩⟩
    · rw [ho] at hf
      generalize e : t'.find p = r at hf
      cases hf with
      | same _ => exact ⟨false, .inl ⟨e, rfl⟩⟩
      | filled _ c x => exact ⟨x, .inr ⟨c, e⟩⟩
    · rw [ho] at hf
      generalize e : t'.find p = r at hf
      cases hf with
      | same _ => exact ⟨x, .inr ⟨c, e⟩⟩
      | rewritten _ _ c' _ x' => exact ⟨x', .inr ⟨c', e⟩⟩

/-! ### what can be written -/

def Writable (t : Files) (p : Path) : Prop := ∀ contents, ∃ t', t.write p contents = .ok t'

theorem writable_iff_opens : t.Writable p ↔ ∃ l x, t.Opens p l x := by
  constructor
  · intro h
    obtain ⟨t', ht⟩ := h []
    obtain ⟨l, x, ho, _⟩ := write_eq_ok_iff.mp ht
    exact ⟨l, x, ho⟩
  · rintro ⟨l, x, ho⟩ c
    exact ⟨_, write_eq_ok_iff.mpr ⟨l, x, ho, rfl⟩⟩

theorem writable_of_write (h : t.write p c = .ok t') : t.Writable p := by
  obtain ⟨l, x, ho, _⟩ := write_eq_ok_iff.mp h
  exact writable_iff_opens.mpr ⟨l, x, ho⟩

theorem Grown.writable_iff (h : Grown t t') : t'.Writable p ↔ t.Writable p := by
  rw [writable_iff_opens, writable_iff_opens]
  exact exists_congr fun l => h.opens

/-! ### what is read -/

theorem entry_eq_ok {e : Entry} (h : t.entry p = .ok (l, e)) : t.find p = .ok (.taken l e) := by
  rw [entry] at h
  split at h
  · cases h
  · rename_i hf
    cases h
    exact hf
  · cases h

theorem read_eq_ok_iff : t.read p = .ok c ↔ ∃ l x, t.find p = .ok (.taken l (.file c x)) := by
  rw [read]
  constructor
  · intro h
    split at h
    · cases h
    · rename_i l c₀ x he
      cases h
      exact ⟨l, x, entry_eq_ok he⟩
    · cases h
    · cases h
  · rintro ⟨l, x, h⟩
    rw [entry, h]

/-- A path reads what stands at the place whose file it opens. -/
theorem read_eq_ok_iff_opens :
    t.read p = .ok c ↔ ∃ l, (∃ x, t.Opens p l x) ∧ ∃ x, t.get? l = some (.file c x) := by
  rw [read_eq_ok_iff]
  constructor
  · rintro ⟨l, x, h⟩
    exact ⟨l, ⟨x, .inr ⟨c, h⟩⟩, x, holds_find h⟩
  · rintro ⟨l, ⟨x, ⟨h, _⟩ | ⟨c₀, h⟩⟩, x', hl⟩
    · have hn : t.get? l = none := holds_find h
      rw [hl] at hn
      cases hn
    · have hc : t.get? l = some (.file c₀ x) := holds_find h
      rw [hl] at hc
      cases hc
      exact ⟨l, x, h⟩

theorem read_write (h : t.write p c = .ok t') : t'.read p = .ok c := by
  obtain ⟨l, x, ho, rfl⟩ := write_eq_ok_iff.mp h
  refine read_eq_ok_iff_opens.mpr ⟨l, ho.grown.opens.mpr ⟨x, ho⟩, x, ?_⟩
  rw [get?_put ho.ne_root, if_pos rfl]

/-! ### paths that are no links -/

/-- No link stands where the path leads. -/
def NoLink (t : Files) (p : Path) : Prop :=
  ∀ l target, t.find p false ≠ .ok (.taken l (.link target))

theorem Grown.noLink (h : Grown t t') (hn : t.NoLink p) : t'.NoLink p := by
  intro l target e
  have hf := h.find p false
  rw [e] at hf
  generalize e' : t.find p false = r at hf
  cases hf with
  | same _ => exact hn l target e'

theorem NoLink.find (h : t.NoLink p) : t.find p = t.find p false := by
  rcases find_following t p with ⟨l, target, e⟩ | e
  · exact absurd e (h l target)
  · exact e

theorem noLink_of_free (h : t.find p false = .ok (.free l x)) : t.NoLink p := by
  intro m target e
  rw [h] at e
  cases e

theorem writable_of_free (h : t.find p false = .ok (.free l false)) : t.Writable p :=
  writable_iff_opens.mpr ⟨l, false, .inl ⟨(noLink_of_free h).find.trans h, rfl⟩⟩

/-- A path that is no link opens a file of its own last name. -/
theorem Opens.getLast {n : Bytes} (h : t.Opens p l x) (hl : t.NoLink p) (hn : Names p n) :
    l.getLast? = some n := by
  have hf := hl.find
  rcases h with ⟨h, _⟩ | ⟨c, h⟩
  · exact getLast_find hn (hf ▸ h)
  · exact getLast_find hn (hf ▸ h)

/-- A write under one name leaves alone what is read under another. -/
theorem read_write_other {m n : Bytes} (hp : t.NoLink p) (hq : t.NoLink q) (hm : Names p m)
    (hn : Names q n) (hne : m ≠ n) (hr : t.read p = .ok c) (hw : t.write q c' = .ok t') :
    t'.read p = .ok c := by
  obtain ⟨l, ⟨x, ho⟩, x₀, hl⟩ := read_eq_ok_iff_opens.mp hr
  obtain ⟨l', x', ho', rfl⟩ := write_eq_ok_iff.mp hw
  have hll : l ≠ l' := by
    rintro rfl
    have h1 := ho.getLast hp hm
    rw [ho'.getLast hq hn] at h1
    exact hne (Option.some.inj h1).symm
  refine read_eq_ok_iff_opens.mpr ⟨l, ho'.grown.opens.mpr ⟨x, ho⟩, x₀, ?_⟩
  rw [get?_put ho'.ne_root, if_neg hll, hl]

end
end Files
end Dashboards
