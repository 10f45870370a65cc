import Dashboards.Proofs.Files.Inside

/-!
# Files side by side

In a directory without links every name has a place of its own.

* `refusal?`              the cause for which no file can be written at a path, whatever it is to hold;
* `HoldsNoLinks`, `Plain` directories in which no entry is a link;
* `Plain.find_eq`         the entry of a name decides where the name leads, and so what is read there
                          and whether a write is refused;
* `Plain.write`           a write changes the entry of its own name only.
-/

namespace Dashboards
open Text (Bytes)
namespace Files

section
variable {t t' : Files} {p : Path} {dir : Location} {m n c : Bytes} {cause : Cause}

/-! ### what is refused -/

/-- The cause for which no file can be written at a path, if there is one. -/
def refusal? (t : Files) (p : Path) : Option Cause :=
  match t.write p [] with
  | .ok _ => none
  | .error cause => some cause

/-- The contents make no difference to a refusal. -/
theorem write_eq_error_iff : t.write p c = .error cause ↔ t.refusal? p = some cause := by
  rw [refusal?, write, write]
  cases t.find p with
  | error c' => simp
  | ok place =>
    cases place with
    | free l slash => cases slash <;> simp
    | taken l e => cases e <;> simp

theorem refusal?_eq_none_iff : t.refusal? p = none ↔ t.Writable p := by
  constructor
  · intro h c
    cases hw : t.write p c with
    | ok t' => exact ⟨t', rfl⟩
    | error cause =>
      rw [write_eq_error_iff, h] at hw
      cases hw
  · intro h
    obtain ⟨t', ht⟩ := h []
    rw [refusal?, ht]

theorem refusal?_eq (h : t'.find p = t.find p) : t'.refusal? p = t.refusal? p := by
  rw [refusal?, refusal?, write, write, h]
  cases t.find p with
  | error c' => rfl
  | ok place =>
    cases place with
    | free l slash => cases slash <;> rfl
    | taken l e => cases e <;> rfl

theorem read_eq (h : t'.find p = t.find p) : t'.read p = t.read p := by
  rw [read, read, entry, entry, h]

/-! ### directories without links -/

/-- A directory stands where the path leads, and no entry in it is a link. -/
structure Plain (t : Files) (p : Path) (dir : Location) : Prop where
  directory : t.directoryOf? p = some dir
  noLink : ∀ n target, t.get? (dir ++ [n]) ≠ some (.link target)

/-- If a directory stands where the path leads, no entry in it is a link. -/
def HoldsNoLinks (t : Files) (p : Path) : Prop :=
  ∀ dir, t.directoryOf? p = some dir → ∀ n target, t.get? (dir ++ [n]) ≠ some (.link target)

theorem plain_of_makeDirs (h : t.makeDirs p = (.ok (), t')) (hl : t'.HoldsNoLinks p) :
    ∃ dir, t'.Plain p dir := by
  obtain ⟨dir, hd⟩ := directory_of_makeDirs h
  exact ⟨dir, hd, hl dir hd⟩

theorem Plain.find_eq (h : t.Plain p dir) (h' : t'.Plain p dir) (hn : Path.IsName n)
    (e : t'.get? (dir ++ [n]) = t.get? (dir ++ [n])) :
    t'.find (p.join ⟨n⟩) = t.find (p.join ⟨n⟩) := by
  rw [find_inside h.directory hn (h.noLink n), find_inside h'.directory hn (h'.noLink n), placeAt,
    placeAt, e]

theorem Plain.write (h : t.Plain p dir) (hn : Path.IsName n)
    (hw : t.write (p.join ⟨n⟩) c = .ok t') :
    t'.Plain p dir ∧ ∀ m, m ≠ n → t'.get? (dir ++ [m]) = t.get? (dir ++ [m]) := by
  obtain ⟨x, ho, e⟩ := write_place h.directory hn (h.noLink n) hw
  have hat : ∀ m, t'.get? (dir ++ [m]) =
      if dir ++ [m] = dir ++ [n] then some (.file c x) else t.get? (dir ++ [m]) := by
    intro m
    rw [e, get?_put ho.ne_root]
  refine ⟨⟨(grown_write hw).keeps.directoryOf h.directory, fun m target => ?_⟩, fun m hm => ?_⟩
  · rw [hat]
    split
    · exact fun hf => Entry.noConfusion (Option.some.inj hf)
    · exact h.noLink m target
  · rw [hat, if_neg fun e => hm (List.singleton_inj.mp (List.append_cancel_left e))]

end
end Files
end Dashboards
