import Mathlib
import Dashboards.Proofs.Templates

/-!
# What is found in a directory

* `Files.LeadsToFile`    an entry that is a regular file or a link to one;
* `Template.Of`          the template that an entry of a directory is, by its kind and its name;
* `templateAt_iff`       which the reading of an entry decides;
* `bytesLe_lt`           the order of file names is that of their bytes;
* `templatesAmong_perm`  the order in which the entries come makes no difference;
* `discover_exact`       exactly the templates of the directory are found.
-/

namespace Dashboards
open Text (Bytes)

/-! ### the template of an entry -/

/-- The entry is a regular file, or a link that leads to one. -/
def Files.LeadsToFile (t : Files) (p : Path) (e : Entry) : Prop :=
  (∃ c x, e = .file c x) ∨
    (∃ target, e = .link target) ∧ ∃ l c x, t.entry p = .ok (l, .file c x)

theorem Files.isFileAt_iff {t : Files} {p : Path} {e : Entry} :
    t.isFileAt p e = true ↔ t.LeadsToFile p e := by
  rw [LeadsToFile]
  cases e with
  | directory => simp [isFileAt]
  | file c x => simp [isFileAt]
  | special => simp [isFileAt]
  | link target =>
    rw [isFileAt]
    constructor
    · intro h
      split at h
      · rename_i l c x hp
        exact .inr ⟨⟨target, rfl⟩, l, c, x, hp⟩
      · cases h
    · rintro (⟨c, x, e⟩ | ⟨_, l, c, x, hp⟩)
      · cases e
      · rw [hp]

/-- An entry of a directory under the file name `n` is this template: it leads to a file, and `n` is
the name of the template, which is neither empty nor hidden, with the suffix. -/
structure Template.Of (template : Template) (t : Files) (directory : Path) (n : Bytes) (e : Entry) :
    Prop where
  leads : t.LeadsToFile (directory.join ⟨n⟩) e
  nonempty : template.name ≠ ""
  visible : template.name.toList.head? ≠ some '.'
  stem : n = Text.utf8 (template.name ++ ".jsonnet")
  path : template.path = directory.join ⟨n⟩

section
variable {t : Files} {directory : Path} {n : Bytes} {e : Entry} {template : Template}

theorem templateAt_iff (hn : Path.IsName n) :
    templateAt? t directory n e = some template ↔ template.Of t directory n e := by
  have hfile := Path.fileName_join directory hn
  constructor
  · intro h
    obtain ⟨hf, hp⟩ := templateAt_eq_some h
    obtain ⟨hname, hne, hv, hpath⟩ := ofPath_iff.mp hp
    rw [hfile] at hname
    exact ⟨Files.isFileAt_iff.mp hf, hne, hv, Option.some.inj hname, hpath⟩
  · intro h
    rw [templateAt?, if_pos (Files.isFileAt_iff.mpr h.leads)]
    refine ofPath_iff.mpr ⟨?_, h.nonempty, h.visible, h.path⟩
    rw [hfile, ← h.stem]

end

/-! ### the order of the entries -/

theorem bytesLe_lt {as bs : Bytes} (h : bytesLe as bs = true) (hne : as ≠ bs) : as < bs := by
  induction as generalizing bs with
  | nil =>
    cases bs with
    | nil => exact absurd rfl hne
    | cons b bs => exact List.nil_lt_cons b bs
  | cons a as ih =>
    cases bs with
    | nil => cases h
    | cons b bs =>
      rw [List.cons_lt_cons_iff]
      rcases (bytesLe_cons a b as bs).mp h with hab | ⟨rfl, hle⟩
      · exact .inl hab
      · exact .inr ⟨rfl, ih hle fun e => hne (congrArg (List.cons a) e)⟩

theorem bytesLe_antisymm {as bs : Bytes} (h : bytesLe as bs = true) (h' : bytesLe bs as = true) :
    as = bs := by
  by_contra hne
  exact absurd (bytesLe_lt h hne) (List.lt_asymm (bytesLe_lt h' (Ne.symm hne)))

/-- However the entries are listed, the same templates come in the same order. -/
theorem templatesAmong_perm {t : Files} {directory : Path} {order entries : List (Bytes × Entry)}
    (hd : entries.Pairwise fun x y => x.1 ≠ y.1) (h : order.Perm entries) :
    templatesAmong t directory order = templatesAmong t directory entries := by
  have hperm : (sortFound (found t directory order)).Perm (sortFound (found t directory entries)) :=
    (List.mergeSort_perm _ _).trans ((h.filterMap _).trans (List.mergeSort_perm _ _).symm)
  have hd' : order.Pairwise fun x y => x.1 ≠ y.1 := (h.pairwise_iff Ne.symm).mpr hd
  rw [templatesAmong_found, templatesAmong_found]
  refine congrArg (List.map _) (hperm.eq_of_pairwise ?_ (ascending_found hd') (ascending_found hd))
  intro a b _ _ hab hba
  exact absurd (bytesLe_antisymm hab.1 hba.1) hab.2

/-! ### discovery -/

section
variable {t : Files} {directory : Path} {l : Location}

theorem mem_templatesAmong (ht : t.WellFormed) {template : Template} :
    template ∈ templatesAmong t directory (t.children l) ↔
      ∃ x ∈ t.children l, template.Of t directory x.1 x.2 := by
  rw [templatesAmong_found, List.mem_map]
  constructor
  · rintro ⟨⟨n, _⟩, hx, rfl⟩
    rw [sortFound, List.mem_mergeSort] at hx
    obtain ⟨e, hm, hat⟩ := mem_found.mp hx
    exact ⟨(n, e), hm, (templateAt_iff (ht.isName hm)).mp hat⟩
  · rintro ⟨⟨n, e⟩, hm, hof⟩
    refine ⟨(n, template), ?_, rfl⟩
    rw [sortFound, List.mem_mergeSort]
    exact mem_found.mpr ⟨e, hm, (templateAt_iff (ht.isName hm)).mpr hof⟩

/-- The file names of the templates ascend, so that none comes twice. -/
theorem fileNames_templatesAmong (ht : t.WellFormed) :
    ∃ ns : List Bytes, ns.Pairwise (· < ·) ∧
      (templatesAmong t directory (t.children l)).map (·.path.fileName?) = ns.map some := by
  refine ⟨(sortFound (found t directory (t.children l))).map (·.1), ?_, ?_⟩
  · rw [List.pairwise_map]
    exact (ascending_found (t.single_children l)).imp fun h => bytesLe_lt h.1 h.2
  · rw [templatesAmong_found, List.map_map, List.map_map]
    refine List.map_congr_left fun x hx => ?_
    rw [sortFound, List.mem_mergeSort] at hx
    obtain ⟨e, hm, hat⟩ := mem_found.mp hx
    exact (templateAt_named (ht.isName hm) hat).file

theorem discover_directory (he : t.entry directory = .ok (l, .directory)) :
    discover t directory = if templatesAmong t directory (t.children l) = []
      then .error (.noTemplates directory)
      else .ok (templatesAmong t directory (t.children l)) := by
  rw [discover, Files.list, he]
  dsimp only
  split
  · rename_i h
    rw [if_pos h]
  · rename_i h
    rw [if_neg fun e => h e]

/-- A directory that is not there counts as one without templates; what cannot be read does not. -/
theorem discover_noTemplates_iff : discover t directory = .error (.noTemplates directory) ↔
    t.entry directory = .error .noEntry ∨ ∃ l, t.entry directory = .ok (l, .directory) ∧
      templatesAmong t directory (t.children l) = [] := by
  cases he : t.entry directory with
  | error cause =>
    rw [discover, Files.list, he]
    dsimp only
    by_cases hc : cause = .noEntry
    · rw [if_pos hc, hc]
      exact ⟨fun _ => .inl rfl, fun _ => rfl⟩
    · rw [if_neg hc]
      constructor
      · intro h
        cases h
      · rintro (h | ⟨_, h, _⟩)
        · exact absurd (Except.error.inj h) hc
        · cases h
  | ok x =>
    obtain ⟨l, e⟩ := x
    cases e with
    | directory =>
      rw [discover_directory he]
      constructor
      · intro h
        split at h
        · rename_i hnil
          exact .inr ⟨l, rfl, hnil⟩
        · cases h
      · rintro (h | ⟨m, h, hnil⟩)
        · cases h
        · cases h
          rw [if_pos hnil]
    | file | link | special =>
      rw [discover, Files.list, he]
      simp [Cause.noEntry, Cause.notDirectory]

end

/-- In whatever order the entries of a directory are listed, its templates are found: one for each
entry that leads to a file and has a name for it, in the order of the bytes of the file names. There
are none just if no entry is of this kind or if there is no directory. -/
theorem discover_exact (t : Files) (ht : t.WellFormed) (directory : Path) :
    (∀ l, t.entry directory = .ok (l, .directory) → ∀ order, order.Perm (t.children l) →
      let ts := templatesAmong t directory order
      discover t directory = (if ts = [] then .error (.noTemplates directory) else .ok ts) ∧
        (∀ template, template ∈ ts ↔ ∃ x ∈ t.children l, template.Of t directory x.1 x.2) ∧
        ∃ ns : List Bytes, ns.Pairwise (· < ·) ∧ ts.map (·.path.fileName?) = ns.map some) ∧
      (discover t directory = .error (.noTemplates directory) ↔
        t.entry directory = .error .noEntry ∨ ∃ l, t.entry directory = .ok (l, .directory) ∧
          ∀ x ∈ t.children l, ∀ template : Template, ¬ template.Of t directory x.1 x.2) := by
  constructor
  · intro l he order horder ts
    have hts : ts = templatesAmong t directory (t.children l) :=
      templatesAmong_perm (t.single_children l) horder
    rw [hts]
    exact ⟨discover_directory he, fun _ => mem_templatesAmong ht, fileNames_templatesAmong ht⟩
  · rw [discover_noTemplates_iff]
    refine or_congr_right (exists_congr fun l => and_congr_right fun _ => ?_)
    rw [List.eq_nil_iff_forall_not_mem]
    constructor
    · intro h x hx template hof
      exact h template ((mem_templatesAmong ht).mpr ⟨x, hx, hof⟩)
    · rintro h template hm
      obtain ⟨x, hx, hof⟩ := (mem_templatesAmong ht).mp hm
      exact h x hx template hof

/-- A directory with a file, links to a file and to nothing, and a socket, all of them with the
suffix. -/
def mixedDirectory : Files :=
  let entry (name : String) (e : Entry) : Location × Entry := ([[100], Text.utf8 name], e)
  { entries := [([[100]], .directory), entry "a.jsonnet" (.file [] false),
      entry "a-b.jsonnet" (.link ⟨Text.utf8 "a.jsonnet"⟩),
      entry "gone.jsonnet" (.link ⟨Text.utf8 "nowhere"⟩), entry "s.jsonnet" .special] }

theorem discover_exact_mixed :
    mixedDirectory.WellFormed ∧ ∃ ts, discover mixedDirectory ⟨[47, 100]⟩ = .ok ts ∧
      ts.map (·.name) = ["a-b", "a"] := by
  have hw : mixedDirectory.WellFormed := by decide
  have he : mixedDirectory.entry ⟨[47, 100]⟩ = .ok ([[100]], .directory) := by cbv
  obtain ⟨hok, -, -⟩ := (discover_exact mixedDirectory hw ⟨[47, 100]⟩).1 _ he _ .rfl
  have ha : templateAt? mixedDirectory ⟨[47, 100]⟩ (Text.utf8 "a.jsonnet") (.file [] false) =
      some ⟨"a", ⟨Text.utf8 "/d/a.jsonnet"⟩⟩ :=
    (templateAt_iff (by decide)).mpr ⟨.inl ⟨_, _, rfl⟩, by decide, by decide, by decide, by decide⟩
  have hab : templateAt? mixedDirectory ⟨[47, 100]⟩ (Text.utf8 "a-b.jsonnet")
      (.link ⟨Text.utf8 "a.jsonnet"⟩) = some ⟨"a-b", ⟨Text.utf8 "/d/a-b.jsonnet"⟩⟩ :=
    (templateAt_iff (by decide)).mpr ⟨.inr ⟨⟨_, rfl⟩, [[100], Text.utf8 "a.jsonnet"], [], false,
      by cbv⟩, by decide, by decide, by decide, by decide⟩
  have hgone : templateAt? mixedDirectory ⟨[47, 100]⟩ (Text.utf8 "gone.jsonnet")
      (.link ⟨Text.utf8 "nowhere"⟩) = none := by
    have h : mixedDirectory.entry ⟨Text.utf8 "/d/gone.jsonnet"⟩ = .error .noEntry := by cbv
    rw [templateAt?, Files.isFileAt, show (⟨[47, 100]⟩ : Path).join ⟨Text.utf8 "gone.jsonnet"⟩ =
      ⟨Text.utf8 "/d/gone.jsonnet"⟩ by decide, h]
    rfl
  have hs : templateAt? mixedDirectory ⟨[47, 100]⟩ (Text.utf8 "s.jsonnet") .special = none := rfl
  have hchildren : mixedDirectory.children [[100]] = [(Text.utf8 "a.jsonnet", .file [] false),
      (Text.utf8 "a-b.jsonnet", .link ⟨Text.utf8 "a.jsonnet"⟩),
      (Text.utf8 "gone.jsonnet", .link ⟨Text.utf8 "nowhere"⟩), (Text.utf8 "s.jsonnet", .special)] :=
    rfl
  have hsort : ∀ x y : Template,
      sortFound [(Text.utf8 "a.jsonnet", x), (Text.utf8 "a-b.jsonnet", y)] =
        [(Text.utf8 "a-b.jsonnet", y), (Text.utf8 "a.jsonnet", x)] := by
    intro x y
    cbv
  have hts : templatesAmong mixedDirectory ⟨[47, 100]⟩ (mixedDirectory.children [[100]]) =
      [⟨"a-b", ⟨Text.utf8 "/d/a-b.jsonnet"⟩⟩, ⟨"a", ⟨Text.utf8 "/d/a.jsonnet"⟩⟩] := by
    simp only [templatesAmong_found, found, hchildren, List.filterMap, ha, hab, hgone, hs,
      Option.map, hsort, List.map]
  rw [hts, if_neg (List.cons_ne_nil _ _)] at hok
  exact ⟨hw, _, hok, rfl⟩

end Dashboards
