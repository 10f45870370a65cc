import Dashboards.Proofs.Footprint

/-!
# The templates after a run

What a run changes is never listed as a template, so the same templates are found once more.

* `listed?`            the template that an entry of the tree is, seen from a directory;
* `discover_listed`    in a tree without links only these entries matter;
* `filterMap_put`      a change of entries that are not listed is not seen;
* `Builds.listed`, `Compiles.listed`   directories and documents are not listed;
* `Completed.rediscover`   a run leaves the templates as they were.
-/

namespace Dashboards
open Text (Bytes)

/-! ### listed entries -/

/-- The template that an entry inside the location of a directory is, with its file name. -/
def listed? (directory : Path) (l : Location) (x : Location × Entry) : Option (Bytes × Template) :=
  match x.1.getLast?, x.2 with
  | some n, .file _ _ =>
    if x.1.dropLast = l then (Template.ofPath? (directory.join ⟨n⟩)).map (n, ·) else none
  | _, _ => none

section
variable {t t' : Files} {directory : Path} {l : Location}

theorem listed_directory (m : Location) : listed? directory l (m, .directory) = none := by
  rw [listed?]
  cases m.getLast? <;> rfl

theorem listed_output {template : Template} {n : Bytes} (h : template.Named n) (dir : Location)
    (e : Entry) : listed? directory l (documentAt dir template.name, e) = none := by
  have hpath : Template.ofPath? (directory.join ⟨Text.utf8 (template.name ++ ".json")⟩) = none :=
    ofPath_output (b := template) (Path.fileName_join directory h.output)
  rw [listed?, documentAt, List.getLast?_concat]
  cases e with
  | directory => rfl
  | link target => rfl
  | special => rfl
  | file c x =>
    dsimp only
    rw [hpath]
    split <;> rfl

/-- In a tree without links, only the entries that are listed matter. -/
theorem templatesAmong_eq (ht : t.LinkFree) :
    templatesAmong t directory (t.children l) =
      ((t.entries.filterMap (listed? directory l)).mergeSort
        fun a b => bytesLe a.1 b.1).map (·.2) := by
  rw [templatesAmong, Files.children, List.filterMap_filterMap]
  dsimp only
  rw [List.filterMap_congr]
  rintro ⟨m, e⟩ hx
  rw [listed?]
  dsimp only
  cases m.getLast? with
  | none => rfl
  | some n =>
    dsimp only
    by_cases hm : m.dropLast = l
    · rw [if_pos hm]
      cases e with
      | directory => rfl
      | file c x =>
        dsimp only
        rw [if_pos hm]
        rfl
      | link target => exact absurd rfl (ht _ hx target)
      | special => rfl
    · rw [if_neg hm]
      cases e with
      | directory => rfl
      | file c x =>
        dsimp only
        rw [if_neg hm]
        rfl
      | link target => rfl
      | special => rfl

/-- The templates that are found are decided by the listed entries of the directory. -/
theorem discover_listed (ht : t.LinkFree) (ht' : t'.LinkFree) (hk : Files.Keeps t t')
    (hsame : ∀ l, t'.entries.filterMap (listed? directory l) =
      t.entries.filterMap (listed? directory l)) {templates : List Template}
    (h : discover t directory = .ok templates) : discover t' directory = .ok templates := by
  obtain ⟨hne, entries, hl, rfl⟩ := discover_eq_ok h
  obtain ⟨l, he, rfl⟩ := Files.list_eq_ok hl
  have he' : t'.entry directory = .ok (l, .directory) :=
    Files.entry_directory_iff.mpr (hk.find_directory (Files.entry_directory_iff.mp he))
  have htemplates : templatesAmong t' directory (t'.children l) =
      templatesAmong t directory (t.children l) := by
    rw [templatesAmong_eq ht', templatesAmong_eq ht, hsame l]
  rw [discover, Files.list, he']
  dsimp only
  rw [htemplates]
  split
  · rename_i hnil
    exact absurd hnil hne
  · rfl

/-! ### changes that are not listed -/

theorem filterMap_put {m : Location} {e : Entry}
    (hold : ∀ x ∈ t.entries, x.1 = m → listed? directory l x = none)
    (hnew : listed? directory l (m, e) = none) :
    (t.put m e).entries.filterMap (listed? directory l) =
      t.entries.filterMap (listed? directory l) := by
  rw [Files.put]
  split
  · dsimp only
    rw [List.filterMap_map]
    refine List.filterMap_congr fun x hx => ?_
    show listed? directory l (if x.1 = m then (m, e) else x) = listed? directory l x
    split
    · rename_i hm
      rw [hnew, hold x hx hm]
    · rfl
  · dsimp only
    rw [List.filterMap_append, List.filterMap_cons_none hnew, List.filterMap_nil, List.append_nil]

theorem Builds.listed {p : Path} (h : Files.Builds p t t') :
    t'.entries.filterMap (listed? directory l) = t.entries.filterMap (listed? directory l) := by
  induction h with
  | refl t => rfl
  | @made t t' q m slash _ hf _ ih =>
    have hfree : t.get? m = none := Files.holds_find hf
    rw [ih, filterMap_put ?_ (listed_directory m)]
    intro x hx hm
    -- Nothing stands at a free place.
    rw [Files.get?, if_neg (Files.ne_root_of_free hfree), List.lookup_eq_none_iff] at hfree
    exact absurd (beq_iff_eq.mpr hm.symm) (by simpa using hfree x hx)

theorem Compiles.listed {outputDir : Path} {templates : List Template} {outs : List Printed}
    {dir : Location} (h : Compiles outputDir templates outs t t') (ht : t.LinkFree)
    (hd : t.directoryOf? outputDir = some dir)
    (hn : ∀ template ∈ templates, ∃ n, template.Named n) :
    t'.entries.filterMap (listed? directory l) = t.entries.filterMap (listed? directory l) := by
  induction h with
  | nil => rfl
  | @cons template o templates outs t t₁ t'' hw _ ih =>
    obtain ⟨⟨n, hn₁⟩, hn⟩ := List.forall_mem_cons.mp hn
    obtain ⟨x, ho, ht₁⟩ := Files.write_place hd hn₁.output (fun target => ht.get? _ target) hw
    rw [ih (Files.linkFree_write hw ht) ((Files.grown_write hw).keeps.directoryOf hd) hn, ht₁]
    refine filterMap_put ?_ (listed_output hn₁ dir _)
    rintro ⟨m, e⟩ _ rfl
    exact listed_output hn₁ dir e

end

/-- A run with a report leaves the templates as they were. -/
theorem Completed.rediscover {c : Config} {before made after : Files} {report : Report}
    {templates done : List Template} {outs : List Printed}
    (h : Completed c before report templates done outs made after) (hw : before.WellFormed)
    (hl : before.LinkFree) : discover after c.templatesDir = .ok templates := by
  obtain ⟨dir, hmade, _⟩ := h.directoryOf
  refine discover_listed hl (h.linkFree hl) h.keeps (fun l => ?_) h.found
  rw [h.written.listed (h.builds.linkFree hl) hmade
    (fun template ht => h.named hw template (h.part.subset ht)), Builds.listed h.builds]

end Dashboards
