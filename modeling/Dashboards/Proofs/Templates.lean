import Mathlib.Data.List.Forall2
import Dashboards.Template
import Dashboards.Proofs.Files.Walk
import Dashboards.Proofs.Path
import Dashboards.Proofs.Text.Utf8

/-!
# The templates of a directory

* `Files.WellFormed`      names as a system allows them;
* `bytesLe_trans`, `bytesLe_total`   the order of file names;
* `ofPath_iff`            which paths are templates, by their file names;
* `Template.Named`        the file name of a template and its parts;
* `found`, `sortFound`    the templates among entries, with their file names, and their order;
* `mem_discover`          every template is that of an entry of the directory;
* `discover_named`        the templates are found in the order of their file names, each once;
* `names_output`          no two of them share the name of an output.
-/

namespace Dashboards
open Text (Bytes)

/-! ### the order of file names -/

theorem bytesLe_cons (a b : UInt8) (as bs : Bytes) :
    bytesLe (a :: as) (b :: bs) = true ↔ a < b ∨ a = b ∧ bytesLe as bs = true := by
  rw [bytesLe, Bool.or_eq_true, Bool.and_eq_true, decide_eq_true_eq, decide_eq_true_eq]

theorem bytesLe_trans (as bs cs : Bytes) (h : bytesLe as bs = true) (h' : bytesLe bs cs = true) :
    bytesLe as cs = true := by
  induction as generalizing bs cs with
  | nil => rfl
  | cons a as ih =>
    cases bs with
    | nil => cases h
    | cons b bs =>
      cases cs with
      | nil => cases h'
      | cons c cs =>
        rw [bytesLe_cons] at h h' ⊢
        rcases h with h | ⟨rfl, h⟩
        · rcases h' with h' | ⟨rfl, _⟩
          · exact .inl (UInt8.lt_trans h h')
          · exact .inl h
        · rcases h' with h' | ⟨rfl, h'⟩
          · exact .inl h'
          · exact .inr ⟨rfl, ih bs cs h h'⟩

theorem bytesLe_total (as bs : Bytes) : (bytesLe as bs || bytesLe bs as) = true := by
  induction as generalizing bs with
  | nil => rfl
  | cons a as ih =>
    cases bs with
    | nil => rfl
    | cons b bs =>
      rw [Bool.or_eq_true, bytesLe_cons, bytesLe_cons]
      by_cases hab : a = b
      · subst hab
        have h := ih bs
        rw [Bool.or_eq_true] at h
        exact h.imp (fun h => .inr ⟨rfl, h⟩) (fun h => .inr ⟨rfl, h⟩)
      · exact (UInt8.lt_or_lt_of_ne hab).imp .inl .inl

/-! ### names of templates -/

/-- The file name of a template: its name with the suffix. -/
structure Template.Named (template : Template) (n : Bytes) : Prop where
  proper : Path.IsName n
  file : template.path.fileName? = some n
  stem : n = Text.utf8 template.name ++ Text.utf8 ".jsonnet"

theorem stem_sound {cs stem : List Char} (h : Template.stem? cs = some stem) :
    cs = stem ++ Template.suffix := by
  rw [Template.stem?] at h
  split at h
  · rename_i hd
    have hs : cs.take (cs.length - Template.suffix.length) = stem := by
      split at h
      · cases h
      · cases h
      · exact Option.some.inj h
    calc cs = cs.take (cs.length - Template.suffix.length)
          ++ cs.drop (cs.length - Template.suffix.length) := (List.take_append_drop _ _).symm
      _ = stem ++ Template.suffix := by rw [hs, hd]
  · cases h

theorem stem_complete {stem : List Char} (hne : stem ≠ []) (hv : stem.head? ≠ some '.') :
    Template.stem? (stem ++ Template.suffix) = some stem := by
  have hlength : (stem ++ Template.suffix).length - Template.suffix.length = stem.length := by
    rw [List.length_append, Nat.add_sub_cancel]
  rw [Template.stem?, hlength, List.drop_left, if_pos rfl, List.take_left]
  split
  · exact absurd rfl hne
  · exact absurd rfl hv
  · rfl

theorem stem_eq_some_iff {cs stem : List Char} : Template.stem? cs = some stem ↔
    cs = stem ++ Template.suffix ∧ stem ≠ [] ∧ stem.head? ≠ some '.' := by
  constructor
  · intro h
    refine ⟨stem_sound h, ?_⟩
    rw [Template.stem?] at h
    split at h
    · split at h
      · cases h
      · cases h
      · rename_i hne hv
        cases h
        refine ⟨hne, fun hd => ?_⟩
        obtain ⟨rest, e⟩ := List.head?_eq_some_iff.mp hd
        exact hv rest e
    · cases h
  · rintro ⟨rfl, hne, hv⟩
    exact stem_complete hne hv

theorem ofPath_eq_some_iff {p : Path} {template : Template} :
    Template.ofPath? p = some template ↔ ∃ n cs stem, p.fileName? = some n ∧
      Text.fromUtf8? n = some cs ∧ Template.stem? cs = some stem ∧
      template = ⟨String.ofList stem, p⟩ := by
  constructor
  · intro h
    obtain ⟨n, hn, h1⟩ := Option.bind_eq_some_iff.mp h
    obtain ⟨cs, hc, h2⟩ := Option.bind_eq_some_iff.mp h1
    obtain ⟨stem, hs, h3⟩ := Option.bind_eq_some_iff.mp h2
    exact ⟨n, cs, stem, hn, hc, hs, (Option.some.inj h3).symm⟩
  · rintro ⟨n, cs, stem, hn, hc, hs, rfl⟩
    refine Option.bind_eq_some_iff.mpr ⟨n, hn, ?_⟩
    exact Option.bind_eq_some_iff.mpr ⟨cs, hc, Option.bind_eq_some_iff.mpr ⟨stem, hs, rfl⟩⟩

/-- A path is a template just if its file name is a name that is neither empty nor hidden, with the
suffix. -/
theorem ofPath_iff {p : Path} {template : Template} : Template.ofPath? p = some template ↔
    p.fileName? = some (Text.utf8 (template.name ++ ".jsonnet")) ∧ template.name ≠ "" ∧
      template.name.toList.head? ≠ some '.' ∧ template.path = p := by
  have hutf8 : ∀ stem : List Char, (stem ++ Template.suffix).flatMap String.utf8EncodeChar =
      Text.utf8 (String.ofList stem ++ ".jsonnet") := by
    intro stem
    rw [Text.utf8, String.toList_append, String.toList_ofList]
    rfl
  rw [ofPath_eq_some_iff]
  constructor
  · rintro ⟨n, cs, stem, hn, hc, hs, rfl⟩
    obtain ⟨hcs, hne, hv⟩ := stem_eq_some_iff.mp hs
    refine ⟨?_, ?_, ?_, rfl⟩
    · rw [hn, Text.fromUtf8?_sound hc, hcs, hutf8]
    · intro h
      have hnil := congrArg String.toList h
      rw [String.toList_ofList] at hnil
      exact hne hnil
    · rwa [String.toList_ofList]
  · rintro ⟨hn, hne, hv, rfl⟩
    have hname := Text.fromUtf8?_encode (template.name.toList ++ Template.suffix)
    rw [hutf8, String.ofList_toList] at hname
    have hstem : template.name.toList ≠ [] := fun e => hne (String.toList_injective e)
    refine ⟨_, _, _, hn, hname, stem_complete hstem hv, ?_⟩
    rw [String.ofList_toList]

theorem templateAt_eq_some {t : Files} {directory : Path} {n : Bytes} {e : Entry}
    {template : Template} (h : templateAt? t directory n e = some template) :
    t.isFileAt (directory.join ⟨n⟩) e = true ∧
      Template.ofPath? (directory.join ⟨n⟩) = some template := by
  rw [templateAt?] at h
  split at h
  · rename_i hf
    exact ⟨hf, h⟩
  · cases h

theorem ofPath_named {p : Path} {n : Bytes} {template : Template} (hn : p.fileName? = some n)
    (h : Template.ofPath? p = some template) : template.Named n := by
  obtain ⟨hname, -, -, hpath⟩ := ofPath_iff.mp h
  have hproper := Path.isName_of_fileName hn
  refine ⟨hproper, hpath ▸ hn, ?_⟩
  rw [hn] at hname
  rw [Option.some.inj hname, Text.utf8_append]

theorem templateAt_named {t : Files} {directory : Path} {n : Bytes} {e : Entry}
    {template : Template} (hn : Path.IsName n)
    (h : templateAt? t directory n e = some template) : template.Named n :=
  ofPath_named (Path.fileName_join directory hn) (templateAt_eq_some h).2

/-- A template lies directly inside the directory; its file name is shown as it is. -/
theorem templateAt_path {t : Files} {directory : Path} {n : Bytes} {e : Entry}
    {template : Template} (hn : Path.IsName n)
    (h : templateAt? t directory n e = some template) :
    template.path = directory.join ⟨n⟩ ∧ Text.lossy n = template.name ++ ".jsonnet" := by
  obtain ⟨hname, -, -, hpath⟩ := ofPath_iff.mp (templateAt_eq_some h).2
  rw [Path.fileName_join directory hn] at hname
  exact ⟨hpath, by rw [Option.some.inj hname, Text.lossy_utf8]⟩

/-! ### directories -/

/-- The entries that a file tree of a system has: names without slashes, none of them `.` or `..`. -/
def Files.WellFormed (t : Files) : Prop := ∀ x ∈ t.entries, ∀ n ∈ x.1, Path.IsName n

namespace Files

instance (t : Files) : Decidable t.WellFormed :=
  inferInstanceAs (Decidable (∀ x ∈ t.entries, ∀ n ∈ x.1, Path.IsName n))

theorem child_eq {l m : Location} {e : Entry} {x : Bytes × Entry}
    (h : (match m.getLast? with
      | some name => if m.dropLast = l then some (name, e) else none
      | none => none) = some x) : m = l ++ [x.1] ∧ e = x.2 := by
  split at h
  · rename_i name hm
    split at h
    · rename_i hl
      cases h
      obtain ⟨ms, rfl⟩ := List.getLast?_eq_some_iff.mp hm
      rw [List.dropLast_concat] at hl
      exact ⟨by rw [hl], rfl⟩
    · cases h
  · cases h

theorem mem_children {t : Files} {l : Location} {x : Bytes × Entry} (h : x ∈ t.children l) :
    (l ++ [x.1], x.2) ∈ t.entries := by
  obtain ⟨⟨m, e⟩, hm, h⟩ := List.mem_filterMap.mp h
  obtain ⟨rfl, rfl⟩ := child_eq h
  exact hm

theorem WellFormed.isName {t : Files} (ht : t.WellFormed) {l : Location} {x : Bytes × Entry}
    (h : x ∈ t.children l) : Path.IsName x.1 :=
  ht _ (mem_children h) x.1 (List.mem_append_right l List.mem_cons_self)

theorem single_children (t : Files) (l : Location) :
    (t.children l).Pairwise fun x y => x.1 ≠ y.1 := by
  rw [children, List.pairwise_filterMap]
  refine t.single.imp ?_
  rintro ⟨m, e⟩ ⟨m', e'⟩ hne x hx y hy hxy
  refine hne ?_
  rw [(child_eq hx).1, (child_eq hy).1, hxy]

end Files

/-! ### discovery -/

theorem Files.list_eq_ok {t : Files} {p : Path} {entries : List (Bytes × Entry)}
    (h : t.list p = .ok entries) :
    ∃ l, t.entry p = .ok (l, .directory) ∧ entries = t.children l := by
  rw [Files.list] at h
  split at h
  · cases h
  · rename_i l he
    exact ⟨l, he, (Except.ok.inj h).symm⟩
  · cases h

theorem discover_eq_ok {t : Files} {directory : Path} {ts : List Template}
    (h : discover t directory = .ok ts) : ts ≠ [] ∧ ∃ entries,
      t.list directory = .ok entries ∧ ts = templatesAmong t directory entries := by
  rw [discover] at h
  split at h
  · split at h <;> cases h
  · rename_i entries hl
    split at h
    · cases h
    · rename_i hne
      cases h
      exact ⟨fun e => hne e, entries, hl, rfl⟩

/-- File names in their order, each once. -/
def Ascending (ns : List Bytes) : Prop := ns.Pairwise fun m n => bytesLe m n = true ∧ m ≠ n

/-- The templates among entries, each with its file name. -/
def found (t : Files) (directory : Path) (entries : List (Bytes × Entry)) :
    List (Bytes × Template) :=
  entries.filterMap fun (n, e) => (templateAt? t directory n e).map (n, ·)

theorem mem_found {t : Files} {directory : Path} {entries : List (Bytes × Entry)}
    {x : Bytes × Template} :
    x ∈ found t directory entries ↔ ∃ e, (x.1, e) ∈ entries ∧
      templateAt? t directory x.1 e = some x.2 := by
  rw [found, List.mem_filterMap]
  constructor
  · rintro ⟨⟨n, e⟩, hm, hx⟩
    obtain ⟨template, htemplate, rfl⟩ := Option.map_eq_some_iff.mp hx
    exact ⟨e, hm, htemplate⟩
  · rintro ⟨e, hm, hx⟩
    exact ⟨(x.1, e), hm, Option.map_eq_some_iff.mpr ⟨x.2, hx, rfl⟩⟩

/-- The order in which templates are found. -/
def sortFound (xs : List (Bytes × Template)) : List (Bytes × Template) :=
  xs.mergeSort fun a b => bytesLe a.1 b.1

theorem templatesAmong_found (t : Files) (directory : Path) (entries : List (Bytes × Entry)) :
    templatesAmong t directory entries = (sortFound (found t directory entries)).map (·.2) := rfl

/-- Every template is that of an entry of the directory. -/
theorem mem_discover {t : Files} {directory : Path} {ts : List Template} {template : Template}
    (h : discover t directory = .ok ts) (ht : template ∈ ts) :
    ∃ l n e, t.entry directory = .ok (l, .directory) ∧ (n, e) ∈ t.children l ∧
      templateAt? t directory n e = some template := by
  obtain ⟨_, entries, hl, rfl⟩ := discover_eq_ok h
  obtain ⟨l, he, rfl⟩ := Files.list_eq_ok hl
  obtain ⟨⟨n, _⟩, hx, rfl⟩ := List.mem_map.mp ht
  rw [List.mem_mergeSort] at hx
  obtain ⟨e, hm, hat⟩ := mem_found.mp hx
  exact ⟨l, n, e, he, hm, hat⟩

/-- Where entries have different names, the templates among them come in ascending order. -/
theorem ascending_found {t : Files} {directory : Path} {entries : List (Bytes × Entry)}
    (hd : entries.Pairwise fun x y => x.1 ≠ y.1) :
    (sortFound (found t directory entries)).Pairwise fun a b =>
      bytesLe a.1 b.1 = true ∧ a.1 ≠ b.1 := by
  have hsort : (sortFound (found t directory entries)).Pairwise fun a b =>
      bytesLe a.1 b.1 = true :=
    List.pairwise_mergeSort (fun a b c => bytesLe_trans a.1 b.1 c.1)
      (fun a b => bytesLe_total a.1 b.1) _
  refine hsort.and ?_
  rw [sortFound, (List.mergeSort_perm _ _).pairwise_iff Ne.symm, found, List.pairwise_filterMap]
  refine hd.imp ?_
  intro x y hxy a ha b hb
  obtain ⟨_, _, rfl⟩ := Option.map_eq_some_iff.mp ha
  obtain ⟨_, _, rfl⟩ := Option.map_eq_some_iff.mp hb
  exact hxy

/-- The templates of a directory have file names in ascending order. -/
theorem discover_named {t : Files} (ht : t.WellFormed) {directory : Path} {ts : List Template}
    (h : discover t directory = .ok ts) :
    ∃ ns, Ascending ns ∧ List.Forall₂ Template.Named ts ns := by
  obtain ⟨_, entries, hl, rfl⟩ := discover_eq_ok h
  obtain ⟨l, _, rfl⟩ := Files.list_eq_ok hl
  have hnamed : ∀ x ∈ sortFound (found t directory (t.children l)), x.2.Named x.1 := by
    intro x hx
    rw [sortFound, List.mem_mergeSort] at hx
    obtain ⟨e, hm, htemplate⟩ := mem_found.mp hx
    exact templateAt_named (ht.isName hm) htemplate
  refine ⟨(sortFound (found t directory (t.children l))).map (·.1), ?_, ?_⟩
  · exact List.pairwise_map.mpr (ascending_found (t.single_children l))
  · rw [templatesAmong_found, List.forall₂_map_left_iff, List.forall₂_map_right_iff,
      List.forall₂_same]
    exact hnamed

/-! ### names of outputs -/

section
variable {a b template : Template} {m n : Bytes}

theorem Template.utf8_outputName (template : Template) :
    Text.utf8 template.outputName = Text.utf8 template.name ++ Text.utf8 ".json" :=
  Text.utf8_append template.name ".json"

/-- A name without slashes makes the name of a file. -/
theorem Template.isName_output (hs : Path.slash ∉ Text.utf8 template.name) :
    Path.IsName (Text.utf8 template.outputName) := by
  have hlen : 5 ≤ (Text.utf8 template.outputName).length := by
    rw [Template.utf8_outputName, List.length_append]
    exact Nat.le_add_left _ _
  refine ⟨?_, ?_, ?_⟩
  · rw [Template.utf8_outputName, List.mem_append, not_or]
    exact ⟨hs, by decide⟩
  · rw [Path.isIdle, Bool.or_eq_false_iff, decide_eq_false_iff_not, decide_eq_false_iff_not]
    constructor
    · intro e
      rw [e] at hlen
      exact absurd hlen (by decide)
    · intro e
      rw [e] at hlen
      exact absurd hlen (by decide)
  · intro e
    rw [e] at hlen
    exact absurd hlen (by decide)

theorem Template.Named.output (h : template.Named n) :
    Path.IsName (Text.utf8 template.outputName) :=
  Template.isName_output fun hm => h.proper.slash (h.stem ▸ List.mem_append_left _ hm)

/-- Templates with different file names have different outputs. -/
theorem Template.Named.output_ne (ha : a.Named m) (hb : b.Named n) (h : m ≠ n) :
    Text.utf8 a.outputName ≠ Text.utf8 b.outputName := by
  intro e
  rw [Template.utf8_outputName, Template.utf8_outputName] at e
  exact h (by rw [ha.stem, hb.stem, List.append_cancel_right e])

theorem names_output (h : template.Named n) (directory : Path) :
    Files.Names (directory.join (.ofString template.outputName))
      (Text.utf8 template.outputName) :=
  ⟨Path.getLast_join directory h.output.slash, h.output.idle, decide_eq_false h.output.up⟩

theorem named_of_mem {templates : List Template} {ns : List Bytes}
    (h : List.Forall₂ Template.Named templates ns) (ht : template ∈ templates) :
    ∃ n ∈ ns, template.Named n := by
  induction h with
  | nil => cases ht
  | cons h₁ _ ih =>
    rcases List.mem_cons.mp ht with rfl | ht
    · exact ⟨_, List.mem_cons_self, h₁⟩
    · obtain ⟨n, hn, hnamed⟩ := ih ht
      exact ⟨n, List.mem_cons_of_mem _ hn, hnamed⟩

theorem outputs_distinct {templates : List Template} {ns : List Bytes}
    (h : List.Forall₂ Template.Named templates ns) (hd : ns.Pairwise (· ≠ ·)) :
    templates.Pairwise fun a b => Text.utf8 a.outputName ≠ Text.utf8 b.outputName := by
  induction h with
  | nil => exact .nil
  | cons h₁ h ih =>
    rw [List.pairwise_cons] at hd
    refine .cons ?_ (ih hd.2)
    intro other ho
    obtain ⟨n, hn, hnamed⟩ := named_of_mem h ho
    exact h₁.output_ne hnamed (hd.1 n hn)

end

end Dashboards
