import Dashboards.Proofs.Listing
import Dashboards.Proofs.Readback

/-!
# JSON on standard output

A list of templates is printed while it is written, so that what stands in front of a path without a
text is printed before that path is met.

* `Template.placed`       a template with a path that has a text;
* `listing_filled`        a list, if a given text stood in the place of all other paths;
* `prints_or_breaks_off`  what is printed of lists and modes, to the end or up to such a path;
* `prints_all_fails`      the part of a list that is printed before the failure is told.
-/

namespace Dashboards
open Json (Draft Means IsText quote)

/-! ### templates without a text -/

/-- The template itself if its path is a text, otherwise at the place that this text names. -/
def Template.placed (s : String) (x : Template) : Template :=
  ⟨x.name, .ofString (x.path.text?.getD s)⟩

theorem shows_filled (s : String) (x : Template) : (x.placed s).Shows (x.draft.filled s) := by
  refine ⟨x.path.text?.getD s, rfl, ?_⟩
  rw [Template.draft, Path.draft, Path.json]
  cases x.path.text? <;> rfl

theorem listing_filled (s : String) (ts : List Template) :
    ∃ vs, (Cli.listing ts).filled s = .list vs ∧
      List.Forall₂ Template.Shows (ts.map (·.placed s)) vs := by
  refine ⟨Draft.filledAll s (ts.map Template.draft), rfl, ?_⟩
  induction ts with
  | nil => exact .nil
  | cons x ts ih => exact .cons (shows_filled s x) ih

theorem draft_of_not_text {x : Template} (h : x.path.text? = none) :
    x.draft.value? = .error .notText := by
  rw [Template.draft, Path.draft, Path.json, h]
  rfl

theorem values_of_not_text {ts : List Template} (h : ¬ ∀ x ∈ ts, ∃ s, x.path = .ofString s) :
    Draft.values? (ts.map Template.draft) = .error .notText := by
  induction ts with
  | nil => exact absurd (List.forall_mem_nil _) h
  | cons x ts ih =>
    rw [List.map_cons, Draft.values?]
    cases hx : x.path.text? with
    | none => rw [draft_of_not_text hx]; rfl
    | some s =>
      obtain ⟨v, hv, -⟩ := shows_draft hx
      have hts : ¬ ∀ x ∈ ts, ∃ s, x.path = .ofString s := fun hall =>
        h (List.forall_mem_cons.mpr ⟨⟨s, Path.text?_eq_some_iff.mp hx⟩, hall⟩)
      rw [hv, ih hts]
      rfl

/-! ### what is printed -/

theorem printJson_of_fault {d : Draft} {e : Unwritable} (h : d.value? = .error e) (pretty : Bool) :
    Cli.printJson pretty d =
      Cli.failed (.serialize e) (String.ofList (d.write pretty 0).chars) := by
  have hfault : (d.write pretty 0).fault = some e := by
    rw [Draft.fault_write, h]
    rfl
  rw [Cli.printJson, hfault]

/-- What stands in front of a string in the text of a list is no JSON text, and there is some. -/
theorem cut_list {text tail : List Char} {s : String} {vs : List Json.Value}
    (h : Means (.list vs) (text ++ (quote s ++ tail))) : text ≠ [] ∧ ¬ IsText text := by
  refine ⟨?_, Json.not_isText_of_quote h.isValue⟩
  rintro rfl
  obtain ⟨c, r, htext, hkind⟩ := h.kind
  cases htext
  cases hkind

/-- Modes, and lists of templates whose paths are all texts, are printed as one JSON text with the
end of a line behind it. With any other list the printing fails, and what it has put out by then is
neither empty nor a JSON text: it is the text of the list up to the first path that is no text,
whatever text one puts in the place of such paths. -/
theorem prints_or_breaks_off (pretty : Bool) :
    (∀ m : Mode, ∃ text,
      Cli.printJson pretty (.value m.json) =
        { exit := 0, stdout := String.ofList text ++ "\n" } ∧
      ∀ v, Means v text ↔ v = m.json) ∧
    ∀ ts : List Template,
      ((∀ x ∈ ts, ∃ s, x.path = .ofString s) → ∃ text vs,
        Cli.printJson pretty (Cli.listing ts) =
          { exit := 0, stdout := String.ofList text ++ "\n" } ∧
        (∀ v, Means v text ↔ v = .list vs) ∧ List.Forall₂ Template.Shows ts vs) ∧
      ((¬ ∀ x ∈ ts, ∃ s, x.path = .ofString s) → ∃ text,
        Cli.printJson pretty (Cli.listing ts) =
          Cli.failed (.serialize .notText) (String.ofList text) ∧
        text ≠ [] ∧ ¬ IsText text ∧
        ∀ s, ∃ tail vs, (∀ v, Means v (text ++ (quote s ++ tail)) ↔ v = .list vs) ∧
          List.Forall₂ Template.Shows (ts.map (·.placed s)) vs) := by
  refine ⟨fun m => ⟨_, printJson_of_value rfl pretty, fun v => Json.means_iff pretty 0⟩,
    fun ts => ⟨fun htexts => ?_, fun hnot => ?_⟩⟩
  · exact shows_listing (fun x hx => (htexts x hx).imp fun s => Path.text?_eq_some_iff.mpr) pretty
  · have hvalue : (Cli.listing ts).value? = .error .notText := by
      rw [Cli.listing, Draft.value?, values_of_not_text hnot]
      rfl
    have hfault := Draft.fault_write pretty (Cli.listing ts) 0
    rw [hvalue] at hfault
    have hstart : ∀ s, ∃ tail vs,
        (∀ v, Means v (((Cli.listing ts).write pretty 0).chars ++ (quote s ++ tail)) ↔
          v = .list vs) ∧ List.Forall₂ Template.Shows (ts.map (·.placed s)) vs := by
      intro s
      obtain ⟨vs, hvs, hshows⟩ := listing_filled s ts
      have hfollows := Draft.follows_write s pretty (Cli.listing ts) 0
      rw [Draft.Follows, hfault, hvs] at hfollows
      obtain ⟨tail, htail⟩ := hfollows
      refine ⟨tail, vs, fun v => ?_, hshows⟩
      rw [← htail]
      exact Json.means_iff pretty 0
    obtain ⟨tail, vs, hmeans, -⟩ := hstart ""
    obtain ⟨hne, hcut⟩ := cut_list ((hmeans _).mpr rfl)
    exact ⟨_, printJson_of_fault hvalue pretty, hne, hcut, hstart⟩

/-- A list whose second path is no text, and the list without it. -/
theorem prints_or_breaks_off_second :
    let x : Template := ⟨"a", .ofString "/d/a.jsonnet"⟩
    let y : Template := ⟨"b", ⟨[0xFF]⟩⟩
    (∃ text v, Cli.printJson true (Cli.listing [x]) =
        { exit := 0, stdout := String.ofList text ++ "\n" } ∧ Means v text) ∧
    ∃ text, Cli.printJson false (Cli.listing [x, y]) =
        Cli.failed (.serialize .notText) (String.ofList text) ∧ text ≠ [] ∧ ¬ IsText text := by
  intro x y
  have hx : ∀ z ∈ [x], ∃ s, z.path = .ofString s := by
    intro z hz
    rw [List.mem_singleton.mp hz]
    exact ⟨_, rfl⟩
  have hxy : ¬ ∀ z ∈ [x, y], ∃ s, z.path = .ofString s := by
    intro hall
    obtain ⟨s, hs⟩ := hall y (List.mem_cons_of_mem _ List.mem_cons_self)
    have hnone : y.path.text? = none := by cbv
    cases (Path.text?_eq_some_iff.mpr hs).symm.trans hnone
  obtain ⟨text, vs, hprinted, hmeans, -⟩ := ((prints_or_breaks_off true).2 [x]).1 hx
  obtain ⟨text', hprinted', hne, hcut, -⟩ := ((prints_or_breaks_off false).2 [x, y]).2 hxy
  exact ⟨⟨text, _, hprinted, (hmeans _).mpr rfl⟩, text', hprinted', hne, hcut⟩

/-- Not every list is printed as a whole or not at all: of one template whose path is a single byte
that is no text, the start is put out before the failure is told. -/
theorem prints_all_fails : ¬ ∀ (pretty : Bool) (ts : List Template),
    (∃ text, IsText text ∧ Cli.printJson pretty (Cli.listing ts) =
      { exit := 0, stdout := String.ofList text ++ "\n" }) ∨
    ∃ f, Cli.printJson pretty (Cli.listing ts) = Cli.failed f := by
  intro h
  let ts : List Template := [⟨"x", ⟨[0xFF]⟩⟩]
  have hvalue : (Cli.listing ts).value? = .error .notText := by cbv
  have hstart : ((Cli.listing ts).write false 0).chars =
      "[\x7b\"name\":\"x\",\"path\":".toList := by cbv
  have hprinted := printJson_of_fault hvalue false
  rw [hstart, String.ofList_toList] at hprinted
  obtain ⟨text, -, htext⟩ | ⟨f, hf⟩ := h false ts
  · cases congrArg Cli.Ending.exit (hprinted.symm.trans htext)
  · have hstdout : "[\x7b\"name\":\"x\",\"path\":" = "" :=
      congrArg Cli.Ending.stdout (hprinted.symm.trans hf)
    exact absurd hstdout (by decide)

end Dashboards
