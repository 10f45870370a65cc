import Dashboards.Proofs.Footprint
import Dashboards.Proofs.Path.Below

/-!
# Names of templates and of their outputs

* `isSome_ofPath`      a path is that of a template just if its last piece is a name with the suffix;
* `parts_output`       the name of an output is one part of a path;
* `outputName_inj`     templates share the name of an output just if they share a file name;
* `template_naming`    which paths are templates, and what their names and outputs are like.
-/

namespace Dashboards
open Text (Bytes)

/-! ### paths of templates -/

section
variable {p q : Path} {n : String} {template other : Template}

/-- The suffix is longer than `..` is. -/
theorem suffixed_ne_up : Text.utf8 (n ++ ".jsonnet") ≠ [Path.dot, Path.dot] := by
  intro e
  have hsuffix : (Text.utf8 ".jsonnet").length = 8 := by decide
  have hlength := congrArg List.length e
  rw [Text.utf8_append, List.length_append, hsuffix] at hlength
  simp at hlength

theorem fileName_suffixed :
    p.fileName? = some (Text.utf8 (n ++ ".jsonnet")) ↔ p.EndsIn (Text.utf8 (n ++ ".jsonnet")) := by
  rw [Path.fileName_eq_some_iff]
  exact and_iff_left suffixed_ne_up

theorem isSome_ofPath : (Template.ofPath? p).isSome = true ↔
    ∃ n : String, p.EndsIn (Text.utf8 (n ++ ".jsonnet")) ∧ n ≠ "" ∧ n.toList.head? ≠ some '.' := by
  rw [Option.isSome_iff_exists]
  constructor
  · rintro ⟨template, h⟩
    obtain ⟨hfile, hne, hv, -⟩ := ofPath_iff.mp h
    exact ⟨template.name, fileName_suffixed.mp hfile, hne, hv⟩
  · rintro ⟨n, hends, hne, hv⟩
    exact ⟨⟨n, p⟩, ofPath_iff.mpr ⟨fileName_suffixed.mpr hends, hne, hv, rfl⟩⟩

/-! ### names -/

theorem no_slash_of_ofPath (h : Template.ofPath? p = some template) :
    '/' ∉ template.name.toList := by
  intro hm
  obtain ⟨hfile, -⟩ := ofPath_iff.mp h
  refine (Path.isName_of_fileName hfile).slash ?_
  rw [Text.utf8, String.toList_append, List.flatMap_append]
  refine List.mem_append_left _ (List.mem_flatMap.mpr ⟨'/', hm, ?_⟩)
  decide

theorem ne_points_of_ofPath (h : Template.ofPath? p = some template) :
    template.name ≠ "." ∧ template.name ≠ ".." := by
  obtain ⟨-, -, hv, -⟩ := ofPath_iff.mp h
  constructor
  · intro e
    rw [e] at hv
    exact hv rfl
  · intro e
    rw [e] at hv
    exact hv rfl

/-! ### outputs -/

theorem parts_output (h : Template.ofPath? p = some template) :
    (Path.ofString template.outputName).parts = [.name (Text.utf8 template.outputName)] := by
  obtain ⟨hfile, -⟩ := ofPath_iff.mp h
  exact Path.parts_name (ofPath_named hfile h).output

theorem outputName_inj (hp : Template.ofPath? p = some template)
    (hq : Template.ofPath? q = some other) :
    template.outputName = other.outputName ↔ p.fileName? = q.fileName? := by
  obtain ⟨hfile, -⟩ := ofPath_iff.mp hp
  obtain ⟨hfile', -⟩ := ofPath_iff.mp hq
  rw [hfile, hfile', Template.outputName, Template.outputName]
  constructor
  · intro e
    rw [String.append_left_inj] at e
    rw [e]
  · intro e
    have hnames := Text.utf8_injective (Option.some.inj e)
    rw [String.append_left_inj] at hnames
    rw [hnames]

end

/-- A path is that of a template just if the last of its pieces that are neither empty nor `.` is the
UTF-8 form of a name with the suffix behind it, and the name is neither empty nor hidden. This is
then the name of the template. It has no slash in it and is neither `.` nor `..`, and the name of its
output is one part of a path, which is that of no template, in whatever directory it lies. Templates
have outputs of the same name just if they have the same file name. -/
theorem template_naming (p : Path) :
    ((Template.ofPath? p).isSome = true ↔ ∃ n : String,
      p.EndsIn (Text.utf8 (n ++ ".jsonnet")) ∧ n ≠ "" ∧ n.toList.head? ≠ some '.') ∧
    ∀ template, Template.ofPath? p = some template →
      (template.path = p ∧ p.EndsIn (Text.utf8 (template.name ++ ".jsonnet")) ∧
        p.fileName? = some (Text.utf8 (template.name ++ ".jsonnet"))) ∧
      ('/' ∉ template.name.toList ∧ template.name ≠ "." ∧ template.name ≠ "..") ∧
      (Path.ofString template.outputName).parts = [.name (Text.utf8 template.outputName)] ∧
      (∀ q other, Template.ofPath? q = some other →
        (template.outputName = other.outputName ↔ p.fileName? = q.fileName?)) ∧
      Template.ofPath? (.ofString template.outputName) = none ∧
      ∀ directory : Path,
        Template.ofPath? (directory.join (.ofString template.outputName)) = none := by
  refine ⟨isSome_ofPath, ?_⟩
  intro template h
  obtain ⟨hfile, -, -, hpath⟩ := ofPath_iff.mp h
  have houtput : Path.IsName (Text.utf8 template.outputName) := (ofPath_named hfile h).output
  have hnone : ∀ directory : Path,
      Template.ofPath? (directory.join (.ofString template.outputName)) = none := fun directory =>
    ofPath_output (Path.fileName_join directory houtput)
  refine ⟨⟨hpath, fileName_suffixed.mp hfile, hfile⟩, ⟨no_slash_of_ofPath h, ne_points_of_ofPath h⟩,
    parts_output h, fun q other hq => outputName_inj h hq, ?_, hnone⟩
  have hempty := hnone ⟨[]⟩
  rwa [Path.join_empty rfl] at hempty

/-- The suffix twice, and slashes and a point behind the name. -/
theorem template_naming_twice :
    let p : Path := .ofString "//d/.//a.jsonnet.jsonnet/./"
    ∃ template, Template.ofPath? p = some template ∧ template.name = "a.jsonnet" ∧
      (Path.ofString template.outputName).parts = [.name (Text.utf8 "a.jsonnet.json")] ∧
      Template.ofPath? (.ofString "a.jsonnet.json") = none := by
  intro p
  have hfile : p.fileName? = some (Text.utf8 ("a.jsonnet" ++ ".jsonnet")) := by decide
  have h : Template.ofPath? p = some ⟨"a.jsonnet", p⟩ :=
    ofPath_iff.mpr ⟨hfile, by decide, by decide, rfl⟩
  obtain ⟨-, hall⟩ := template_naming p
  obtain ⟨-, -, hparts, -, hnone, -⟩ := hall _ h
  exact ⟨_, h, rfl, hparts, hnone⟩

end Dashboards
