import Dashboards.Proofs.Conclusion
import Dashboards.Proofs.Endpoint
import Dashboards.Proofs.Json.Draft

/-!
# Which toolchain is told

The mode of the toolchain is told for the image as it is given, and a run uses the image without the
blanks around it.

* `Mode.json_injective`   the JSON form of a mode determines it;
* `mode_runAll`           the mode of a run is that of its configuration;
* `toolchain_predicts`    what is told is the mode of the run just when the tools run on the host or
                          there are no blanks around the image.
-/

namespace Dashboards

/-! ### modes -/

theorem Mode.json_injective {m m' : Mode} (h : m.json = m'.json) : m = m' := by
  cases m with
  | native =>
    cases m' with
    | native => rfl
    | containerized _ => cases (List.cons.inj (Json.Value.object.inj h)).2
  | containerized image =>
    cases m' with
    | native => cases (List.cons.inj (Json.Value.object.inj h)).2
    | containerized image' =>
      cases h
      rfl

/-- Images matter only in containers. -/
theorem Mode.detect_eq_iff {present : String → Bool} {image image' : String} :
    Mode.detect present image = Mode.detect present image' ↔
      requiredTools.all present = true ∨ image = image' := by
  rw [Mode.detect, Mode.detect]
  cases requiredTools.all present with
  | true => exact ⟨fun _ => .inl rfl, fun _ => rfl⟩
  | false =>
    constructor
    · exact fun h => .inr (Mode.containerized.inj h)
    · rintro (h | rfl)
      · cases h
      · rfl

section
variable {σ : Type} {h : Host σ} {c : Config} {present : String → Bool} {s s' : Session σ}
  {r : Report}

theorem mode_runAll (hr : runAll h c present s = (.ok r, s')) :
    r.mode = Mode.detect present c.image := by
  obtain ⟨templates, _, hrun⟩ := runAll_eq_ok_iff.mp hr
  obtain ⟨_, _, _, _, _, _, _, _, _, rfl⟩ := runWith_eq_ok_iff.mp hrun
  rfl

end

/-! ### accepted images -/

section
variable {t : Files} {s : Settings}

/-- If all else is valid, the image decides. -/
theorem accepted_iff_image (h : ∀ c ∈ Check.all, c ≠ .image → c.Holds t s) :
    (∃ c, Config.ofSettings t s = .ok c) ↔ Text.trim s.image ≠ "" := by
  rw [(Config.decides_ofSettings (t := t) (s := s)).isOk_iff]
  constructor
  · exact fun hall => hall .image (Check.mem_all .image)
  · intro himage c hc
    by_cases he : c = .image
    · rw [he]
      exact himage
    · exact h c hc he

theorem image_ofSettings {c : Config} (h : Config.ofSettings t s = .ok c) :
    c.image = Text.trim s.image := by
  have hd := Config.decides_ofSettings (t := t) (s := s)
  rw [h] at hd
  exact hd.result.image

end

/-- What is told of the mode for an image, without the end of the line. -/
def toldMode (present : String → Bool) (image : String) : List Char :=
  (Mode.detect present image).json.compactChars

theorem printJson_of_value {d : Json.Draft} {v : Json.Value} (h : d.value? = .ok v)
    (pretty : Bool) : Cli.printJson pretty d =
      { exit := 0, stdout := String.ofList (v.written pretty 0) ++ "\n" } := by
  rw [Cli.printJson, Json.Draft.write_of_value pretty d 0 v h]
  rfl

theorem performToolchain_eq (present : String → Bool) (image : String) :
    Cli.performToolchain present image =
      { exit := 0, stdout := String.ofList (toldMode present image) ++ "\n" } := by
  rw [Cli.performToolchain, printJson_of_value (v := (Mode.detect present image).json) rfl]
  rfl

/-- The toolchain is told for every image, in one JSON text. A run with the same image that is valid
in all else is accepted just when the image is not blank, and runs in the mode for the image without
the blanks around it. So what is told is the mode of the report just when there are no such blanks,
or the tools run on the host anyway. -/
theorem toolchain_predicts {σ : Type} (host : Config → Except Failure (Host σ))
    (present : String → Bool) (s : Session σ) (env : List (String × String)) (g g' : Cli.Given)
    (hsame : g.value? env .image = g'.value? env .image)
    (hvalid : ∀ c ∈ Check.all, c ≠ .image → c.Holds s.files (Cli.settingsOf env g')) :
    let image := Cli.textOf env g .image Default.image
    let settings := Cli.settingsOf env g'
    Cli.perform host present s (Cli.toolchainJob env g) =
      ({ exit := 0, stdout := String.ofList (toldMode present image) ++ "\n" }, s) ∧
    (∀ v, Json.Means v (toldMode present image) ↔ v = (Mode.detect present image).json) ∧
    ((∃ c, Config.ofSettings s.files settings = .ok c) ↔ Text.trim image ≠ "") ∧
    (∀ c, Config.ofSettings s.files settings = .ok c →
      (Toolchain.detect c present).mode = Mode.detect present (Text.trim image)) ∧
    ∀ r s', Cli.Reports host present s settings r s' →
      r.mode = Mode.detect present (Text.trim image) ∧
      (Json.Means r.mode.json (toldMode present image) ↔
        requiredTools.all present = true ∨ Text.trim image = image) := by
  intro image settings
  have himage : settings.image = image := by
    show ((g'.value? env .image).getD Default.image) = (g.value? env .image).getD Default.image
    rw [hsame]
  have hmeans : ∀ v, Json.Means v (toldMode present image) ↔
      v = (Mode.detect present image).json := fun v => Json.means_iff false 0
  have hperform : Cli.perform host present s (Cli.toolchainJob env g) =
      ({ exit := 0, stdout := String.ofList (toldMode present image) ++ "\n" }, s) :=
    congrArg (·, s) (performToolchain_eq present image)
  refine ⟨hperform, hmeans, ?_, fun c hc => ?_, fun r s' hr => ?_⟩
  · rw [← himage]
    exact accepted_iff_image hvalid
  · rw [← himage, ← image_ofSettings hc]
    rfl
  · obtain ⟨c, h, hc, -, hrun⟩ := hr
    have hmode : r.mode = Mode.detect present (Text.trim image) := by
      rw [mode_runAll hrun, image_ofSettings hc, himage]
    refine ⟨hmode, ?_⟩
    rw [hmeans, hmode, ← Mode.detect_eq_iff]
    exact ⟨Mode.json_injective, congrArg Mode.json⟩

/-! ### an image with blanks -/

/-- The other checks do not look at the image. -/
theorem holds_image {t : Files} {s : Settings} {c : Check} (image : String) (hc : c ≠ .image) :
    c.Holds t { s with image } ↔ c.Holds t s := by
  cases c <;> first | exact Iff.rfl | exact absurd rfl hc

/-- The options of a run with this image, the server apart with all else at its default. -/
def imageOptions (image : String) : Cli.Given :=
  [(.image, image), (.serverUrl, "http://[::1]")]

theorem valid_imageOptions (image : String) : ∀ c ∈ Check.all, c ≠ .image →
    c.Holds {} (Cli.settingsOf [] (imageOptions image)) := by
  have hlocal := ofSettings_local Config.resolveServer_loopback
  intro c hc hne
  exact (holds_image image hne).mpr (Config.decides_ofSettings.isOk_iff.mp ⟨_, hlocal⟩ c hc)

theorem toolchain_predicts_image :
    let s : Session Script := { files := {}, state := { outputs := [] }, process := 1 }
    (Cli.perform (fun _ => .ok Script.host) (fun _ => false) s
      (Cli.toolchainJob [] [(.image, "img")])).1.stdout =
        "\x7b\"mode\":\"containerized\",\"image\":\"img\"\x7d\n" ∧
    ∃ c, Config.ofSettings {} (Cli.settingsOf [] (imageOptions "img")) = .ok c ∧
      (Toolchain.detect c fun _ => false).mode = .containerized "img" := by
  intro s
  obtain ⟨hperform, -, haccepted, hmode, -⟩ := toolchain_predicts (fun _ => .ok Script.host)
    (fun _ => false) s [] [(.image, "img")] (imageOptions "img") rfl (valid_imageOptions "img")
  have htrim : Text.trim "img" = "img" := by decide
  have htold : String.ofList (toldMode (fun _ => false) "img") ++ "\n" =
      "\x7b\"mode\":\"containerized\",\"image\":\"img\"\x7d\n" := by decide
  obtain ⟨c, hc⟩ := haccepted.mpr (by decide)
  have hdetect : (Toolchain.detect c fun _ => false).mode = .containerized (Text.trim "img") :=
    hmode c hc
  rw [htrim] at hdetect
  exact ⟨(congrArg (·.1.stdout) hperform).trans htold, c, hc, hdetect⟩

/-- With a blank at its ends, the image that is told is not the one that is used. -/
theorem toolchain_predicts_fails : ¬ ∀ (present : String → Bool) (t : Files)
    (env : List (String × String)) (g g' : Cli.Given), g.value? env .image = g'.value? env .image →
    (∀ c ∈ Check.all, c ≠ .image → c.Holds t (Cli.settingsOf env g')) →
      ∃ c, Config.ofSettings t (Cli.settingsOf env g') = .ok c ∧
        (Toolchain.detect c present).mode =
          Mode.detect present (Cli.textOf env g .image Default.image) := by
  intro hall
  obtain ⟨c, hc, hmode⟩ := hall (fun _ => false) {} [] [(.image, " img ")] (imageOptions " img ")
    rfl (valid_imageOptions " img ")
  have hgiven : (Cli.settingsOf [] (imageOptions " img ")).image = " img " := rfl
  have htold : Mode.detect (fun _ => false)
      (Cli.textOf [] [(.image, " img ")] .image Default.image) = .containerized " img " := rfl
  have hused : (Toolchain.detect c fun _ => false).mode = .containerized c.image := rfl
  have htrim : Text.trim " img " = "img" := by decide
  rw [htold, hused, image_ofSettings hc, hgiven, htrim] at hmode
  exact absurd (Mode.containerized.inj hmode) (by decide)

end Dashboards
