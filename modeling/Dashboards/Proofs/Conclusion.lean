import Dashboards.Cli
import Dashboards.Proofs.Success
import Dashboards.Proofs.Validation

/-!
# How a run ends

* `result_of_failures`, `result_of_results`   the failure that a report ends with;
* `save_eq_ok`          what a saved report leaves;
* `Cli.Reports`         the runs that come to a report;
* `Cli.perform_run`     what the program tells of a run, and the files that it leaves;
* `Cli.tells_perform`, `Cli.perform_unreported`   the same with a report, and without one;
* `conclusion_truthful` the status, the summary and the saved report agree with what became of the
                        templates and the dashboards.
-/

namespace Dashboards
open Text (Bytes)

/-! ### reports -/

section
variable {r : Report}

theorem isSuccess_iff :
    r.isSuccess = true ↔ r.failures = [] ∧ ∀ x ∈ r.publish.results, x.success = true := by
  rw [Report.isSuccess, Bool.and_eq_true, List.isEmpty_iff, Option.isNone_iff_eq_none,
    Report.firstPublishFailure?, List.find?_eq_none]
  simp only [Bool.not_eq_true', Bool.not_eq_false]

theorem result_eq_ok_iff_isSuccess : r.result = .ok r ↔ r.isSuccess = true := by
  rw [result_eq_ok_iff, isSuccess_iff]
  exact ⟨fun h => h.2, fun h => ⟨rfl, h⟩⟩

/-- Failed templates are told by their number and all their names. -/
theorem result_of_failures (h : r.failures ≠ []) : r.result =
    .error (.compile r.failures.length (", ".intercalate (r.failures.map (·.template)))) := by
  have hne : ¬ r.failures.isEmpty = true := mt List.isEmpty_iff.mp h
  rw [Report.result, compileFailure?, if_neg hne]

/-- Without failed templates the first failed dashboard is told, with its status and detail. -/
theorem result_of_results {before after : List PublishResult} {x : PublishResult}
    (hf : r.failures = []) (hr : r.publish.results = before ++ x :: after)
    (hb : ∀ y ∈ before, y.success = true) (hx : x.success = false) :
    r.result = .error (.publish x.name x.status.text (x.detail.getD "")) := by
  have hfirst : r.firstPublishFailure? = some x := by
    rw [Report.firstPublishFailure?, hr, List.find?_eq_some_iff_append]
    refine ⟨by rw [hx]; rfl, before, after, rfl, fun y hy => ?_⟩
    rw [hb y hy]
    rfl
  have hfailure : x.failure? = some (.publish x.name x.status.text (x.detail.getD "")) := by
    rw [PublishResult.failure?, hx]
    rfl
  rw [Report.result, (compileFailure_eq_none_iff _).mpr hf, hfirst, Option.bind_some, hfailure]

theorem published_eq_countP : r.published = r.publish.results.countP (·.success) := by
  rw [Report.published, List.countP_eq_length_filter]

end

/-! ### saved reports -/

/-- A report that was saved can be read, whatever there was in its place. -/
theorem save_eq_ok {r : Report} {p : Path} {t t' : Files} (h : r.save p t = (.ok (), t')) :
    ∃ v, r.json = .ok v ∧ t'.read p = .ok (Text.utf8 v.pretty) := by
  rw [Report.save] at h
  cases hv : r.json with
  | error e =>
    rw [hv] at h
    cases h
  | ok v =>
    rw [hv] at h
    refine ⟨v, rfl, ?_⟩
    dsimp only at h
    split at h
    · cases h
    · rename_i files _
      cases hw : files.write p (Text.utf8 v.pretty) with
      | error cause =>
        rw [hw] at h
        cases h
      | ok files' =>
        rw [hw] at h
        cases h
        exact Files.read_write hw

/-! ### the program -/

namespace Cli

section
variable {σ : Type} (host : Config → Except Failure (Host σ)) (present : String → Bool)
  (s : Session σ) (settings : Settings)

/-- The settings are accepted, there is a host, and the run comes to a report. -/
def Reports (r : Report) (s' : Session σ) : Prop :=
  ∃ c h, Config.ofSettings s.files settings = .ok c ∧ host c = .ok h ∧
    runAll h c present s = (.ok r, s')

/-- What the program tells of a run, and the files that it leaves. -/
def ending (saved : Option Path) (x : Except Failure Report × Files) : Ending × Files :=
  match x.1 with
  | .error f => (failed f, x.2)
  | .ok r => conclude r saved x.2

theorem perform_run {c : Config} {h : Host σ} (hc : Config.ofSettings s.files settings = .ok c)
    (hh : host c = .ok h) (saved : Option Path) :
    let run := runAll h c present s
    let p := perform host present s (.run settings saved)
    (p.1, p.2.files) = ending saved (run.1, run.2.files) := by
  intro run p
  show ((perform host present s (.run settings saved)).1,
    (perform host present s (.run settings saved)).2.files) = _
  rw [perform, hc]
  dsimp only
  rw [hh]
  dsimp only
  show _ = ending saved ((runAll h c present s).1, (runAll h c present s).2.files)
  cases runAll h c present s with
  | mk r s =>
    cases r with
    | error f => rfl
    | ok r => rfl

/-- Without a host nothing is done. -/
theorem perform_refused {c : Config} {f : Failure}
    (hc : Config.ofSettings s.files settings = .ok c) (hh : host c = .error f)
    (saved : Option Path) :
    perform host present s (.run settings saved) = (Cli.failed f, s) := by
  rw [perform, hc]
  dsimp only
  rw [hh]

end

/-- The summary is told whatever became of the run, and the report is saved before its failure is
raised. -/
structure Tells (r : Report) (saved : Option Path) (t : Files) (e : Ending × Files) : Prop where
  summary : e.1.stdout = r.summary ++ "\n"
  files : ∀ q ∈ saved, e.2 = (r.save q t).2
  exit : e.1.exit = 0 ↔ (∀ q ∈ saved, (r.save q t).1 = .ok ()) ∧ r.isSuccess = true
  unsaved : ∀ q ∈ saved, ∀ f, (r.save q t).1 = .error f →
    e.1.exit = 1 ∧ e.1.stderr = f.message ++ "\n"
  failed : (∀ q ∈ saved, (r.save q t).1 = .ok ()) → ∀ f, r.result = .error f →
    e.1.exit = 1 ∧ e.1.stderr = f.message ++ "\n"

/-- How the run ends once its report is saved. -/
def told (r : Report) (t : Files) : Ending × Files :=
  match r.result with
  | .error f => (Cli.failed f (r.summary ++ "\n"), t)
  | .ok _ => ({ exit := 0, stdout := r.summary ++ "\n" }, t)

theorem tells_unsaved {r : Report} {q : Path} {t t' : Files} {f : Failure}
    (h : r.save q t = (.error f, t')) : Tells r (some q) t (conclude r (some q) t) := by
  have he : conclude r (some q) t = (Cli.failed f (r.summary ++ "\n"), t') := by
    rw [conclude]
    dsimp only
    rw [h]
  have hno : ¬ ∀ p ∈ some q, (r.save p t).1 = .ok () := by
    intro hall
    have hq := hall q rfl
    rw [h] at hq
    cases hq
  rw [he]
  refine ⟨rfl, fun p hp => ?_, ⟨fun hx => ?_, fun hx => absurd hx.1 hno⟩, fun p hp g hg => ?_,
    fun hall => absurd hall hno⟩
  · cases hp
    rw [h]
  · cases hx
  · cases hp
    rw [h] at hg
    cases hg
    exact ⟨rfl, rfl⟩

/-- Once the report is saved, or if there is no place for it, the run ends as the report says. -/
theorem tells_saved {r : Report} {saved : Option Path} {t t' : Files}
    (hs : ∀ q ∈ saved, r.save q t = (.ok (), t')) (hn : saved = none → t' = t) :
    Tells r saved t (conclude r saved t) := by
  have hsaved : ∀ q ∈ saved, (r.save q t).1 = .ok () := fun q hq => congrArg Prod.fst (hs q hq)
  have he : conclude r saved t = told r t' := by
    cases saved with
    | none =>
      rw [hn rfl]
      rfl
    | some q =>
      unfold conclude
      dsimp only
      rw [hs q rfl]
      rfl
  rw [he, told]
  have hfiles : ∀ q ∈ saved, t' = (r.save q t).2 := fun q hq => by rw [hs q hq]
  have hunsaved : ∀ q ∈ saved, ∀ f, ¬ (r.save q t).1 = .error f := by
    intro q hq f hf
    rw [hsaved q hq] at hf
    cases hf
  cases hr : r.result with
  | error f =>
    have hno : ¬ r.isSuccess = true := by
      intro hsuccess
      rw [result_eq_ok_iff_isSuccess.mpr hsuccess] at hr
      cases hr
    refine ⟨rfl, hfiles, ⟨fun hx => ?_, fun hx => absurd hx.2 hno⟩,
      fun q hq g hg => absurd hg (hunsaved q hq g), fun _ g hg => ?_⟩
    · cases hx
    · rw [hr] at hg
      cases hg
      exact ⟨rfl, rfl⟩
  | ok r' =>
    obtain ⟨rfl, _⟩ := (result_eq_ok_iff r r').mp hr
    refine ⟨rfl, hfiles, ⟨fun _ => ⟨hsaved, result_eq_ok_iff_isSuccess.mp hr⟩, fun _ => rfl⟩,
      fun q hq g hg => absurd hg (hunsaved q hq g), fun _ g hg => ?_⟩
    rw [hr] at hg
    cases hg

theorem tells_conclude (r : Report) (saved : Option Path) (t : Files) :
    Tells r saved t (conclude r saved t) := by
  cases saved with
  | none =>
    refine tells_saved (fun q hq => ?_) (fun _ => rfl)
    cases hq
  | some q =>
    cases hs : r.save q t with
    | mk x t' =>
      cases x with
      | error f => exact tells_unsaved hs
      | ok u =>
        have hsaved : ∀ p ∈ some q, r.save p t = (.ok (), t') := by
          intro p hp
          cases hp
          exact hs
        exact tells_saved hsaved (fun h => nomatch h)

section
variable {σ : Type} {host : Config → Except Failure (Host σ)} {present : String → Bool}
  {s s' : Session σ} {settings : Settings}

/-- Where there is no report, the program tells nothing but a failure. -/
theorem perform_unreported (hno : ¬ ∃ r s', Reports host present s settings r s')
    (saved : Option Path) :
    let e := (perform host present s (.run settings saved)).1
    e.stdout = "" ∧ e.exit = 1 := by
  dsimp only
  cases hc : Config.ofSettings s.files settings with
  | error f =>
    rw [perform, hc]
    exact ⟨rfl, rfl⟩
  | ok c =>
    cases hh : host c with
    | error f =>
      rw [perform_refused host present s settings hc hh saved]
      exact ⟨rfl, rfl⟩
    | ok h =>
      have hp := perform_run host present s settings hc hh saved
      cases hr : runAll h c present s with
      | mk x s' =>
        cases x with
        | ok r => exact absurd ⟨r, s', c, h, hc, hh, hr⟩ hno
        | error f =>
          rw [hr] at hp
          rw [congrArg Prod.fst hp]
          exact ⟨rfl, rfl⟩

theorem tells_perform {r : Report} (h : Reports host present s settings r s')
    (saved : Option Path) :
    let p := perform host present s (.run settings saved)
    Tells r saved s'.files (p.1, p.2.files) := by
  obtain ⟨c, h, hc, hh, hr⟩ := h
  have hp := perform_run host present s settings hc hh saved
  rw [hr] at hp
  have ht := tells_conclude r saved s'.files
  rwa [show conclude r saved s'.files = _ from hp.symm] at ht

end
end Cli

/-- A report is a success just when its result is the report, which is when no template failed and
every dashboard that was sent was accepted. Otherwise the result names all failed templates, or the
first failed dashboard when there are none. The program tells the summary just when the run comes to
a report; it saves the report before it raises the failure, so that a run that failed in part is
saved, too; and its status is 0 just when there is a report, it could be saved and is a success. -/
theorem conclusion_truthful :
    (∀ r : Report,
      ((∃ r', r.result = .ok r') ↔ r.isSuccess = true) ∧
      (r.isSuccess = true ↔ r.failures = [] ∧ ∀ x ∈ r.publish.results, x.success = true) ∧
      (r.failures ≠ [] → r.result = .error
        (.compile r.failures.length (", ".intercalate (r.failures.map (·.template))))) ∧
      (∀ before x after, r.failures = [] → r.publish.results = before ++ x :: after →
        (∀ y ∈ before, y.success = true) → x.success = false →
          r.result = .error (.publish x.name x.status.text (x.detail.getD ""))) ∧
      r.published = r.publish.results.countP (·.success)) ∧
    ∀ {σ : Type} (host : Config → Except Failure (Host σ)) (present : String → Bool)
      (s : Session σ) (settings : Settings) (saved : Option Path),
      let p := Cli.perform host present s (.run settings saved)
      (∀ c f, Config.ofSettings s.files settings = .ok c → host c = .error f →
        p = (Cli.failed f, s)) ∧
      ((¬ ∃ r s', Cli.Reports host present s settings r s') → p.1.stdout = "" ∧ p.1.exit = 1) ∧
      (∀ r s', Cli.Reports host present s settings r s' →
        Cli.Tells r saved s'.files (p.1, p.2.files) ∧
        ∀ q ∈ saved, (r.save q s'.files).1 = .ok () →
          ∃ v, r.json = .ok v ∧ p.2.files.read q = .ok (Text.utf8 v.pretty)) ∧
      (p.1.exit = 0 ↔ ∃ r s', Cli.Reports host present s settings r s' ∧
        (∀ q ∈ saved, (r.save q s'.files).1 = .ok ()) ∧ r.isSuccess = true) := by
  refine ⟨fun r => ⟨?_, isSuccess_iff, result_of_failures, fun before x after hf hr hb hx =>
    result_of_results hf hr hb hx, published_eq_countP⟩, ?_⟩
  · rw [← result_eq_ok_iff_isSuccess]
    constructor
    · rintro ⟨r', h⟩
      obtain ⟨rfl, _⟩ := (result_eq_ok_iff r r').mp h
      exact h
    · exact fun h => ⟨r, h⟩
  intro σ host present s settings saved p
  have hnone : (¬ ∃ r s', Cli.Reports host present s settings r s') →
      p.1.stdout = "" ∧ p.1.exit = 1 := fun hno => Cli.perform_unreported hno saved
  have hsome : ∀ r s', Cli.Reports host present s settings r s' →
      Cli.Tells r saved s'.files (p.1, p.2.files) := fun r s' h => Cli.tells_perform h saved
  refine ⟨fun c f hc hh => Cli.perform_refused host present s settings hc hh saved, hnone,
    fun r s' h => ⟨hsome r s' h, fun q hq hs => ?_⟩, fun he => ?_, ?_⟩
  · have hsaved : r.save q s'.files = (.ok (), (r.save q s'.files).2) := Prod.ext hs rfl
    obtain ⟨v, hv, hread⟩ := save_eq_ok hsaved
    rw [← (hsome r s' h).files q hq] at hread
    exact ⟨v, hv, hread⟩
  · by_cases hex : ∃ r s', Cli.Reports host present s settings r s'
    · obtain ⟨r, s', h⟩ := hex
      obtain ⟨hsaved, hsuccess⟩ := (hsome r s' h).exit.mp he
      exact ⟨r, s', h, hsaved, hsuccess⟩
    · have h1 := (hnone hex).2
      rw [he] at h1
      cases h1
  · rintro ⟨r, s', h, hsaved, hsuccess⟩
    exact (hsome r s' h).exit.mpr ⟨hsaved, hsuccess⟩

/-! ### a run that fails in part -/

namespace Half

def server : Url := ⟨"http", "", "", "[::1]", none, "/", none, none⟩

/-- Settings for the directory with two templates. -/
def settings (token : Option String) : Settings :=
  { root := ⟨[47]⟩, templatesDir := ⟨[47, 100]⟩, serverUrl := "http://[::1]", token }

def config (token : Option String) : Config := .plain ⟨[47]⟩ ⟨[47, 100]⟩ server token

def outputDir : Path := (Path.mk [47]).join Default.outputDir

/-- The installation and the first template succeed. -/
def script (replies : List (Except Failure Reply)) : Script :=
  { outputs := [.ok ⟨some 0, "", ""⟩, .ok ⟨some 0, "[1]", ""⟩, .error (.timeout "jsonnet" 1)]
    replies }

def printed : Printed := ⟨⟨some 0, "[1]", ""⟩, rfl, (Json.check_eq_ok_iff _).mp (by cbv)⟩

def compiled : Compiled := compiledOf outputDir ⟨"a", ⟨Text.utf8 "/d/a.jsonnet"⟩⟩ printed

def failure : CompileFailure := ⟨"b", (Failure.timeout "jsonnet" 1).message⟩

def made : Files :=
  { entries := twoTemplates.entries ++ [([Text.utf8 "build"], .directory)] }

def final : Files :=
  { entries := made.entries ++
      [([Text.utf8 "build", Text.utf8 "a.json"], .file (Text.utf8 "[1]") false)] }

theorem ofSettings_settings (token : Option String) :
    Config.ofSettings twoTemplates (settings token) = .ok (config (Config.resolveToken token)) := by
  have hroot : twoTemplates.canonical ⟨[47]⟩ = .ok ⟨[47]⟩ := by cbv
  have hdir : Config.resolveTemplates ⟨[47]⟩ ⟨[47, 100]⟩ = .ok ⟨[47, 100]⟩ := by decide
  exact Config.ofSettings_plain token hroot hdir Config.resolveServer_loopback

theorem compiles (t : Toolchain) (params : Params) {s : Session Script}
    (hs : s.state.outputs = (script []).outputs.tail) :
    ∃ s', compileEach Script.host t params outputDir
        [⟨"a", ⟨Text.utf8 "/d/a.jsonnet"⟩⟩, ⟨"b", ⟨Text.utf8 "/d/b.jsonnet"⟩⟩] {}
        { s with files := made } = (⟨[compiled], [failure]⟩, s') ∧ s'.files = final ∧
      s'.state = s.state.dropOutputs 2 ∧ s'.requests = s.requests := by
  have hwrite : made.write (outputPath outputDir ⟨"a", ⟨Text.utf8 "/d/a.jsonnet"⟩⟩)
      (Text.utf8 "[1]") = .ok final := by cbv
  have ha : s.state.nextOutput.1 = .ok printed.toOutput := by
    rw [Script.nextOutput, hs]
    rfl
  have hb : (s.state.dropOutputs 1).nextOutput.1 = .error (.timeout "jsonnet" 1) := by
    rw [Script.nextOutput, Script.dropOutputs, hs]
    rfl
  obtain ⟨s₁, hfirst, ha₁⟩ :=
    compile_of_prints (s := { s with files := made }) t params ha hwrite
  rw [compileEach_cons, hfirst]
  dsimp only
  rw [compileEach_cons, compile_eq]
  dsimp only [compilerReply]
  rw [reply_call, ha₁.state, hb, advanced_call.files, ha₁.files]
  refine ⟨_, rfl, rfl, ?_, ?_⟩
  · rw [advanced_call.state, ha₁.state, Script.dropOutputs_dropOutputs]
  · rw [advanced_call.requests, ha₁.requests]

/-- One template is compiled, and what is sent depends on the token. -/
theorem runs (token : Option String) {s : Session Script}
    {replies : List (Except Failure Reply)} (hf : s.files = twoTemplates)
    (hs : s.state = script replies) :
    ∃ s', s'.files = final ∧ s'.state = ⟨[], replies⟩ ∧ s'.requests = s.requests ∧
      let p := publishPhase Script.host (config token) [compiled] s'
      runAll Script.host (config token) (fun _ => true) s =
        (.ok ⟨.native, 2, [compiled], [failure], p.1⟩, p.2) := by
  let t := Toolchain.detect (config token) (fun _ => true)
  let installed := s.call Script.host t ((t.tool installer).arg "install")
  have hmade : twoTemplates.makeDirs outputDir = (.ok (), made) := by cbv
  have hi : t.install Script.host s = (.ok (), installed.2) := by
    refine install_eq_ok_iff.mpr ⟨⟨⟨some 0, "", ""⟩, ?_, rfl⟩, rfl⟩
    rw [hs]
    rfl
  have ha : Advanced 1 s.files s installed.2 := advanced_call
  obtain ⟨s', he, hfinal, hstate, hrequests⟩ :=
    compiles t (config token).params (s := installed.2) (by rw [ha.state, hs]; rfl)
  refine ⟨s', hfinal, ?_, hrequests.trans ha.requests, ?_⟩
  · rw [hstate, ha.state, hs]
    rfl
  · refine runAll_eq_ok_iff.mpr ⟨_, hf ▸ discover_twoTemplates, runWith_eq_ok_iff.mpr
      ⟨s, installed.2, s', _, _, rfl, hi, compileAll_eq_ok_iff.mpr ⟨made, ?_, he⟩, rfl, rfl⟩⟩
    rw [ha.files, hf]
    exact hmade

end Half

/-- One of two templates fails, and the report is saved all the same. -/
theorem conclusion_truthful_partial :
    let s : Session Script := { files := twoTemplates, state := Half.script [], process := 1 }
    let place : Path := ⟨Text.utf8 "r.json"⟩
    let p := Cli.perform (fun _ => .ok Script.host) (fun _ => true) s
      (.run (Half.settings none) (some place))
    p.1.exit = 1 ∧
      p.1.stdout = "compiled 1/2 dashboards, publish skipped: no token configured\n" ∧
      p.1.stderr = "1 template(s) failed to compile: b\n" ∧
      ∃ bs, p.2.files.read place = .ok bs := by
  have hplace : Half.final.find ⟨Text.utf8 "r.json"⟩ false =
      .ok (.free [Text.utf8 "r.json"] false) := by cbv
  have hpath : Half.compiled.json =
      .ok (.object [("name", .text "a"), ("path", .text "/build/a.json")]) := by cbv
  intro s place p
  let r : Report := ⟨.native, 2, [Half.compiled], [Half.failure], .skipped⟩
  obtain ⟨s', hfinal, _, _, hrun⟩ := Half.runs none (s := s) rfl rfl
  have hreports :
      Cli.Reports (fun _ => .ok Script.host) (fun _ => true) s (Half.settings none) r s' :=
    ⟨_, _, Half.ofSettings_settings none, rfl, hrun⟩
  have hsaved : (r.save place s'.files).1 = .ok () := by
    obtain ⟨v, hv⟩ : ∃ v, r.json = .ok v := by
      rw [Report.json, List.mapM_cons, hpath]
      exact ⟨_, rfl⟩
    obtain ⟨files, hw⟩ := Files.writable_of_free hplace (Text.utf8 v.pretty)
    have hparent : place.parent?.filter (!·.bytes.isEmpty) = none := rfl
    unfold Report.save
    rw [hv, hfinal]
    dsimp only
    rw [hparent]
    dsimp only
    rw [hw]
  obtain ⟨hreport, hprogram⟩ := conclusion_truthful
  obtain ⟨_, _, htells, _⟩ := hprogram (fun _ => .ok Script.host) (fun _ => true) s
    (Half.settings none) (some place)
  obtain ⟨ht, hread⟩ := htells r s' hreports
  obtain ⟨_, _, hcompile, _⟩ := hreport r
  have hsome : ∀ q ∈ some place, (r.save q s'.files).1 = .ok () := by
    intro q hq
    cases hq
    exact hsaved
  obtain ⟨hexit, hstderr⟩ := ht.failed hsome _ (hcompile (List.cons_ne_nil _ _))
  obtain ⟨v, _, hv⟩ := hread place rfl hsaved
  refine ⟨hexit, ht.summary.trans ?_, hstderr.trans ?_, _, hv⟩
  · decide
  · decide

end Dashboards
