import Dashboards.Proofs.CompileAll
import Dashboards.Proofs.Envelope
import Dashboards.Proofs.PublishAll

/-!
# What a run that succeeds has done

* `GoodRun`              everything that has to go well, read off the workspace and the answers of
                         the script alone;
* `runWith_eq_ok_iff`    the phases of a run that returns a report;
* `run_succeeds`         a run succeeds just when all goes well, and then every template has been
                         compiled, written and published once.
-/

namespace Dashboards
open Text (Bytes)

/-- The templates are found; the script answers the preparation, the installation and one call for
each template, all of them well; the output directory can be made and every document be written; and
all replies are accepted if there is a token. -/
structure GoodRun (c : Config) (mode : Mode) (s : Session Script) (templates : List Template)
    (prep : List (Except Failure Output)) (install : Output) (outs : List Printed) (made : Files) :
    Prop where
  found : discover s.files c.templatesDir = .ok templates
  answers : s.state.nextOutputs (prep.length + (1 + templates.length)) =
    prep ++ .ok install :: outs.map (.ok ·.toOutput)
  prepared : Prepares mode prep
  installed : install.status = some 0
  directory : s.files.makeDirs c.outputDir = (.ok (), made)
  compiled : List.Forall₂ (fun template _ =>
    made.Writable (outputPath c.outputDir template)) templates outs
  published : c.token = none ∨ ∀ reply ∈ s.state.nextReplies templates.length, Accepted reply

/-! ### phases -/

theorem compileAll_eq_ok_iff {σ : Type} {h : Host σ} {t : Toolchain} {params : Params}
    {outputDir : Path} {templates : List Template} {s s' : Session σ} {o : Outcome} :
    compileAll h t params outputDir templates s = (.ok o, s') ↔
      ∃ made, s.files.makeDirs outputDir = (.ok (), made) ∧
        compileEach h t params outputDir templates {} { s with files := made } = (o, s') := by
  rw [compileAll]
  cases s.files.makeDirs outputDir with
  | mk r made =>
    cases r with
    | error cause =>
      constructor
      · intro h
        cases h
      · rintro ⟨_, h, _⟩
        cases h
    | ok u =>
      constructor
      · intro h
        refine ⟨made, rfl, ?_⟩
        cases h
        rfl
      · rintro ⟨_, h, he⟩
        cases h
        dsimp only
        rw [he]

theorem runWith_eq_ok_iff {σ : Type} {h : Host σ} {c : Config} {t : Toolchain}
    {templates : List Template} {s s' : Session σ} {report : Report} :
    runWith h c t templates s = (.ok report, s') ↔ ∃ s₁ s₂ s₃ o publish,
      t.prepare h s = (.ok (), s₁) ∧ t.install h s₁ = (.ok (), s₂) ∧
      compileAll h t c.params c.outputDir templates s₂ = (.ok o, s₃) ∧
      publishPhase h c o.compiled s₃ = (publish, s') ∧
      report = ⟨t.mode, templates.length, o.compiled, o.failures, publish⟩ := by
  constructor
  · intro he
    rw [runWith] at he
    split at he
    · cases he
    · rename_i s₁ hp
      split at he
      · cases he
      · rename_i s₂ hi
        split at he
        · cases he
        · rename_i o s₃ hc
          cases he
          exact ⟨s₁, s₂, s₃, o, _, hp, hi, hc, rfl, rfl⟩
  · rintro ⟨s₁, s₂, s₃, o, publish, hp, hi, hc, hpub, rfl⟩
    rw [runWith, hp]
    dsimp only
    rw [hi]
    dsimp only
    rw [hc]
    dsimp only
    rw [hpub]

theorem runAll_eq_ok_iff {σ : Type} {h : Host σ} {c : Config} {present : String → Bool}
    {s s' : Session σ} {report : Report} :
    runAll h c present s = (.ok report, s') ↔ ∃ templates,
      discover s.files c.templatesDir = .ok templates ∧
        runWith h c (.detect c present) templates s = (.ok report, s') := by
  rw [runAll]
  cases discover s.files c.templatesDir with
  | error f =>
    constructor
    · intro h
      cases h
    · rintro ⟨_, h, _⟩
      cases h
  | ok templates =>
    constructor
    · intro h
      exact ⟨templates, rfl, h⟩
    · rintro ⟨_, h, hr⟩
      cases h
      exact hr

/-! ### what is compiled -/

section
variable {outputDir : Path} {templates : List Template} {outs : List Printed}
  {P : Template → Printed → Prop}

theorem length_compiled (h : List.Forall₂ P templates outs) :
    (List.zipWith (compiledOf outputDir) templates outs).length = templates.length := by
  rw [List.length_zipWith, h.length_eq, Nat.min_self]

theorem names_compiled (h : List.Forall₂ P templates outs) :
    (List.zipWith (compiledOf outputDir) templates outs).map (·.name) = templates.map (·.name) := by
  induction h with
  | nil => rfl
  | cons _ _ ih => exact congrArg (List.cons _) ih

theorem requests_compiled (h : List.Forall₂ P templates outs) (endpoint token : String) :
    (List.zipWith (compiledOf outputDir) templates outs).map (requestOf endpoint token) =
      outs.map fun o => ⟨endpoint, token, (envelope o.document).body⟩ := by
  induction h with
  | nil => rfl
  | cons _ _ ih => exact congrArg (List.cons _) ih

end

/-! ### success -/

section
variable {c : Config} {present : String → Bool} {s : Session Script} {templates : List Template}
  {prep : List (Except Failure Output)} {install : Output} {outs : List Printed} {made : Files}

/-- When all goes well there is a report without failures, and everything has been written and
sent. -/
theorem GoodRun.run (h : GoodRun c (.detect present c.image) s templates prep install outs made) :
    ∃ publish s', runAll Script.host c present s = (.ok ⟨.detect present c.image, templates.length,
        List.zipWith (compiledOf c.outputDir) templates outs, [], publish⟩, s') ∧
      (∀ x ∈ publish.results, x.success = true) ∧
      Compiles c.outputDir templates outs made s'.files ∧
      s'.requests = s.requests ++ match c.token with
        | none => []
        | some token => (List.zipWith (compiledOf c.outputDir) templates outs).map
          (requestOf c.endpoint token) := by
  have hanswers := h.answers
  rw [← Nat.add_assoc, Script.nextOutputs_add, List.append_cons] at hanswers
  obtain ⟨hready, houts⟩ := List.append_inj hanswers (by
    rw [Script.length_nextOutputs, List.length_append]
    rfl)
  obtain ⟨s₀, s₁, hp, hi, ha⟩ := ready_of_answers (t := .detect c present) h.prepared hready
    h.installed
  -- The files are still there, and the output directory is made among them.
  have hfiles : s₁.files = s.files := ha.files
  obtain ⟨final, hfinal⟩ := compiles_iff.mpr h.compiled
  obtain ⟨s₂, he, ha₂⟩ := compileEach_of_compiles (s := { s₁ with files := made })
    (.detect c present) c.params hfinal {} (by rw [← houts, ← ha.state])
  have hc := compileAll_eq_ok_iff.mpr ⟨made, hfiles ▸ h.directory, he⟩
  have hpublished : c.token = none ∨ ∀ reply ∈ s₂.state.nextReplies
      (List.zipWith (compiledOf c.outputDir) templates outs).length, Accepted reply := by
    rw [ha₂.state, ha.state, Script.replies_dropOutputs, Script.replies_dropOutputs,
      length_compiled h.compiled]
    exact h.published
  let p := publishPhase Script.host c (List.zipWith (compiledOf c.outputDir) templates outs) s₂
  have hrun := runWith_eq_ok_iff.mpr ⟨_, _, _, _, _, hp, hi, hc, rfl, rfl⟩
  refine ⟨p.1, p.2, runAll_eq_ok_iff.mpr ⟨templates, h.found, hrun⟩,
    (publishPhase_success_iff c _ s₂).mpr hpublished, ?_, ?_⟩
  · rw [files_publishPhase c _ s₂, ha₂.files]
    exact hfinal
  · refine (requests_publishPhase c _ s₂ hpublished).trans ?_
    rw [ha₂.requests]
    exact congrArg (· ++ _) ha.requests

/-- A run that succeeds has gone well in all its phases. -/
theorem goodRun_of_run {report r : Report} {s' : Session Script}
    (h : runAll Script.host c present s = (.ok report, s')) (hr : report.result = .ok r) :
    ∃ templates prep install outs made,
      GoodRun c (.detect present c.image) s templates prep install outs made := by
  obtain ⟨templates, hf, h⟩ := runAll_eq_ok_iff.mp h
  obtain ⟨s₁, s₂, s₃, o, publish, hp, hi, hc, hpub, rfl⟩ := runWith_eq_ok_iff.mp h
  obtain ⟨_, hfailures, hsuccess⟩ := (result_eq_ok_iff _ _).mp hr
  obtain ⟨prep, install, hprep, hready, hstatus, ha⟩ := answers_of_ready hp hi
  have hfiles : s₂.files = s.files := ha.files
  obtain ⟨made, hdirectory, he⟩ := compileAll_eq_ok_iff.mp hc
  obtain ⟨_, outs, files, houts, hcompiles⟩ := compiles_of_compileEach (o := {})
    (by rw [he]; exact hfailures)
  have hcompiled := compiles_iff.mp ⟨files, hcompiles⟩
  refine ⟨templates, prep, install, outs, made, hf, ?_, hprep, hstatus, hfiles ▸ hdirectory,
    hcompiled, ?_⟩
  · rw [← Nat.add_assoc, Script.nextOutputs_add, hready, ← ha.state, List.append_assoc]
    exact congrArg (fun rest => prep ++ .ok install :: rest) houts
  · -- The pass is the one that the documents make.
    obtain ⟨_, he', ha'⟩ := compileEach_of_compiles (.detect c present) c.params hcompiles {} houts
    rw [he] at he'
    cases he'
    have hpublished := (publishPhase_success_iff c _ s₃).mp (by rw [hpub]; exact hsuccess)
    rw [ha'.state, ha.state, Script.replies_dropOutputs, Script.replies_dropOutputs] at hpublished
    rw [List.nil_append, length_compiled hcompiled] at hpublished
    exact hpublished

end

theorem fileNames_eq {templates : List Template} {ns : List Bytes}
    (h : List.Forall₂ Template.Named templates ns) :
    templates.map (·.path.fileName?) = ns.map some := by
  induction h with
  | nil => rfl
  | cons h _ ih => rw [List.map_cons, List.map_cons, ih, h.file]

/-- A run succeeds just when all goes well. Then the report has an entry for each template, and with
a token there has been one request for each, in the same order. In a well-formed tree this is the
order of the file names; and each output holds what the compiler has printed for its template, if no
output is a link. -/
theorem run_succeeds (c : Config) (present : String → Bool) (s : Session Script) :
    let mode := Mode.detect present c.image
    let run := runAll Script.host c present s
    ((∃ report r, run.1 = .ok report ∧ report.result = .ok r) ↔
      ∃ templates prep install outs made, GoodRun c mode s templates prep install outs made) ∧
    ∀ templates prep install outs made, GoodRun c mode s templates prep install outs made →
      (∃ report, run.1 = .ok report ∧ report.result = .ok report ∧ templates ≠ [] ∧
        report.templates = templates.length ∧
        report.compiled = List.zipWith (compiledOf c.outputDir) templates outs ∧
        report.compiled.map (·.name) = templates.map (·.name)) ∧
      (run.2.requests = s.requests ++ match c.token with
        | none => []
        | some token => outs.map fun o => ⟨c.endpoint, token, (envelope o.document).body⟩) ∧
      (s.files.WellFormed →
        (∃ ns, Ascending ns ∧ templates.map (·.path.fileName?) = ns.map some) ∧
        ((∀ template ∈ templates, made.NoLink (outputPath c.outputDir template)) →
          List.Forall₂ (fun template o =>
            run.2.files.read (outputPath c.outputDir template) = .ok (Text.utf8 o.stdout))
            templates outs)) := by
  intro mode run
  refine ⟨⟨?_, ?_⟩, ?_⟩
  · rintro ⟨report, r, hr, hresult⟩
    exact goodRun_of_run (Prod.ext hr rfl) hresult
  · rintro ⟨templates, prep, install, outs, made, h⟩
    obtain ⟨publish, s', hrun, hs, _⟩ := h.run
    exact ⟨_, _, congrArg Prod.fst hrun, (result_eq_ok_iff _ _).mpr ⟨rfl, rfl, hs⟩⟩
  · intro templates prep install outs made h
    obtain ⟨publish, s', hrun, hs, hcompiles, hrequests⟩ := h.run
    have hfst : run.1 = _ := congrArg Prod.fst hrun
    have hsnd : run.2 = s' := congrArg Prod.snd hrun
    rw [hfst, hsnd]
    refine ⟨⟨_, rfl, (result_eq_ok_iff _ _).mpr ⟨rfl, rfl, hs⟩, (discover_eq_ok h.found).1, rfl,
      rfl, names_compiled h.compiled⟩, ?_, ?_⟩
    · rw [hrequests]
      cases c.token with
      | none => rfl
      | some token =>
        exact congrArg (s.requests ++ ·) (requests_compiled h.compiled c.endpoint token)
    · intro hw
      obtain ⟨ns, hns, hnamed⟩ := discover_named hw h.found
      refine ⟨⟨ns, hns, fileNames_eq hnamed⟩, fun hl => ?_⟩
      have hnames : ∀ template ∈ templates, ∃ n, template.Named n := by
        intro template ht
        obtain ⟨n, _, hn⟩ := named_of_mem hnamed ht
        exact ⟨n, hn⟩
      exact hcompiles.read hnames (outputs_distinct hnamed (hns.imp And.right)) hl

/-- A directory with two templates. -/
def twoTemplates : Files :=
  { entries := [([[100]], .directory), ([[100], Text.utf8 "b.jsonnet"], .file [] false),
      ([[100], Text.utf8 "a.jsonnet"], .file [] false)] }

theorem discover_twoTemplates : discover twoTemplates ⟨[47, 100]⟩ =
    .ok [⟨"a", ⟨Text.utf8 "/d/a.jsonnet"⟩⟩, ⟨"b", ⟨Text.utf8 "/d/b.jsonnet"⟩⟩] := by
  have hl : twoTemplates.list ⟨[47, 100]⟩ = .ok [(Text.utf8 "b.jsonnet", .file [] false),
      (Text.utf8 "a.jsonnet", .file [] false)] := by
    cbv
  have ha : templateAt? twoTemplates ⟨[47, 100]⟩ (Text.utf8 "a.jsonnet") (.file [] false) =
      some ⟨"a", ⟨Text.utf8 "/d/a.jsonnet"⟩⟩ :=
    ofPath_iff.mpr ⟨by decide, by decide, by decide, rfl⟩
  have hb : templateAt? twoTemplates ⟨[47, 100]⟩ (Text.utf8 "b.jsonnet") (.file [] false) =
      some ⟨"b", ⟨Text.utf8 "/d/b.jsonnet"⟩⟩ :=
    ofPath_iff.mpr ⟨by decide, by decide, by decide, rfl⟩
  have hs : ∀ x y : Template,
      ([(Text.utf8 "b.jsonnet", x), (Text.utf8 "a.jsonnet", y)].mergeSort fun m n =>
        bytesLe m.1 n.1) = [(Text.utf8 "a.jsonnet", y), (Text.utf8 "b.jsonnet", x)] := by
    intro x y
    cbv
  rw [discover, hl]
  simp only [templatesAmong, List.filterMap, ha, hb, Option.map, hs, List.map]

theorem wellFormed_twoTemplates : twoTemplates.WellFormed := by decide

theorem run_succeeds_two :
    let c : Config :=
      { root := ⟨[47]⟩, templatesDir := ⟨[47, 100]⟩, outputDir := ⟨[47, 111]⟩,
        server := ⟨"http", "", "", "localhost", none, "/", none, none⟩, token := some "t",
        params := {}, image := "jsonnet", runtime := "docker", commandSeconds := 1,
        httpSeconds := 1, stopOnFirstFailure := true }
    let state : Script :=
      { outputs := [.ok ⟨some 0, "", ""⟩, .ok ⟨some 0, "[1]\n", ""⟩, .ok ⟨some 0, "2", ""⟩]
        replies := [.ok ⟨200, ""⟩, .ok ⟨201, ""⟩] }
    let run := runAll Script.host c (fun _ => true) { files := twoTemplates, state, process := 1 }
    (∃ report, run.1 = .ok report ∧ report.compiled.map (·.name) = ["a", "b"]) ∧
      run.2.files.read ⟨Text.utf8 "/o/a.json"⟩ = .ok (Text.utf8 "[1]\n") ∧
      run.2.requests = ["[1]", "2"].map fun d => ⟨c.endpoint, "t",
        "\x7b\"dashboard\":" ++ d ++ ",\"overwrite\":true,\"folderId\":0\x7d"⟩ := by
  let made : Files :=
    { entries := twoTemplates.entries ++ [([[111]], .directory)] }
  have hm : twoTemplates.makeDirs ⟨[47, 111]⟩ = (.ok (), made) := by cbv
  have ha : made.find ⟨Text.utf8 "/o/a.json"⟩ false =
      .ok (.free [[111], Text.utf8 "a.json"] false) := by cbv
  have hb : made.find ⟨Text.utf8 "/o/b.json"⟩ false =
      .ok (.free [[111], Text.utf8 "b.json"] false) := by cbv
  let one : Printed := ⟨⟨some 0, "[1]\n", ""⟩, rfl, (Json.check_eq_ok_iff _).mp (by cbv)⟩
  let two : Printed := ⟨⟨some 0, "2", ""⟩, rfl, (Json.check_eq_ok_iff _).mp (by cbv)⟩
  have hone : one.document.text = "[1]" := by cbv
  have htwo : two.document.text = "2" := by cbv
  intro c state run
  have h : GoodRun c .native { files := twoTemplates, state, process := 1 }
      [⟨"a", ⟨Text.utf8 "/d/a.jsonnet"⟩⟩, ⟨"b", ⟨Text.utf8 "/d/b.jsonnet"⟩⟩] [] ⟨some 0, "", ""⟩
      [one, two] made := by
    refine ⟨discover_twoTemplates, rfl, .native, rfl, hm, ?_, .inr ?_⟩
    · exact .cons (Files.writable_of_free ha) (.cons (Files.writable_of_free hb) .nil)
    · intro reply hr
      rcases List.mem_cons.mp hr with rfl | hr
      · exact ⟨_, rfl, by decide⟩
      · exact ⟨_, List.mem_singleton.mp hr, by decide⟩
  obtain ⟨⟨report, hr, _, _, _, _, hnames⟩, hrequests, hread⟩ :=
    (run_succeeds c (fun _ => true) { files := twoTemplates, state, process := 1 }).2 _ _ _ _ _ h
  refine ⟨⟨report, hr, hnames⟩, ?_, ?_⟩
  rotate_left
  · rw [hrequests]
    show [(⟨_, _, (envelope one.document).body⟩ : Request), ⟨_, _, (envelope two.document).body⟩] = _
    rw [envelope_body, envelope_body, hone, htwo]
    rfl
  cases (hread wellFormed_twoTemplates).2 (by
    rw [List.forall_mem_cons, List.forall_mem_singleton]
    exact ⟨Files.noLink_of_free ha, Files.noLink_of_free hb⟩) with
  | cons h _ => exact h

end Dashboards
