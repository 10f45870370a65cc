import Dashboards.Proofs.Isolation
import Dashboards.Proofs.Prediction

/-!
# The list of the templates

The list is made from the root and the directory of the templates alone, and a run looks for its
templates before it does anything else.

* `Cli.found`             the templates that are listed, or why there are none;
* `found_of_ofSettings`   they are those that a run with the same layout finds;
* `shows_listing`         what is printed, entry by entry;
* `Host.Fails`            what a run that has found templates can fail with;
* `noTemplates_iff`       where the host knows nothing of templates, a run ends for want of them
                          only if none are found;
* `runAll_attempts`       a run that gets to its templates makes one call for each;
* `list_shows_run`        the list shows what a run tries to compile.
-/

namespace Dashboards

/-! ### what is found -/

namespace Cli

/-- The templates that a run with this layout would find. -/
def found (t : Files) (root templatesDir : Path) : Except Failure (List Template) := do
  let c ← Config.ofSettings t { root, templatesDir }
  discover t c.templatesDir

/-- How the program ends when it lists them. -/
def listed (pretty : Bool) : Except Failure (List Template) → Ending
  | .error f => failed f
  | .ok ts => printJson pretty (listing ts)

theorem performList_eq (t : Files) (root templatesDir : Path) (pretty : Bool) :
    performList t root templatesDir pretty = listed pretty (found t root templatesDir) := by
  rw [performList, found]
  cases Config.ofSettings t { root, templatesDir } with
  | error f => rfl
  | ok c =>
    show _ = listed pretty (discover t c.templatesDir)
    dsimp only
    cases discover t c.templatesDir with
    | error f => rfl
    | ok ts => rfl

/-- Nothing but the layout counts. -/
theorem found_of_ofSettings {t : Files} {settings : Settings} {c : Config}
    (h : Config.ofSettings t settings = .ok c) :
    found t settings.root settings.templatesDir = discover t c.templatesDir := by
  have hd := Config.decides_ofSettings (t := t) (s := settings)
  have hinside : Check.templates.Holds t settings :=
    hd.isOk_iff.mp ⟨c, h⟩ .templates (Check.mem_all .templates)
  rw [h] at hd
  have hdir : Config.resolveTemplates c.root settings.templatesDir = .ok c.templatesDir :=
    Config.resolveTemplates_iff.mpr ⟨hinside c.root hd.result.root, hd.result.templatesDir⟩
  have hlist := Config.ofSettings_plain none hd.result.root hdir resolveServer_default
  show (Config.ofSettings t { root := settings.root, templatesDir := settings.templatesDir } >>=
    fun c => discover t c.templatesDir) = _
  rw [hlist]
  rfl

end Cli

/-! ### what is printed -/

/-- The entry of a template in the list: its name, and the text with the bytes of its path. -/
def Template.Shows (x : Template) (v : Json.Value) : Prop :=
  ∃ p, Text.utf8 p = x.path.bytes ∧ v = .object [("name", .text x.name), ("path", .text p)]

theorem shows_draft {x : Template} {p : String} (h : x.path.text? = some p) :
    ∃ v, x.draft.value? = .ok v ∧ x.Shows v := by
  have hp : x.path.bytes = Text.utf8 p := Text.text?_eq_some_iff.mp h
  refine ⟨.object [("name", .text x.name), ("path", .text p)], ?_, p, hp.symm, rfl⟩
  rw [Template.draft, Path.draft, Path.json, h]
  rfl

theorem values_drafts {ts : List Template} (h : ∀ x ∈ ts, ∃ p, x.path.text? = some p) :
    ∃ vs, Json.Draft.values? (ts.map Template.draft) = .ok vs ∧
      List.Forall₂ Template.Shows ts vs := by
  induction ts with
  | nil => exact ⟨[], rfl, .nil⟩
  | cons x ts ih =>
    obtain ⟨⟨p, hp⟩, hts⟩ := List.forall_mem_cons.mp h
    obtain ⟨v, hv, hshows⟩ := shows_draft hp
    obtain ⟨vs, hvs, hall⟩ := ih hts
    refine ⟨v :: vs, ?_, .cons hshows hall⟩
    rw [List.map_cons, Json.Draft.values?, hv, hvs]
    rfl

/-- If all paths are texts, the list is printed as one JSON text that has the entry of each template
and nothing else. -/
theorem shows_listing {ts : List Template} (h : ∀ x ∈ ts, ∃ p, x.path.text? = some p)
    (pretty : Bool) : ∃ text vs,
      Cli.listed pretty (.ok ts) = { exit := 0, stdout := String.ofList text ++ "\n" } ∧
      (∀ v, Json.Means v text ↔ v = .list vs) ∧ List.Forall₂ Template.Shows ts vs := by
  obtain ⟨vs, hvs, hshows⟩ := values_drafts h
  have hvalue : (Cli.listing ts).value? = .ok (.list vs) := by
    rw [Cli.listing, Json.Draft.value?, hvs]
    rfl
  exact ⟨_, vs, printJson_of_value hvalue pretty, fun v => Json.means_iff pretty 0, hshows⟩

/-! ### runs that find no templates -/

/-- The failures of a run that has found templates: the reply to a command, or what the preparation,
the installation or the output directory comes to. -/
inductive Host.Fails {σ : Type} (h : Host σ) (c : Config) : Failure → Prop
  | command {k : Command} {t : Files} {s : σ} {f : Failure} (e : (h.run k t s).1 = .error f) :
      Fails h c f
  | toolchain (text : String) : Fails h c (.toolchain text)
  | install (text : String) : Fails h c (.install text)
  | directory (cause : Cause) : Fails h c (.io c.outputDir cause)

/-- No command is answered with the failure of a directory without templates. -/
def Host.KnowsNoTemplates {σ : Type} (h : Host σ) : Prop :=
  ∀ c t s d, (h.run c t s).1 ≠ .error (.noTemplates d)

theorem Machine.execute_ne (m : Machine) (c : Call) (t : Files) (d : Path) :
    (m.execute c t).1 ≠ .error (.noTemplates d) := by
  intro h
  rw [Machine.execute] at h
  split at h
  · cases h
  · dsimp only at h
    -- The pair that the process leaves, then the test whether it was late.
    split at h
    split at h
    · cases h
    · split at h <;> cases h

/-- A process does not start or is late; no other failure comes from it. -/
theorem Machine.knowsNoTemplates (m : Machine) : m.host.KnowsNoTemplates := by
  intro c t s d
  show (c.perform m.execute t).1 ≠ _
  rw [Command.perform]
  split
  · split <;> exact fun h => nomatch h
  · exact m.execute_ne c.toCall t d

section
variable {σ : Type} {h : Host σ} {c : Config} {t : Toolchain} {s : Session σ} {f : Failure}

theorem prepare_fails (he : (t.prepare h s).1 = .error f) : h.Fails c f := by
  rw [Toolchain.prepare] at he
  split at he
  · cases he
  · split at he
    · rename_i hr
      cases he
      exact .command (congrArg Prod.fst hr)
    · split at he
      · cases he
      · split at he
        · rename_i hr
          cases he
          exact .command (congrArg Prod.fst hr)
        · split at he
          · cases he
          · cases he
            exact .toolchain _

theorem install_fails (he : (t.install h s).1 = .error f) : h.Fails c f := by
  rw [Toolchain.install] at he
  dsimp only at he
  split at he
  · rename_i hr
    cases he
    exact .command (congrArg Prod.fst hr)
  · split at he
    · cases he
    · cases he
      exact .install _

theorem runWith_fails {ts : List Template} (he : (runWith h c t ts s).1 = .error f) :
    h.Fails c f := by
  rw [runWith] at he
  split at he
  · rename_i hp
    cases he
    exact prepare_fails (congrArg Prod.fst hp)
  · split at he
    · rename_i hi
      cases he
      exact install_fails (congrArg Prod.fst hi)
    · rw [compileAll] at he
      split at he
      · rename_i hc
        split at hc
        · cases hc
          cases he
          exact .directory _
        · cases hc
      · cases he

/-- On a host that knows nothing of templates, a run ends for want of them just where none are
found. -/
theorem noTemplates_iff {present : String → Bool} (hk : h.KnowsNoTemplates) (d : Path) :
    (runAll h c present s).1 = .error (.noTemplates d) ↔
      discover s.files c.templatesDir = .error (.noTemplates d) := by
  rw [runAll]
  cases discover s.files c.templatesDir with
  | error f =>
    exact ⟨fun h => congrArg Except.error (Except.error.inj h),
      fun h => congrArg Except.error (Except.error.inj h)⟩
  | ok ts =>
    constructor
    · intro he
      cases runWith_fails he with
      | command e => exact absurd e (hk _ _ _ d)
    · intro he
      cases he

end

/-! ### runs that get to their templates -/

/-- Once the tools are ready and the output directory is there, each template is tried by a call of
its own, in their order, and becomes a document or a failure. -/
theorem runAll_attempts {σ : Type} {h : Host σ} {c : Config} {present : String → Bool}
    {s s₁ s₂ : Session σ} {ts : List Template} {made : Files}
    (hfound : discover s.files c.templatesDir = .ok ts)
    (hp : (Toolchain.detect c present).prepare h s = (.ok (), s₁))
    (hi : (Toolchain.detect c present).install h s₁ = (.ok (), s₂))
    (hm : s₂.files.makeDirs c.outputDir = (.ok (), made)) :
    let t := Toolchain.detect c present
    let results := compileResults h t c.params c.outputDir ts { s₂ with files := made }
    ∃ r s' calls, runAll h c present s = (.ok r, s') ∧ r.templates = ts.length ∧
      r.compiled = (Outcome.ofResults results).compiled ∧
      r.failures = (Outcome.ofResults results).failures ∧
      results.map resultName = ts.map (·.name) ∧ s'.commands = s₂.commands ++ calls ∧
      List.Forall₂ (fun template call => ∃ name,
        call = t.route name (invocation t template c.params)) ts calls := by
  intro t results
  have hpass : compileAll h t c.params c.outputDir ts s₂ = (.ok (.ofResults results), _) :=
    compileAll_of_made h t c.params ts hm
  obtain ⟨calls, hcommands, hcalls⟩ := commands_pass h t c.params c.outputDir ts {}
    { s₂ with files := made }
  refine ⟨_, _, calls, runAll_eq_ok_iff.mpr ⟨ts, hfound, runWith_eq_ok_iff.mpr
    ⟨s₁, s₂, _, _, _, hp, hi, hpass, rfl, rfl⟩⟩, rfl, rfl, rfl, names_compileResults .., ?_, hcalls⟩
  exact (commands_publishPhase c _ _).trans hcommands

/-- For every run that is accepted, the list with the same layout comes to the templates that the
run finds, whatever all other settings are. Where none are found, both end with the same failure,
and the run has done nothing; and on a host that knows nothing of templates it ends so in no other
case. Otherwise the list is one JSON text, if all paths are texts, with the name and the path of
each template; and a run that gets to its templates makes one call for each, in the order of the
list, and reports as many, each compiled or failed. -/
theorem list_shows_run {σ : Type} (host : Config → Except Failure (Host σ)) (h : Host σ)
    (present : String → Bool) (s : Session σ) (pretty : Bool) {settings : Settings} {c : Config}
    (hc : Config.ofSettings s.files settings = .ok c) :
    let found := Cli.found s.files settings.root settings.templatesDir
    let list := Cli.perform host present s (.list settings.root settings.templatesDir pretty)
    let run := runAll h c present s
    let t := Toolchain.detect c present
    list = (Cli.listed pretty found, s) ∧
    (∀ f, found = .error f → run = (.error f, s)) ∧
    (h.KnowsNoTemplates →
      ∀ d, found = .error (.noTemplates d) ↔ run.1 = .error (.noTemplates d)) ∧
    ∀ ts, found = .ok ts →
      ((∀ x ∈ ts, ∃ p, x.path.text? = some p) → ∃ text vs,
        list.1 = { exit := 0, stdout := String.ofList text ++ "\n" } ∧
        (∀ v, Json.Means v text ↔ v = .list vs) ∧ List.Forall₂ Template.Shows ts vs) ∧
      ∀ s₁ s₂ made, t.prepare h s = (.ok (), s₁) → t.install h s₁ = (.ok (), s₂) →
        s₂.files.makeDirs c.outputDir = (.ok (), made) →
          let results :=
            compileResults h t c.params c.outputDir ts { s₂ with files := made }
          ∃ r s' calls, run = (.ok r, s') ∧ r.templates = ts.length ∧
            r.compiled = (Outcome.ofResults results).compiled ∧
            r.failures = (Outcome.ofResults results).failures ∧
            results.map resultName = ts.map (·.name) ∧ s'.commands = s₂.commands ++ calls ∧
            List.Forall₂ (fun template call => ∃ name,
              call = t.route name (invocation t template c.params)) ts calls := by
  intro found list run t
  have hfound : found = discover s.files c.templatesDir := Cli.found_of_ofSettings hc
  have hlist : list = (Cli.listed pretty found, s) :=
    congrArg (·, s) (Cli.performList_eq s.files settings.root settings.templatesDir pretty)
  refine ⟨hlist, fun f hf => ?_, fun hk d => ?_, fun ts hts => ⟨fun htexts => ?_, ?_⟩⟩
  · show runAll h c present s = _
    rw [runAll, ← hfound, hf]
  · rw [hfound]
    exact (noTemplates_iff hk d).symm
  · rw [hlist, hts]
    exact shows_listing htexts pretty
  · intro s₁ s₂ made hp hi hm
    exact runAll_attempts (hfound.symm.trans hts) hp hi hm

/-- Two templates are listed and tried, one of them in vain; and on a machine no run ends for want
of them. -/
theorem list_shows_run_half :
    let s : Session Script := { files := twoTemplates, state := Half.script [], process := 1 }
    let list := Cli.perform (fun _ => .ok Script.host) (fun _ => true) s
      (.list (.ofString "/") (.ofString "/d") false)
    let run := runAll Script.host (Half.config none) (fun _ => true) s
    list.1 = { exit := 0, stdout := "[\x7b\"name\":\"a\",\"path\":\"/d/a.jsonnet\"\x7d," ++
      "\x7b\"name\":\"b\",\"path\":\"/d/b.jsonnet\"\x7d]\n" } ∧
    (∃ r s', run = (.ok r, s') ∧ r.templates = 2 ∧ s'.commands.length = 3) ∧
    ∀ d, (runAll (Cli.machineOf [] 1 (Half.config none)).host (Half.config none) (fun _ => true)
      { files := twoTemplates, state := (), process := 1 }).1 ≠ .error (.noTemplates d) := by
  intro s list run
  let ts : List Template := [⟨"a", ⟨Text.utf8 "/d/a.jsonnet"⟩⟩, ⟨"b", ⟨Text.utf8 "/d/b.jsonnet"⟩⟩]
  let t := Toolchain.detect (Half.config none) fun _ => true
  have hc : Config.ofSettings twoTemplates (Half.settings none) = .ok (Half.config none) :=
    Half.ofSettings_settings none
  have hfound : Cli.found twoTemplates (Half.settings none).root (Half.settings none).templatesDir =
      .ok ts := (Cli.found_of_ofSettings hc).trans discover_twoTemplates
  obtain ⟨hlist, -, -, hshown⟩ :=
    list_shows_run (fun _ => .ok Script.host) Script.host (fun _ => true) s false hc
  let machine := Cli.machineOf [] 1 (Half.config none)
  obtain ⟨-, -, hnone, -⟩ := list_shows_run (fun _ => .ok machine.host) machine.host (fun _ => true)
    { files := twoTemplates, state := (), process := 1 } false hc
  obtain ⟨-, hrun⟩ := hshown ts hfound
  have hinstall : t.install Script.host s =
      (.ok (), (s.call Script.host t ((t.tool installer).arg "install")).2) :=
    install_eq_ok_iff.mpr ⟨⟨⟨some 0, "", ""⟩, rfl, rfl⟩, rfl⟩
  have hmade : twoTemplates.makeDirs Half.outputDir = (.ok (), Half.made) := by cbv
  obtain ⟨r, s', calls, hr, hcount, -, -, -, hcommands, hcalls⟩ :=
    hrun s _ Half.made rfl hinstall hmade
  refine ⟨?_, ⟨r, s', hr, hcount, ?_⟩, fun d hd => ?_⟩
  · rw [hfound] at hlist
    exact (congrArg Prod.fst hlist).trans (by cbv)
  · rw [hcommands, commands_call, List.length_append, ← hcalls.length_eq]
    rfl
  · cases hfound.symm.trans ((hnone (Machine.knowsNoTemplates _) d).mpr hd)

end Dashboards
