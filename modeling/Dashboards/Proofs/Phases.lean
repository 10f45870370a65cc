import Dashboards.Proofs.Path.Below
import Dashboards.Proofs.Record
import Dashboards.Proofs.Success

/-!
# Which calls a run makes, and when

* `Command.mark`, `nodup_calls`   no call is made twice;
* `Sent`                          what is recorded of the requests;
* `run_phases`                    the calls and the requests of a run, and what they leave.
-/

namespace Dashboards

/-! ### no call twice -/

/-- The first argument of a call that is made in the preparation, the last of any other. -/
def Command.mark (c : Command) : Option String :=
  if c.args.head? = some "image" ∨ c.args.head? = some "build" then c.args.head?
  else c.args.getLast?

/-- What tells the call of a stage from the others. -/
def Stage.mark : Stage → Option String
  | .inspect _ => some "image"
  | .build _ => some "build"
  | .install => some "install"
  | .directory => none
  | .compile template => some (template.name ++ ".jsonnet")

section
variable {t : Toolchain} {params : Params}

theorem mark_route (name : String) {c : Command} {a last : String} {as : List String}
    (hc : c.args = a :: as) (hl : c.args.getLast? = some last) (hi : a ≠ "image")
    (hb : a ≠ "build") : (t.route name c).mark = some last := by
  have hmark : ∀ (k : Command) (first : String) (rest : List String), k.args = first :: rest →
      first ≠ "image" → first ≠ "build" → k.mark = k.args.getLast? := by
    intro k first rest hk hi hb
    rw [Command.mark, hk, List.head?_cons, if_neg]
    rintro (e | e)
    · exact hi (Option.some.inj e)
    · exact hb (Option.some.inj e)
  rw [Toolchain.route]
  cases t.mode with
  | native => rw [hmark c a as hc hi hb, hl]
  | containerized image =>
    have hne : c.args ≠ [] := by
      rw [hc]
      exact List.cons_ne_nil a as
    rw [hmark _ "run" _ rfl (by decide) (by decide)]
    show (["run", "--rm", "--init", "--name", name, "-v", _, "-w", _, image, c.program]
      ++ c.args).getLast? = some last
    rw [List.getLast?_append_of_ne_nil _ hne, hl]

theorem args_foldl (entries : List (String × String)) (c : Command) :
    (entries.foldl (fun c (k, v) => c.withArgs ["--ext-str", k ++ "=" ++ v]) c).args =
      c.args ++ entries.flatMap fun (k, v) => ["--ext-str", k ++ "=" ++ v] := by
  induction entries generalizing c with
  | nil => exact (List.append_nil _).symm
  | cons e entries ih =>
    rw [List.foldl_cons, ih, List.flatMap_cons, ← List.append_assoc]
    rfl

theorem args_invocation (t : Toolchain) (template : Template) (params : Params) :
    (invocation t template params).args = "-J" :: vendorDir ::
      (params.entries.flatMap fun (k, v) => ["--ext-str", k ++ "=" ++ v]) ++
        [(template.path.relativeTo t.templatesDir).shown] := by
  rw [invocation]
  dsimp only [Command.arg]
  rw [args_foldl]
  rfl

/-- The call of a stage carries its mark, if templates are seen by their file names. -/
theorem mark_call {stage : Stage} {name : String} {c : Command}
    (hs : ∀ template, stage = .compile template →
      (template.path.relativeTo t.templatesDir).shown = template.name ++ ".jsonnet")
    (hc : stage.call? t params name = some c) : c.mark = stage.mark := by
  cases stage with
  | inspect image =>
    cases hc
    exact if_pos (.inl rfl)
  | build image =>
    cases hc
    exact if_pos (.inr rfl)
  | install =>
    cases hc
    exact mark_route name rfl rfl (by decide) (by decide)
  | directory => cases hc
  | compile template =>
    cases hc
    rw [Stage.mark, ← hs template rfl]
    have ha := args_invocation t template params
    refine mark_route name ha ?_ (by decide) (by decide)
    rw [ha, List.getLast?_append, List.getLast?_singleton]
    rfl

theorem marks_calls {stages : List Stage} (process n : Nat)
    (hs : ∀ template, .compile template ∈ stages →
      (template.path.relativeTo t.templatesDir).shown = template.name ++ ".jsonnet") :
    ((Stage.calls t params process n stages).map (·.mark)).Sublist (stages.map Stage.mark) := by
  induction stages generalizing n with
  | nil => exact List.Sublist.refl _
  | cons stage rest ih =>
    have hrest := ih (n + stage.containers t)
      (fun template hm => hs template (List.mem_cons_of_mem _ hm))
    rw [Stage.calls, List.map_append, List.map_cons]
    cases hc : stage.call? t params ("dashbuild-" ++ toString process ++ "-" ++ toString n) with
    | none => exact hrest.cons _
    | some c =>
      have hm := mark_call (fun template e => hs template (e ▸ List.mem_cons_self)) hc
      rw [← hm]
      exact hrest.cons_cons _

theorem append_suffix_ne (name : String) {w : String}
    (h : w.toList.getLast? ≠ some 't') : name ++ ".jsonnet" ≠ w := by
  rintro rfl
  refine h ?_
  rw [String.toList_append, List.getLast?_append]
  rfl

theorem nodup_marks (mode : Mode) (reply : Except Failure Output) {templates : List Template}
    (h : templates.Pairwise fun a b => a.name ≠ b.name) :
    ((Stage.plan mode reply templates).map Stage.mark).Nodup := by
  have htemplates : ((templates.map Stage.compile).map Stage.mark).Nodup := by
    rw [List.map_map]
    refine List.pairwise_map.mpr (h.imp fun hab e => hab ?_)
    have he := congrArg String.toList (Option.some.inj e)
    rw [String.toList_append, String.toList_append] at he
    exact String.toList_injective (List.append_cancel_right he)
  have hnot : ∀ w : String, w.toList.getLast? ≠ some 't' →
      some w ∉ (templates.map Stage.compile).map Stage.mark := by
    intro w hw hm
    rw [List.map_map] at hm
    obtain ⟨template, _, e⟩ := List.mem_map.mp hm
    exact append_suffix_ne template.name hw (Option.some.inj e)
  have hnone : none ∉ (templates.map Stage.compile).map Stage.mark := by
    intro hm
    rw [List.map_map] at hm
    obtain ⟨template, _, e⟩ := List.mem_map.mp hm
    cases e
  have himage := hnot "image" (by decide)
  have hbuild := hnot "build" (by decide)
  have hinstall := hnot "install" (by decide)
  generalize hms : (templates.map Stage.compile).map Stage.mark = ms at *
  rw [Stage.plan, List.map_append, List.map_cons, List.map_cons, hms]
  cases mode with
  | native => simp [Stage.preparation, Stage.mark, *]
  | containerized image =>
    cases hf : failed reply <;> simp [Stage.preparation, Stage.mark, *]

end

/-! ### requests -/

/-- The session after some requests, which are all that is recorded. -/
structure Sent (sent : List Request) (s s' : Session (Script × List Event)) : Prop where
  events : s'.state.2 = s.state.2 ++ sent.map .request
  requests : s'.requests = s.requests ++ sent
  commands : s'.commands = s.commands
  files : s'.files = s.files

theorem Sent.nil (s : Session (Script × List Event)) : Sent [] s s :=
  ⟨(List.append_nil _).symm, (List.append_nil _).symm, rfl, rfl⟩

theorem Sent.cons {r : Request} {sent : List Request} {s s' s'' : Session (Script × List Event)}
    (h : Sent [r] s s') (h' : Sent sent s' s'') : Sent (r :: sent) s s'' := by
  refine ⟨?_, ?_, h'.commands.trans h.commands, h'.files.trans h.files⟩
  · rw [h'.events, h.events, List.append_assoc]
    rfl
  · rw [h'.requests, h.requests, List.append_assoc]
    rfl

theorem publishAll_sent (endpoint token : String) (stop : Bool) (cs : List Compiled)
    (s : Session (Script × List Event)) :
    ∃ sent, Sent sent s (publishAll Script.host.recorded endpoint token stop cs s).2 := by
  induction cs generalizing s with
  | nil => exact ⟨[], .nil s⟩
  | cons c cs ih =>
    have hfirst : Sent [requestOf endpoint token c] s
        (publish Script.host.recorded endpoint token c s).2 := ⟨rfl, rfl, rfl, rfl⟩
    rw [publishAll]
    dsimp only
    split
    · exact ⟨_, hfirst⟩
    · obtain ⟨sent, h⟩ := ih (publish Script.host.recorded endpoint token c s).2
      exact ⟨_, hfirst.cons h⟩

theorem publishPhase_sent (c : Config) (cs : List Compiled) (s : Session (Script × List Event)) :
    ∃ sent, Sent sent s (publishPhase Script.host.recorded c cs s).2 := by
  rw [publishPhase]
  cases c.token with
  | none => exact ⟨[], .nil s⟩
  | some token => exact publishAll_sent c.endpoint token c.stopOnFirstFailure cs s

/-! ### whole runs -/

theorem isOk_iff {ε α : Type} (r : Except ε α) : r.isOk = true ↔ ∃ a, r = .ok a := by
  cases r with
  | error e =>
    constructor
    · intro h
      cases h
    · rintro ⟨a, h⟩
      cases h
  | ok a => exact ⟨fun _ => ⟨a, rfl⟩, fun _ => rfl⟩

theorem not_isOk_iff {ε α : Type} (r : Except ε α) : r.isOk = false ↔ ∃ e, r = .error e := by
  cases r with
  | error e => exact ⟨fun _ => ⟨e, rfl⟩, fun _ => rfl⟩
  | ok a =>
    constructor
    · intro h
      cases h
    · rintro ⟨e, h⟩
      cases h

/-- In a well-formed tree the templates that are found are seen by their file names, and have
different names. -/
theorem discover_seen {t : Files} (ht : t.WellFormed) {directory : Path} {ts : List Template}
    (h : discover t directory = .ok ts) :
    (∀ template ∈ ts,
      (template.path.relativeTo directory).shown = template.name ++ ".jsonnet") ∧
    ts.Pairwise fun a b => a.name ≠ b.name := by
  constructor
  · intro template hm
    obtain ⟨l, n, e, _, hc, hat⟩ := mem_discover h hm
    obtain ⟨hp, hshown⟩ := templateAt_path (ht.isName hc) hat
    rw [hp, Path.relativeTo_join directory (ht.isName hc)]
    exact hshown
  · obtain ⟨ns, hns, hnamed⟩ := discover_named ht h
    refine (outputs_distinct hnamed (hns.imp And.right)).imp fun hab e => hab ?_
    rw [Template.outputName, Template.outputName, e]

theorem nodup_calls (t : Toolchain) (params : Params) (process n : Nat) (creatable : Bool)
    (reply : Except Failure Output) {templates : List Template} {s : Script}
    (hseen : ∀ template ∈ templates,
      (template.path.relativeTo t.templatesDir).shown = template.name ++ ".jsonnet")
    (hnames : templates.Pairwise fun a b => a.name ≠ b.name) :
    (Stage.calls t params process n
      (Stage.made creatable (Stage.plan t.mode reply templates) s)).Nodup := by
  have hinitial : Stage.made creatable (Stage.plan t.mode reply templates) s <+:
      Stage.plan t.mode reply templates := Stage.made_initial
  refine List.Nodup.of_map (·.mark) ?_
  refine List.Nodup.sublist ?_ (nodup_marks t.mode reply hnames)
  refine (marks_calls process n ?_).trans (hinitial.sublist.map Stage.mark)
  intro template hm
  rcases List.mem_append.mp (hinitial.subset hm) with hp | hp
  · exact (Stage.keeps_preparation hp).elim
  · have hp : .compile template ∈ templates.map Stage.compile := by simpa using hp
    obtain ⟨other, ho, e⟩ := List.mem_map.mp hp
    cases e
    exact hseen template ho

/-- A run without templates does nothing. Any other makes the stages of its plan up to the first
that is fatal: it makes just their calls, in their order, none of them twice, and sends its requests
after all of them. There is a report just when no stage is fatal. If there is none, nothing is sent
and no template is compiled, and without the stage of the output directory the files are as they
were. -/
theorem run_phases (c : Config) (present : String → Bool) (s : Session (Script × List Event)) :
    let t := Toolchain.detect c present
    let run := runAll Script.host.recorded c present s
    (∀ f, discover s.files c.templatesDir = .error f → run = (.error f, s)) ∧
    ∀ templates, discover s.files c.templatesDir = .ok templates →
      let creatable := (s.files.makeDirs c.outputDir).1.isOk
      let plan := Stage.plan t.mode s.state.1.nextOutput.1 templates
      let made := Stage.made creatable plan s.state.1
      let calls := Stage.calls t c.params s.process s.containers made
      ∃ sent, run.2.commands = s.commands ++ calls ∧ run.2.requests = s.requests ++ sent ∧
        run.2.state.2 = s.state.2 ++ (calls.map .call ++ sent.map .request) ∧
        ((∃ report, run.1 = .ok report) ↔ Stage.completes creatable plan s.state.1) ∧
        ((∃ f, run.1 = .error f) → sent = [] ∧ ∀ template, .compile template ∉ made) ∧
        (.directory ∉ made → run.2.files = s.files) ∧
        (s.files.WellFormed → calls.Nodup) := by
  intro t run
  refine ⟨fun f hf => ?_, fun templates hfound => ?_⟩
  · show runAll Script.host.recorded c present s = _
    rw [runAll, hf]
  intro creatable plan made calls
  have hrun : run = runWith Script.host.recorded c t templates s := by
    show runAll Script.host.recorded c present s = _
    rw [runAll, hfound]
  obtain ⟨compiled, he⟩ := runWith_performed Script.host.recorded t c templates s
    s.state.1.nextOutput.1 (fun _ _ => rfl)
  obtain ⟨hgoes, hcalls, hkept⟩ := perform_traced t c.params c.outputDir plan s
    (Stage.pairwise_directory _ _ _) (fun _ => rfl)
  have hnodup : s.files.WellFormed → calls.Nodup := by
    intro hw
    obtain ⟨hseen, hnames⟩ := discover_seen hw hfound
    exact nodup_calls t c.params s.process s.containers creatable _ hseen hnames
  -- A template is compiled only behind the output directory.
  have hbehind : ∀ template, .compile template ∈ made →
      Stage.completes creatable plan s.state.1 = true :=
    fun template hm => Stage.completes_of_mem (Stage.pairwise_compile _ _ _) hm
  rw [← hrun] at he
  cases hcompletes : Stage.completes creatable plan s.state.1 with
  | true =>
    rw [if_pos (hgoes.trans hcompletes)] at he
    obtain ⟨hok, hs⟩ := Prod.mk.inj he
    obtain ⟨sent, hsent⟩ := publishPhase_sent c compiled
      (perform Script.host.recorded t c.params c.outputDir plan s).2
    rw [← hs] at hsent
    refine ⟨sent, hsent.commands.trans hcalls.commands, ?_, ?_, ?_, ?_, ?_, hnodup⟩
    · rw [hsent.requests, hcalls.requests]
    · rw [hsent.events, hcalls.events, List.append_assoc]
    · exact ⟨fun _ => rfl, fun _ => (isOk_iff _).mp hok⟩
    · intro hf
      rw [(not_isOk_iff _).mpr hf] at hok
      cases hok
    · exact fun hn => hsent.files.trans (hkept (Stage.keeps_made hn))
  | false =>
    rw [if_neg (by rw [hgoes, hcompletes]; exact Bool.false_ne_true)] at he
    obtain ⟨hok, hs⟩ := Prod.mk.inj he
    rw [hgoes, hcompletes] at hok
    rw [← hs] at hcalls hkept
    refine ⟨[], hcalls.commands, ?_, ?_, ?_, ?_, fun hn => hkept (Stage.keeps_made hn), hnodup⟩
    · rw [hcalls.requests, List.append_nil]
    · rw [hcalls.events, List.map_nil, List.append_nil]
    · constructor
      · intro hr
        rw [(isOk_iff _).mpr hr] at hok
        cases hok
      · intro h
        cases h
    · refine fun _ => ⟨rfl, fun template hm => ?_⟩
      rw [hbehind template hm] at hcompletes
      cases hcompletes

/-- The image is built, the libraries are installed, and the failure of one template does not keep
the other from being compiled. -/
theorem run_phases_built :
    let c : Config :=
      { root := ⟨[47]⟩, templatesDir := ⟨[47, 100]⟩, outputDir := ⟨[47, 111]⟩,
        server := ⟨"http", "", "", "localhost", none, "/", none, none⟩, token := some "t",
        params := {}, image := "jsonnet", runtime := "docker", commandSeconds := 1,
        httpSeconds := 1, stopOnFirstFailure := true }
    let outputs : List (Except Failure Output) := [.ok ⟨some 1, "", ""⟩, .ok ⟨some 0, "", ""⟩,
      .ok ⟨some 0, "", ""⟩, .error (.timeout "docker" 1), .ok ⟨some 0, "2", ""⟩]
    let s : Session (Script × List Event) :=
      { files := twoTemplates, state := ({ outputs }, []), process := 1 }
    let run := runAll Script.host.recorded c (fun _ => false) s
    s.files.WellFormed ∧ (∃ report, run.1 = .ok report) ∧ run.2.commands.Nodup ∧
      run.2.commands.map (·.args.head?) =
        [some "image", some "build", some "run", some "run", some "run"] := by
  intro c outputs s run
  obtain ⟨_, h⟩ := run_phases c (fun _ => false) s
  obtain ⟨sent, hcalls, _, _, hreport, _, _, hnodup⟩ := h _ discover_twoTemplates
  have hnone : s.commands = [] := rfl
  have hd : (twoTemplates.makeDirs ⟨[47, 111]⟩).1.isOk = true := by cbv
  rw [show (s.files.makeDirs c.outputDir).1.isOk = true from hd] at hcalls hreport hnodup
  refine ⟨wellFormed_twoTemplates, hreport.mpr rfl, ?_, ?_⟩
  · rw [hcalls, hnone, List.nil_append]
    exact hnodup wellFormed_twoTemplates
  · rw [hcalls, hnone, List.nil_append]
    rfl

end Dashboards
