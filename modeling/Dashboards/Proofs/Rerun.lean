import Dashboards.Proofs.Rediscovery
import Dashboards.Proofs.Tandem

/-!
# Running once more

* `Command.unnamed`     a command without the name of its container;
* `Host.steady`         hosts whose replies depend on that and on the request alone;
* `Echo`                the invariant of two runs side by side, and `Repeats`, that of two steps;
* `judge_again`         a template comes to the same where its document stands already;
* `compileEach_again`, `compileAll_again`   and so does a pass over the files that it has left;
* `rerun`               a run that is made once more gives the same report and changes nothing.
-/

namespace Dashboards
open Text (Bytes)

/-- The command without the name of its container. -/
def Command.unnamed (c : Command) : Command :=
  match c.args with
  | "run" :: "--rm" :: "--init" :: "--name" :: _ :: rest =>
    { c with
      args := "run" :: "--rm" :: "--init" :: "--name" :: rest
      onTimeout := c.onTimeout.map fun k => { k with args := k.args.take 1 } }
  | _ => c

/-- A host whose replies depend on the command, but not on the name of its container, and on the
request. It leaves files alone. -/
def Host.steady (reply : Command → Except Failure Output)
    (answer : Request → Except Failure Reply) : Host Unit where
  run c files s := (reply c.unnamed, files, s)
  post r s := (answer r, s)

theorem steady_leavesFiles (reply : Command → Except Failure Output)
    (answer : Request → Except Failure Reply) : (Host.steady reply answer).LeavesFiles :=
  fun _ _ _ => rfl

theorem unnamed_route (t : Toolchain) (name name' : String) (c : Command) :
    (t.route name c).unnamed = (t.route name' c).unnamed := by
  rw [Toolchain.route, Toolchain.route]
  cases t.mode with
  | native => rfl
  | containerized image => rfl

/-! ### two runs side by side -/

/-- Two sessions that have come from `b` and `b'` by the same calls, but for the names of
containers, and the same requests. -/
structure Echo (b b' s s' : Session Unit) : Prop where
  calls : ∃ cs cs', s.commands = b.commands ++ cs ∧ s'.commands = b'.commands ++ cs' ∧
    cs'.map (·.unnamed) = cs.map (·.unnamed)
  requests : ∃ rs, s.requests = b.requests ++ rs ∧ s'.requests = b'.requests ++ rs

/-- Two steps with one result, after which the sessions echo each other. -/
def Repeats {α : Type} (b b' : Session Unit) (x x' : α × Session Unit) : Prop :=
  x'.1 = x.1 ∧ Echo b b' x.2 x'.2

theorem Repeats.eq {α : Type} {b b' s : Session Unit} {r : α} {x : α × Session Unit}
    (h : Repeats b b' (r, s) x) : ∃ s', x = (r, s') ∧ Echo b b' s s' :=
  ⟨x.2, Prod.ext h.1 rfl, h.2⟩

theorem Echo.start (s s' : Session Unit) : Echo s s' s s' :=
  ⟨⟨[], [], (List.append_nil _).symm, (List.append_nil _).symm, rfl⟩,
    ⟨[], (List.append_nil _).symm, (List.append_nil _).symm⟩⟩

section
variable (reply : Command → Except Failure Output) (answer : Request → Except Failure Reply)
  {b b' s s' : Session Unit} (t : Toolchain)

theorem Echo.withFiles (h : Echo b b' s s') (files files' : Files) :
    Echo b b' { s with files } { s' with files := files' } := ⟨h.calls, h.requests⟩

theorem Echo.run (h : Echo b b' s s') {c c' : Command} (hc : c'.unnamed = c.unnamed) :
    Repeats b b' (s.run (Host.steady reply answer) c) (s'.run (Host.steady reply answer) c') := by
  refine ⟨congrArg reply hc, ?_, h.requests⟩
  obtain ⟨cs, cs', e, e', hcs⟩ := h.calls
  refine ⟨cs ++ [c], cs' ++ [c'], ?_, ?_, ?_⟩
  · show s.commands ++ [c] = b.commands ++ (cs ++ [c])
    rw [e, List.append_assoc]
  · show s'.commands ++ [c'] = b'.commands ++ (cs' ++ [c'])
    rw [e', List.append_assoc]
  · rw [List.map_append, List.map_append, hcs, List.map_singleton, List.map_singleton, hc]

theorem Echo.call (h : Echo b b' s s') (c : Command) :
    Repeats b b' (s.call (Host.steady reply answer) t c)
      (s'.call (Host.steady reply answer) t c) := by
  rw [Session.call, Session.call, Session.route, Session.route]
  cases hm : t.mode with
  | native => exact h.run reply answer rfl
  | containerized image =>
    have hroute : Echo b b' { s with containers := s.containers + 1 }
        { s' with containers := s'.containers + 1 } := ⟨h.calls, h.requests⟩
    exact hroute.run reply answer (unnamed_route t _ _ c)

theorem Echo.inTandem :
    CallsInTandem (.steady reply answer) (.steady reply answer) t t (Echo b b') :=
  ⟨rfl, fun h c => h.call reply answer t c⟩

theorem Echo.posts (token : String) :
    PostsInTandem (.steady reply answer) (.steady reply answer) token token (Echo b b') :=
  ⟨fun h _ _ => ⟨rfl, h.calls, shared_snoc h.requests _⟩⟩

theorem Echo.prepare (h : Echo b b' s s') :
    Repeats b b' (t.prepare (Host.steady reply answer) s)
      (t.prepare (Host.steady reply answer) s') :=
  Tandem.prepare t (fun h _ => h.run reply answer rfl) h

theorem Echo.install (h : Echo b b' s s') :
    Repeats b b' (t.install (Host.steady reply answer) s)
      (t.install (Host.steady reply answer) s') :=
  (Echo.inTandem reply answer t).install h

theorem Echo.publishPhase (h : Echo b b' s s') (c : Config) (cs : List Compiled) :
    Repeats b b' (publishPhase (Host.steady reply answer) c cs s)
      (publishPhase (Host.steady reply answer) c cs s') :=
  Tandem.publishPhase (fun token _ => Echo.posts reply answer token) h cs

end

/-! ### templates -/

section
variable {outputDir : Path} {dir : Location} {template : Template} {n : Bytes} {files final : Files}

/-- A template comes to the same in a tree in which its document stands as the first time has left
it, and the tree stays as it is. -/
theorem judge_again (hn : template.Named n) (hd : files.directoryOf? outputDir = some dir)
    (hD : final.directoryOf? outputDir = some dir) (hl : files.LinkFree) (hL : final.LinkFree)
    (reply : Except Failure Output)
    (h : final.get? (documentAt dir template.name) =
      (judge outputDir template reply files).2.get? (documentAt dir template.name)) :
    judge outputDir template reply final = ((judge outputDir template reply files).1, final) := by
  cases reply with
  | error f => rfl
  | ok o =>
    rw [judge] at h ⊢
    rw [judge]
    cases hdoc : documentOf o with
    | error message => rfl
    | ok d =>
      rw [hdoc] at h
      dsimp only at h ⊢
      cases hw : files.write (outputPath outputDir template) (Text.utf8 o.stdout) with
      | error cause =>
        rw [hw] at h
        have hagain := Files.write_refused_again hd hD hn.output
          (fun target => hl.get? _ target) (fun target => hL.get? _ target) hw h
        rw [outputPath, Path.ofString, hagain]
      | ok files' =>
        rw [hw] at h
        have hagain := Files.write_again hd hD hn.output (fun target => hl.get? _ target)
          (fun target => hL.get? _ target) hw h
        rw [outputPath, Path.ofString, hagain]

theorem judge_files (outputDir : Path) (template : Template) (reply : Except Failure Output)
    (files : Files) : (judge outputDir template reply files).2 = files ∨
      ∃ contents, files.write (outputPath outputDir template) contents =
        .ok (judge outputDir template reply files).2 := by
  rcases judge_cases outputDir template reply files with ⟨o, t', _, hw, hj⟩ | ⟨_, _, hj⟩
  · rw [hj]
    exact .inr ⟨_, hw⟩
  · rw [hj]
    exact .inl rfl

end

section
variable {σ : Type} {h : Host σ} (t : Toolchain) (params : Params) {outputDir : Path}
  {dir : Location}

/-- A pass leaves everything alone but the documents of its templates. -/
theorem compileEach_frame (hh : h.LeavesFiles) {templates : List Template} {s : Session σ}
    (o : Outcome) (hn : ∀ template ∈ templates, ∃ n, template.Named n) (hl : s.files.LinkFree)
    (hd : s.files.directoryOf? outputDir = some dir) :
    let final := (compileEach h t params outputDir templates o s).2.files
    final.LinkFree ∧ final.directoryOf? outputDir = some dir ∧
      ∀ l, (∀ template ∈ templates, l ≠ documentAt dir template.name) →
        final.get? l = s.files.get? l := by
  obtain ⟨done, outs, _, hcs, _, _, hsub, _⟩ :=
    compileEach_compiles (t := t) hh params outputDir templates o s
  refine ⟨hcs.linkFree hl, hcs.grown.keeps.directoryOf hd, fun l hne => ?_⟩
  rcases hcs.get? hl hd (fun template ht => hn template (hsub.subset ht)) l with e | ⟨_, hat, _⟩
  · exact e
  · obtain ⟨template, ht, e⟩ := hat
    exact absurd e (hne template (hsub.subset ht))

end

/-- A pass over the files that it has left makes the same of every template, and leaves them as
they are. -/
theorem compileEach_again (reply : Command → Except Failure Output)
    (answer : Request → Except Failure Reply) (t : Toolchain) (params : Params) {outputDir : Path}
    {dir : Location} {templates : List Template} (o : Outcome) {b b' s s' : Session Unit}
    (h : Echo b b' s s') (hn : ∀ template ∈ templates, ∃ n, template.Named n)
    (hu : templates.Pairwise fun a b => Text.utf8 a.outputName ≠ Text.utf8 b.outputName)
    (hl : s.files.LinkFree) (hd : s.files.directoryOf? outputDir = some dir)
    (hf : s'.files =
      (compileEach (.steady reply answer) t params outputDir templates o s).2.files) :
    Repeats b b' (compileEach (.steady reply answer) t params outputDir templates o s)
        (compileEach (.steady reply answer) t params outputDir templates o s') ∧
      (compileEach (.steady reply answer) t params outputDir templates o s').2.files =
        s'.files := by
  have hh := steady_leavesFiles reply answer
  induction templates generalizing o s s' with
  | nil => exact ⟨⟨rfl, h⟩, rfl⟩
  | cons template rest ih =>
    obtain ⟨hn₁, hn⟩ := List.forall_mem_cons.mp hn
    obtain ⟨hu₁, hu⟩ := List.pairwise_cons.mp hu
    obtain ⟨n, hn₁⟩ := hn₁
    obtain ⟨hr, he⟩ := h.call reply answer t (invocation t template params)
    generalize hcall : s.call (.steady reply answer) t (invocation t template params) = r at hr he
    generalize hcall' : s'.call (.steady reply answer) t (invocation t template params) = r'
      at hr he
    rw [compileEach_cons, compile_judge hh, hcall] at hf ⊢
    rw [compileEach_cons, compile_judge hh, hcall']
    dsimp only at hf ⊢
    rw [hr]
    -- The files after the first template, and those that it starts with the second time.
    have hj := judge_files outputDir template r.1 s.files
    generalize hjudge : judge outputDir template r.1 s.files = j at hf hj ⊢
    obtain ⟨hl₁, hd₁⟩ : j.2.LinkFree ∧ j.2.directoryOf? outputDir = some dir := by
      rcases hj with e | ⟨contents, hw⟩
      · rw [e]
        exact ⟨hl, hd⟩
      · exact ⟨Files.linkFree_write hw hl, (Files.grown_write hw).keeps.directoryOf hd⟩
    have hframe := compileEach_frame t params hh (s := { r.2 with files := j.2 }) (o.add j.1) hn
      hl₁ hd₁
    rw [← hf] at hframe
    obtain ⟨hL, hD, hsame⟩ := hframe
    have hplace : s'.files.get? (documentAt dir template.name) =
        j.2.get? (documentAt dir template.name) :=
      hsame _ fun other ho e => hu₁ other ho (documentAt_inj e).2
    have hagain := judge_again hn₁ hd hD hl hL r.1 (by rw [hjudge]; exact hplace)
    rw [hagain, hjudge]
    exact ih (o.add j.1) (he.withFiles j.2 s'.files) hn hu hl₁ hd₁ hf

theorem compileAll_again (reply : Command → Except Failure Output)
    (answer : Request → Except Failure Reply) (t : Toolchain) (params : Params) {outputDir : Path}
    {templates : List Template} {o : Outcome} {b b' s s₁ s' : Session Unit}
    (h : Echo b b' s s') (hn : ∀ template ∈ templates, ∃ n, template.Named n)
    (hu : templates.Pairwise fun a b => Text.utf8 a.outputName ≠ Text.utf8 b.outputName)
    (hl : s.files.LinkFree)
    (hc : compileAll (.steady reply answer) t params outputDir templates s = (.ok o, s₁))
    (hf : s'.files = s₁.files) :
    ∃ s₁', compileAll (.steady reply answer) t params outputDir templates s' = (.ok o, s₁') ∧
      Echo b b' s₁ s₁' ∧ s₁'.files = s'.files := by
  obtain ⟨made, hmade, heach⟩ := compileAll_eq_ok_iff.mp hc
  have hbuilds := Files.builds_makeDirs outputDir s.files
  rw [hmade] at hbuilds
  have hl₁ : made.LinkFree := hbuilds.linkFree hl
  obtain ⟨dir, hd⟩ := Files.directory_of_makeDirs hmade
  -- The directory is still there, and is not made again.
  have hmade' : s'.files.makeDirs outputDir = (.ok (), s'.files) := by
    have hframe := compileEach_frame t params (steady_leavesFiles reply answer)
      (s := { s with files := made }) {} hn hl₁ hd
    rw [heach, ← hf] at hframe
    exact Files.makeDirs_again hframe.2.1
  obtain ⟨hrepeats, hkept⟩ := compileEach_again reply answer t params {}
    (h.withFiles made s'.files) hn hu hl₁ hd (by rw [heach]; exact hf)
  rw [heach] at hrepeats
  obtain ⟨s₁', heach', he⟩ := hrepeats.eq
  rw [heach'] at hkept
  exact ⟨s₁', compileAll_eq_ok_iff.mpr ⟨s'.files, hmade', heach'⟩, he, hkept⟩

/-! ### whole runs -/

/-- A run that has returned a report is made once more, in another process, from the files that it
has left. The host answers as before. Then the run returns an equal report, makes the same calls but
for the names of containers, sends the same requests, and leaves all files as they are. -/
theorem rerun (reply : Command → Except Failure Output)
    (answer : Request → Except Failure Reply) (c : Config) (present : String → Bool)
    (s s' : Session Unit) (report : Report) (hw : s.files.WellFormed) (hl : s.files.LinkFree)
    (hr : (runAll (.steady reply answer) c present s).1 = .ok report)
    (hf : s'.files = (runAll (.steady reply answer) c present s).2.files) :
    let first := runAll (.steady reply answer) c present s
    let second := runAll (.steady reply answer) c present s'
    second.1 = .ok report ∧ second.2.files = s'.files ∧
    (∃ calls calls', first.2.commands = s.commands ++ calls ∧
      second.2.commands = s'.commands ++ calls' ∧
      calls'.map (·.unnamed) = calls.map (·.unnamed)) ∧
    ∃ sent, first.2.requests = s.requests ++ sent ∧ second.2.requests = s'.requests ++ sent := by
  intro first second
  have hh := steady_leavesFiles reply answer
  have hfirst : runAll (.steady reply answer) c present s = (.ok report, first.2) :=
    Prod.ext hr rfl
  obtain ⟨templates, hfound, hrun⟩ := runAll_eq_ok_iff.mp hfirst
  obtain ⟨s₁, s₂, s₃, o, publish, hp, hi, hc, hpub, rfl⟩ := runWith_eq_ok_iff.mp hrun
  have hfiles₂ : s₂.files = s.files := files_ready hh hp hi
  have hfiles₃ : s'.files = s₃.files := by
    have hkept := files_publishPhase (h := .steady reply answer) c o.compiled s₃
    rw [hpub] at hkept
    exact hf.trans hkept
  -- The templates are found again.
  obtain ⟨ns, hns, hnamed⟩ := discover_named hw hfound
  have hfound' : discover s'.files c.templatesDir = .ok templates := by
    rcases runAll_changes hh c present s with ⟨⟨f, he⟩, _⟩ | ⟨_, templates', _, _, _, _, hdone⟩
    · rw [hr] at he
      cases he
    · have hsame := hdone.found.symm.trans hfound
      cases hsame
      rw [hf]
      exact hdone.rediscover hw hl
  -- Every phase of the second run repeats that of the first.
  have hprepare := (Echo.start s s').prepare reply answer (.detect c present)
  rw [hp] at hprepare
  obtain ⟨s₁', hp', he₁⟩ := hprepare.eq
  have hinstall := he₁.install reply answer (.detect c present)
  rw [hi] at hinstall
  obtain ⟨s₂', hi', he₂⟩ := hinstall.eq
  have hfiles₂' : s₂'.files = s'.files := files_ready hh hp' hi'
  obtain ⟨s₃', hc', he₃, hkept⟩ := compileAll_again reply answer (.detect c present) c.params he₂
    (fun template ht => (named_of_mem hnamed ht).imp fun n hn => hn.2)
    (outputs_distinct hnamed (hns.imp And.right)) (hfiles₂ ▸ hl) hc
    (hfiles₂'.trans hfiles₃)
  have hpublish := he₃.publishPhase reply answer c o.compiled
  rw [hpub] at hpublish
  obtain ⟨s₄', hpub', he₄⟩ := hpublish.eq
  have hsecond : second = (.ok _, s₄') := runAll_eq_ok_iff.mpr ⟨templates, hfound',
    runWith_eq_ok_iff.mpr ⟨s₁', s₂', s₃', o, publish, hp', hi', hc', hpub', rfl⟩⟩
  rw [hsecond]
  refine ⟨rfl, ?_, he₄.calls, he₄.requests⟩
  have hlast := files_publishPhase (h := .steady reply answer) c o.compiled s₃'
  rw [hpub'] at hlast
  exact hlast.trans (hkept.trans hfiles₂')

/-- The documents are written among the templates, and one template fails both times. -/
theorem rerun_inside :
    let c : Config :=
      { root := ⟨[47]⟩, templatesDir := ⟨[47, 100]⟩, outputDir := ⟨[47, 100]⟩,
        server := ⟨"http", "", "", "localhost", none, "/", none, none⟩, token := some "t",
        params := {}, image := "jsonnet", runtime := "docker", commandSeconds := 1,
        httpSeconds := 1, stopOnFirstFailure := true }
    let reply : Command → Except Failure Output := fun k =>
      if k.args.getLast? = some "b.jsonnet" then .error (.timeout k.program 1)
      else .ok ⟨some 0, "[1]", ""⟩
    let answer : Request → Except Failure Reply := fun _ => .ok ⟨200, ""⟩
    let s : Session Unit := { files := twoTemplates, state := (), process := 1 }
    let first := runAll (.steady reply answer) c (fun _ => true) s
    let second := runAll (.steady reply answer) c (fun _ => true)
      { files := first.2.files, state := (), process := 2 }
    s.files.WellFormed ∧ s.files.LinkFree ∧ ∃ report, first.1 = .ok report ∧
      second.1 = .ok report ∧ second.2.files = first.2.files := by
  intro c reply answer s first second
  obtain ⟨report, hr⟩ : ∃ report, first.1 = .ok report := by
    let h := Host.steady reply answer
    let t := Toolchain.detect c (fun _ => true)
    let installed := s.call h t ((t.tool installer).arg "install")
    have hi : t.install h s = (.ok (), installed.2) := rfl
    have hd : installed.2.files.makeDirs c.outputDir = (.ok (), twoTemplates) := by
      show twoTemplates.makeDirs ⟨[47, 100]⟩ = _
      cbv
    exact ⟨_, congrArg Prod.fst (runAll_eq_ok_iff.mpr ⟨_, discover_twoTemplates,
      runWith_eq_ok_iff.mpr ⟨s, installed.2, _, _, _, rfl, hi,
        compileAll_eq_ok_iff.mpr ⟨_, hd, rfl⟩, rfl, rfl⟩⟩)⟩
  obtain ⟨hreport, hfiles, _⟩ := rerun reply answer c (fun _ => true) s
    { files := first.2.files, state := (), process := 2 } report wellFormed_twoTemplates
    linkFree_twoTemplates hr rfl
  exact ⟨wellFormed_twoTemplates, linkFree_twoTemplates, report, hr, hreport, hfiles⟩

end Dashboards
