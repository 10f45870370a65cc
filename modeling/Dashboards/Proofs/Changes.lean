import Dashboards.Proofs.Files.Inside
import Dashboards.Proofs.Success

/-!
# What a run does to the files

The host leaves files alone here, so that all changes are those of the run itself.

* `Host.LeavesFiles`       hosts that change no file;
* `compile_judge`          one template, and `compileEach_compiles`, a pass over them: documents are
                           written, whatever becomes of the rest;
* `Completed`              what a run with a report has done: the directory, then the documents;
* `runAll_changes`         a run without one has made directories at most;
* `Compiles.get?`          documents are put under their own names;
* `Compiles.linkFree`, `Compiles.single`   no document makes a link or a second entry, and no
                           directory does (`Builds.linkFree`, `Builds.single`).
-/

namespace Dashboards
open Text (Bytes)

/-- The host answers commands and requests and changes no file. -/
def Host.LeavesFiles {σ : Type} (h : Host σ) : Prop :=
  ∀ c files s, (h.run c files s).2.1 = files

section
variable {σ : Type} {h : Host σ} {t : Toolchain}

/-! ### phases without changes -/

theorem files_run (hh : h.LeavesFiles) (c : Command) (s : Session σ) :
    (s.run h c).2.files = s.files := hh c s.files s.state

theorem files_call (hh : h.LeavesFiles) (c : Command) (s : Session σ) :
    (s.call h t c).2.files = s.files := by
  rw [Session.call, files_run hh, Session.route]
  cases t.mode <;> rfl

theorem files_prepare (hh : h.LeavesFiles) (s : Session σ) :
    (t.prepare h s).2.files = s.files := by
  rw [Toolchain.prepare]
  cases t.mode with
  | native => rfl
  | containerized image =>
    have hinspect := files_run hh (t.inspect image) s
    dsimp only
    generalize s.run h (t.inspect image) = r at hinspect
    obtain ⟨r, s₁⟩ := r
    cases r with
    | error f => exact hinspect
    | ok o =>
      dsimp only
      split
      · exact hinspect
      · have hbuild := (files_run hh (t.build image) s₁).trans hinspect
        generalize s₁.run h (t.build image) = r at hbuild
        obtain ⟨r, s₂⟩ := r
        cases r with
        | error f => exact hbuild
        | ok o =>
          dsimp only
          split
          · exact hbuild
          · exact hbuild

theorem files_install (hh : h.LeavesFiles) (s : Session σ) :
    (t.install h s).2.files = s.files := by
  rw [install_eq]
  exact files_call hh _ s

theorem files_ready (hh : h.LeavesFiles) {s s₁ s₂ : Session σ} {r r' : Except Failure Unit}
    (hp : t.prepare h s = (r, s₁)) (hi : t.install h s₁ = (r', s₂)) : s₂.files = s.files := by
  have hprepare := files_prepare (t := t) hh s
  have hinstall := files_install (t := t) hh s₁
  rw [hp] at hprepare
  rw [hi] at hinstall
  exact hinstall.trans hprepare

/-! ### a pass over the templates -/

/-- Where the host leaves files alone, the reply is judged by the files that there are. -/
theorem compile_judge (hh : h.LeavesFiles) (params : Params) (outputDir : Path)
    (template : Template) (s : Session σ) : compile h t params outputDir template s =
      let r := s.call h t (invocation t template params)
      let j := judge outputDir template r.1 s.files
      (j.1, { r.2 with files := j.2 }) := by
  rw [compile_eq, compilerReply]
  dsimp only
  rw [files_call hh]

/-- The documents of some templates are written, in their order; the others have failed. -/
theorem compileEach_compiles (hh : h.LeavesFiles) (params : Params) (outputDir : Path)
    (templates : List Template) (o : Outcome) (s : Session σ) :
    let r := compileEach h t params outputDir templates o s
    ∃ done outs fails, Compiles outputDir done outs s.files r.2.files ∧
      r.1.compiled = o.compiled ++ List.zipWith (compiledOf outputDir) done outs ∧
      r.1.failures = o.failures ++ fails ∧ done.Sublist templates ∧
      (done.map (·.name) ++ fails.map (·.template)).Perm (templates.map (·.name)) := by
  induction templates generalizing o s with
  | nil =>
    exact ⟨[], [], [], .nil, (List.append_nil _).symm, (List.append_nil _).symm, .slnil, .nil⟩
  | cons template templates ih =>
    dsimp only
    rw [compileEach_cons, compile_judge hh]
    dsimp only
    generalize s.call h t (invocation t template params) = r
    rcases judge_cases outputDir template r.1 s.files with
      ⟨out, t', _, hw, hj⟩ | ⟨_, message, hj⟩
    · rw [hj]
      obtain ⟨done, outs, fails, hcs, hcompiled, hfailures, hsub, hperm⟩ :=
        ih (o.add (.ok (compiledOf outputDir template out))) { r.2 with files := t' }
      refine ⟨template :: done, out :: outs, fails, .cons hw hcs, ?_, hfailures,
        hsub.cons_cons _, hperm.cons _⟩
      rw [hcompiled, Outcome.add, List.append_assoc]
      rfl
    · rw [hj]
      obtain ⟨done, outs, fails, hcs, hcompiled, hfailures, hsub, hperm⟩ :=
        ih (o.add (.error ⟨template.name, message⟩)) { r.2 with files := s.files }
      refine ⟨done, outs, ⟨template.name, message⟩ :: fails, hcs, hcompiled, ?_, hsub.cons _, ?_⟩
      · rw [hfailures, Outcome.add, List.append_assoc]
        rfl
      · rw [List.map_cons, List.map_cons]
        exact List.perm_middle.trans (hperm.cons _)

/-- The directories above the output directory are made, and then documents are written; without a
result it has not come to documents. -/
theorem compileAll_changes (hh : h.LeavesFiles) (params : Params) (outputDir : Path)
    (templates : List Template) (s : Session σ) :
    let r := compileAll h t params outputDir templates s
    ((∃ f, r.1 = .error f) ∧ Files.Builds outputDir s.files r.2.files) ∨
    ∃ o done outs made, r.1 = .ok o ∧ s.files.makeDirs outputDir = (.ok (), made) ∧
      Compiles outputDir done outs made r.2.files ∧ done.Sublist templates ∧
      o.compiled = List.zipWith (compiledOf outputDir) done outs ∧
      (done.map (·.name) ++ o.failures.map (·.template)).Perm (templates.map (·.name)) := by
  have hbuilds := Files.builds_makeDirs outputDir s.files
  dsimp only
  rw [compileAll]
  cases hmade : s.files.makeDirs outputDir with
  | mk r made =>
    rw [hmade] at hbuilds
    cases r with
    | error cause => exact .inl ⟨⟨_, rfl⟩, hbuilds⟩
    | ok u =>
      obtain ⟨done, outs, fails, hcs, hcompiled, hfailures, hsub, hperm⟩ :=
        compileEach_compiles (t := t) hh params outputDir templates {} { s with files := made }
      rw [List.nil_append] at hfailures
      exact .inr ⟨_, done, outs, made, rfl, rfl, hcs, hsub, hcompiled, hfailures ▸ hperm⟩

/-- What a run that returns a report has done to the files: it has made the output directory, and
written the documents of the templates that are compiled. -/
structure Completed (c : Config) (before : Files) (report : Report) (templates done : List Template)
    (outs : List Printed) (made after : Files) : Prop where
  found : discover before c.templatesDir = .ok templates
  directory : before.makeDirs c.outputDir = (.ok (), made)
  written : Compiles c.outputDir done outs made after
  part : done.Sublist templates
  compiled : report.compiled = List.zipWith (compiledOf c.outputDir) done outs
  all : (done.map (·.name) ++ report.failures.map (·.template)).Perm (templates.map (·.name))

/-- Without a report there are at most directories above the output directory. -/
theorem runAll_changes (hh : h.LeavesFiles) (c : Config) (present : String → Bool)
    (s : Session σ) :
    let r := runAll h c present s
    ((∃ f, r.1 = .error f) ∧ Files.Builds c.outputDir s.files r.2.files) ∨
    ∃ report templates done outs made, r.1 = .ok report ∧
      Completed c s.files report templates done outs made r.2.files := by
  dsimp only
  rw [runAll]
  cases hfound : discover s.files c.templatesDir with
  | error f => exact .inl ⟨⟨f, rfl⟩, .refl _⟩
  | ok templates =>
    dsimp only
    rw [runWith]
    have hprepare := files_prepare (t := .detect c present) hh s
    cases hp : (Toolchain.detect c present).prepare h s with
    | mk r s₁ =>
      rw [hp] at hprepare
      cases r with
      | error f => exact .inl ⟨⟨f, rfl⟩, hprepare ▸ .refl _⟩
      | ok u =>
        dsimp only
        cases hi : (Toolchain.detect c present).install h s₁ with
        | mk r s₂ =>
          have hready := files_ready hh hp hi
          cases r with
          | error f => exact .inl ⟨⟨f, rfl⟩, hready ▸ .refl _⟩
          | ok u =>
            have hchanges := compileAll_changes (t := .detect c present) hh c.params c.outputDir
              templates s₂
            rw [hready] at hchanges
            dsimp only at hchanges ⊢
            generalize compileAll h (.detect c present) c.params c.outputDir templates s₂ = r
              at hchanges
            obtain ⟨r, s₃⟩ := r
            rcases hchanges with
              ⟨⟨f, rfl⟩, hb⟩ | ⟨o, done, outs, made, rfl, hmade, hcs, hsub, hc, ha⟩
            · exact .inl ⟨⟨f, rfl⟩, hb⟩
            · refine .inr ⟨_, templates, done, outs, made, rfl, hfound, hmade, ?_, hsub, hc, ha⟩
              dsimp only
              rw [files_publishPhase]
              exact hcs

end

/-! ### what changes leave -/

namespace Files

section
variable {t t' : Files} {p : Path}

theorem Builds.linkFree (h : Builds p t t') (ht : t.LinkFree) : t'.LinkFree := by
  induction h with
  | refl t => exact ht
  | made _ _ _ ih => exact ih (ht.put fun _ => Entry.noConfusion)

theorem linkFree_write {c : Bytes} (h : t.write p c = .ok t') (ht : t.LinkFree) :
    t'.LinkFree := by
  obtain ⟨l, x, _, rfl⟩ := write_eq_ok_iff.mp h
  exact ht.put fun _ => Entry.noConfusion

end
end Files

section
variable {outputDir : Path} {templates : List Template} {outs : List Printed} {t t' : Files}
  {dir : Location}

theorem Compiles.linkFree (h : Compiles outputDir templates outs t t') (ht : t.LinkFree) :
    t'.LinkFree := by
  induction h with
  | nil => exact ht
  | cons hw _ ih => exact ih (Files.linkFree_write hw ht)

/-- The location of the document of a template. -/
def documentAt (dir : Location) (name : String) : Location := dir ++ [Text.utf8 (name ++ ".json")]

/-- A document is put directly inside the output directory, over a file or where nothing was; all
else stays. -/
theorem Compiles.get? (h : Compiles outputDir templates outs t t') (ht : t.LinkFree)
    (hd : t.directoryOf? outputDir = some dir) (hn : ∀ template ∈ templates, ∃ n, template.Named n)
    (l : Location) : t'.get? l = t.get? l ∨
      (t.get? l = none ∨ ∃ contents x, t.get? l = some (.file contents x)) ∧
      (∃ template ∈ templates, l = documentAt dir template.name) ∧
      ∃ contents x, t'.get? l = some (.file contents x) := by
  induction h with
  | nil => exact .inl rfl
  | @cons template o templates outs t t₁ t'' hw _ ih =>
    obtain ⟨⟨n, hn₁⟩, hn⟩ := List.forall_mem_cons.mp hn
    have hd₁ := (Files.grown_write hw).keeps.directoryOf hd
    obtain ⟨x, ho, ht₁⟩ := Files.write_place hd hn₁.output (fun target => ht.get? _ target) hw
    have hrest := ih (Files.linkFree_write hw ht) hd₁ hn
    have hat : t₁.get? l = if l = documentAt dir template.name
        then some (.file (Text.utf8 o.stdout) x) else t.get? l := by
      rw [ht₁]
      exact Files.get?_put ho.ne_root
    by_cases hl : l = documentAt dir template.name
    · rw [if_pos hl] at hat
      have hbefore : t.get? l = none ∨ ∃ contents x, t.get? l = some (.file contents x) := by
        rw [hl]
        exact ho.get?.imp_right fun ⟨c, hc⟩ => ⟨c, x, hc⟩
      refine .inr ⟨hbefore, ⟨template, List.mem_cons_self, hl⟩, ?_⟩
      rcases hrest with e | ⟨_, _, hafter⟩
      · exact ⟨_, x, e.trans hat⟩
      · exact hafter
    · rw [if_neg hl] at hat
      rw [hat] at hrest
      refine hrest.imp_right (And.imp_right (And.imp_left ?_))
      rintro ⟨other, ho, e⟩
      exact ⟨other, List.mem_cons_of_mem _ ho, e⟩

end
end Dashboards
