import Dashboards.Proofs.Compile
import Dashboards.Proofs.Templates

/-!
# Compiling all templates

* `Compiles`             templates whose documents are written one after the other;
* `compileEach_cons`     a pass is one template after the other;
* `compileEach_of_compiles`, `compiles_of_compileEach`   a pass without failures is just that;
* `compiles_iff`         what can be written does not depend on what has been written before;
* `Compiles.read`        and in the end every output holds its own document.
-/

namespace Dashboards
open Json (IsText)
open Text (Bytes)

/-- The files after the documents of the templates have been written. -/
inductive Compiles (outputDir : Path) : List Template → List Printed → Files → Files → Prop
  | nil {t : Files} : Compiles outputDir [] [] t t
  | cons {template : Template} {o : Printed} {templates : List Template} {outs : List Printed}
      {t t' t'' : Files}
      (hw : t.write (outputPath outputDir template) (Text.utf8 o.stdout) = .ok t')
      (h : Compiles outputDir templates outs t' t'') :
      Compiles outputDir (template :: templates) (o :: outs) t t''

section
variable {outputDir : Path} {templates : List Template} {outs : List Printed} {t t' : Files}

/-! ### what is written -/

theorem Compiles.grown (h : Compiles outputDir templates outs t t') : Files.Grown t t' := by
  induction h with
  | nil => exact .refl _
  | cons hw _ ih => exact (Files.grown_write hw).trans ih

theorem compiles_iff : (∃ t', Compiles outputDir templates outs t t') ↔
    List.Forall₂ (fun template _ => t.Writable (outputPath outputDir template))
      templates outs := by
  constructor
  · rintro ⟨t', h⟩
    induction h with
    | nil => exact .nil
    | cons hw _ ih =>
      refine .cons (Files.writable_of_write hw) (ih.imp ?_)
      exact fun _ _ hw' => (Files.grown_write hw).writable_iff.mp hw'
  · intro h
    induction templates generalizing outs t with
    | nil =>
      cases h
      exact ⟨t, .nil⟩
    | cons template templates ih =>
      cases h with
      | @cons _ o _ outs ho h =>
        obtain ⟨t₁, hw⟩ := ho (Text.utf8 o.stdout)
        obtain ⟨t', h'⟩ := ih (t := t₁) (h.imp fun _ _ hw' =>
          (Files.grown_write hw).writable_iff.mpr hw')
        exact ⟨t', .cons hw h'⟩

/-- The documents of other templates leave alone what a path reads. -/
theorem Compiles.read_other (h : Compiles outputDir templates outs t t') {p : Path} {m c : Bytes}
    (hn : ∀ template ∈ templates, ∃ n, template.Named n)
    (hl : ∀ template ∈ templates, t.NoLink (outputPath outputDir template)) (hp : t.NoLink p)
    (hm : Files.Names p m) (hne : ∀ template ∈ templates, m ≠ Text.utf8 template.outputName)
    (hr : t.read p = .ok c) : t'.read p = .ok c := by
  induction h with
  | nil => exact hr
  | cons hw _ ih =>
    rw [List.forall_mem_cons] at hn hl hne
    obtain ⟨n, hn₁⟩ := hn.1
    have hg := Files.grown_write hw
    refine ih hn.2 (fun template ht => hg.noLink (hl.2 template ht)) (hg.noLink hp) hne.2 ?_
    exact Files.read_write_other hp hl.1 hm (names_output hn₁ outputDir) hne.1 hr hw

theorem Compiles.read (h : Compiles outputDir templates outs t t')
    (hn : ∀ template ∈ templates, ∃ n, template.Named n)
    (hd : templates.Pairwise fun a b => Text.utf8 a.outputName ≠ Text.utf8 b.outputName)
    (hl : ∀ template ∈ templates, t.NoLink (outputPath outputDir template)) :
    List.Forall₂ (fun template o => t'.read (outputPath outputDir template) =
      .ok (Text.utf8 o.stdout)) templates outs := by
  induction h with
  | nil => exact .nil
  | cons hw h ih =>
    rw [List.forall_mem_cons] at hn hl
    rw [List.pairwise_cons] at hd
    obtain ⟨n, hn₁⟩ := hn.1
    have hg := Files.grown_write hw
    have hl' := fun template ht => hg.noLink (hl.2 template ht)
    refine .cons ?_ (ih hn.2 hd.2 hl')
    exact h.read_other hn.2 hl' (hg.noLink hl.1) (names_output hn₁ outputDir) hd.1
      (Files.read_write hw)

end

/-! ### a pass over the templates -/

/-- What has become of one more template. -/
def Outcome.add (o : Outcome) : Except CompileFailure Compiled → Outcome
  | .ok c => { o with compiled := o.compiled ++ [c] }
  | .error f => { o with failures := o.failures ++ [f] }

theorem compileEach_cons {σ : Type} {h : Host σ} (t : Toolchain) (params : Params)
    {outputDir : Path} (template : Template) (rest : List Template) (o : Outcome)
    (s : Session σ) : compileEach h t params outputDir (template :: rest) o s =
      let r := compile h t params outputDir template s
      compileEach h t params outputDir rest (o.add r.1) r.2 := by
  rw [compileEach]
  dsimp only
  cases compile h t params outputDir template s with
  | mk r s => cases r <;> rfl

section
variable (t : Toolchain) (params : Params) {outputDir : Path} {s : Session Script}

theorem compile_of_prints {template : Template} {o : Printed} {files : Files}
    (hr : s.state.nextOutput.1 = .ok o.toOutput)
    (hw : s.files.write (outputPath outputDir template) (Text.utf8 o.stdout) = .ok files) :
    ∃ s', compile Script.host t params outputDir template s
      = (.ok (compiledOf outputDir template o), s') ∧ Advanced 1 files s s' := by
  refine ⟨_, compile_eq_ok_iff.mpr ⟨o, files, ?_, ?_, rfl, rfl⟩, rfl, advanced_call.state,
    advanced_call.requests⟩
  · rw [compilerReply, reply_call, hr]
  · rw [compilerReply, advanced_call.files, hw]

theorem prints_of_compile {t : Toolchain} {params : Params} {template : Template} {c : Compiled}
    {s' : Session Script}
    (h : compile Script.host t params outputDir template s = (.ok c, s')) :
    ∃ o : Printed, s.state.nextOutput.1 = .ok o.toOutput ∧
      s.files.write (outputPath outputDir template) (Text.utf8 o.stdout) = .ok s'.files ∧
      s'.state = s.state.dropOutputs 1 := by
  obtain ⟨o, files, hr, hw, _, rfl⟩ := compile_eq_ok_iff.mp h
  rw [compilerReply, reply_call] at hr
  rw [compilerReply, advanced_call.files] at hw
  exact ⟨o, hr, hw, advanced_call.state⟩

theorem compileEach_of_compiles {templates : List Template} {outs : List Printed} {files : Files}
    (h : Compiles outputDir templates outs s.files files) (o : Outcome)
    (hn : s.state.nextOutputs templates.length = outs.map (.ok ·.toOutput)) :
    ∃ s', compileEach Script.host t params outputDir templates o s = ({ o with
      compiled := o.compiled ++ List.zipWith (compiledOf outputDir) templates outs }, s') ∧
      Advanced templates.length files s s' := by
  induction templates generalizing outs s o with
  | nil =>
    cases h
    exact ⟨s, by rw [compileEach, List.zipWith_nil_left, List.append_nil], rfl, rfl, rfl⟩
  | cons template templates ih =>
    cases h with
    | @cons _ out _ outs _ t₁ _ hw h =>
      obtain ⟨hr, hn⟩ := List.cons.inj hn
      obtain ⟨s₁, hc, ha⟩ := compile_of_prints t params hr hw
      rw [Script.nextOutput_snd, ← ha.state] at hn
      rw [← ha.files] at h
      obtain ⟨s', he, ha'⟩ := ih h { o with
        compiled := o.compiled ++ [compiledOf outputDir template out] } hn
      have hall := ha.trans ha'
      rw [Nat.add_comm] at hall
      refine ⟨s', ?_, hall⟩
      rw [compileEach, hc]
      dsimp only
      rw [he, List.zipWith_cons_cons, List.append_assoc]
      rfl

theorem compiles_of_compileEach {t : Toolchain} {params : Params} {templates : List Template}
    {o : Outcome}
    (h : (compileEach Script.host t params outputDir templates o s).1.failures = []) :
    o.failures = [] ∧ ∃ (outs : List Printed) (files : Files),
      s.state.nextOutputs templates.length = outs.map (.ok ·.toOutput) ∧
      Compiles outputDir templates outs s.files files := by
  induction templates generalizing o s with
  | nil => exact ⟨h, [], s.files, rfl, .nil⟩
  | cons template templates ih =>
    rw [compileEach] at h
    cases hc : compile Script.host t params outputDir template s with
    | mk r s₁ =>
      rw [hc] at h
      cases r with
      | error f =>
        obtain ⟨hf, _⟩ := ih h
        exact absurd hf (by simp)
      | ok c =>
        obtain ⟨hf, outs, files, hn, hcs⟩ := ih h
        obtain ⟨out, hr, hw, hs⟩ := prints_of_compile hc
        refine ⟨hf, out :: outs, files, ?_, .cons hw hcs⟩
        rw [List.length_cons, Script.nextOutputs, hr, Script.nextOutput_snd, ← hs, hn]
        rfl

end
end Dashboards
