import Mathlib
import Dashboards.Compile
import Dashboards.Proofs.Files.Write
import Dashboards.Proofs.Json.Document
import Dashboards.Proofs.Script

/-!
# What compiling a template comes to

* `Output.Prints`     a finished process from whose output a document is made;
* `Printed`           such a process, with its document;
* `judge`             what a reply comes to, given the files, which are all that it depends on;
* `compilerReply`     the reply to the call for a template, and the session after it;
* `compile_eq`        a template is compiled by judging that reply;
* `compile_eq_ok_iff` when this succeeds, and with what;
* `compile_accepts`   the templates that are compiled, and what is kept of them.
-/

namespace Dashboards
open Json (IsText)

/-- Finished with the status 0, with a JSON text as output, apart from the blanks around it. -/
structure Output.Prints (o : Output) : Prop where
  status : o.status = some 0
  text : IsText (Text.trim o.stdout).toList

/-- What the compiler leaves for a template that is compiled. -/
structure Printed extends Output where
  prints : toOutput.Prints

def Printed.document (o : Printed) : Json.Document where
  text := Text.trim o.stdout
  isValue := (Json.isText_iff_isValue (Json.bare_trim o.stdout)).mp o.prints.text

/-! ### documents -/

/-- Nothing is left of blanks, and nothing is no document. -/
theorem not_isText_of_allBlank {s : String} (h : Text.allBlank s = true) :
    ¬ IsText (Text.trim s).toList := by
  intro ht
  have hs : Text.trimStart s.toList = [] := List.dropWhile_eq_nil_iff.mpr (List.all_eq_true.mp h)
  rw [Text.trim, String.toList_ofList, Text.trimChars, hs] at ht
  obtain ⟨c, hc, _⟩ := ht.not_blank
  cases hc

theorem documentOf_eq_ok_iff (o : Output) (d : Json.Document) :
    documentOf o = .ok d ↔ o.Prints ∧ d.text = Text.trim o.stdout := by
  rw [documentOf]
  by_cases hs : o.success = true
  · rw [hs, Bool.not_true, if_neg Bool.false_ne_true]
    by_cases hb : Text.allBlank o.stdout = true
    · rw [if_pos hb]
      constructor
      · intro h
        cases h
      · rintro ⟨hp, _⟩
        exact absurd hp.text (not_isText_of_allBlank hb)
    · rw [if_neg hb]
      have hd := Json.read_eq_ok_iff (Json.bare_trim o.stdout) d
      have hp : d.text = Text.trim o.stdout → o.Prints := by
        intro e
        refine ⟨(success_iff o).mp hs, ?_⟩
        rw [← e]
        exact d.isValue.isText
      rw [and_iff_right_of_imp hp, ← hd]
      cases Json.Document.read (Text.trim o.stdout) with
      | error f =>
        constructor
        · intro h
          cases h
        · intro h
          cases h
      | ok d' =>
        constructor
        · intro h
          cases h
          rfl
        · intro h
          cases h
          rfl
  · rw [Bool.not_eq_true] at hs
    rw [hs, Bool.not_false, if_pos rfl]
    constructor
    · intro h
      cases h
    · rintro ⟨hp, _⟩
      rw [(success_iff o).mpr hp.status] at hs
      exact Bool.noConfusion hs

theorem documentOf_printed (o : Printed) : documentOf o.toOutput = .ok o.document :=
  (documentOf_eq_ok_iff o.toOutput o.document).mpr ⟨o.prints, rfl⟩

theorem exists_printed {o : Output} {d : Json.Document} (h : documentOf o = .ok d) :
    ∃ p : Printed, p.toOutput = o ∧ p.document = d := by
  obtain ⟨hp, e⟩ := (documentOf_eq_ok_iff o d).mp h
  exact ⟨⟨o, hp⟩, rfl, Json.Document.ext e.symm⟩

/-! ### one template -/

/-- The place of the document of a template. -/
def outputPath (outputDir : Path) (template : Template) : Path :=
  outputDir.join (.ofString template.outputName)

/-- What is kept of a template and the output for it. -/
def compiledOf (outputDir : Path) (template : Template) (o : Printed) : Compiled :=
  ⟨template.name, outputPath outputDir template, o.document⟩

/-- What the reply for a template comes to, and the files after it. -/
def judge (outputDir : Path) (template : Template) (reply : Except Failure Output) (t : Files) :
    Except CompileFailure Compiled × Files :=
  match reply with
  | .error f => (.error ⟨template.name, f.message⟩, t)
  | .ok o =>
    match documentOf o with
    | .error message => (.error ⟨template.name, message⟩, t)
    | .ok document =>
      match t.write (outputPath outputDir template) (Text.utf8 o.stdout) with
      | .error cause =>
        (.error ⟨template.name, (Failure.io (outputPath outputDir template) cause).message⟩, t)
      | .ok files => (.ok ⟨template.name, outputPath outputDir template, document⟩, files)

/-- A document is made and written, or there is a message and the files are as they were. -/
theorem judge_cases (outputDir : Path) (template : Template) (reply : Except Failure Output)
    (t : Files) :
    (∃ o : Printed, ∃ t', reply = .ok o.toOutput ∧
      t.write (outputPath outputDir template) (Text.utf8 o.stdout) = .ok t' ∧
      judge outputDir template reply t = (.ok (compiledOf outputDir template o), t')) ∨
    ((∀ o, reply = .ok o → o.Prints → ¬ t.Writable (outputPath outputDir template)) ∧
      ∃ message, judge outputDir template reply t = (.error ⟨template.name, message⟩, t)) := by
  cases reply with
  | error f =>
    refine .inr ⟨fun o e => ?_, f.message, rfl⟩
    cases e
  | ok o =>
    rw [judge]
    cases hd : documentOf o with
    | error message =>
      refine .inr ⟨fun o' e hp => ?_, message, rfl⟩
      cases e
      rw [documentOf_printed ⟨o, hp⟩] at hd
      cases hd
    | ok d =>
      obtain ⟨o, rfl, rfl⟩ := exists_printed hd
      cases hw : t.write (outputPath outputDir template) (Text.utf8 o.stdout) with
      | error cause =>
        refine .inr ⟨fun o' e hp hall => ?_, _, rfl⟩
        obtain ⟨files, hf⟩ := hall (Text.utf8 o.stdout)
        rw [hw] at hf
        cases hf
      | ok files => exact .inl ⟨o, files, rfl, hw, rfl⟩

theorem judge_of_prints {outputDir : Path} {template : Template} {o : Printed} {t t' : Files}
    (hw : t.write (outputPath outputDir template) (Text.utf8 o.stdout) = .ok t') :
    judge outputDir template (.ok o.toOutput) t =
      (.ok (compiledOf outputDir template o), t') := by
  rw [judge, documentOf_printed, hw]
  rfl

section
variable {σ : Type}

/-- The reply of the compiler to the call for a template. -/
def compilerReply (h : Host σ) (t : Toolchain) (params : Params) (template : Template)
    (s : Session σ) : Except Failure Output × Session σ :=
  s.call h t (invocation t template params)

theorem compile_eq (h : Host σ) (t : Toolchain) (params : Params) (outputDir : Path)
    (template : Template) (s : Session σ) :
    compile h t params outputDir template s =
      let r := compilerReply h t params template s
      let j := judge outputDir template r.1 r.2.files
      (j.1, { r.2 with files := j.2 }) := by
  rw [compile, compilerReply, Session.call]
  dsimp only
  cases (s.route t (invocation t template params)).2.run h
    (s.route t (invocation t template params)).1 with
  | mk reply s =>
    cases reply with
    | error f => rfl
    | ok o =>
      rw [judge]
      dsimp only
      cases documentOf o with
      | error message => rfl
      | ok d =>
        dsimp only [outputPath]
        cases s.files.write (outputDir.join (.ofString template.outputName))
          (Text.utf8 o.stdout) with
        | error cause => rfl
        | ok files => rfl

/-- The templates that are compiled, with all that is changed by it. -/
theorem compile_eq_ok_iff {h : Host σ} {t : Toolchain} {params : Params} {outputDir : Path}
    {template : Template} {s s' : Session σ} {c : Compiled} :
    let r := compilerReply h t params template s
    compile h t params outputDir template s = (.ok c, s') ↔
      ∃ o : Printed, ∃ files, r.1 = .ok o.toOutput ∧
        r.2.files.write (outputPath outputDir template) (Text.utf8 o.stdout) = .ok files ∧
        c = compiledOf outputDir template o ∧ s' = { r.2 with files } := by
  intro r
  rw [compile_eq]
  dsimp only
  constructor
  · intro he
    rcases judge_cases outputDir template r.1 r.2.files with
      ⟨o, files, hr, hw, hj⟩ | ⟨_, message, hj⟩
    · rw [hj] at he
      cases he
      exact ⟨o, files, hr, hw, rfl, rfl⟩
    · rw [hj] at he
      cases he
  · rintro ⟨o, files, hr, hw, rfl, rfl⟩
    rw [hr, judge_of_prints hw]

/-- Where its document can be written, a template is compiled just when the compiler has finished
with the status 0 and has printed a JSON text. The document is that text without the blanks of
Unicode around it, and the file holds all that was printed. Otherwise the failure names the
template. -/
theorem compile_accepts (h : Host σ) (t : Toolchain) (params : Params) (outputDir : Path)
    (template : Template) (s : Session σ)
    (hw : (compilerReply h t params template s).2.files.Writable (outputPath outputDir template)) :
    let reply := (compilerReply h t params template s).1
    let result := compile h t params outputDir template s
    ((∃ c, result.1 = .ok c) ↔
      ∃ o, reply = .ok o ∧ o.status = some 0 ∧ IsText (Text.trim o.stdout).toList) ∧
    (∀ c, result.1 = .ok c → ∃ o, reply = .ok o ∧ c.name = template.name ∧
      c.path = outputPath outputDir template ∧ c.document.text = Text.trim o.stdout ∧
      result.2.files.read (outputPath outputDir template) = .ok (Text.utf8 o.stdout)) ∧
    ((¬ ∃ o, reply = .ok o ∧ o.status = some 0 ∧ IsText (Text.trim o.stdout).toList) →
      ∃ message, result.1 = .error ⟨template.name, message⟩) := by
  intro reply result
  have he : result = _ := compile_eq h t params outputDir template s
  dsimp only at he
  rcases judge_cases outputDir template reply (compilerReply h t params template s).2.files with
    ⟨o, files, hr, hwrite, hj⟩ | ⟨hnone, message, hj⟩
  · rw [show (compilerReply h t params template s).1 = reply from rfl, hj] at he
    have hex : ∃ o, reply = .ok o ∧ o.status = some 0 ∧ IsText (Text.trim o.stdout).toList :=
      ⟨o.toOutput, hr, o.prints.status, o.prints.text⟩
    refine ⟨⟨fun _ => hex, fun _ => ⟨_, by rw [he]⟩⟩, fun c hc => ?_, fun hn => absurd hex hn⟩
    rw [he] at hc ⊢
    cases hc
    exact ⟨o.toOutput, hr, rfl, rfl, rfl, Files.read_write hwrite⟩
  · rw [show (compilerReply h t params template s).1 = reply from rfl, hj] at he
    refine ⟨⟨fun ⟨c, hc⟩ => ?_, ?_⟩, fun c hc => ?_, fun _ => ⟨message, by rw [he]⟩⟩
    · rw [he] at hc
      cases hc
    · rintro ⟨o, hr, hs, ht⟩
      exact absurd hw (hnone o hr ⟨hs, ht⟩)
    · rw [he] at hc
      cases hc

end

theorem compile_accepts_list :
    let t : Toolchain := ⟨.native, "docker", ⟨[]⟩, ⟨[]⟩⟩
    let s : Session Script :=
      { files := {}, state := { outputs := [.ok ⟨some 0, "\u00A0[1, []] \n", ""⟩] }, process := 1 }
    (compilerReply Script.host t {} ⟨"a", ⟨[]⟩⟩ s).2.files.Writable (outputPath ⟨[]⟩ ⟨"a", ⟨[]⟩⟩) ∧
      ∃ c, (compile Script.host t {} ⟨[]⟩ ⟨"a", ⟨[]⟩⟩ s).1 = .ok c := by
  intro t s
  have hw : (compilerReply Script.host t {} ⟨"a", ⟨[]⟩⟩ s).2.files.Writable
      (outputPath ⟨[]⟩ ⟨"a", ⟨[]⟩⟩) :=
    Files.writable_iff_opens.mpr ⟨[Text.utf8 "a.json"], false, .inl ⟨by cbv, rfl⟩⟩
  have ht : IsText (Text.trim "\u00A0[1, []] \n").toList :=
    (Json.check_eq_ok_iff (Text.trim "\u00A0[1, []] \n")).mp (by cbv)
  exact ⟨hw, (compile_accepts Script.host t {} ⟨[]⟩ ⟨"a", ⟨[]⟩⟩ s hw).1.mpr ⟨_, rfl, rfl, ht⟩⟩

end Dashboards
