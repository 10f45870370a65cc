import Dashboards.Proofs.Compile

/-!
# What stands in a compiled file

The output of the compiler is trimmed of the blanks of Unicode before it is checked, and written as
it is. JSON has only four blanks, so the file may hold others around the document.

* `Starts.not_blank_text`   a value starts with no blank of Unicode;
* `isText_around`           blanks around a value leave a JSON text just when JSON has them;
* `written_text`            what a file holds, and when that is a JSON text;
* `written_text_fails`      a file that is none.
-/

namespace Dashboards
namespace Json

/-! ### blanks of Unicode around values -/

theorem IsDigit.not_blank_text {c : Char} (h : IsDigit c) : Text.isBlank c = false := by
  obtain ⟨h0, h9⟩ := h
  simp only [Text.isBlank, Bool.or_eq_false_iff, Bool.and_eq_false_iff, decide_eq_false_iff_not]
  omega

theorem Starts.not_blank_text {c : Char} (h : Starts c) : Text.isBlank c = false := by
  cases h with
  | scalar h =>
    cases h with
    | letter h =>
      simp only [List.mem_cons, List.not_mem_nil, or_false] at h
      rcases h with rfl | rfl | rfl <;> rfl
    | minus => rfl
    | digit h => exact h.not_blank_text
    | quote => rfl
  | opening b => cases b <;> rfl

/-- No value goes on with a blank of Unicode. -/
theorem ends_of_blanks {w : List Char} (hw : ∀ c ∈ w, Text.isBlank c = true) : Ends w := by
  intro c cs e
  have hc : Text.isBlank c = true := hw c (e ▸ List.mem_cons_self)
  refine ⟨fun hd => ?_, ?_, ?_, ?_⟩
  · rw [hd.not_blank_text] at hc
    exact Bool.noConfusion hc
  all_goals
    rintro rfl
    exact absurd hc (by decide)

theorem IsBlanks.text {w : List Char} (hw : IsBlanks w) : ∀ c ∈ w, Text.isBlank c = true :=
  fun c hc => isBlank_subset c (hw.all c hc)

/-- What stands in front of a value is all that is blank there. -/
theorem IsValue.takeWhile_append {w v : List Char} (hv : IsValue v)
    (hw : ∀ c ∈ w, Text.isBlank c = true) (r : List Char) :
    (w ++ (v ++ r)).takeWhile Text.isBlank = w := by
  obtain ⟨c, cs, rfl, hc⟩ := hv.head
  have hn : ¬ Text.isBlank c = true := by
    rw [hc.not_blank_text]
    exact Bool.false_ne_true
  rw [List.takeWhile_append_of_pos hw, List.cons_append, List.takeWhile_cons_of_neg hn,
    List.append_nil]

theorem isText_around {front v back : List Char} (hv : IsValue v)
    (hf : ∀ c ∈ front, Text.isBlank c = true) (hb : ∀ c ∈ back, Text.isBlank c = true) :
    IsText (front ++ (v ++ back)) ↔ IsBlanks (front ++ back) := by
  constructor
  · intro h
    generalize e : front ++ (v ++ back) = cs at h
    cases h with
    | @blanks w u w' hw hu hw' =>
      have hfront : front = w := by
        rw [← hv.takeWhile_append hf back, e, hu.takeWhile_append hw.text w']
      subst hfront
      have hcut := hv.cut hu (ends_of_blanks hb) (ends_of_blanks hw'.text)
        (List.append_cancel_left e)
      rw [hcut.2]
      exact hw.append hw'
  · intro h
    exact .blanks (fun c hc => h c (List.mem_append_left back hc)) hv
      (fun c hc => h c (List.mem_append_right front hc))

end Json

open Json (IsText IsBlanks)

section
variable {σ : Type}

/-- A compiled file holds what the compiler has printed: a JSON text with blanks of Unicode around
it. All of it is a JSON text just when these are the four blanks that JSON has. -/
theorem written_text (h : Host σ) (t : Toolchain) (params : Params) (outputDir : Path)
    (template : Template) (s s' : Session σ) (c : Compiled)
    (hc : compile h t params outputDir template s = (.ok c, s')) :
    ∃ o front back, (compilerReply h t params template s).1 = .ok o ∧
      s'.files.read (outputPath outputDir template) = .ok (Text.utf8 o.stdout) ∧
      o.stdout.toList = front ++ (c.document.text.toList ++ back) ∧
      IsText c.document.text.toList ∧ (∀ x ∈ front ++ back, Text.isBlank x = true) ∧
      (IsText o.stdout.toList ↔ IsBlanks (front ++ back)) := by
  obtain ⟨o, files, hr, hw, rfl, rfl⟩ := compile_eq_ok_iff.mp hc
  obtain ⟨front, back, e, hf, hb⟩ := Text.trimChars_around o.stdout.toList
  have hd : (Text.trim o.stdout).toList = Text.trimChars o.stdout.toList := String.toList_ofList
  rw [← hd] at e
  refine ⟨o.toOutput, front, back, hr, Files.read_write hw, e, o.prints.text, ?_, ?_⟩
  · intro x hx
    exact (List.mem_append.mp hx).elim (hf x) (hb x)
  · rw [e]
    exact Json.isText_around o.document.isValue hf hb

/-- The compiler has printed a document behind a no-break space. -/
def spaced : Session Script :=
  { files := .ofEntries [] [], state := { outputs := [.ok ⟨some 0, "\u00A0[]", ""⟩] }
    process := 1 }

def emptyList : Json.Document := ⟨"[]", .empty .list .nil⟩

theorem compile_spaced : ∃ s',
    compile Script.host ⟨.native, "docker", ⟨[]⟩, ⟨[]⟩⟩ {} ⟨[]⟩ ⟨"a", ⟨[]⟩⟩ spaced =
      (.ok ⟨"a", outputPath ⟨[]⟩ ⟨"a", ⟨[]⟩⟩, emptyList⟩, s') ∧
      s'.files.read (outputPath ⟨[]⟩ ⟨"a", ⟨[]⟩⟩) = .ok (Text.utf8 "\u00A0[]") := by
  have ht : IsText (Text.trim "\u00A0[]").toList :=
    (Json.check_eq_ok_iff (Text.trim "\u00A0[]")).mp (by cbv)
  obtain ⟨files, hw⟩ : ∃ files, spaced.files.write (outputPath ⟨[]⟩ ⟨"a", ⟨[]⟩⟩)
      (Text.utf8 "\u00A0[]") = .ok files := ⟨_, by cbv⟩
  let o : Printed := ⟨⟨some 0, "\u00A0[]", ""⟩, rfl, ht⟩
  have hd : o.document = emptyList :=
    Json.Document.ext (show Text.trim "\u00A0[]" = "[]" by cbv)
  refine ⟨_, compile_eq_ok_iff.mpr ⟨o, files, rfl, hw, ?_, rfl⟩, Files.read_write hw⟩
  rw [compiledOf, hd]

theorem written_text_spaced : ∃ s', ∃ o : Output, ∃ front back,
    s'.files.read (outputPath ⟨[]⟩ ⟨"a", ⟨[]⟩⟩) = .ok (Text.utf8 o.stdout) ∧
      o.stdout.toList = front ++ ("[]".toList ++ back) ∧
      (IsText o.stdout.toList ↔ IsBlanks (front ++ back)) ∧
      compile Script.host ⟨.native, "docker", ⟨[]⟩, ⟨[]⟩⟩ {} ⟨[]⟩ ⟨"a", ⟨[]⟩⟩ spaced =
        (.ok ⟨"a", outputPath ⟨[]⟩ ⟨"a", ⟨[]⟩⟩, emptyList⟩, s') := by
  obtain ⟨s', hc, _⟩ := compile_spaced
  obtain ⟨o, front, back, _, hr, e, _, _, hi⟩ := written_text Script.host
    ⟨.native, "docker", ⟨[]⟩, ⟨[]⟩⟩ {} ⟨[]⟩ ⟨"a", ⟨[]⟩⟩ spaced s' _ hc
  exact ⟨s', o, front, back, hr, e, hi, hc⟩

/-- Output that is no JSON text is written, and the template counts as compiled. -/
theorem written_text_fails : ¬ ∀ (h : Host Script) (t : Toolchain) (params : Params)
    (outputDir : Path) (template : Template) (s s' : Session Script) (c : Compiled)
    (text : String), compile h t params outputDir template s = (.ok c, s') →
      s'.files.read (outputPath outputDir template) = .ok (Text.utf8 text) →
      IsText text.toList := by
  intro hall
  obtain ⟨s', hc, hr⟩ := compile_spaced
  have ht := (Json.check_eq_ok_iff "\u00A0[]").mpr (hall _ _ _ _ _ _ _ _ _ hc hr)
  have hn : Json.check "\u00A0[]" ≠ .ok () := by
    intro e
    have : (Json.check "\u00A0[]").isOk = false := by cbv
    rw [e] at this
    cases this
  exact hn ht

end
end Dashboards
