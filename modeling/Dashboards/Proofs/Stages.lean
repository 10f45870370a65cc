import Dashboards.Run
import Dashboards.Proofs.CompileAll

/-!
# The stages of a run

A run makes one stage after the other, up to the first that fails for good, and sends its requests
when all of them are made.

* `Stage`               a call of the run, or the making of the output directory;
* `Stage.plan`          the stages in their order;
* `perform`             makes them, as far as it goes;
* `runWith_performed`   a run does that and nothing else, apart from its requests.
-/

namespace Dashboards

inductive Stage where
  | inspect (image : String)
  | build (image : String)
  | install
  | directory
  | compile (template : Template)

/-- There is no output with the status 0. -/
def failed (reply : Except Failure Output) : Bool :=
  match reply with
  | .error _ => true
  | .ok o => !o.success

namespace Stage

/-- The stages before the installation; the reply tells whether the image is there. -/
def preparation (mode : Mode) (reply : Except Failure Output) : List Stage :=
  match mode with
  | .native => []
  | .containerized image => .inspect image :: if failed reply then [.build image] else []

def plan (mode : Mode) (reply : Except Failure Output) (templates : List Template) : List Stage :=
  preparation mode reply ++ .install :: .directory :: templates.map .compile

section
variable {σ : Type} (h : Host σ) (t : Toolchain) (params : Params) (outputDir : Path)

/-- Makes a stage, and tells whether the run goes on. -/
def exec (s : Session σ) : Stage → Bool × Session σ
  | .inspect image => ((s.run h (t.inspect image)).1.isOk, (s.run h (t.inspect image)).2)
  | .build image => (!failed (s.run h (t.build image)).1, (s.run h (t.build image)).2)
  | .install => ((t.install h s).1.isOk, (t.install h s).2)
  | .directory =>
    ((s.files.makeDirs outputDir).1.isOk, { s with files := (s.files.makeDirs outputDir).2 })
  | .compile template => (true, (Dashboards.compile h t params outputDir template s).2)

end
end Stage

section
variable {σ : Type} (h : Host σ) (t : Toolchain) (params : Params) (outputDir : Path)

def perform : List Stage → Session σ → Bool × Session σ
  | [], s => (true, s)
  | stage :: rest, s =>
    let r := stage.exec h t params outputDir s
    if r.1 then perform rest r.2 else r

/-- Whether there is a result, and the session after it. -/
def outcome {α : Type} (r : Except Failure α × Session σ) : Bool × Session σ := (r.1.isOk, r.2)

theorem outcome_ok {α : Type} (a : α) (s : Session σ) : outcome (.ok a, s) = (true, s) := rfl

theorem perform_append (stages rest : List Stage) (s : Session σ) :
    perform h t params outputDir (stages ++ rest) s =
      let r := perform h t params outputDir stages s
      if r.1 then perform h t params outputDir rest r.2 else r := by
  induction stages generalizing s with
  | nil => rfl
  | cons stage stages ih =>
    rw [List.cons_append, perform, perform]
    cases hr : (stage.exec h t params outputDir s).1 with
    | false => simp [hr]
    | true => simp [ih]

theorem perform_singleton (stage : Stage) (s : Session σ) :
    perform h t params outputDir [stage] s = stage.exec h t params outputDir s := by
  rw [perform]
  cases hr : stage.exec h t params outputDir s with
  | mk r s =>
    cases r with
    | false => rfl
    | true => rfl

/-! ### the phases -/

theorem prepare_performed (s : Session σ) {reply : Except Failure Output}
    (hr : ∀ image, t.mode = .containerized image → (s.run h (t.inspect image)).1 = reply) :
    outcome (t.prepare h s) =
      perform h t params outputDir (Stage.preparation t.mode reply) s := by
  unfold Toolchain.prepare Stage.preparation outcome
  cases hm : t.mode with
  | native => rfl
  | containerized image =>
    have hi := hr image hm
    dsimp only
    rw [perform, Stage.exec, ← hi]
    generalize s.run h (t.inspect image) = r
    obtain ⟨r, s⟩ := r
    cases r with
    | error f => rfl
    | ok o =>
      cases ho : o.success with
      | true =>
        simp only [failed, ho, Except.isOk, Except.toBool, ↓reduceIte, Bool.not_true,
          Bool.false_eq_true, perform]
      | false =>
        -- The image has to be built, and this is the last stage.
        simp only [failed, ho, Except.isOk, Except.toBool, ↓reduceIte, Bool.not_false,
          Bool.false_eq_true, perform_singleton, Stage.exec]
        generalize s.run h (t.build image) = r
        obtain ⟨r, s⟩ := r
        cases r with
        | error f => rfl
        | ok o => cases ho : o.success <;> simp [ho]

theorem compileEach_performed (templates : List Template) (o : Outcome) (s : Session σ) :
    (true, (compileEach h t params outputDir templates o s).2) =
      perform h t params outputDir (templates.map .compile) s := by
  induction templates generalizing o s with
  | nil => rfl
  | cons template templates ih =>
    rw [compileEach_cons, List.map_cons, perform, Stage.exec]
    exact ih _ _

theorem compileAll_performed (templates : List Template) (s : Session σ) :
    outcome (compileAll h t params outputDir templates s) =
      perform h t params outputDir (.directory :: templates.map .compile) s := by
  rw [compileAll, outcome, perform, Stage.exec]
  generalize s.files.makeDirs outputDir = r
  obtain ⟨r, files⟩ := r
  cases r with
  | error cause => rfl
  | ok u => exact compileEach_performed h t params outputDir templates {} { s with files }

/-- All stages are made, up to the first that fails for good. The requests follow when there was
none. -/
theorem runWith_performed (c : Config) (templates : List Template) (s : Session σ)
    (reply : Except Failure Output)
    (hr : ∀ image, t.mode = .containerized image → (s.run h (t.inspect image)).1 = reply) :
    let r := perform h t c.params c.outputDir (Stage.plan t.mode reply templates) s
    ∃ compiled, outcome (runWith h c t templates s) =
      if r.1 then (true, (publishPhase h c compiled r.2).2) else r := by
  have hp := prepare_performed h t c.params c.outputDir s hr
  have hi : ∀ s, perform h t c.params c.outputDir [.install] s = outcome (t.install h s) :=
    fun s => perform_singleton h t c.params c.outputDir .install s
  dsimp only
  rw [Stage.plan, ← List.singleton_append, perform_append, ← hp, runWith]
  cases t.prepare h s with
  | mk r s =>
    cases r with
    | error f => exact ⟨[], rfl⟩
    | ok u =>
      rw [outcome_ok, if_pos rfl, perform_append, hi]
      dsimp only
      cases t.install h s with
      | mk r s =>
        cases r with
        | error f => exact ⟨[], rfl⟩
        | ok u =>
          rw [outcome_ok, if_pos rfl, ← compileAll_performed]
          dsimp only
          cases compileAll h t c.params c.outputDir templates s with
          | mk r s =>
            cases r with
            | error f => exact ⟨[], rfl⟩
            | ok o => exact ⟨o.compiled, rfl⟩

end
end Dashboards
