import Dashboards.Proofs.Stages
import Dashboards.Session.Script

/-!
# The record of a run

A scripted host that keeps a record tells the calls and the requests of a run in their order.

* `Event`, `Host.recorded`   the record of a host;
* `Stage.fatal`              the replies after which a run is over;
* `Stage.made`               the stages up to the first that is fatal;
* `Stage.calls`              their calls, with the names of the containers;
* `perform_traced`           just these stages are made, with just these calls;
* `Stage.pairwise_directory`, `Stage.pairwise_compile`   the shape of a plan;
* `Stage.keeps_made`         files change only behind the stage of the output directory.
-/

namespace Dashboards

inductive Event where
  | call (c : Command)
  | request (r : Request)

/-- A host that answers as `h` does, and keeps a record of what it is asked for. -/
def Host.recorded {σ : Type} (h : Host σ) : Host (σ × List Event) where
  run c files s :=
    let (reply, files, state) := h.run c files s.1
    (reply, files, state, s.2 ++ [.call c])
  post r s :=
    let (reply, state) := h.post r s.1
    (reply, state, s.2 ++ [.request r])

/-- How many containers a call of a tool takes. -/
def Mode.containers : Mode → Nat
  | .native => 0
  | .containerized _ => 1

/-! ### stages and their calls -/

namespace Stage

/-- The run is over with this stage. The reply answers its call; the output directory is made
without one, if it can be made. No template is fatal. -/
def fatal (creatable : Bool) (reply : Except Failure Output) : Stage → Bool
  | .inspect _ => !reply.isOk
  | .build _ => failed reply
  | .install => failed reply
  | .directory => !creatable
  | .compile _ => false

/-- The answers that are left after a stage. -/
def answered (s : Script) : Stage → Script
  | .directory => s
  | _ => s.nextOutput.2

/-- The stages that are made: all up to the first that is fatal. -/
def made (creatable : Bool) : List Stage → Script → List Stage
  | [], _ => []
  | stage :: rest, s =>
    stage :: if stage.fatal creatable s.nextOutput.1 then [] else
      made creatable rest (stage.answered s)

/-- No stage is fatal. -/
def completes (creatable : Bool) : List Stage → Script → Bool
  | [], _ => true
  | stage :: rest, s =>
    !stage.fatal creatable s.nextOutput.1 && completes creatable rest (stage.answered s)

section
variable (t : Toolchain) (params : Params)

/-- The call of a stage; a tool that runs in a container gives it this name. -/
def call? (name : String) : Stage → Option Command
  | .inspect image => some (t.inspect image)
  | .build image => some (t.build image)
  | .install => some (t.route name ((t.tool installer).arg "install"))
  | .directory => none
  | .compile template => some (t.route name (invocation t template params))

def containers : Stage → Nat
  | .install => t.mode.containers
  | .compile _ => t.mode.containers
  | _ => 0

/-- The calls of stages, made by a process that has started `n` containers. -/
def calls (process : Nat) : Nat → List Stage → List Command
  | _, [] => []
  | n, stage :: rest =>
    (stage.call? t params ("dashbuild-" ++ toString process ++ "-" ++ toString n)).toList ++
      calls process (n + stage.containers t) rest

end

/-- The stage is over without a change of files. -/
def KeepsFiles : Stage → Prop
  | .directory => False
  | .compile _ => False
  | _ => True

end Stage

/-! ### one stage -/

/-- The session after some calls, which are all that is recorded. -/
structure Recorded (calls : List Command) (s s' : Session (Script × List Event)) : Prop where
  events : s'.state.2 = s.state.2 ++ calls.map .call
  commands : s'.commands = s.commands ++ calls
  requests : s'.requests = s.requests
  process : s'.process = s.process

theorem Recorded.nil (s : Session (Script × List Event)) : Recorded [] s s :=
  ⟨(List.append_nil _).symm, (List.append_nil _).symm, rfl, rfl⟩

theorem Recorded.trans {calls calls' : List Command} {s s' s'' : Session (Script × List Event)}
    (h : Recorded calls s s') (h' : Recorded calls' s' s'') : Recorded (calls ++ calls') s s'' := by
  refine ⟨?_, ?_, h'.requests.trans h.requests, h'.process.trans h.process⟩
  · rw [h'.events, h.events, List.map_append, List.append_assoc]
  · rw [h'.commands, h.commands, List.append_assoc]

section
variable (t : Toolchain) (params : Params) (outputDir : Path)

/-- The session after a call of a tool. -/
theorem call_recorded (c : Command) (s : Session (Script × List Event)) :
    s.call Script.host.recorded t c =
      (s.state.1.nextOutput.1, { s with
        state := (s.state.1.nextOutput.2, s.state.2 ++ [.call (t.route s.containerName c)])
        containers := s.containers + t.mode.containers
        commands := s.commands ++ [t.route s.containerName c] }) := by
  rw [Session.call, Session.route, Toolchain.route]
  cases t.mode with
  | native => rfl
  | containerized image => rfl

/-- What a stage leaves: its call, and the answers behind its own. -/
structure Stage.Traced (creatable : Bool) (stage : Stage) (s : Session (Script × List Event))
    (r : Bool × Session (Script × List Event)) : Prop where
  goes : r.1 = !stage.fatal creatable s.state.1.nextOutput.1
  script : r.2.state.1 = stage.answered s.state.1
  containers : r.2.containers = s.containers + stage.containers t
  recorded : Recorded (stage.call? t params s.containerName).toList s r.2
  files : stage.KeepsFiles → r.2.files = s.files

theorem exec_traced {creatable : Bool} (stage : Stage) (s : Session (Script × List Event))
    (hd : stage = .directory → creatable = (s.files.makeDirs outputDir).1.isOk) :
    stage.Traced t params creatable s
      (stage.exec Script.host.recorded t params outputDir s) := by
  cases stage with
  | inspect image => exact ⟨(Bool.not_not _).symm, rfl, rfl, ⟨rfl, rfl, rfl, rfl⟩, fun _ => rfl⟩
  | build image => exact ⟨rfl, rfl, rfl, ⟨rfl, rfl, rfl, rfl⟩, fun _ => rfl⟩
  | install =>
    rw [Stage.exec, install_eq, call_recorded]
    refine ⟨?_, rfl, rfl, ⟨rfl, rfl, rfl, rfl⟩, fun _ => rfl⟩
    show (installation s.state.1.nextOutput.1).isOk = !failed s.state.1.nextOutput.1
    cases s.state.1.nextOutput.1 with
    | error f => rfl
    | ok o =>
      rw [installation, failed, Bool.not_not]
      cases o.success <;> rfl
  | directory =>
    refine ⟨?_, rfl, rfl, ⟨?_, ?_, rfl, rfl⟩, fun h => h.elim⟩
    · rw [Stage.fatal, Bool.not_not, hd rfl]
      rfl
    · exact (List.append_nil _).symm
    · exact (List.append_nil _).symm
  | compile template =>
    rw [Stage.exec, compile_eq, compilerReply, call_recorded]
    exact ⟨rfl, rfl, rfl, ⟨rfl, rfl, rfl, rfl⟩, fun h => h.elim⟩

/-! ### all stages -/

/-- Just the stages up to the first that is fatal are made. The output directory is made once, in
front of the templates. -/
theorem perform_traced {creatable : Bool} (stages : List Stage)
    (s : Session (Script × List Event))
    (hs : stages.Pairwise fun a b => b = .directory → a.KeepsFiles)
    (hd : .directory ∈ stages → creatable = (s.files.makeDirs outputDir).1.isOk) :
    let r := perform Script.host.recorded t params outputDir stages s
    let made := Stage.made creatable stages s.state.1
    r.1 = Stage.completes creatable stages s.state.1 ∧
      Recorded (Stage.calls t params s.process s.containers made) s r.2 ∧
      ((∀ stage ∈ made, stage.KeepsFiles) → r.2.files = s.files) := by
  induction stages generalizing s with
  | nil => exact ⟨rfl, .nil s, fun _ => rfl⟩
  | cons stage rest ih =>
    obtain ⟨hfirst, hs⟩ := List.pairwise_cons.mp hs
    have h := exec_traced t params outputDir stage s
      (fun e => hd (e ▸ List.mem_cons_self))
    dsimp only
    rw [perform, Stage.made, Stage.completes]
    generalize stage.exec Script.host.recorded t params outputDir s = r at h
    obtain ⟨goes, s'⟩ := r
    obtain ⟨rfl, hscript, hcontainers, hrecorded, hfiles⟩ := h
    dsimp only at hscript hcontainers hrecorded hfiles ⊢
    cases hf : stage.fatal creatable s.state.1.nextOutput.1 with
    | true =>
      refine ⟨rfl, ?_, fun hk => hfiles (hk stage List.mem_cons_self)⟩
      rw [if_pos rfl, Stage.calls, Stage.calls, List.append_nil]
      exact hrecorded
    | false =>
      have hdir : .directory ∈ rest →
          creatable = (s'.files.makeDirs outputDir).1.isOk := by
        intro hm
        rw [hfiles (hfirst _ hm rfl)]
        exact hd (List.mem_cons_of_mem _ hm)
      obtain ⟨hgoes, hcalls, hkept⟩ := ih s' hs hdir
      rw [hscript] at hgoes hcalls hkept
      rw [hcontainers, hrecorded.process] at hcalls
      refine ⟨hgoes, hrecorded.trans hcalls, fun hk => ?_⟩
      obtain ⟨hk₁, hk⟩ := List.forall_mem_cons.mp hk
      exact (hkept hk).trans (hfiles hk₁)

end

/-! ### the plan of a run -/

namespace Stage

theorem keeps_preparation {mode : Mode} {reply : Except Failure Output} {stage : Stage}
    (h : stage ∈ preparation mode reply) : stage.KeepsFiles := by
  cases mode with
  | native => cases h
  | containerized image =>
    rcases List.mem_cons.mp h with rfl | h
    · trivial
    · split at h
      · obtain rfl := List.mem_singleton.mp h
        trivial
      · cases h

section
variable (mode : Mode) (reply : Except Failure Output) (templates : List Template)

/-- In front of the output directory nothing changes files. -/
theorem pairwise_directory :
    (plan mode reply templates).Pairwise fun a b => b = .directory → a.KeepsFiles := by
  refine List.pairwise_append.mpr ⟨?_, ?_, fun a ha _ _ _ => keeps_preparation ha⟩
  · exact List.pairwise_of_forall_mem_list fun a ha _ _ _ => keeps_preparation ha
  · refine .cons (fun _ _ _ => trivial) (.cons ?_ ?_)
    · intro b hb e
      obtain ⟨template, _, rfl⟩ := List.mem_map.mp hb
      cases e
    · refine List.pairwise_map.mpr (List.pairwise_of_forall fun a b e => ?_)
      cases e

/-- Behind a template there are only templates. -/
theorem pairwise_compile : (plan mode reply templates).Pairwise fun a b =>
    (∃ template, a = .compile template) → ∃ template, b = .compile template := by
  have hkeeps : ∀ a : Stage, a.KeepsFiles → ¬ ∃ template, a = .compile template := by
    rintro a ha ⟨template, rfl⟩
    exact ha
  refine List.pairwise_append.mpr ⟨?_, ?_, fun a ha _ _ e => ?_⟩
  · exact List.pairwise_of_forall_mem_list fun a ha _ _ e =>
      absurd e (hkeeps a (keeps_preparation ha))
  · refine .cons (fun _ _ e => absurd e (hkeeps _ trivial)) (.cons ?_ ?_)
    · rintro b hb ⟨template, e⟩
      cases e
    · exact List.pairwise_map.mpr (List.pairwise_of_forall fun a b _ => ⟨b, rfl⟩)
  · exact absurd e (hkeeps a (keeps_preparation ha))

end

section
variable {creatable : Bool} {stages : List Stage} {s : Script}

theorem made_of_completes (h : completes creatable stages s = true) :
    made creatable stages s = stages := by
  induction stages generalizing s with
  | nil => rfl
  | cons stage rest ih =>
    rw [completes, Bool.and_eq_true, Bool.not_eq_true'] at h
    rw [made, h.1, if_neg Bool.false_ne_true, ih h.2]

theorem completes_of_compiles (h : ∀ stage ∈ stages, ∃ template, stage = .compile template) :
    completes creatable stages s = true := by
  induction stages generalizing s with
  | nil => rfl
  | cons stage rest ih =>
    obtain ⟨⟨template, rfl⟩, hrest⟩ := List.forall_mem_cons.mp h
    rw [completes, ih hrest]
    rfl

/-- Once a template is compiled, nothing is fatal any more. -/
theorem completes_of_mem {template : Template}
    (hs : stages.Pairwise fun a b =>
      (∃ template, a = .compile template) → ∃ template, b = .compile template)
    (h : .compile template ∈ made creatable stages s) :
    completes creatable stages s = true := by
  induction stages generalizing s with
  | nil => cases h
  | cons stage rest ih =>
    obtain ⟨hfirst, hs⟩ := List.pairwise_cons.mp hs
    rw [made] at h
    rw [completes]
    rcases List.mem_cons.mp h with rfl | h
    · rw [completes_of_compiles fun b hb => hfirst b hb ⟨template, rfl⟩]
      rfl
    · split at h
      · cases h
      · rename_i hf
        rw [ih hs h, Bool.and_true, Bool.not_eq_true', ← Bool.not_eq_true]
        exact hf

theorem made_initial : made creatable stages s <+: stages := by
  induction stages generalizing s with
  | nil => exact List.prefix_rfl
  | cons stage rest ih =>
    rw [made]
    split
    · exact ⟨rest, rfl⟩
    · exact (List.prefix_cons_inj stage).mpr ih

/-- A run that has not come to the output directory has changed no file. -/
theorem keeps_made {mode : Mode} {reply : Except Failure Output} {templates : List Template}
    (h : .directory ∉ made creatable (plan mode reply templates) s) :
    ∀ stage ∈ made creatable (plan mode reply templates) s, stage.KeepsFiles := by
  intro stage hm
  cases stage with
  | directory => exact h hm
  | compile template =>
    refine h ?_
    rw [made_of_completes (completes_of_mem (pairwise_compile mode reply templates) hm)]
    exact List.mem_append_right _ (List.mem_cons_of_mem _ List.mem_cons_self)
  | inspect image => trivial
  | build image => trivial
  | install => trivial

end
end Stage

end Dashboards
