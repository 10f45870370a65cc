import Dashboards.Proofs.Tandem

/-!
# Runs on the host and in containers

The same run is followed on the host and in containers. The two differ in their calls, which are
wrapped, and in nothing that a later step depends on.

* `Wraps`          the native call stands at the end of the one that is made in a container;
* `Alike`          the invariant of the two sessions, and `Agree`, that of two steps;
* `Alike.call`     one call keeps it, and `Alike.runWith` a run behind its preparation;
* `fallback_transparent`   whole runs, with the preparation in front of one of them.
-/

namespace Dashboards

def Wraps (native contained : Command) : Prop :=
  native.program :: native.args <:+ contained.args

/-- Two sessions that have come from `b` and `b'` by corresponding steps. -/
structure Alike (b b' s s' : Session Script) : Prop where
  files : s'.files = s.files
  state : s'.state = s.state
  calls : ∃ cs cs', s.commands = b.commands ++ cs ∧ s'.commands = b'.commands ++ cs' ∧
    List.Forall₂ Wraps cs cs'
  requests : ∃ rs, s.requests = b.requests ++ rs ∧ s'.requests = b'.requests ++ rs

/-- Two steps with one result, after which the sessions are alike. -/
def Agree {α : Type} (b b' : Session Script) (x x' : α × Session Script) : Prop :=
  x'.1 = x.1 ∧ Alike b b' x.2 x'.2

section
variable {b b' s s' : Session Script} (c : Config) (image : String)

theorem Alike.start (hf : s'.files = s.files) (hs : s'.state = s.state) : Alike s s' s s' :=
  ⟨hf, hs, ⟨[], [], (List.append_nil _).symm, (List.append_nil _).symm, .nil⟩,
    ⟨[], (List.append_nil _).symm, (List.append_nil _).symm⟩⟩

theorem wraps_route {image : String} (t : Toolchain) (name : String) (logical : Command)
    (ht : t.mode = .containerized image) : Wraps logical (t.route name logical) := by
  rw [Toolchain.route, ht]
  exact ⟨["run", "--rm", "--init", "--name", name, "-v", t.root.shown ++ ":" ++ mountPoint,
    "-w", Toolchain.containerDir (logical.workingDir.relativeTo t.root), image], rfl⟩

theorem Alike.call (h : Alike b b' s s') (logical : Command) :
    Agree b b' (s.call Script.host (.ofMode c .native) logical)
      (s'.call Script.host (.ofMode c (.containerized image)) logical) := by
  refine ⟨by rw [reply_call, reply_call, h.state], ?_, ?_, ?_, ?_⟩
  · rw [advanced_call.files, advanced_call.files, h.files]
  · rw [advanced_call.state, advanced_call.state, h.state]
  · rw [commands_call, commands_call]
    exact appended_snoc h.calls (wraps_route _ _ _ rfl)
  · rw [advanced_call.requests, advanced_call.requests]
    exact h.requests

theorem Alike.inTandem : CallsInTandem Script.host Script.host (.ofMode c .native)
    (.ofMode c (.containerized image)) (Alike b b') :=
  ⟨rfl, fun h logical => h.call c image logical⟩

theorem Alike.filesInTandem : FilesInTandem (Alike b b') :=
  ⟨fun h => h.files, fun h _ => ⟨rfl, h.state, h.calls, h.requests⟩⟩

theorem Alike.posts (token : String) :
    PostsInTandem Script.host Script.host token token (Alike b b') := by
  refine ⟨fun {s s'} h url body => ?_⟩
  rw [post_script, post_script, h.state]
  exact ⟨rfl, h.files, rfl, h.calls, shared_snoc h.requests _⟩

/-! ### whole runs -/

/-- The report of a run that was made in containers. -/
def Report.inContainer (image : String) (r : Report) : Report :=
  { r with mode := .containerized image }

/-- Once the containers are ready, the runs come to the same. -/
theorem Alike.runWith {s₁ : Session Script} (templates : List Template)
    (hp : (Toolchain.ofMode c (.containerized image)).prepare Script.host s₁ = (.ok (), s'))
    (h : Alike b b' s s') :
    let native := runWith Script.host c (.ofMode c .native) templates s
    let contained := runWith Script.host c (.ofMode c (.containerized image)) templates s₁
    contained.1 = native.1.map (.inContainer image) ∧ Alike b b' native.2 contained.2 := by
  have hprep : Tandem (Alike b b') ((Toolchain.ofMode c .native).prepare Script.host s)
      ((Toolchain.ofMode c (.containerized image)).prepare Script.host s₁) := by
    rw [hp]
    exact ⟨rfl, h⟩
  exact (Alike.inTandem c image).runWith Alike.filesInTandem (fun token _ => Alike.posts token)
    templates hprep

/-- A run in containers whose preparation succeeds comes to the same as the run on the host: the
same failure, or the same report but for the mode; the same files; the same requests. Its calls
after the preparation are those of the host, in their order, each at the end of a call of the
container runtime. -/
theorem fallback_transparent (c : Config) (here elsewhere : String → Bool)
    (prep rest : List (Except Failure Output)) (replies : List (Except Failure Reply))
    (s s' : Session Script) (hh : requiredTools.all here = true)
    (he : requiredTools.all elsewhere = false) (hp : Prepares (.containerized c.image) prep)
    (hf : s'.files = s.files) (hs : s.state = ⟨rest, replies⟩)
    (hs' : s'.state = ⟨prep ++ rest, replies⟩) :
    let native := runAll Script.host c here s
    let contained := runAll Script.host c elsewhere s'
    contained.1 = native.1.map (fun r => { r with mode := .containerized c.image }) ∧
    contained.2.files = native.2.files ∧
    (∃ sent, native.2.requests = s.requests ++ sent ∧
      contained.2.requests = s'.requests ++ sent) ∧
    ∃ calls preparation calls', native.2.commands = s.commands ++ calls ∧
      contained.2.commands = s'.commands ++ (preparation ++ calls') ∧
      (preparation.length = prep.length ∨ preparation = [] ∧ calls = []) ∧
      List.Forall₂ (fun n k => n.program :: n.args <:+ k.args) calls calls' := by
  rw [runAll, runAll, hf, Toolchain.detect, Toolchain.detect, Mode.detect, Mode.detect, if_pos hh,
    if_neg (by rw [he]; exact Bool.false_ne_true)]
  cases discover s.files c.templatesDir with
  | error f =>
    exact ⟨rfl, hf, ⟨[], (List.append_nil _).symm, (List.append_nil _).symm⟩, [], [], [],
      (List.append_nil _).symm, (List.append_nil _).symm, .inr ⟨rfl, rfl⟩, .nil⟩
  | ok templates =>
    let t := Toolchain.ofMode c (.containerized c.image)
    have hn : s'.state.nextOutputs prep.length = prep :=
      Script.nextOutputs_append prep s'.state (by rw [hs']; exact List.prefix_append prep rest)
    have hprep : t.prepare Script.host s' = (.ok (), s'.prepared t prep.length) :=
      prepare_of_prepares hp hn
    have hstate : (s'.prepared t prep.length).state = s.state := by
      rw [Session.prepared, hs, hs']
      dsimp only [Script.dropOutputs]
      rw [List.drop_left]
    have ha : Alike s (s'.prepared t prep.length) s (s'.prepared t prep.length) :=
      .start hf hstate
    obtain ⟨hr, hfiles, _, ⟨cs, cs', e, e', hw⟩, hsent⟩ := ha.runWith c c.image templates hprep
    refine ⟨hr, hfiles, hsent, cs, t.preparation.take prep.length, cs', e, ?_,
      .inl (length_preparation hp), hw⟩
    exact e'.trans (List.append_assoc _ _ _)

end

theorem fallback_transparent_built :
    let c : Config :=
      { root := ⟨[47]⟩, templatesDir := ⟨[47, 100]⟩, outputDir := ⟨[47, 111]⟩,
        server := ⟨"http", "", "", "localhost", none, "/", none, none⟩, token := none, params := {},
        image := "jsonnet", runtime := "docker", commandSeconds := 1, httpSeconds := 1,
        stopOnFirstFailure := true }
    let files : Files :=
      { entries := [([[100]], .directory), ([[100], Text.utf8 "a.jsonnet"], .file [] false)] }
    let rest : List (Except Failure Output) := [.ok ⟨some 0, "", ""⟩, .ok ⟨some 0, "[]", ""⟩]
    let prep : List (Except Failure Output) := [.ok ⟨some 1, "", ""⟩, .ok ⟨some 0, "", ""⟩]
    let s : Session Script := { files, state := ⟨rest, []⟩, process := 1 }
    let s' : Session Script := { files, state := ⟨prep ++ rest, []⟩, process := 2 }
    Prepares (.containerized c.image) prep ∧
      (runAll Script.host c (fun _ => false) s').1 =
        (runAll Script.host c (fun _ => true) s).1.map
          (fun r => { r with mode := .containerized c.image }) := by
  intro c files rest prep s s'
  have hp : Prepares (.containerized c.image) prep := .built (by decide) rfl
  exact ⟨hp, (fallback_transparent c (fun _ => true) (fun _ => false) prep rest [] s s' rfl rfl hp
    rfl rfl rfl).1⟩

end Dashboards
