import Dashboards.Session.Script

/-!
# Calls answered by a script

* `Script.nextOutputs`, `Script.nextReplies`   the next answers, as many as asked for;
* `Session.call`        one call of a tool, as the toolchain makes it;
* `run_script`, `post_script`   what one command and one request do;
* `Advanced`            what calls leave: they take answers from the script, and nothing else;
* `Prepares`            the answers with which a toolchain is made ready;
* `prepare_of_prepares`, `prepares_of_prepare`   that it is ready with these and no others;
* `install_eq_ok_iff`   that the installation succeeds with its one answer;
* `ready_of_answers`, `answers_of_ready`   and both of them together.
-/

namespace Dashboards
namespace Script

/-! ### the next answers -/

def nextOutputs : Nat → Script → List (Except Failure Output)
  | 0, _ => []
  | n + 1, s => s.nextOutput.1 :: nextOutputs n s.nextOutput.2

def nextReplies : Nat → Script → List (Except Failure Reply)
  | 0, _ => []
  | n + 1, s => s.nextReply.1 :: nextReplies n s.nextReply.2

def dropOutputs (n : Nat) (s : Script) : Script := { s with outputs := s.outputs.drop n }

def dropReplies (n : Nat) (s : Script) : Script := { s with replies := s.replies.drop n }

theorem nextReply_fst (s : Script) : s.nextReply.1 = s.replies.headD (.ok ⟨200, ""⟩) := by
  rw [nextReply]
  cases s.replies <;> rfl

theorem nextOutput_snd (s : Script) : s.nextOutput.2 = s.dropOutputs 1 := by
  rw [nextOutput, dropOutputs]
  split
  · rename_i h
    rw [h]
    cases s
    cases h
    rfl
  · rename_i h
    rw [h]
    rfl

theorem nextReply_snd (s : Script) : s.nextReply.2 = s.dropReplies 1 := by
  rw [nextReply, dropReplies]
  split
  · rename_i h
    rw [h]
    cases s
    cases h
    rfl
  · rename_i h
    rw [h]
    rfl

theorem dropOutputs_dropOutputs (m n : Nat) (s : Script) :
    (s.dropOutputs m).dropOutputs n = s.dropOutputs (m + n) := by
  rw [dropOutputs, dropOutputs, dropOutputs, List.drop_drop]

theorem length_nextOutputs (n : Nat) (s : Script) : (s.nextOutputs n).length = n := by
  induction n generalizing s with
  | zero => rfl
  | succ n ih => rw [nextOutputs, List.length_cons, ih]

theorem length_nextReplies (n : Nat) (s : Script) : (s.nextReplies n).length = n := by
  induction n generalizing s with
  | zero => rfl
  | succ n ih => rw [nextReplies, List.length_cons, ih]

theorem nextOutputs_add (m n : Nat) (s : Script) :
    s.nextOutputs (m + n) = s.nextOutputs m ++ (s.dropOutputs m).nextOutputs n := by
  induction m generalizing s with
  | zero => rw [Nat.zero_add]; rfl
  | succ m ih =>
    rw [Nat.succ_add, nextOutputs, nextOutputs, ih, nextOutput_snd, dropOutputs_dropOutputs,
      Nat.add_comm 1 m]
    rfl

/-- A script answers first what it starts with. -/
theorem nextOutputs_append (os : List (Except Failure Output)) (s : Script)
    (h : os <+: s.outputs) : s.nextOutputs os.length = os := by
  induction os generalizing s with
  | nil => rfl
  | cons o os ih =>
    obtain ⟨rest, e⟩ := h
    rw [List.length_cons, nextOutputs, nextOutput, ← e]
    dsimp only [List.cons_append]
    rw [ih _ ⟨rest, rfl⟩]

theorem replies_dropOutputs (n m : Nat) (s : Script) :
    (s.dropOutputs n).nextReplies m = s.nextReplies m := by
  induction m generalizing s with
  | zero => rfl
  | succ m ih =>
    rw [nextReplies, nextReplies, nextReply_fst, nextReply_fst, nextReply_snd, nextReply_snd]
    exact congrArg (List.cons _) (ih (s.dropReplies 1))

end Script

/-! ### commands and requests -/

theorem success_iff (o : Output) : o.success = true ↔ o.status = some 0 := decide_eq_true_iff

theorem run_script (c : Command) (s : Session Script) : s.run Script.host c =
    (s.state.nextOutput.1,
      { s with state := s.state.dropOutputs 1, commands := s.commands ++ [c] }) := by
  rw [← Script.nextOutput_snd]
  rfl

theorem post_script (r : Request) (s : Session Script) : s.post Script.host r =
    (s.state.nextReply.1,
      { s with state := s.state.dropReplies 1, requests := s.requests ++ [r] }) := by
  rw [← Script.nextReply_snd]
  rfl

/-- One call of a tool, as the toolchain makes it. -/
def Session.call {σ : Type} (h : Host σ) (t : Toolchain) (c : Command) (s : Session σ) :
    Except Failure Output × Session σ :=
  (s.route t c).2.run h (s.route t c).1

theorem commands_call {σ : Type} (h : Host σ) (t : Toolchain) (c : Command) (s : Session σ) :
    (s.call h t c).2.commands = s.commands ++ [(s.route t c).1] := by
  rw [Session.call, Session.route]
  cases t.mode <;> rfl

section
variable {t : Toolchain} {c : Command} {s s' : Session Script}

theorem reply_call : (s.call Script.host t c).1 = s.state.nextOutput.1 := by
  rw [Session.call, run_script, Session.route]
  cases t.mode <;> rfl

/-- The session after as many answers of the script, with these files and no new request. -/
structure Advanced (n : Nat) (files : Files) (s s' : Session Script) : Prop where
  files : s'.files = files
  state : s'.state = s.state.dropOutputs n
  requests : s'.requests = s.requests

theorem Advanced.trans {m n : Nat} {files files' : Files} {s s' s'' : Session Script}
    (h : Advanced m files s s') (h' : Advanced n files' s' s'') :
    Advanced (m + n) files' s s'' := by
  refine ⟨h'.files, ?_, h'.requests.trans h.requests⟩
  rw [h'.state, h.state, Script.dropOutputs_dropOutputs]

theorem advanced_call : Advanced 1 s.files s (s.call Script.host t c).2 := by
  refine ⟨?_, ?_, ?_⟩
  · rw [Session.call, run_script, Session.route]
    cases t.mode <;> rfl
  · rw [Session.call, run_script, Session.route]
    cases t.mode <;> rfl
  · rw [Session.call, run_script, Session.route]
    cases t.mode <;> rfl

/-! ### preparation and installation -/

/-- The answers with which a toolchain is made ready: none on the host; in a container, that the
image is there, or that it is not and has been built. -/
inductive Prepares : Mode → List (Except Failure Output) → Prop
  | native : Prepares .native []
  | present {image : String} {o : Output} (h : o.status = some 0) :
      Prepares (.containerized image) [.ok o]
  | built {image : String} {o o' : Output} (h : o.status ≠ some 0) (h' : o'.status = some 0) :
      Prepares (.containerized image) [.ok o, .ok o']

/-- The calls that make a toolchain ready; the last is not made if those before it are enough. -/
def Toolchain.preparation (t : Toolchain) : List Command :=
  match t.mode with
  | .native => []
  | .containerized image => [t.inspect image, t.build image]

theorem length_preparation {prep : List (Except Failure Output)} (hp : Prepares t.mode prep) :
    (t.preparation.take prep.length).length = prep.length := by
  rw [Toolchain.preparation]
  generalize t.mode = m at hp
  cases hp <;> rfl

/-- The session after as many calls of the preparation. -/
def Session.prepared (t : Toolchain) (n : Nat) (s : Session Script) : Session Script :=
  { s with
    state := s.state.dropOutputs n
    commands := s.commands ++ t.preparation.take n }

theorem advanced_prepared (t : Toolchain) (n : Nat) (s : Session Script) :
    Advanced n s.files s (s.prepared t n) := ⟨rfl, rfl, rfl⟩

theorem prepare_of_prepares {prep : List (Except Failure Output)} (hp : Prepares t.mode prep)
    (hn : s.state.nextOutputs prep.length = prep) :
    t.prepare Script.host s = (.ok (), s.prepared t prep.length) := by
  rw [Toolchain.prepare, Session.prepared, Toolchain.preparation]
  generalize t.mode = m at hp
  cases hp with
  | native => simp [Script.dropOutputs]
  | @present image o h =>
    have ho : s.state.nextOutput.1 = .ok o := (List.cons.inj hn).1
    simp only [run_script, ho]
    rw [if_pos ((success_iff o).mpr h)]
    rfl
  | @built image o o' h h' =>
    have ho : s.state.nextOutput.1 = .ok o := (List.cons.inj hn).1
    have ho' : (s.state.dropOutputs 1).nextOutput.1 = .ok o' := by
      rw [← Script.nextOutput_snd]
      exact (List.cons.inj (List.cons.inj hn).2).1
    simp only [run_script, ho]
    rw [if_neg (mt (success_iff o).mp h)]
    simp only [ho']
    rw [if_pos ((success_iff o').mpr h'), Script.dropOutputs_dropOutputs, List.append_assoc]
    rfl

theorem prepares_of_prepare (h : (t.prepare Script.host s).1 = .ok ()) :
    ∃ prep, Prepares t.mode prep ∧ s.state.nextOutputs prep.length = prep := by
  rw [Toolchain.prepare] at h
  cases hm : t.mode with
  | native => exact ⟨[], .native, rfl⟩
  | containerized image =>
    simp only [hm, run_script] at h
    cases ho : s.state.nextOutput.1 with
    | error f => simp [ho] at h
    | ok o =>
      simp only [ho] at h
      by_cases hs : o.status = some 0
      · exact ⟨[.ok o], .present hs, congrArg (· :: []) ho⟩
      · rw [if_neg (mt (success_iff o).mp hs)] at h
        cases ho' : (s.state.dropOutputs 1).nextOutput.1 with
        | error f => simp [ho'] at h
        | ok o' =>
          simp only [ho'] at h
          by_cases hs' : o'.status = some 0
          · refine ⟨[.ok o, .ok o'], .built hs hs', ?_⟩
            rw [← Script.nextOutput_snd] at ho'
            show [s.state.nextOutput.1, s.state.nextOutput.2.nextOutput.1] = _
            rw [ho, ho']
          · rw [if_neg (mt (success_iff o').mp hs')] at h
            cases h

end

/-- What the reply of the installer comes to. -/
def installation (reply : Except Failure Output) : Except Failure Unit :=
  match reply with
  | .error f => .error f
  | .ok o => if o.success then .ok () else .error (.install o.diagnostic)

theorem installation_eq_ok_iff (reply : Except Failure Output) :
    installation reply = .ok () ↔ ∃ o, reply = .ok o ∧ o.status = some 0 := by
  cases reply with
  | error f =>
    constructor
    · intro h
      cases h
    · rintro ⟨o, e, _⟩
      cases e
  | ok o =>
    rw [installation]
    constructor
    · intro h
      by_cases hs : o.success = true
      · exact ⟨o, rfl, (success_iff o).mp hs⟩
      · rw [if_neg hs] at h
        cases h
    · rintro ⟨o', e, hs⟩
      cases e
      exact if_pos ((success_iff o).mpr hs)

theorem install_eq {σ : Type} (h : Host σ) (t : Toolchain) (s : Session σ) :
    t.install h s =
      let r := s.call h t ((t.tool installer).arg "install")
      (installation r.1, r.2) := by
  rw [Toolchain.install, Session.call]
  dsimp only
  cases (s.route t ((t.tool installer).arg "install")).2.run h
    (s.route t ((t.tool installer).arg "install")).1 with
  | mk r s =>
    cases r with
    | error f => rfl
    | ok o => cases hs : o.success <;> simp [installation, hs]

theorem install_eq_ok_iff {t : Toolchain} {s s' : Session Script} :
    t.install Script.host s = (.ok (), s') ↔
      (∃ o, s.state.nextOutput.1 = .ok o ∧ o.status = some 0) ∧
        s' = (s.call Script.host t ((t.tool installer).arg "install")).2 := by
  rw [install_eq, Prod.mk.injEq, installation_eq_ok_iff, reply_call]
  exact and_congr_right fun _ => eq_comm

/-! ### tools that are ready -/

section
variable {t : Toolchain} {s s₁ s₂ : Session Script}

theorem advanced_ready (t : Toolchain) (n : Nat) (c : Command) (s : Session Script) :
    Advanced (n + 1) s.files s ((s.prepared t n).call Script.host t c).2 :=
  (advanced_prepared t n s).trans (advanced_call (s := s.prepared t n))

/-- The preparation and the installation need no more than their answers. -/
theorem ready_of_answers {prep : List (Except Failure Output)} {install : Output}
    (hp : Prepares t.mode prep)
    (hn : s.state.nextOutputs (prep.length + 1) = prep ++ [.ok install])
    (hs : install.status = some 0) :
    ∃ s₁ s₂, t.prepare Script.host s = (.ok (), s₁) ∧ t.install Script.host s₁ = (.ok (), s₂) ∧
      Advanced (prep.length + 1) s.files s s₂ := by
  rw [Script.nextOutputs_add] at hn
  obtain ⟨hprep, hlast⟩ := List.append_inj hn (Script.length_nextOutputs _ _)
  have hinstall : (s.prepared t prep.length).state.nextOutput.1 = .ok install :=
    (List.cons.inj hlast).1
  exact ⟨_, _, prepare_of_prepares hp hprep, install_eq_ok_iff.mpr ⟨⟨install, hinstall, hs⟩, rfl⟩,
    advanced_ready t prep.length _ s⟩

theorem answers_of_ready (hp : t.prepare Script.host s = (.ok (), s₁))
    (hi : t.install Script.host s₁ = (.ok (), s₂)) :
    ∃ prep install, Prepares t.mode prep ∧
      s.state.nextOutputs (prep.length + 1) = prep ++ [.ok install] ∧ install.status = some 0 ∧
      Advanced (prep.length + 1) s.files s s₂ := by
  obtain ⟨prep, hprep, hn⟩ := prepares_of_prepare (t := t) (s := s) (by rw [hp])
  rw [prepare_of_prepares hprep hn] at hp
  obtain ⟨_, rfl⟩ := Prod.mk.inj hp
  obtain ⟨⟨install, hinstall, hs⟩, rfl⟩ := install_eq_ok_iff.mp hi
  have hlast : (s.state.dropOutputs prep.length).nextOutputs 1 = [.ok install] :=
    congrArg (· :: []) hinstall
  refine ⟨prep, install, hprep, ?_, hs, advanced_ready t prep.length _ s⟩
  rw [Script.nextOutputs_add, hn, hlast]

end

end Dashboards
