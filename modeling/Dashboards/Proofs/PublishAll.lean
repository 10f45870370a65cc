import Dashboards.Run
import Dashboards.Proofs.Script

/-!
# Publishing all dashboards

* `Accepted`                  a reply with a status between 200 and 299;
* `publishAll_success_iff`    all dashboards are published just when all replies are accepted;
* `requests_publishAll`       and then there has been one request for each, in order;
* `result_eq_ok_iff`          the reports of runs in which nothing failed.
-/

namespace Dashboards

def Accepted (reply : Except Failure Reply) : Prop :=
  ∃ r, reply = .ok r ∧ 200 ≤ r.status ∧ r.status < 300

theorem success_ofReply (name : String) (reply : Except Failure Reply) :
    (PublishResult.ofReply name reply).success = true ↔ Accepted reply := by
  cases reply with
  | error f =>
    constructor
    · intro h
      cases h
    · rintro ⟨r, e, _⟩
      cases e
  | ok r =>
    rw [PublishResult.ofReply, Bool.and_eq_true, decide_eq_true_eq, decide_eq_true_eq]
    constructor
    · intro h
      exact ⟨r, rfl, h⟩
    · rintro ⟨r', e, h⟩
      cases e
      exact h

/-- The request for a compiled template. -/
def requestOf (endpoint token : String) (c : Compiled) : Request :=
  ⟨endpoint, token, (envelope c.document).body⟩

section
variable (endpoint token : String) (stop : Bool)

theorem publish_script (c : Compiled) (s : Session Script) :
    publish Script.host endpoint token c s = (.ofReply c.name s.state.nextReply.1,
      { s with
        state := s.state.dropReplies 1
        requests := s.requests ++ [requestOf endpoint token c] }) := by
  rw [publish, post_script]
  rfl

theorem publishAll_success_iff (cs : List Compiled) (s : Session Script) :
    (∀ r ∈ (publishAll Script.host endpoint token stop cs s).1, r.success = true) ↔
      ∀ reply ∈ s.state.nextReplies cs.length, Accepted reply := by
  induction cs generalizing s with
  | nil =>
    constructor
    · intro _ reply hr
      cases hr
    · intro _ r hr
      cases hr
  | cons c cs ih =>
    rw [publishAll, publish_script]
    dsimp only
    rw [List.length_cons, Script.nextReplies, List.forall_mem_cons, Script.nextReply_snd,
      ← success_ofReply c.name]
    split
    · -- The pass ends with a failure.
      rename_i hs
      rw [Bool.and_eq_true, Bool.not_eq_true'] at hs
      rw [List.forall_mem_singleton, hs.2]
      constructor
      · intro h
        cases h
      · rintro ⟨h, _⟩
        cases h
    · rw [List.forall_mem_cons, ih]

/-- Accepted dashboards do not end the pass. -/
theorem requests_publishAll (cs : List Compiled) (s : Session Script)
    (h : ∀ reply ∈ s.state.nextReplies cs.length, Accepted reply) :
    (publishAll Script.host endpoint token stop cs s).2.requests =
      s.requests ++ cs.map (requestOf endpoint token) := by
  induction cs generalizing s with
  | nil => exact (List.append_nil _).symm
  | cons c cs ih =>
    rw [List.length_cons, Script.nextReplies, List.forall_mem_cons, Script.nextReply_snd,
      ← success_ofReply c.name] at h
    rw [publishAll, publish_script]
    dsimp only
    rw [h.1, Bool.not_true, Bool.and_false, if_neg Bool.false_ne_true]
    rw [ih _ h.2, List.map_cons, List.append_assoc]
    rfl

/-- Requests change no files and run no commands. -/
theorem keeps_publishAll {σ : Type} {h : Host σ} (cs : List Compiled) (s : Session σ) :
    (publishAll h endpoint token stop cs s).2.files = s.files ∧
      (publishAll h endpoint token stop cs s).2.commands = s.commands := by
  induction cs generalizing s with
  | nil => exact ⟨rfl, rfl⟩
  | cons c cs ih =>
    rw [publishAll]
    dsimp only
    split
    · exact ⟨rfl, rfl⟩
    · exact ih _

end

/-! ### with and without a token -/

theorem publishPhase_success_iff (c : Config) (cs : List Compiled) (s : Session Script) :
    (∀ r ∈ (publishPhase Script.host c cs s).1.results, r.success = true) ↔
      c.token = none ∨ ∀ reply ∈ s.state.nextReplies cs.length, Accepted reply := by
  rw [publishPhase]
  cases c.token with
  | none =>
    constructor
    · intro _
      exact .inl rfl
    · intro _ r hr
      cases hr
  | some token =>
    have h := publishAll_success_iff c.endpoint token c.stopOnFirstFailure cs s
    exact ⟨fun hs => .inr (h.mp hs), fun ha => h.mpr (ha.resolve_left (Option.some_ne_none token))⟩

theorem requests_publishPhase (c : Config) (cs : List Compiled) (s : Session Script)
    (h : c.token = none ∨ ∀ reply ∈ s.state.nextReplies cs.length, Accepted reply) :
    (publishPhase Script.host c cs s).2.requests = s.requests ++
      match c.token with
      | none => []
      | some token => cs.map (requestOf c.endpoint token) := by
  rw [publishPhase]
  cases hc : c.token with
  | none => exact (List.append_nil _).symm
  | some token =>
    rw [hc] at h
    exact requests_publishAll c.endpoint token c.stopOnFirstFailure cs s
      (h.resolve_left (Option.some_ne_none token))

theorem keeps_publishPhase {σ : Type} {h : Host σ} (c : Config) (cs : List Compiled)
    (s : Session σ) : (publishPhase h c cs s).2.files = s.files ∧
      (publishPhase h c cs s).2.commands = s.commands := by
  rw [publishPhase]
  cases c.token with
  | none => exact ⟨rfl, rfl⟩
  | some token => exact keeps_publishAll c.endpoint token c.stopOnFirstFailure cs s

theorem files_publishPhase {σ : Type} {h : Host σ} (c : Config) (cs : List Compiled)
    (s : Session σ) : (publishPhase h c cs s).2.files = s.files := (keeps_publishPhase c cs s).1

theorem commands_publishPhase {σ : Type} {h : Host σ} (c : Config) (cs : List Compiled)
    (s : Session σ) : (publishPhase h c cs s).2.commands = s.commands :=
  (keeps_publishPhase c cs s).2

/-! ### reports -/

theorem compileFailure_eq_none_iff (fs : List CompileFailure) :
    compileFailure? fs = none ↔ fs = [] := by
  rw [compileFailure?]
  cases fs with
  | nil => exact ⟨fun _ => rfl, fun _ => rfl⟩
  | cons f fs =>
    constructor
    · intro h
      cases h
    · intro h
      cases h

theorem publishFailure_eq_none_iff (r : Report) :
    r.firstPublishFailure?.bind (·.failure?) = none ↔
      ∀ x ∈ r.publish.results, x.success = true := by
  have hf : r.firstPublishFailure? = none ↔ ∀ x ∈ r.publish.results, x.success = true := by
    rw [Report.firstPublishFailure?, List.find?_eq_none]
    simp only [Bool.not_eq_true', Bool.not_eq_false]
  rw [← hf]
  cases h : r.firstPublishFailure? with
  | none => exact ⟨fun _ => rfl, fun _ => rfl⟩
  | some x =>
    have hx : x.success = false := by simpa using List.find?_some h
    rw [Option.bind_some, PublishResult.failure?, hx]
    constructor
    · intro h
      cases h
    · intro h
      cases h

/-- A run ends well if no template and no dashboard failed; its result is the report. -/
theorem result_eq_ok_iff (r r' : Report) : r.result = .ok r' ↔
    r' = r ∧ r.failures = [] ∧ ∀ x ∈ r.publish.results, x.success = true := by
  rw [Report.result, ← compileFailure_eq_none_iff, ← publishFailure_eq_none_iff]
  cases compileFailure? r.failures with
  | some f =>
    constructor
    · intro h
      cases h
    · rintro ⟨_, h, _⟩
      cases h
  | none =>
    cases r.firstPublishFailure?.bind (·.failure?) with
    | some f =>
      constructor
      · intro h
        cases h
      · rintro ⟨_, _, h⟩
        cases h
    | none =>
      constructor
      · intro h
        exact ⟨(Except.ok.inj h).symm, rfl, rfl⟩
      · rintro ⟨rfl, _⟩
        rfl

end Dashboards
