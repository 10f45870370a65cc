import Mathlib.Data.List.Forall2
import Dashboards.Proofs.PublishAll

/-!
# Stopping at the first failure

* `PublishResult.Tells`      what a result says of the reply that it comes from;
* `reach`                    how far the results go up to the first failure;
* `tells_publishAll`         without stopping there is one result for each dashboard, in order;
* `publishAll_stopping`      stopping cuts the results and the requests off behind a failure;
* `Report.EndsAs`            reports from which a run ends in the same way;
* `stopping_truncates`       all of this together, and that the end of a run does not depend on it.
-/

namespace Dashboards

/-! ### results -/

/-- What the server or the transport says in a reply. -/
def said : Except Failure Reply → String
  | .ok r => r.body
  | .error f => f.message

def statusOf : Except Failure Reply → PublishStatus
  | .ok r => .http r.status
  | .error _ => .transport

/-- The result of a dashboard of this name that was answered so. -/
structure PublishResult.Tells (r : PublishResult) (name : String) (reply : Except Failure Reply) :
    Prop where
  name : r.name = name
  status : r.status = statusOf reply
  success : r.success = true ↔ Accepted reply
  accepted : Accepted reply → r.detail = none
  refused : ¬ Accepted reply → r.detail = some (said reply)

theorem tells_ofReply (name : String) (reply : Except Failure Reply) :
    (PublishResult.ofReply name reply).Tells name reply := by
  have hs := success_ofReply name reply
  cases reply with
  | error f =>
    refine ⟨rfl, rfl, hs, ?_, fun _ => rfl⟩
    rintro ⟨r, e, _⟩
    cases e
  | ok r =>
    refine ⟨rfl, rfl, hs, fun ha => if_pos (hs.mpr ha), fun ha => if_neg fun h => ha (hs.mp h)⟩

/-- How many results there are up to the first failure, with it. -/
def reach (rs : List PublishResult) : Nat := rs.findIdx (!·.success) + 1

section
variable {r : PublishResult} {rs : List PublishResult}

theorem reach_success (h : r.success = true) : reach (r :: rs) = reach rs + 1 := by
  rw [reach, List.findIdx_cons, h]
  rfl

theorem reach_failure (h : r.success = false) : reach (r :: rs) = 1 := by
  rw [reach, List.findIdx_cons, h]
  rfl

/-- The first failure is among the results that are reached. -/
theorem find_take_reach (rs : List PublishResult) :
    (rs.take (reach rs)).find? (!·.success) = rs.find? (!·.success) := by
  induction rs with
  | nil => rfl
  | cons r rs ih =>
    cases h : r.success with
    | true =>
      rw [reach_success h, List.take_succ_cons, List.find?_cons_of_neg (by simp [h]),
        List.find?_cons_of_neg (by simp [h]), ih]
    | false =>
      rw [reach_failure h, List.take_succ_cons, List.find?_cons_of_pos (by simp [h]),
        List.find?_cons_of_pos (by simp [h])]

end

/-! ### all dashboards -/

section
variable {σ : Type} (h : Host σ) (endpoint token : String)

theorem requests_publish (c : Compiled) (s : Session σ) :
    (publish h endpoint token c s).2.requests = s.requests ++ [requestOf endpoint token c] := rfl

theorem publishAll_going_cons (c : Compiled) (cs : List Compiled) (s : Session σ) :
    publishAll h endpoint token false (c :: cs) s =
      let p := publish h endpoint token c s
      let q := publishAll h endpoint token false cs p.2
      (p.1 :: q.1, q.2) := rfl

theorem publishAll_stopping_cons (c : Compiled) (cs : List Compiled) (s : Session σ) :
    publishAll h endpoint token true (c :: cs) s =
      let p := publish h endpoint token c s
      let q := publishAll h endpoint token true cs p.2
      if p.1.success then (p.1 :: q.1, q.2) else ([p.1], p.2) := by
  rw [publishAll]
  cases hs : (publish h endpoint token c s).1.success <;> simp [hs]

theorem requests_going (cs : List Compiled) (s : Session σ) :
    (publishAll h endpoint token false cs s).2.requests =
      s.requests ++ cs.map (requestOf endpoint token) := by
  induction cs generalizing s with
  | nil => exact (List.append_nil _).symm
  | cons c cs ih =>
    rw [publishAll_going_cons]
    dsimp only
    rw [ih, requests_publish, List.append_assoc]
    rfl

/-- A pass that stops does what the other one does, up to the first failure. -/
theorem publishAll_stopping (cs : List Compiled) (s : Session σ) :
    let all := (publishAll h endpoint token false cs s).1
    let cut := publishAll h endpoint token true cs s
    cut.1 = all.take (reach all) ∧
      cut.2.requests = s.requests ++ (cs.map (requestOf endpoint token)).take (reach all) := by
  induction cs generalizing s with
  | nil => exact ⟨rfl, (List.append_nil _).symm⟩
  | cons c cs ih =>
    rw [publishAll_going_cons, publishAll_stopping_cons]
    dsimp only
    obtain ⟨hresults, hrequests⟩ := ih (publish h endpoint token c s).2
    cases hs : (publish h endpoint token c s).1.success with
    | true =>
      rw [if_pos rfl, reach_success hs, List.take_succ_cons, List.map_cons, List.take_succ_cons]
      refine ⟨congrArg (List.cons _) hresults, ?_⟩
      dsimp only
      rw [hrequests, requests_publish, List.append_assoc]
      rfl
    | false =>
      rw [if_neg Bool.false_ne_true, reach_failure hs, List.take_succ_cons, List.map_cons,
        List.take_succ_cons]
      exact ⟨rfl, requests_publish h endpoint token c s⟩

end

/-- Each dashboard has a result that tells of its own reply. -/
theorem tells_publishAll (endpoint token : String) (cs : List Compiled) (s : Session Script) :
    List.Forall₂ (fun x r => r.Tells x.1.name x.2) (cs.zip (s.state.nextReplies cs.length))
      (publishAll Script.host endpoint token false cs s).1 := by
  induction cs generalizing s with
  | nil => exact .nil
  | cons c cs ih =>
    have hrest := ih (publish Script.host endpoint token c s).2
    rw [publish_script] at hrest
    rw [publishAll_going_cons, publish_script, List.length_cons, Script.nextReplies,
      Script.nextReply_snd, List.zip_cons_cons]
    exact .cons (tells_ofReply c.name _) hrest

/-! ### the end of a run -/

/-- The reports are both good, or a run ends with the same failure from them. -/
structure Report.EndsAs (r r' : Report) : Prop where
  success : r.isSuccess = r'.isSuccess
  failure : ∀ f, r.result = .error f ↔ r'.result = .error f

theorem Report.endsAs_of_eq {r r' : Report} (hf : r.failures = r'.failures)
    (hp : r.firstPublishFailure? = r'.firstPublishFailure?) : r.EndsAs r' := by
  refine ⟨by rw [isSuccess, isSuccess, hf, hp], fun f => ?_⟩
  rw [result, result, hf, hp]
  split
  · exact Iff.rfl
  · split
    · exact Iff.rfl
    · constructor
      · intro h
        cases h
      · intro h
        cases h

section
variable {σ : Type} (h : Host σ) (c : Config)

/-- Among the results of the two passes the first failure is the same. -/
theorem find_publishPhase (cs : List Compiled) (s : Session σ) :
    (publishPhase h { c with stopOnFirstFailure := true } cs s).1.results.find? (!·.success) =
      (publishPhase h { c with stopOnFirstFailure := false } cs s).1.results.find?
        (!·.success) := by
  rw [publishPhase, publishPhase]
  cases c.token with
  | none => rfl
  | some token =>
    show (publishAll h c.endpoint token true cs s).1.find? (!·.success) =
      (publishAll h c.endpoint token false cs s).1.find? (!·.success)
    rw [(publishAll_stopping h c.endpoint token cs s).1, find_take_reach]

/-- Runs that end with the same failure at once, or return reports that end in the same way. -/
inductive SameEnd : Except Failure Report → Except Failure Report → Prop
  | failed (f : Failure) : SameEnd (.error f) (.error f)
  | reported {r r' : Report} (h : r.EndsAs r') : SameEnd (.ok r) (.ok r')

theorem sameEnd_runWith (t : Toolchain) (templates : List Template) (s : Session σ) :
    SameEnd (runWith h { c with stopOnFirstFailure := true } t templates s).1
      (runWith h { c with stopOnFirstFailure := false } t templates s).1 := by
  rw [runWith, runWith]
  split
  · exact .failed _
  · split
    · exact .failed _
    · dsimp only
      split
      · exact .failed _
      · exact .reported (Report.endsAs_of_eq rfl (find_publishPhase h c _ _))

theorem sameEnd_runAll (present : String → Bool) (s : Session σ) :
    SameEnd (runAll h { c with stopOnFirstFailure := true } present s).1
      (runAll h { c with stopOnFirstFailure := false } present s).1 := by
  rw [runAll, runAll]
  dsimp only
  split
  · exact .failed _
  · exact sameEnd_runWith h c _ _ s

end

/-- Without stopping, each dashboard gets one request and one result, in order, and the result tells
of its own reply. Stopping leaves of both what comes up to the first failure, which is everything
if nothing fails. So whatever a run acts on, it ends in the same way with and without stopping. -/
theorem stopping_truncates (endpoint token : String) (cs : List Compiled) (s : Session Script) :
    let requests := cs.map (requestOf endpoint token)
    let all := publishAll Script.host endpoint token false cs s
    let cut := publishAll Script.host endpoint token true cs s
    (all.1.length = cs.length ∧ all.2.requests = s.requests ++ requests ∧
        List.Forall₂ (fun x r => r.Tells x.1.name x.2)
          (cs.zip (s.state.nextReplies cs.length)) all.1) ∧
      (cut.1 = all.1.take (reach all.1) ∧
        cut.2.requests = s.requests ++ requests.take (reach all.1)) ∧
      ∀ {σ : Type} (h : Host σ) (c : Config) (present : String → Bool) (s : Session σ),
        SameEnd (runAll h { c with stopOnFirstFailure := true } present s).1
          (runAll h { c with stopOnFirstFailure := false } present s).1 := by
  intro requests all cut
  have htells := tells_publishAll endpoint token cs s
  have hlength : all.1.length = cs.length := by
    rw [← htells.length_eq, List.length_zip, Script.length_nextReplies, Nat.min_self]
  exact ⟨⟨hlength, requests_going Script.host endpoint token cs s, htells⟩,
    publishAll_stopping Script.host endpoint token cs s,
    fun h c present s => sameEnd_runAll h c present s⟩

end Dashboards
