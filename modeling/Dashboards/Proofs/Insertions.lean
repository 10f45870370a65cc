import Dashboards.Proofs.Merging

/-!
# Insertions, whatever becomes of them

* `Params.attempt`         one insertion: why it is refused, if it is, and what is there afterwards;
* `Params.attempts`        insertions one after the other, each with what became of it;
* `taken`                  those that were not refused;
* `IsUnion.attempt`        one insertion keeps the parameters the union of those that were taken;
* `insertions_settled`     which insertions are refused, and that those taken decide the parameters.
-/

namespace Dashboards
namespace Params

/-- An insertion. One that is refused leaves the parameters as they are. -/
def attempt (p : Params) (e : String × String) : Option Invalid × Params :=
  match p.insert e.1 e.2 with
  | .ok q => (none, q)
  | .error reason => (some reason, p)

/-- Insertions one after the other: each with the reason if it is refused, and what is there in the
end. -/
def attempts (p : Params) :
    List (String × String) → List ((String × String) × Option Invalid) × Params
  | [] => ([], p)
  | e :: es =>
    let (reason, q) := p.attempt e
    let (log, q) := q.attempts es
    ((e, reason) :: log, q)

/-- The insertions that were not refused. -/
def taken (log : List ((String × String) × Option Invalid)) : List (String × String) :=
  (log.filter (·.2.isNone)).map (·.1)

theorem taken_append (log log' : List ((String × String) × Option Invalid)) :
    taken (log ++ log') = taken log ++ taken log' := by
  rw [taken, List.filter_append, List.map_append]
  rfl

/-! ### one insertion -/

section
variable {p : Params} {e : String × String} {done : List (String × String)}

theorem attempt_cases (p : Params) (e : String × String) :
    (∃ q, p.insert e.1 e.2 = .ok q ∧ p.attempt e = (none, q)) ∨
      ∃ reason, p.insert e.1 e.2 = .error reason ∧ p.attempt e = (some reason, p) := by
  rw [attempt]
  cases h : p.insert e.1 e.2 with
  | ok q => exact .inl ⟨q, rfl, rfl⟩
  | error reason => exact .inr ⟨reason, rfl, rfl⟩

theorem attempt_taken_iff : (p.attempt e).1 = none ↔ IsKey e.1 ∧ e.1 ∉ p.keys := by
  have hok : (∃ q, p.insert e.1 e.2 = .ok q) ↔ IsKey e.1 ∧ e.1 ∉ p.keys := by
    constructor
    · rintro ⟨q, h⟩
      obtain ⟨hk, hp, -⟩ := insert_eq_ok_iff.mp h
      exact ⟨hk, hp⟩
    · exact fun ⟨hk, hp⟩ => exists_insert hk hp
  rw [← hok]
  rcases attempt_cases p e with ⟨q, hi, ha⟩ | ⟨reason, hi, ha⟩
  · rw [ha, hi]
    simp
  · rw [ha, hi]
    simp

theorem attempt_refused (h : (p.attempt e).1 ≠ none) : (p.attempt e).2 = p := by
  rcases attempt_cases p e with ⟨q, -, ha⟩ | ⟨reason, -, ha⟩
  · rw [ha] at h
    exact absurd rfl h
  · rw [ha]

theorem IsUnion.keys (h : p.IsUnion done) : e.1 ∈ p.keys ↔ e.1 ∈ done.map (·.1) :=
  (h.perm.map _).mem_iff

/-- What is taken comes to those that were taken before. -/
theorem IsUnion.attempt (h : p.IsUnion done) (e : String × String) :
    (p.attempt e).2.IsUnion (done ++ taken [(e, (p.attempt e).1)]) := by
  rcases attempt_cases p e with ⟨q, hi, ha⟩ | ⟨reason, -, ha⟩
  · have hperm : q.entries.Perm (done ++ [e]) := calc
      q.entries.Perm (e :: p.entries) := perm_of_insert hi
      _ |>.Perm (e :: done) := h.perm.cons e
      _ |>.Perm (done ++ [e]) := (List.perm_append_singleton e done).symm
    rw [ha]
    exact isUnion_of_perm hperm
  · rw [ha]
    show p.IsUnion (done ++ [])
    rw [List.append_nil]
    exact h

/-! ### one after the other -/

theorem attempts_cons (p : Params) (e : String × String) (es : List (String × String)) :
    p.attempts (e :: es) = ((e, (p.attempt e).1) :: ((p.attempt e).2.attempts es).1,
      ((p.attempt e).2.attempts es).2) := rfl

theorem attempts_append (p : Params) (es es' : List (String × String)) :
    p.attempts (es ++ es') = ((p.attempts es).1 ++ ((p.attempts es).2.attempts es').1,
      ((p.attempts es).2.attempts es').2) := by
  induction es generalizing p with
  | nil => rfl
  | cons e es ih =>
    rw [List.cons_append, attempts_cons, ih, attempts_cons]
    rfl

theorem map_attempts (p : Params) (es : List (String × String)) :
    (p.attempts es).1.map (·.1) = es := by
  induction es generalizing p with
  | nil => rfl
  | cons e es ih => rw [attempts_cons, List.map_cons, ih]

/-- Each insertion keeps the union, so all of them do. -/
theorem IsUnion.attempts (h : p.IsUnion done) (es : List (String × String)) :
    (p.attempts es).2.IsUnion (done ++ taken (p.attempts es).1) := by
  induction es generalizing p done with
  | nil =>
    show p.IsUnion (done ++ [])
    rw [List.append_nil]
    exact h
  | cons e es ih =>
    have hrest := ih (h.attempt e)
    rw [List.append_assoc, ← taken_append] at hrest
    exact hrest

theorem isUnion_attempts (es : List (String × String)) :
    (({} : Params).attempts es).2.IsUnion (taken (({} : Params).attempts es).1) :=
  (isUnion_of_perm .rfl).attempts es

/-- The same parameters in any order are the same union. -/
theorem IsUnion.unique {q : Params} {done' : List (String × String)} (h : p.IsUnion done)
    (h' : q.IsUnion done') (hsame : ∀ e, e ∈ done' ↔ e ∈ done) : q = p := by
  have hperm : done'.Perm done :=
    (List.perm_ext_iff_of_nodup h'.distinct.of_map h.distinct.of_map).mpr hsame
  exact eq_of_perm (h'.perm.trans (hperm.trans h.perm.symm))

end

end Params

/-- Whatever was inserted before, an insertion is refused unless its key matches the pattern and is
that of none that was taken, and a refused one leaves the parameters as they are. These are those
that were taken, strictly ascending by their keys, of which none comes twice, and a key leads to the
value that stands with it among them. They are the same after any other insertions of which the same
were taken. -/
theorem insertions_settled (es : List (String × String)) :
    let run := ({} : Params).attempts es
    run.1.map (·.1) = es ∧
    (∀ e, ∃ reason,
      (({} : Params).attempts (es ++ [e])).1 = run.1 ++ [(e, reason)] ∧
      (reason = none ↔ Params.IsKey e.1 ∧ e.1 ∉ (Params.taken run.1).map (·.1)) ∧
      (reason ≠ none → (({} : Params).attempts (es ++ [e])).2 = run.2)) ∧
    run.2.IsUnion (Params.taken run.1) ∧
    (∀ k v, run.2.get? k = some v ↔ (k, v) ∈ run.2.entries) ∧
    ∀ es' : List (String × String),
      (∀ e, e ∈ Params.taken (({} : Params).attempts es').1 ↔ e ∈ Params.taken run.1) →
      (({} : Params).attempts es').2 = run.2 := by
  intro run
  have hunion : run.2.IsUnion (Params.taken run.1) := Params.isUnion_attempts es
  refine ⟨Params.map_attempts {} es, ?_, hunion, ?_, ?_⟩
  · intro e
    refine ⟨(run.2.attempt e).1, ?_, ?_, ?_⟩
    · rw [Params.attempts_append]
      rfl
    · rw [Params.attempt_taken_iff, hunion.keys]
    · intro hrefused
      rw [Params.attempts_append]
      exact Params.attempt_refused hrefused
  · intro k v
    exact Params.lookup_iff run.2.ascending
  · intro es' hsame
    exact hunion.unique (Params.isUnion_attempts es') hsame

/-- A key with a blank, a key given twice, and the same parameters in another order. -/
theorem insertions_settled_mixed :
    let run := ({} : Params).attempts [("b", "1"), ("a b", "0"), ("a", "2"), ("b", "3")]
    run.1.map (·.2) = [none, some (.badParameterName "a b"), none, some (.repeatedParameter "b")] ∧
      run.2.entries = [("a", "2"), ("b", "1")] ∧ run.2.get? "b" = some "1" ∧
      (({} : Params).attempts [("a", "2"), ("b", "1")]).2 = run.2 := by
  intro run
  have hrun : run = ([(("b", "1"), none), (("a b", "0"), some (.badParameterName "a b")),
      (("a", "2"), none), (("b", "3"), some (.repeatedParameter "b"))],
      { entries := [("a", "2"), ("b", "1")] }) := by cbv
  have hother : (({} : Params).attempts [("a", "2"), ("b", "1")]).1 =
      [(("a", "2"), none), (("b", "1"), none)] := by cbv
  obtain ⟨-, -, -, hget, horder⟩ :=
    insertions_settled [("b", "1"), ("a b", "0"), ("a", "2"), ("b", "3")]
  have hentries : run.2.entries = [("a", "2"), ("b", "1")] := by rw [hrun]
  have hb : ("b", "1") ∈ run.2.entries := by
    rw [hentries]
    simp
  refine ⟨by rw [hrun]; rfl, hentries, (hget "b" "1").mpr hb, horder _ ?_⟩
  intro e
  show e ∈ Params.taken (({} : Params).attempts [("a", "2"), ("b", "1")]).1 ↔
    e ∈ Params.taken run.1
  rw [hother, hrun]
  show e ∈ [("a", "2"), ("b", "1")] ↔ e ∈ [("b", "1"), ("a", "2")]
  simp [or_comm]

end Dashboards
