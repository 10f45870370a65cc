import Mathlib
import Dashboards.Session

/-!
# Containers and what ends them

* `Session.routeAll`     calls of tools one after the other, each with a toolchain of its own;
* `containerNames`       the names that a counter of 64 bits gives;
* `Command.Confines`     a call in a container, with the one that kills this container;
* `routeAll_confines`    all calls are of this form, and the names are those of the counter;
* `recording`            keeps the calls that are made;
* `perform_recording`    a command makes its own call, and the first cleanup after a timeout;
* `timed_out_container_killed`   both together.
-/

namespace Dashboards

/-! ### names -/

/-- The name of a container, by a counter of 64 bits. -/
def containerName (process : Nat) (counter : UInt64) : String :=
  "dashbuild-" ++ toString process ++ "-" ++ toString counter

/-- The names of some containers in turn. The counter starts again when it has reached its end. -/
def containerNames (process : Nat) : Nat → UInt64 → List String
  | 0, _ => []
  | n + 1, counter => containerName process counter :: containerNames process n (counter + 1)

theorem containerName_inj {process : Nat} {k k' : UInt64}
    (h : containerName process k = containerName process k') : k = k' := by
  have hl := congrArg String.toList h
  simp only [containerName, String.toList_append] at hl
  have hr : toString k = toString k' := String.toList_injective (List.append_cancel_left hl)
  exact UInt64.toNat_inj.mp (Nat.repr_inj.mp hr)

theorem mem_containerNames {process n : Nat} {counter : UInt64} {name : String}
    (h : name ∈ containerNames process n counter) :
    ∃ i < n, name = containerName process (counter + UInt64.ofNat i) := by
  induction n generalizing counter with
  | zero => cases h
  | succ n ih =>
    rcases List.mem_cons.mp h with rfl | h
    · refine ⟨0, Nat.succ_pos n, ?_⟩
      rw [show UInt64.ofNat 0 = 0 from rfl, UInt64.add_zero]
    · obtain ⟨i, hi, rfl⟩ := ih h
      refine ⟨i + 1, Nat.succ_lt_succ hi, ?_⟩
      rw [UInt64.ofNat_add, UInt64.add_assoc, UInt64.add_comm 1 _]
      rfl

/-- The counter gives no name twice before it starts again. -/
theorem nodup_containerNames (process : Nat) {n : Nat} (counter : UInt64) (hn : n ≤ 2 ^ 64) :
    (containerNames process n counter).Nodup := by
  induction n generalizing counter with
  | zero => exact List.nodup_nil
  | succ n ih =>
    refine List.nodup_cons.mpr ⟨fun hm => ?_, ih (counter + 1) (Nat.le_of_succ_le hn)⟩
    obtain ⟨i, hi, e⟩ := mem_containerNames hm
    have hk := congrArg UInt64.toNat (containerName_inj e)
    have hc := counter.toNat_lt
    rw [UInt64.toNat_add, UInt64.toNat_add, UInt64.toNat_ofNat'] at hk
    simp only [UInt64.toNat_one] at hk
    omega

/-! ### calls in containers -/

/-- The name that a call gives to its container. -/
def Command.containerName? (k : Command) : Option String :=
  match k.args with
  | "run" :: "--rm" :: "--init" :: "--name" :: name :: _ => some name
  | _ => none

/-- A call of the container runtime, with one cleanup, which kills the container of the call. -/
structure Command.Confines (t : Toolchain) (name : String) (k : Command) : Prop where
  program : k.program = t.runtime
  named : k.containerName? = some name
  cleanup : k.onTimeout = [⟨t.runtime, ["kill", name], t.root⟩]

/-- One call after the other, each with its own toolchain. -/
def Session.routeAll {σ : Type} : List (Toolchain × Command) → Session σ → List Command × Session σ
  | [], s => ([], s)
  | (t, c) :: rest, s =>
    let (k, s) := s.route t c
    let (ks, s) := routeAll rest s
    (k :: ks, s)

theorem route_confines {σ : Type} {t : Toolchain} (ht : t.mode ≠ .native) (c : Command)
    (s : Session σ) :
    (s.route t c).1.Confines t s.containerName ∧
      (s.route t c).2 = { s with containers := s.containers + 1 } := by
  rw [Session.route]
  cases hm : t.mode with
  | native => exact absurd hm ht
  | containerized image =>
    dsimp only
    rw [Toolchain.route, hm]
    exact ⟨⟨rfl, rfl, rfl⟩, rfl⟩

/-- The number of the next container fits the counter. -/
theorem containerName_eq {σ : Type} {s : Session σ} (h : s.containers < 2 ^ 64) :
    s.containerName = containerName s.process (UInt64.ofNat s.containers) := by
  have hn : toString (UInt64.ofNat s.containers) = toString s.containers := by
    show Nat.repr (UInt64.ofNat s.containers).toNat = Nat.repr s.containers
    rw [UInt64.toNat_ofNat', Nat.mod_eq_of_lt h]
  rw [containerName, hn, Session.containerName]

theorem routeAll_confines {σ : Type} {calls : List (Toolchain × Command)} {s : Session σ}
    (ht : ∀ p ∈ calls, p.1.mode ≠ .native) (hn : s.containers + calls.length ≤ 2 ^ 64) :
    List.Forall₂ (fun p k => ∃ name, k.Confines p.1 name) calls (s.routeAll calls).1 ∧
      (s.routeAll calls).1.map (·.containerName?) =
        (containerNames s.process calls.length (.ofNat s.containers)).map some := by
  induction calls generalizing s with
  | nil => exact ⟨.nil, rfl⟩
  | cons p rest ih =>
    obtain ⟨t, c⟩ := p
    obtain ⟨ht₁, ht⟩ := List.forall_mem_cons.mp ht
    rw [List.length_cons] at hn ⊢
    obtain ⟨hc, hs⟩ := route_confines ht₁ c s
    rw [containerName_eq (by omega)] at hc
    obtain ⟨hrest, hnames⟩ := ih (s := { s with containers := s.containers + 1 }) ht
      (by dsimp only; omega)
    rw [UInt64.ofNat_add] at hnames
    rw [Session.routeAll]
    dsimp only
    rw [hs]
    refine ⟨.cons ⟨_, hc⟩ hrest, ?_⟩
    rw [List.map_cons, hc.named, hnames]
    rfl

/-! ### performing -/

def TimedOut (r : Except Failure Output) : Prop := ∃ p n, r = .error (.timeout p n)

/-- Makes a call and keeps it. -/
def recording {τ : Type} (make : Call → τ → Except Failure Output × τ) (c : Call)
    (x : τ × List Call) : Except Failure Output × τ × List Call :=
  let (r, t) := make c x.1
  (r, t, x.2 ++ [c])

/-- A command comes to what its own call comes to, which is made once. After a timeout, and only
then, the first cleanup is made, once. -/
theorem perform_recording {τ : Type} (make : Call → τ → Except Failure Output × τ) (c : Command)
    (t : τ) :
    let first := make c.toCall t
    let run := c.perform (recording make) (t, [])
    run.1 = first.1 ∧ (TimedOut first.1 → run.2.2 = c.toCall :: c.onTimeout.take 1) ∧
      (¬ TimedOut first.1 → run.2.2 = [c.toCall]) := by
  intro first run
  have hrun : run = c.perform (recording make) (t, []) := rfl
  have hfirst : recording make c.toCall (t, []) = (first.1, first.2, [c.toCall]) := rfl
  rw [Command.perform, hfirst] at hrun
  by_cases ht : TimedOut first.1
  · refine ⟨?_, fun _ => ?_, fun hn => absurd ht hn⟩
    · obtain ⟨p, n, e⟩ := ht
      rw [e] at hrun
      dsimp only at hrun
      rw [hrun, e]
      cases c.cleanup? with
      | none => rfl
      | some k => rfl
    · obtain ⟨p, n, e⟩ := ht
      rw [e] at hrun
      dsimp only at hrun
      rw [hrun, Command.cleanup?]
      cases c.onTimeout with
      | nil => rfl
      | cons k ks => rfl
  · have hself : run = (first.1, first.2, [c.toCall]) := by
      rw [hrun]
      split
      · rename_i p n x hx
        exact absurd ⟨p, n, congrArg Prod.fst hx⟩ ht
      · rfl
    rw [hself]
    exact ⟨rfl, fun h => absurd h ht, fun _ => rfl⟩

/-- As long as the counter does not start again, all calls in containers of a process have different
names for them, whatever their toolchains are, and each has one cleanup, which kills the container
of this call. A command makes its own call once and comes to the same; if this runs out of time,
and only then, the first cleanup follows, once, and no cleanup of the cleanup. -/
theorem timed_out_container_killed :
    (∀ {σ : Type} (s : Session σ) (calls : List (Toolchain × Command)),
      (∀ p ∈ calls, p.1.mode ≠ .native) → s.containers + calls.length ≤ 2 ^ 64 →
      let made := (s.routeAll calls).1
      let names := containerNames s.process calls.length (.ofNat s.containers)
      List.Forall₂ (fun p k => ∃ name, k.Confines p.1 name) calls made ∧
        made.map (·.containerName?) = names.map some ∧ names.Nodup) ∧
    ∀ {τ : Type} (make : Call → τ → Except Failure Output × τ) (c : Command) (t : τ),
      let first := make c.toCall t
      let run := c.perform (recording make) (t, [])
      run.1 = first.1 ∧ (TimedOut first.1 → run.2.2 = c.toCall :: c.onTimeout.take 1) ∧
        (¬ TimedOut first.1 → run.2.2 = [c.toCall]) := by
  refine ⟨fun s calls ht hn => ?_, fun make c t => perform_recording make c t⟩
  obtain ⟨hc, hnames⟩ := routeAll_confines ht hn
  exact ⟨hc, hnames, nodup_containerNames _ _ (by omega)⟩

/-- Calls of two toolchains in turn. The second runs out of time, and so does its cleanup. -/
theorem timed_out_container_killed_two :
    let docker : Toolchain := ⟨.containerized "jsonnet", "docker", ⟨[47]⟩, ⟨[47, 100]⟩⟩
    let podman : Toolchain := ⟨.containerized "jsonnet", "podman", ⟨[47]⟩, ⟨[47, 100]⟩⟩
    let s : Session Unit := { files := {}, state := (), process := 7 }
    let made := (s.routeAll [(docker, docker.tool installer), (podman, podman.tool compiler),
      (docker, docker.tool compiler)]).1
    let make (c : Call) (_ : Unit) : Except Failure Output × Unit :=
      (.error (.timeout c.program 1), ())
    made.map (·.containerName?) =
        [some "dashbuild-7-0", some "dashbuild-7-1", some "dashbuild-7-2"] ∧
      ∀ k, made[1]? = some k → (k.perform (recording make) ((), [])).2.2 =
        [k.toCall, ⟨"podman", ["kill", "dashbuild-7-1"], ⟨[47]⟩⟩] := by
  intro docker podman s made make
  obtain ⟨hroute, hperform⟩ := timed_out_container_killed
  obtain ⟨hc, hnames, _⟩ := hroute s [(docker, docker.tool installer),
    (podman, podman.tool compiler), (docker, docker.tool compiler)] (by simp [docker, podman])
    (by decide)
  refine ⟨hnames.trans (by decide), fun k hk => ?_⟩
  have hkill : k.onTimeout = [⟨"podman", ["kill", "dashbuild-7-1"], ⟨[47]⟩⟩] := by
    have hname : "dashbuild-" ++ toString 7 ++ "-" ++ toString 1 = "dashbuild-7-1" := by decide
    cases hk
    rw [← hname]
    rfl
  obtain ⟨_, hlate, _⟩ := hperform make k ()
  rw [hlate ⟨_, _, rfl⟩, hkill]
  rfl

end Dashboards
