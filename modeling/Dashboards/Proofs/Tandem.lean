import Dashboards.Proofs.Success

/-!
# Two runs in tandem

Two runs are followed side by side, each on a host of its own. What their calls and requests keep
between the two sessions is kept by everything that is made of calls and requests.

* `appended_snoc`, `shared_snoc`   lists that grow side by side;
* `Tandem`          two steps with one result, after which the sessions are related;
* `CallsInTandem`, `PostsInTandem`, `FilesInTandem`   what a relation has to keep;
* `CallsInTandem.runWith`   and what whole runs keep then; the lemmas before it go phase by phase.
-/

namespace Dashboards

/-! ### what two runs have added -/

theorem appended_snoc {α : Type} {P : α → α → Prop} {b b' l l' : List α} {x x' : α}
    (h : ∃ xs xs', l = b ++ xs ∧ l' = b' ++ xs' ∧ List.Forall₂ P xs xs') (hx : P x x') :
    ∃ xs xs', l ++ [x] = b ++ xs ∧ l' ++ [x'] = b' ++ xs' ∧ List.Forall₂ P xs xs' := by
  obtain ⟨xs, xs', rfl, rfl, hxs⟩ := h
  exact ⟨xs ++ [x], xs' ++ [x'], List.append_assoc .., List.append_assoc ..,
    List.rel_append hxs (.cons hx .nil)⟩

theorem shared_snoc {α : Type} {b b' l l' : List α} (h : ∃ xs, l = b ++ xs ∧ l' = b' ++ xs)
    (x : α) : ∃ xs, l ++ [x] = b ++ xs ∧ l' ++ [x] = b' ++ xs := by
  obtain ⟨xs, rfl, rfl⟩ := h
  exact ⟨xs ++ [x], List.append_assoc .., List.append_assoc ..⟩

section
variable {σ σ' α : Type}

/-- Two steps with one result, after which the sessions are related. -/
def Tandem (R : Session σ → Session σ' → Prop) (x : α × Session σ) (x' : α × Session σ') : Prop :=
  x'.1 = x.1 ∧ R x.2 x'.2

theorem Tandem.eq {R : Session σ → Session σ' → Prop} {x : α × Session σ} {x' : α × Session σ'}
    (h : Tandem R x x') : ∃ a s s', x = (a, s) ∧ x' = (a, s') ∧ R s s' :=
  ⟨x.1, x.2, x'.2, rfl, Prod.ext h.1 rfl, h.2⟩

/-- Related sessions have the same files, whatever these are. -/
structure FilesInTandem (R : Session σ → Session σ' → Prop) : Prop where
  same : ∀ {s s'}, R s s' → s'.files = s.files
  change : ∀ {s s'}, R s s' → ∀ files, R { s with files } { s' with files }

/-- Related sessions get the same reply to a call of a tool, and stay related. -/
structure CallsInTandem (h : Host σ) (h' : Host σ') (t t' : Toolchain)
    (R : Session σ → Session σ' → Prop) : Prop where
  dir : t'.templatesDir = t.templatesDir
  call : ∀ {s s'}, R s s' → ∀ c, Tandem R (s.call h t c) (s'.call h' t' c)

/-- Related sessions get the same reply to a request, and stay related. -/
structure PostsInTandem (h : Host σ) (h' : Host σ') (token token' : String)
    (R : Session σ → Session σ' → Prop) : Prop where
  post : ∀ {s s'}, R s s' → ∀ url body,
    Tandem R (s.post h ⟨url, token, body⟩) (s'.post h' ⟨url, token', body⟩)

variable {h : Host σ} {h' : Host σ'} {R : Session σ → Session σ' → Prop} {s : Session σ}
  {s' : Session σ'}

/-! ### preparing -/

/-- The commands that look for the image and build it are made as they are. -/
theorem Tandem.prepare (t : Toolchain)
    (hrun : ∀ {s s'}, R s s' → ∀ c, Tandem R (s.run h c) (s'.run h' c)) (hs : R s s') :
    Tandem R (t.prepare h s) (t.prepare h' s') := by
  rw [Toolchain.prepare, Toolchain.prepare]
  cases t.mode with
  | native => exact ⟨rfl, hs⟩
  | containerized image =>
    obtain ⟨r, s₁, s₁', e, e', hs₁⟩ := (hrun hs (t.inspect image)).eq
    dsimp only
    rw [e, e']
    cases r with
    | error f => exact ⟨rfl, hs₁⟩
    | ok o =>
      dsimp only
      by_cases ho : o.success = true
      · rw [if_pos ho, if_pos ho]
        exact ⟨rfl, hs₁⟩
      · rw [if_neg ho, if_neg ho]
        obtain ⟨r, s₂, s₂', e, e', hs₂⟩ := (hrun hs₁ (t.build image)).eq
        rw [e, e']
        cases r with
        | error f => exact ⟨rfl, hs₂⟩
        | ok o =>
          dsimp only
          by_cases ho : o.success = true
          · rw [if_pos ho, if_pos ho]
            exact ⟨rfl, hs₂⟩
          · rw [if_neg ho, if_neg ho]
            exact ⟨rfl, hs₂⟩

/-! ### publishing -/

section
variable {token token' : String} (hp : PostsInTandem h h' token token' R)
include hp

theorem PostsInTandem.publish (hs : R s s') (endpoint : String) (c : Compiled) :
    Tandem R (publish h endpoint token c s) (publish h' endpoint token' c s') := by
  obtain ⟨r, s₁, s₁', e, e', hs₁⟩ := (hp.post hs endpoint (envelope c.document).body).eq
  rw [Dashboards.publish, Dashboards.publish, e, e']
  exact ⟨rfl, hs₁⟩

theorem PostsInTandem.publishAll (hs : R s s') (endpoint : String) (stop : Bool)
    (cs : List Compiled) :
    Tandem R (publishAll h endpoint token stop cs s) (publishAll h' endpoint token' stop cs s') := by
  induction cs generalizing s s' with
  | nil => exact ⟨rfl, hs⟩
  | cons c cs ih =>
    obtain ⟨r, s₁, s₁', e, e', hs₁⟩ := (hp.publish hs endpoint c).eq
    rw [Dashboards.publishAll, Dashboards.publishAll, e, e']
    dsimp only
    split
    · exact ⟨rfl, hs₁⟩
    · obtain ⟨hrs, hs₂⟩ := ih hs₁
      exact ⟨congrArg (List.cons r) hrs, hs₂⟩

end

theorem Tandem.publishPhase {c : Config} (hp : ∀ token ∈ c.token, PostsInTandem h h' token token R)
    (hs : R s s') (cs : List Compiled) :
    Tandem R (publishPhase h c cs s) (publishPhase h' c cs s') := by
  rw [Dashboards.publishPhase, Dashboards.publishPhase]
  cases hc : c.token with
  | none => exact ⟨rfl, hs⟩
  | some token =>
    obtain ⟨hrs, hs₁⟩ := (hp token hc).publishAll hs c.endpoint c.stopOnFirstFailure cs
    exact ⟨congrArg PublishPhase.attempted hrs, hs₁⟩

/-! ### installing and compiling -/

section
variable {t t' : Toolchain} (hc : CallsInTandem h h' t t' R)
include hc

theorem CallsInTandem.install (hs : R s s') : Tandem R (t.install h s) (t'.install h' s') := by
  have htool : t'.tool installer = t.tool installer := by
    rw [Toolchain.tool, Toolchain.tool, hc.dir]
  obtain ⟨hr, hs₁⟩ := hc.call hs ((t.tool installer).arg "install")
  rw [install_eq, install_eq, htool]
  exact ⟨congrArg installation hr, hs₁⟩

variable (hf : FilesInTandem R)
include hf

theorem CallsInTandem.compile (hs : R s s') (params : Params) (outputDir : Path)
    (template : Template) :
    Tandem R (compile h t params outputDir template s)
      (compile h' t' params outputDir template s') := by
  have hi : invocation t' template params = invocation t template params := by
    rw [invocation, invocation, Toolchain.tool, Toolchain.tool, hc.dir]
  obtain ⟨hr, hs₁⟩ := hc.call hs (invocation t template params)
  rw [compile_eq, compile_eq]
  dsimp only [compilerReply]
  rw [hi, hr, hf.same hs₁]
  exact ⟨rfl, hf.change hs₁ _⟩

theorem CallsInTandem.compileEach (hs : R s s') (params : Params) (outputDir : Path)
    (templates : List Template) (o : Outcome) :
    Tandem R (compileEach h t params outputDir templates o s)
      (compileEach h' t' params outputDir templates o s') := by
  induction templates generalizing o s s' with
  | nil => exact ⟨rfl, hs⟩
  | cons template rest ih =>
    obtain ⟨r, s₁, s₁', e, e', hs₁⟩ := (hc.compile hf hs params outputDir template).eq
    rw [Dashboards.compileEach, Dashboards.compileEach, e, e']
    cases r with
    | ok compiled => exact ih hs₁ _
    | error f => exact ih hs₁ _

theorem CallsInTandem.compileAll (hs : R s s') (params : Params) (outputDir : Path)
    (templates : List Template) :
    Tandem R (compileAll h t params outputDir templates s)
      (compileAll h' t' params outputDir templates s') := by
  rw [Dashboards.compileAll, Dashboards.compileAll, hf.same hs]
  cases s.files.makeDirs outputDir with
  | mk r files =>
    cases r with
    | error cause => exact ⟨rfl, hf.change hs files⟩
    | ok u =>
      obtain ⟨hr, hs₁⟩ :=
        hc.compileEach hf (hf.change hs files) params outputDir templates {}
      exact ⟨congrArg Except.ok hr, hs₁⟩

/-! ### whole runs -/

/-- Runs that are prepared in tandem come to the same, but for the mode that they report. -/
theorem CallsInTandem.runWith {c : Config}
    (hp : ∀ token ∈ c.token, PostsInTandem h h' token token R) (templates : List Template)
    (hprep : Tandem R (t.prepare h s) (t'.prepare h' s')) :
    (runWith h' c t' templates s').1 =
        (runWith h c t templates s).1.map (fun r => { r with mode := t'.mode }) ∧
      R (runWith h c t templates s).2 (runWith h' c t' templates s').2 := by
  rw [Dashboards.runWith, Dashboards.runWith]
  obtain ⟨r, s₁, s₁', e, e', hs₁⟩ := hprep.eq
  rw [e, e']
  cases r with
  | error f => exact ⟨rfl, hs₁⟩
  | ok u =>
    obtain ⟨r, s₂, s₂', e, e', hs₂⟩ := (hc.install hs₁).eq
    dsimp only
    rw [e, e']
    cases r with
    | error f => exact ⟨rfl, hs₂⟩
    | ok u =>
      obtain ⟨r, s₃, s₃', e, e', hs₃⟩ :=
        (hc.compileAll hf hs₂ c.params c.outputDir templates).eq
      dsimp only
      rw [e, e']
      cases r with
      | error f => exact ⟨rfl, hs₃⟩
      | ok o =>
        obtain ⟨p, s₄, s₄', e, e', hs₄⟩ := (Tandem.publishPhase hp hs₃ o.compiled).eq
        dsimp only
        rw [e, e']
        exact ⟨rfl, hs₄⟩

end

/-- Two runs with one configuration and the same programs come to the same. -/
theorem Tandem.runAll {c : Config} {present : String → Bool}
    (hc : CallsInTandem h h' (.detect c present) (.detect c present) R) (hf : FilesInTandem R)
    (hrun : ∀ {s s'}, R s s' → ∀ k, Tandem R (s.run h k) (s'.run h' k))
    (hp : ∀ token ∈ c.token, PostsInTandem h h' token token R) (hs : R s s') :
    Tandem R (runAll h c present s) (runAll h' c present s') := by
  rw [Dashboards.runAll, Dashboards.runAll, hf.same hs]
  cases discover s.files c.templatesDir with
  | error f => exact ⟨rfl, hs⟩
  | ok templates =>
    obtain ⟨hr, hs₁⟩ := hc.runWith hf hp templates (Tandem.prepare _ hrun hs)
    refine ⟨hr.trans ?_, hs₁⟩
    dsimp only
    -- The mode is the same, too.
    cases he : (Dashboards.runWith h c (.detect c present) templates s).1 with
    | error f => rfl
    | ok r =>
      obtain ⟨_, _, _, o, publish, _, _, _, _, rfl⟩ := runWith_eq_ok_iff.mp (Prod.ext he rfl)
      rfl

end
end Dashboards
