import Dashboards.Proofs.Conclusion
import Dashboards.Proofs.Tandem

/-!
# The token

Runs with different tokens are followed side by side, on a host that does not look at tokens.

* `Host.Blind`         replies depend neither on the token nor on the name of a container;
* `ofSettings_token`   of a configuration the token touches nothing but the token;
* `runAll_sends`       a run is one without a token, and then its dashboards are sent;
* `Mirror`             the invariant of the two runs, with the requests of each;
* `token_confined`     they differ in the requests, and in what these carry.
-/

namespace Dashboards

/-- The same call, in a container that may have another name. -/
def Command.Renamed (k k' : Command) : Prop :=
  k' = k ∨ ∃ (t : Toolchain) (name name' : String) (c : Command),
    k = t.route name c ∧ k' = t.route name' c

/-- Replies depend neither on the token of a request nor on the name of a container. -/
structure Host.Blind {σ : Type} (h : Host σ) : Prop where
  run : ∀ k k' : Command, k.Renamed k' → h.run k' = h.run k
  post : ∀ (r : Request) (token : String), h.post { r with token } = h.post r

/-- No token, or one of blanks. -/
def BlankToken (token : Option String) : Prop := ∀ raw ∈ token, Text.trim raw = ""

/-- The report without what became of the dashboards. -/
def Report.unpublished (r : Report) : Report := { r with publish := .skipped }

/-! ### configurations -/

theorem resolveToken_blank {token : Option String} (h : BlankToken token) :
    Config.resolveToken token = none := by
  cases token with
  | none => rfl
  | some raw =>
    have he : Text.trim raw = "" := h raw rfl
    rw [Config.resolveToken, Option.map_some, he]
    rfl

theorem resolveToken_some {raw : String} (h : Text.trim raw ≠ "") :
    Config.resolveToken (some raw) = some (Text.trim raw) := by
  have he : (!(Text.trim raw).isEmpty) = true := by
    rw [Bool.not_eq_true', Bool.eq_false_iff]
    exact fun he => h (String.isEmpty_iff.mp he)
  rw [Config.resolveToken, Option.map_some, Option.filter_some, if_pos he]

theorem bind_map {ε α β γ : Type} {x : Except ε α} {f : α → Except ε β} {f' : α → Except ε γ}
    {g : β → γ} (h : ∀ a, f' a = (f a).map g) : (x >>= f') = (x >>= f).map g :=
  (bind_congr h).trans (map_bind g x f).symm

/-- No check looks at the token. -/
theorem ofSettings_token (t : Files) (s : Settings) (token : Option String) :
    Config.ofSettings t { s with token } =
      (Config.ofSettings t s).map fun c => { c with token := Config.resolveToken token } := by
  unfold Config.ofSettings
  refine bind_map fun root => ?_
  refine bind_map fun templatesDir => ?_
  refine bind_map fun server => ?_
  refine bind_map fun params => ?_
  refine bind_map fun image => ?_
  refine bind_map fun runtime => ?_
  dsimp only
  by_cases hl : (decide (s.commandSeconds = 0) || decide (s.httpSeconds = 0)) = true
  · rw [if_pos hl, if_pos hl]
    rfl
  · rw [if_neg hl, if_neg hl]
    rfl

/-! ### sending -/

section
variable {σ : Type} {h : Host σ}

/-- What becomes of a run when its dashboards are sent. -/
def sending (h : Host σ) (c : Config) (x : Except Failure Report × Session σ) :
    Except Failure Report × Session σ :=
  match x with
  | (.error f, s) => (.error f, s)
  | (.ok r, s) =>
    let (publish, s) := publishPhase h c r.compiled s
    (.ok { r with publish }, s)

/-- Nothing before the requests looks at the token. -/
theorem runAll_sends (c : Config) (present : String → Bool) (s : Session σ) :
    runAll h c present s = sending h c (runAll h { c with token := none } present s) := by
  rw [runAll, runAll]
  cases discover s.files c.templatesDir with
  | error f => rfl
  | ok templates =>
    dsimp only
    have hd : Toolchain.detect { c with token := none } present = .detect c present := rfl
    rw [hd, runWith, runWith]
    cases (Toolchain.detect c present).prepare h s with
    | mk r s =>
      cases r with
      | error f => rfl
      | ok u =>
        dsimp only
        cases (Toolchain.detect c present).install h s with
        | mk r s =>
          cases r with
          | error f => rfl
          | ok u =>
            dsimp only
            cases compileAll h (.detect c present) c.params c.outputDir templates s with
            | mk r s =>
              cases r with
              | error f => rfl
              | ok o => rfl

theorem unpublished_sending (c : Config) (x : Except Failure Report × Session σ) :
    (sending h c x).1.map Report.unpublished = x.1.map Report.unpublished := by
  obtain ⟨r, s⟩ := x
  cases r with
  | error f => rfl
  | ok r => rfl

theorem files_sending (c : Config) (x : Except Failure Report × Session σ) :
    (sending h c x).2.files = x.2.files := by
  obtain ⟨r, s⟩ := x
  cases r with
  | error f => rfl
  | ok r => exact files_publishPhase c r.compiled s

theorem commands_sending (c : Config) (x : Except Failure Report × Session σ) :
    (sending h c x).2.commands = x.2.commands := by
  obtain ⟨r, s⟩ := x
  cases r with
  | error f => rfl
  | ok r => exact commands_publishPhase c r.compiled s

end

/-! ### two runs -/

/-- Two sessions that have come from `b` and `b'` by the same calls, but for the names of
containers, and by these requests. -/
structure Mirror {σ : Type} (b b' : Session σ) (sent sent' : List Request) (s s' : Session σ) :
    Prop where
  files : s'.files = s.files
  state : s'.state = s.state
  calls : ∃ cs cs', s.commands = b.commands ++ cs ∧ s'.commands = b'.commands ++ cs' ∧
    List.Forall₂ Command.Renamed cs cs'
  requests : s.requests = b.requests ++ sent
  requests' : s'.requests = b'.requests ++ sent'

section
variable {σ : Type} {h : Host σ} {b b' s s' : Session σ} {sent sent' : List Request}

theorem Mirror.start (hf : s'.files = s.files) (hs : s'.state = s.state) :
    Mirror s s' [] [] s s' :=
  ⟨hf, hs, ⟨[], [], (List.append_nil _).symm, (List.append_nil _).symm, .nil⟩,
    (List.append_nil _).symm, (List.append_nil _).symm⟩

theorem Mirror.filesInTandem : FilesInTandem (Mirror b b' sent sent') :=
  ⟨fun h => h.files, fun h _ => ⟨rfl, h.state, h.calls, h.requests, h.requests'⟩⟩

variable (hb : h.Blind)
include hb

theorem Mirror.run (hm : Mirror b b' sent sent' s s') {k k' : Command} (hk : k.Renamed k') :
    Tandem (Mirror b b' sent sent') (s.run h k) (s'.run h k') := by
  rw [Session.run, Session.run, hb.run k k' hk, hm.files, hm.state]
  exact ⟨rfl, rfl, rfl, appended_snoc hm.calls hk, hm.requests, hm.requests'⟩

theorem Mirror.callsInTandem (t : Toolchain) :
    CallsInTandem h h t t (Mirror b b' sent sent') := by
  refine ⟨rfl, fun {s s'} hm c => ?_⟩
  rw [Session.call, Session.call, Session.route, Session.route]
  cases t.mode with
  | native => exact hm.run hb (.inl rfl)
  | containerized image =>
    have hrouted : Mirror b b' sent sent' { s with containers := s.containers + 1 }
        { s' with containers := s'.containers + 1 } :=
      ⟨hm.files, hm.state, hm.calls, hm.requests, hm.requests'⟩
    exact hrouted.run hb (.inr ⟨t, _, _, c, rfl, rfl⟩)

/-- Without a token two runs come to the same and send nothing. -/
theorem Mirror.runAll {c : Config} (hc : c.token = none) (present : String → Bool)
    (hf : s'.files = s.files) (hs : s'.state = s.state) :
    Tandem (Mirror s s' [] []) (runAll h c present s) (runAll h c present s') := by
  refine Tandem.runAll (Mirror.callsInTandem hb _) Mirror.filesInTandem
    (fun hm k => hm.run hb (.inl rfl)) (fun token ht => ?_) (Mirror.start hf hs)
  rw [hc] at ht
  cases ht

/-- Two sessions that have come from `b` and `b'` with requests that differ in the token. -/
def Signed (b b' : Session σ) (token token' : String) (s s' : Session σ) : Prop :=
  ∃ sent, (∀ r ∈ sent, r.token = token) ∧
    Mirror b b' sent (sent.map fun r => { r with token := token' }) s s'

theorem Signed.postsInTandem (token token' : String) :
    PostsInTandem h h token token' (Signed b b' token token') := by
  refine ⟨fun {s s'} hs url body => ?_⟩
  obtain ⟨sent, hall, hm⟩ := hs
  have hp : h.post ⟨url, token', body⟩ = h.post ⟨url, token, body⟩ :=
    hb.post ⟨url, token, body⟩ token'
  rw [Session.post, Session.post, hp, hm.state]
  refine ⟨rfl, sent ++ [⟨url, token, body⟩], ?_, hm.files, rfl, hm.calls, ?_, ?_⟩
  · rw [List.forall_mem_append, List.forall_mem_singleton]
    exact ⟨hall, rfl⟩
  · show s.requests ++ [⟨url, token, body⟩] = _
    rw [hm.requests, List.append_assoc]
  · show s'.requests ++ [⟨url, token', body⟩] = _
    rw [hm.requests', List.append_assoc, List.map_append]
    rfl

/-- With a token each, two runs come to the same and send the same, each with its own token. -/
theorem Signed.sending {c c' : Config} {token token' : String} (hc : c.token = some token)
    (hc' : c' = { c with token := some token' }) {x x' : Except Failure Report × Session σ}
    (hx : Tandem (Mirror b b' [] []) x x') :
    Tandem (Signed b b' token token') (sending h c x) (sending h c' x') := by
  obtain ⟨r, s, s', rfl, rfl, hm⟩ := hx.eq
  have hs : Signed b b' token token' s s' := by
    refine ⟨[], fun r hr => ?_, hm⟩
    cases hr
  cases r with
  | error f => exact ⟨rfl, hs⟩
  | ok r =>
    obtain ⟨rs, s₁, s₁', e, e', hs₁⟩ := ((Signed.postsInTandem hb token token').publishAll hs
      c.endpoint c.stopOnFirstFailure r.compiled).eq
    rw [Dashboards.sending, Dashboards.sending, publishPhase, publishPhase, hc', hc]
    dsimp only [Config.endpoint] at e e' ⊢
    rw [e, e']
    exact ⟨rfl, hs₁⟩

end

section
variable {σ : Type} {b b' : Session σ} {x x' : Except Failure Report × Session σ}

/-- Whatever is sent, the runs have made the same calls, and leave the same files and reports that
differ at most in what became of the dashboards. -/
theorem Mirror.unpublished (h : Host σ) (c c' : Config) (hx : Tandem (Mirror b b' [] []) x x') :
    (sending h c' x').2.files = (sending h c x).2.files ∧
    (sending h c' x').1.map Report.unpublished = (sending h c x).1.map Report.unpublished ∧
    ∃ calls calls', (sending h c x).2.commands = b.commands ++ calls ∧
      (sending h c' x').2.commands = b'.commands ++ calls' ∧
      List.Forall₂ Command.Renamed calls calls' := by
  obtain ⟨hr, hm⟩ := hx
  refine ⟨?_, ?_, ?_⟩
  · rw [files_sending, files_sending, hm.files]
  · rw [unpublished_sending, unpublished_sending, hr]
  · rw [commands_sending, commands_sending]
    exact hm.calls

/-- Without tokens nothing is sent. -/
theorem Mirror.unsent {h : Host σ} {c c' : Config} (hc : c.token = none) (hc' : c'.token = none)
    (hx : Tandem (Mirror b b' [] []) x x') :
    (sending h c' x').1 = (sending h c x).1 ∧ (sending h c x).2.requests = b.requests ∧
    (sending h c' x').2.requests = b'.requests ∧
    ∀ r, (sending h c x).1 = .ok r → r.publish = .skipped := by
  obtain ⟨r, s, s', rfl, rfl, hm⟩ := hx.eq
  have hs : s.requests = b.requests := hm.requests.trans (List.append_nil _)
  have hs' : s'.requests = b'.requests := hm.requests'.trans (List.append_nil _)
  cases r with
  | error f =>
    refine ⟨rfl, hs, hs', fun r hr => ?_⟩
    cases hr
  | ok r =>
    rw [Dashboards.sending, Dashboards.sending, publishPhase, publishPhase, hc, hc']
    refine ⟨rfl, hs, hs', fun r hr => ?_⟩
    cases hr
    rfl

end

/-! ### whole runs -/

/-- Runs whose configurations differ in the token. -/
theorem runs_confined {σ : Type} {h : Host σ} (hb : h.Blind) (present : String → Bool) (c : Config)
    (token' : Option String) {s s' : Session σ} (hf : s'.files = s.files)
    (hs : s'.state = s.state) :
    let run := runAll h c present s
    let run' := runAll h { c with token := token' } present s'
    (run'.2.files = run.2.files ∧
      run'.1.map Report.unpublished = run.1.map Report.unpublished ∧
      ∃ calls calls', run.2.commands = s.commands ++ calls ∧
        run'.2.commands = s'.commands ++ calls' ∧ List.Forall₂ Command.Renamed calls calls') ∧
    (c.token = none → token' = none →
      run'.1 = run.1 ∧ run.2.requests = s.requests ∧ run'.2.requests = s'.requests ∧
      ∀ r, run.1 = .ok r → r.publish = .skipped) ∧
    ∀ k k', c.token = some k → token' = some k' → run'.1 = run.1 ∧
      ∃ sent, (∀ r ∈ sent, r.token = k) ∧ run.2.requests = s.requests ++ sent ∧
        run'.2.requests = s'.requests ++ sent.map fun r => { r with token := k' } := by
  intro run run'
  -- Up to the requests there is no token.
  have hx := Mirror.runAll hb (c := { c with token := none }) rfl present hf hs
  have hrun : run = sending h c _ := runAll_sends c present s
  have hrun' : run' = sending h { c with token := token' } _ :=
    runAll_sends { c with token := token' } present s'
  rw [hrun, hrun']
  refine ⟨Mirror.unpublished h c _ hx, fun hn hn' => Mirror.unsent hn hn' hx,
    fun k k' hk hk' => ?_⟩
  have hc' : ({ c with token := token' } : Config) = { c with token := some k' } := by rw [hk']
  obtain ⟨hr, sent, hall, hm⟩ := Signed.sending hb hk hc' hx
  exact ⟨hr, sent, hall, hm.requests, hm.requests'⟩

/-- Settings that differ in the token are refused alike, or their configurations differ in the
token. -/
theorem ofSettings_tokens (t : Files) (s : Settings) (token token' : Option String) :
    (∃ f, Config.ofSettings t { s with token } = .error f ∧
      Config.ofSettings t { s with token := token' } = .error f) ∨
    ∃ c, Config.ofSettings t { s with token } = .ok c ∧ c.token = Config.resolveToken token ∧
      Config.ofSettings t { s with token := token' } =
        .ok { c with token := Config.resolveToken token' } := by
  rw [ofSettings_token, ofSettings_token t s token']
  cases Config.ofSettings t s with
  | error f => exact .inl ⟨f, rfl, rfl⟩
  | ok c => exact .inr ⟨_, rfl, rfl, rfl⟩

/-- The program tells the same of two runs with the same result and the same files. Where no host can
be made, it tells why, and there are no runs. -/
theorem Cli.perform_alike {σ : Type} (made : Except Failure (Host σ)) (present : String → Bool)
    {s s' : Session σ} {settings settings' : Settings} {c c' : Config}
    (hc : Config.ofSettings s.files settings = .ok c)
    (hc' : Config.ofSettings s'.files settings' = .ok c') (hf : s'.files = s.files)
    (hruns : ∀ h, made = .ok h → (runAll h c' present s').1 = (runAll h c present s).1 ∧
      (runAll h c' present s').2.files = (runAll h c present s).2.files) (saved : Option Path) :
    let p := Cli.perform (fun _ => made) present s (.run settings saved)
    let p' := Cli.perform (fun _ => made) present s' (.run settings' saved)
    p'.1 = p.1 ∧ p'.2.files = p.2.files := by
  cases made with
  | error f =>
    rw [Cli.perform_refused (fun _ => .error f) present s settings hc rfl saved,
      Cli.perform_refused (fun _ => .error f) present s' settings' hc' rfl saved]
    exact ⟨rfl, hf⟩
  | ok h =>
    obtain ⟨hresult, hfiles⟩ := hruns h rfl
    have hp := Cli.perform_run (fun _ => .ok h) present s settings hc rfl saved
    have hp' := Cli.perform_run (fun _ => .ok h) present s' settings' hc' rfl saved
    dsimp only at hp hp'
    rw [hresult, hfiles] at hp'
    exact Prod.mk.inj (hp'.trans hp.symm)

theorem not_blank_iff {token : Option String} :
    ¬ BlankToken token ↔ ∃ raw, token = some raw ∧ Text.trim raw ≠ "" := by
  cases token with
  | none =>
    constructor
    · intro h
      refine absurd (fun raw hraw => ?_) h
      cases hraw
    · rintro ⟨raw, e, _⟩
      cases e
  | some raw =>
    constructor
    · intro h
      refine ⟨raw, rfl, fun he => h fun raw' e => ?_⟩
      cases e
      exact he
    · rintro ⟨_, e, hne⟩ h
      cases e
      exact hne (h raw rfl)

/-- Two runs from settings that differ in the token, on a host that does not look at tokens. The
settings are refused alike. Accepted, the runs make the same calls, but for the names of containers,
leave the same files, and end with the same failure or with reports that differ at most in what
became of the dashboards. Without tokens nothing is sent. With a token each, the requests differ in
the token, which is the one of the settings without the blanks around it. In both cases the runs have
the same result, and the program tells the same and leaves the same files. -/
theorem token_confined {σ : Type} {h : Host σ} (hb : h.Blind) (present : String → Bool)
    (settings : Settings) (token token' : Option String) {s s' : Session σ}
    (hf : s'.files = s.files) (hs : s'.state = s.state) :
    let first := Config.ofSettings s.files { settings with token }
    let second := Config.ofSettings s'.files { settings with token := token' }
    (∀ f, second = .error f ↔ first = .error f) ∧
    (∀ c c', first = .ok c → second = .ok c' →
      let run := runAll h c present s
      let run' := runAll h c' present s'
      (run'.2.files = run.2.files ∧
        run'.1.map Report.unpublished = run.1.map Report.unpublished ∧
        ∃ calls calls', run.2.commands = s.commands ++ calls ∧
          run'.2.commands = s'.commands ++ calls' ∧
          List.Forall₂ Command.Renamed calls calls') ∧
      (BlankToken token → BlankToken token' →
        run'.1 = run.1 ∧ run.2.requests = s.requests ∧ run'.2.requests = s'.requests ∧
        ∀ r, run.1 = .ok r → r.publish = .skipped) ∧
      ∀ raw raw', token = some raw → token' = some raw' → Text.trim raw ≠ "" →
        Text.trim raw' ≠ "" → run'.1 = run.1 ∧
        ∃ sent, (∀ r ∈ sent, r.token = Text.trim raw) ∧ run.2.requests = s.requests ++ sent ∧
          run'.2.requests = s'.requests ++
            sent.map fun r => { r with token := Text.trim raw' }) ∧
    ((BlankToken token ↔ BlankToken token') → ∀ made : Except Failure (Host σ),
      (∀ h', made = .ok h' → h' = h) → ∀ saved : Option Path,
      let p := Cli.perform (fun _ => made) present s (.run { settings with token } saved)
      let p' := Cli.perform (fun _ => made) present s' (.run { settings with token := token' } saved)
      p'.1 = p.1 ∧ p'.2.files = p.2.files) := by
  intro first second
  have hsecond : second = Config.ofSettings s.files { settings with token := token' } := by
    show Config.ofSettings s'.files _ = _
    rw [hf]
  rcases ofSettings_tokens s.files settings token token' with ⟨f, he, he'⟩ | ⟨c, hc, ht, hc'⟩
  · have hfirst : first = .error f := he
    rw [he'] at hsecond
    refine ⟨fun g => by rw [hfirst, hsecond], fun c c' hc => ?_, fun _ _ _ saved => ?_⟩
    · rw [hfirst] at hc
      cases hc
    · have he'' : Config.ofSettings s'.files { settings with token := token' } = .error f :=
        hsecond
      dsimp only
      rw [Cli.perform, Cli.perform, he, he'']
      exact ⟨rfl, hf⟩
  · have hfirst : first = .ok c := hc
    rw [hc'] at hsecond
    obtain ⟨hsame, hblank, hsigned⟩ :=
      runs_confined hb present c (Config.resolveToken token') hf hs
    have hnone : BlankToken token → c.token = none := fun hn => ht.trans (resolveToken_blank hn)
    have hsome : ∀ raw, token = some raw → Text.trim raw ≠ "" →
        c.token = some (Text.trim raw) := by
      rintro raw rfl hne
      exact ht.trans (resolveToken_some hne)
    have hsome' : ∀ raw, token' = some raw → Text.trim raw ≠ "" →
        Config.resolveToken token' = some (Text.trim raw) := by
      rintro raw rfl hne
      exact resolveToken_some hne
    refine ⟨fun f => ?_, fun d d' hd hd' => ?_, fun hiff made hmade saved => ?_⟩
    · rw [hfirst, hsecond]
      constructor
      · intro he
        cases he
      · intro he
        cases he
    · rw [hfirst] at hd
      rw [hsecond] at hd'
      cases hd
      cases hd'
      exact ⟨hsame, fun hn hn' => hblank (hnone hn) (resolveToken_blank hn'),
        fun raw raw' e e' hne hne' => hsigned _ _ (hsome raw e hne) (hsome' raw' e' hne')⟩
    · have hresult : (runAll h { c with token := Config.resolveToken token' } present s').1 =
          (runAll h c present s).1 := by
        by_cases hn : BlankToken token
        · exact (hblank (hnone hn) (resolveToken_blank (hiff.mp hn))).1
        · obtain ⟨raw, e, hne⟩ := not_blank_iff.mp hn
          obtain ⟨raw', e', hne'⟩ := not_blank_iff.mp (mt hiff.mpr hn)
          exact (hsigned _ _ (hsome raw e hne) (hsome' raw' e' hne')).1
      refine Cli.perform_alike made present hc hsecond hf (fun h' hh' => ?_) saved
      obtain rfl := hmade h' hh'
      exact ⟨hresult, hsame.1⟩

theorem blind_script : Script.host.Blind := ⟨fun _ _ _ => rfl, fun _ _ => rfl⟩

/-- The dashboard that was compiled is sent with the token of each run, and refused. -/
theorem token_confined_half :
    let state := Half.script [.ok ⟨500, "no"⟩]
    let s : Session Script := { files := twoTemplates, state, process := 1 }
    let s' : Session Script := { files := twoTemplates, state, process := 2 }
    let run := runAll Script.host (Half.config (some "a")) (fun _ => true) s
    let run' := runAll Script.host (Half.config (some "b")) (fun _ => true) s'
    Config.ofSettings s.files (Half.settings (some " a ")) = .ok (Half.config (some "a")) ∧
      Config.ofSettings s'.files (Half.settings (some "b\n")) = .ok (Half.config (some "b")) ∧
      run'.1 = run.1 ∧ run'.2.files = run.2.files ∧
      run.2.requests.map (·.token) = ["a"] ∧ run'.2.requests.map (·.token) = ["b"] := by
  intro state s s' run run'
  have hc : Config.ofSettings s.files (Half.settings (some " a ")) =
      .ok (Half.config (some "a")) := by
    have ht : Config.resolveToken (some " a ") = some "a" := by decide
    rw [← ht]
    exact Half.ofSettings_settings _
  have hc' : Config.ofSettings s'.files (Half.settings (some "b\n")) =
      .ok (Half.config (some "b")) := by
    have ht : Config.resolveToken (some "b\n") = some "b" := by decide
    rw [← ht]
    exact Half.ofSettings_settings _
  have hfiles : s'.files = s.files := rfl
  have hstate : s'.state = s.state := rfl
  obtain ⟨_, hruns, _⟩ := token_confined blind_script (fun _ => true) (Half.settings none)
    (some " a ") (some "b\n") hfiles hstate
  obtain ⟨⟨hfinal, _, _⟩, _, hsigned⟩ := hruns _ _ hc hc'
  obtain ⟨hr, sent, hall, hsent, hsent'⟩ := hsigned " a " "b\n" rfl rfl (by decide) (by decide)
  have hone : sent.length = 1 := by
    obtain ⟨s₁, _, _, hrequests, hrun⟩ := Half.runs (some "a") (s := s) rfl rfl
    have hlength := congrArg List.length hsent
    rw [hrun] at hlength
    have hsends :
        (publishPhase Script.host (Half.config (some "a")) [Half.compiled] s₁).2.requests =
          s₁.requests ++ [requestOf (Half.config (some "a")).endpoint "a" Half.compiled] := by
      have ht : (Half.config (some "a")).token = some "a" := rfl
      rw [publishPhase, ht]
      dsimp only
      rw [publishAll, publish_script]
      dsimp only
      split
      · rfl
      · rfl
    dsimp only at hlength
    rw [hsends, hrequests, List.length_append, List.length_append] at hlength
    exact (Nat.add_left_cancel hlength).symm
  obtain ⟨r, rfl⟩ := List.length_eq_one_iff.mp hone
  have ha : r.token = Text.trim " a " := hall r List.mem_cons_self
  refine ⟨hc, hc', hr, hfinal, ?_, ?_⟩
  · show (runAll Script.host (Half.config (some "a")) (fun _ => true) s).2.requests.map _ = _
    rw [hsent]
    show [r.token] = _
    rw [ha]
    decide
  · show (runAll Script.host (Half.config (some "b")) (fun _ => true) s').2.requests.map _ = _
    rw [hsent']
    show [Text.trim "b\n"] = _
    decide

end Dashboards
