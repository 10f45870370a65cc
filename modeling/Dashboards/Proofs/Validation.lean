import Dashboards.Proofs.Params
import Dashboards.Proofs.Text.Trim
import Dashboards.Proofs.Url.Web

/-!
# Which settings are valid

* `Check`             what settings have to satisfy, in the order in which it decides;
* `Check.Decides`     a step succeeds if its checks hold, and if not, the first that does not hold
                      decides the failure;
* `Config.Carries`    what an accepted configuration holds;
* `ofSettings_exact`  the checks decide about settings, and nothing else does.
-/

namespace Dashboards

inductive Check where
  | root
  | templates
  | server
  | datasource
  | file
  | assignments
  | keys
  | reserved
  | repeated
  | image
  | runtime
  | limits
deriving DecidableEq

/-- The keys of the parameters file, if it can be loaded, and those of the assignments. -/
def givenKeys (t : Files) (s : Settings) : List String :=
  ((Config.fileEntries t s.paramsFile).toOption.getD []).map (·.1) ++
    s.assignments.map assignedKey

namespace Check

def all : List Check :=
  [.root, .templates, .server, .datasource, .file, .assignments, .keys, .reserved, .repeated,
    .image, .runtime, .limits]

def Holds (t : Files) (s : Settings) : Check → Prop
  | .root => ∃ root, t.canonical s.root = .ok root
  | .templates => ∀ root, t.canonical s.root = .ok root →
      .up ∉ (root.join s.templatesDir).parts ∧ root.parts <+: (root.join s.templatesDir).parts
  | .server => ∃ u, Url.parse (Text.trim s.serverUrl) = .ok (.web u) ∧
      (u.scheme = "http" ∨ u.scheme = "https")
  | .datasource => Text.trim s.datasource ≠ ""
  | .file => ∀ p, s.paramsFile = some p → ∃ es, Params.load t p = .ok es
  | .assignments => ∀ raw ∈ s.assignments, '=' ∈ raw.toList
  | .keys => ∀ k ∈ givenKeys t s, Params.IsKey k
  | .reserved => Config.datasourceKey ∉ givenKeys t s
  | .repeated => (givenKeys t s).Nodup
  | .image => Text.trim s.image ≠ ""
  | .runtime => Text.trim s.runtime ≠ ""
  | .limits => 1 ≤ s.commandSeconds ∧ 1 ≤ s.httpSeconds

/-- The failures that a check can lead to. -/
def Ends (t : Files) (s : Settings) (f : Failure) : Check → Prop
  | .root => ∃ cause, t.canonical s.root = .error cause ∧ f = .io s.root cause
  | .file => ∃ p, s.paramsFile = some p ∧
      ((∃ cause, t.readText p = .error cause ∧ f = .io p cause) ∨
        ∃ text fault, t.readText p = .ok text ∧ Params.ofText text = .error fault ∧
          f = .parse fault)
  | _ => ∃ reason, f = .validation reason

section
variable (t : Files) (s : Settings)

/-- The check does not hold, those before it do, and it leads to the failure. -/
def FirstFailing (checks : List Check) (f : Failure) : Prop :=
  ∃ before check after, checks = before ++ check :: after ∧ (∀ c ∈ before, c.Holds t s) ∧
    ¬ check.Holds t s ∧ check.Ends t s f

/-- A step succeeds if its checks hold, with a result that has the property; if not, the first that
does not hold decides the failure. -/
inductive Decides {α : Type} (checks : List Check) (P : α → Prop) : Except Failure α → Prop
  | ok {a : α} (holds : ∀ c ∈ checks, c.Holds t s) (result : P a) : Decides checks P (.ok a)
  | error {f : Failure} (first : FirstFailing t s checks f) : Decides checks P (.error f)

end

section
variable {t : Files} {s : Settings} {α β : Type} {checks checks' : List Check}
  {P : α → Prop} {Q : β → Prop}

theorem Decides.bind (checks : List Check) {r : Except Failure α}
    {next : α → Except Failure β} (h : Decides t s checks P r)
    (hn : ∀ a, P a → Decides t s checks' Q (next a)) :
    Decides t s (checks ++ checks') Q (r >>= next) := by
  cases h with
  | error first =>
    obtain ⟨before, check, after, rfl, hrest⟩ := first
    exact .error ⟨before, check, after ++ checks', by simp, hrest⟩
  | @ok a holds result =>
    have hn := hn a result
    show Decides t s (checks ++ checks') Q (next a)
    generalize next a = r at hn ⊢
    cases hn with
    | error first =>
      obtain ⟨before, check, after, rfl, hb, hrest⟩ := first
      refine .error ⟨checks ++ before, check, after, by simp, fun c hc => ?_, hrest⟩
      exact (List.mem_append.mp hc).elim (holds c) (hb c)
    | ok holds' result' =>
      exact .ok (fun c hc => (List.mem_append.mp hc).elim (holds c) (holds' c)) result'

theorem Decides.imp {P' : α → Prop} {r : Except Failure α} (h : Decides t s checks P r)
    (hi : ∀ a, P a → P' a) : Decides t s checks P' r := by
  cases h with
  | error first => exact .error first
  | ok holds result => exact .ok holds (hi _ result)

theorem Decides.result {a : α} (h : Decides t s checks P (.ok a)) : P a := by
  cases h with
  | ok _ result => exact result

theorem Decides.isOk_iff {r : Except Failure α} (h : Decides t s checks P r) :
    (∃ a, r = .ok a) ↔ ∀ c ∈ checks, c.Holds t s := by
  cases h with
  | @ok a holds _ => exact ⟨fun _ => holds, fun _ => ⟨a, rfl⟩⟩
  | error first =>
    obtain ⟨before, check, after, rfl, -, hc, -⟩ := first
    constructor
    · rintro ⟨_, ⟨⟩⟩
    · exact fun h => absurd (h check (List.mem_append_right _ List.mem_cons_self)) hc

theorem exists_first (checks : List Check) (h : ¬ ∀ c ∈ checks, c.Holds t s) :
    ∃ before check after, checks = before ++ check :: after ∧ (∀ c ∈ before, c.Holds t s) ∧
      ¬ check.Holds t s := by
  induction checks with
  | nil => exact absurd (by simp) h
  | cons c cs ih =>
    by_cases hc : c.Holds t s
    · rw [List.forall_mem_cons, not_and] at h
      obtain ⟨before, check, after, rfl, hb, hn⟩ := ih (h hc)
      exact ⟨c :: before, check, after, rfl, List.forall_mem_cons.mpr ⟨hc, hb⟩, hn⟩
    · exact ⟨[], c, cs, rfl, by simp, hc⟩

/-- A step whose failures are all of the kind that its checks lead to. -/
theorem decides_checked {r : Except Invalid α}
    (hends : ∀ c ∈ checks, ∀ reason, c.Ends t s (.validation reason))
    (hok : ∀ a, r = .ok a → (∀ c ∈ checks, c.Holds t s) ∧ P a)
    (hall : (∀ c ∈ checks, c.Holds t s) → ∃ a, r = .ok a) :
    Decides t s checks P (Config.checked r) := by
  cases r with
  | ok a => exact .ok (hok a rfl).1 (hok a rfl).2
  | error reason =>
    obtain ⟨before, check, after, rfl, hb, hn⟩ := exists_first checks fun h => nomatch hall h
    exact .error ⟨before, check, after, rfl, hb, hn,
      hends check (List.mem_append_right _ List.mem_cons_self) reason⟩

end
end Check

namespace Config
open Check

/-! ### the steps -/

section
variable {t : Files} {s : Settings}

theorem decides_root :
    Decides t s [.root] (fun root => t.canonical s.root = .ok root) (resolveRoot t s.root) := by
  rw [resolveRoot]
  cases h : t.canonical s.root with
  | ok root => exact .ok (List.forall_mem_singleton.mpr ⟨root, h⟩) rfl
  | error cause =>
    refine .error ⟨[], .root, [], rfl, by simp, ?_, cause, h, rfl⟩
    rintro ⟨root, hr⟩
    rw [h] at hr
    cases hr

theorem resolveTemplates_iff {root dir d : Path} : resolveTemplates root dir = .ok d ↔
    (.up ∉ (root.join dir).parts ∧ root.parts <+: (root.join dir).parts) ∧ d = root.join dir := by
  rw [resolveTemplates]
  simp only [Path.isBelow, Bool.or_eq_true, List.contains_iff_mem, Bool.not_eq_true',
    Bool.eq_false_iff, ne_eq, List.isPrefixOf_iff_prefix]
  split
  · rename_i h
    constructor
    · rintro ⟨⟩
    · tauto
  · rename_i h
    rw [not_or, not_not] at h
    simp [h, eq_comm]

theorem decides_templates {root : Path} (hr : t.canonical s.root = .ok root) :
    Decides t s [.templates] (· = root.join s.templatesDir)
      (checked (resolveTemplates root s.templatesDir)) := by
  refine decides_checked (by simp [Ends]) (fun d hd => ?_) fun h => ?_
  · obtain ⟨hinside, rfl⟩ := resolveTemplates_iff.mp hd
    refine ⟨List.forall_mem_singleton.mpr fun root' hr' => ?_, rfl⟩
    rw [← Except.ok.inj (hr.symm.trans hr')]
    exact hinside
  · exact ⟨_, resolveTemplates_iff.mpr ⟨h .templates List.mem_cons_self root hr, rfl⟩⟩

theorem resolveServer_iff {raw : String} {u : Url} :
    resolveServer raw = .ok u ↔ Url.parse (Text.trim raw) = .ok (.web u) := by
  rw [resolveServer]
  cases Url.parse (Text.trim raw) with
  | error e => simp
  | ok parsed =>
    cases parsed with
    | web u => simp
    | other scheme => simp

theorem decides_server : Decides t s [.server]
    (fun u => Url.parse (Text.trim s.serverUrl) = .ok (.web u))
    (checked (resolveServer s.serverUrl)) := by
  refine decides_checked (by simp [Ends]) (fun u hu => ?_) fun h => ?_
  · have hp := resolveServer_iff.mp hu
    exact ⟨List.forall_mem_singleton.mpr ⟨u, hp, Url.scheme_of_parse hp⟩, hp⟩
  · obtain ⟨u, hu, -⟩ := h .server List.mem_cons_self
    exact ⟨u, resolveServer_iff.mpr hu⟩

theorem requireSome_iff {e : Invalid} {x y : String} :
    requireSome e x = .ok y ↔ Text.trim x ≠ "" ∧ y = Text.trim x := by
  rw [requireSome, ne_eq, ← String.isEmpty_iff]
  cases (Text.trim x).isEmpty with
  | false => simp [eq_comm]
  | true => simp

/-- A text that must not be blank. -/
theorem decides_some {check : Check} {e : Invalid} {x : String}
    (hends : ∀ reason, check.Ends t s (.validation reason))
    (hc : check.Holds t s ↔ Text.trim x ≠ "") :
    Decides t s [check] (· = Text.trim x) (checked (requireSome e x)) := by
  refine decides_checked (List.forall_mem_singleton.mpr hends) (fun y hy => ?_) fun h => ?_
  · obtain ⟨hne, rfl⟩ := requireSome_iff.mp hy
    exact ⟨List.forall_mem_singleton.mpr (hc.mpr hne), rfl⟩
  · exact ⟨_, requireSome_iff.mpr ⟨hc.mp (h check List.mem_cons_self), rfl⟩⟩

/-! ### the parameters -/

theorem decides_file : Decides t s [.file] (fun es => fileEntries t s.paramsFile = .ok es)
    (fileEntries t s.paramsFile) := by
  cases hp : s.paramsFile with
  | none =>
    refine .ok (List.forall_mem_singleton.mpr fun p h => ?_) rfl
    rw [hp] at h
    cases h
  | some p =>
    show Decides t s [.file] (fun es => Params.load t p = .ok es) (Params.load t p)
    cases h : Params.load t p with
    | ok es =>
      refine .ok (List.forall_mem_singleton.mpr fun p' hp' => ?_) rfl
      rw [← Option.some.inj (hp.symm.trans hp')]
      exact ⟨es, h⟩
    | error f =>
      refine .error ⟨[], .file, [], rfl, by simp, fun hf => ?_, p, hp, ?_⟩
      · obtain ⟨es, he⟩ := hf p hp
        rw [h] at he
        cases he
      · rw [Params.load] at h
        split at h
        · cases h
          exact .inl ⟨_, by assumption, rfl⟩
        · split at h
          · cases h
            exact .inr ⟨_, _, by assumption, by assumption, rfl⟩
          · cases h

/-- The parameters of an accepted configuration: the datasource, those of the file and those of the
assignments. Their order is that of the keys. -/
def Collects (t : Files) (s : Settings) (p : Params) : Prop :=
  ∃ es fs, fileEntries t s.paramsFile = .ok es ∧ List.Forall₂ Assigns s.assignments fs ∧
    p.entries.Perm ((datasourceKey, Text.trim s.datasource) :: (es ++ fs))

/-- The parameters before any are added: the datasource. -/
def initialParams (datasource : String) : Params where
  entries := [(datasourceKey, datasource)]
  ascending := List.pairwise_singleton _ _
  named := List.forall_mem_singleton.mpr (rfl : Params.isKey datasourceKey = true)

theorem insert_datasource (v : String) :
    Params.empty.insert datasourceKey v = .ok (initialParams v) :=
  Params.insert_eq_ok_iff.mpr ⟨(Params.isKey_iff _).mp (by decide), List.not_mem_nil, rfl⟩

theorem checked_bind {α β : Type} (r : Except Invalid α) (next : α → Except Invalid β) :
    (checked r >>= fun a => checked (next a)) = checked (r >>= next) := by
  cases r with
  | error e => rfl
  | ok a => rfl

/-- The file's entries and the assignments are added as one list. -/
theorem added_iff {p q : Params} {es : List (String × String)} {raws : List String} :
    (p.insertAll es >>= (assignAll · raws)) = .ok q ↔
      ∃ fs, List.Forall₂ Assigns raws fs ∧ p.insertAll (es ++ fs) = .ok q := by
  simp only [Params.insertAll_append]
  cases p.insertAll es with
  | error e =>
    constructor
    · rintro ⟨⟩
    · rintro ⟨_, _, ⟨⟩⟩
  | ok p => exact assignAll_eq_ok_iff

theorem givenKeys_eq {es fs : List (String × String)} (hes : fileEntries t s.paramsFile = .ok es)
    (hfs : List.Forall₂ Assigns s.assignments fs) : givenKeys t s = (es ++ fs).map (·.1) := by
  rw [givenKeys, hes, List.map_append, assigns_keys hfs]
  rfl

theorem admits_given_iff : Params.Admits [datasourceKey] (givenKeys t s) ↔
    Check.Holds t s .keys ∧ Check.Holds t s .reserved ∧ Check.Holds t s .repeated := by
  constructor
  · intro h
    exact ⟨h.isKey, fun hm => h.fresh _ hm List.mem_cons_self, h.distinct⟩
  · rintro ⟨hi, hf, hd⟩
    refine ⟨hi, fun k hk hm => hf ?_, hd⟩
    rw [← List.mem_singleton.mp hm]
    exact hk

theorem decides_added {es : List (String × String)} {datasource : String}
    (hes : fileEntries t s.paramsFile = .ok es) (hd : datasource = Text.trim s.datasource) :
    Decides t s [.assignments, .keys, .reserved, .repeated] (Collects t s)
      (checked ((initialParams datasource).insertAll es >>= (assignAll · s.assignments))) := by
  refine decides_checked (by simp [Ends]) (fun q hq => ?_) fun h => ?_
  · obtain ⟨fs, hfs, hq⟩ := added_iff.mp hq
    obtain ⟨ha, hperm⟩ := Params.insertAll_iff.mp hq
    rw [← givenKeys_eq hes hfs] at ha
    obtain ⟨hkeys, hreserved, hrepeated⟩ := admits_given_iff.mp ha
    refine ⟨?_, es, fs, hes, hfs, ?_⟩
    · simp only [List.forall_mem_cons]
      exact ⟨exists_assigned_iff.mp ⟨fs, hfs⟩, hkeys, hreserved, hrepeated, List.forall_mem_nil _⟩
    · rw [← hd]
      exact hperm.trans (List.perm_append_singleton _ _)
  · simp only [List.forall_mem_cons] at h
    obtain ⟨hassigned, hkeys, hreserved, hrepeated, -⟩ := h
    obtain ⟨fs, hfs⟩ := exists_assigned_iff.mpr hassigned
    have ha := admits_given_iff.mpr ⟨hkeys, hreserved, hrepeated⟩
    rw [givenKeys_eq hes hfs] at ha
    obtain ⟨q, hq⟩ := Params.exists_insertAll (p := initialParams datasource) ha
    exact ⟨q, added_iff.mpr ⟨fs, hfs, hq⟩⟩

theorem decides_params : Decides t s
    [.datasource, .file, .assignments, .keys, .reserved, .repeated] (Collects t s)
    (resolveParams t s) := by
  rw [resolveParams]
  refine Decides.bind [.datasource] (decides_some ?_ .rfl) fun datasource hd => ?_
  · exact fun reason => ⟨reason, rfl⟩
  rw [insert_datasource]
  show Decides t s _ _ (fileEntries t s.paramsFile >>= _)
  refine Decides.bind [.file] decides_file fun es hes => ?_
  rw [checked_bind]
  exact decides_added hes hd

/-! ### the whole -/

/-- What an accepted configuration holds. -/
structure Carries (t : Files) (s : Settings) (c : Config) : Prop where
  root : t.canonical s.root = .ok c.root
  templatesDir : c.templatesDir = c.root.join s.templatesDir
  outputDir : c.outputDir = c.root.join (s.outputDir.getD Default.outputDir)
  server : Url.parse (Text.trim s.serverUrl) = .ok (.web c.server)
  token : ∀ token, c.token = some token ↔
    ∃ raw, s.token = some raw ∧ token = Text.trim raw ∧ token ≠ ""
  params : Collects t s c.params
  image : c.image = Text.trim s.image
  runtime : c.runtime = Text.trim s.runtime
  commandSeconds : c.commandSeconds = s.commandSeconds
  httpSeconds : c.httpSeconds = s.httpSeconds
  stopOnFirstFailure : c.stopOnFirstFailure = s.stopOnFirstFailure

theorem resolveToken_iff {raw : Option String} {token : String} :
    resolveToken raw = some token ↔ ∃ x, raw = some x ∧ token = Text.trim x ∧ token ≠ "" := by
  rw [resolveToken]
  cases raw with
  | none => simp
  | some x =>
    simp only [Option.map_some, Option.filter_some, Option.some.injEq, exists_eq_left',
      Bool.not_eq_true', ← Bool.not_eq_true, String.isEmpty_iff]
    split
    · rename_i h
      rw [Option.some.injEq]
      exact ⟨fun e => ⟨e.symm, e ▸ h⟩, fun e => e.1.symm⟩
    · rename_i h
      rw [not_not] at h
      simp only [reduceCtorEq, false_iff, not_and, not_not]
      exact fun e => e.trans h

theorem decides_limits {c : Config} (h : Carries t s c) :
    Decides t s [.limits] (Carries t s) (if s.commandSeconds = 0 || s.httpSeconds = 0 then
      throw (.validation .noTimeLimit) >>= fun (_ : Unit) => pure c else pure c) := by
  split
  · rename_i hz
    refine .error ⟨[], .limits, [], rfl, List.forall_mem_nil _, fun hl => ?_, _, rfl⟩
    have hl : 1 ≤ s.commandSeconds ∧ 1 ≤ s.httpSeconds := hl
    rw [Bool.or_eq_true, decide_eq_true_eq, decide_eq_true_eq] at hz
    omega
  · rename_i hz
    refine .ok (List.forall_mem_singleton.mpr ?_) h
    rw [Bool.or_eq_true, decide_eq_true_eq, decide_eq_true_eq] at hz
    show 1 ≤ s.commandSeconds ∧ 1 ≤ s.httpSeconds
    omega

theorem decides_ofSettings : Decides t s Check.all (Carries t s) (ofSettings t s) := by
  rw [ofSettings]
  refine Decides.bind [.root] decides_root fun root hroot => ?_
  refine Decides.bind [.templates] (decides_templates hroot) fun dir hdir => ?_
  refine Decides.bind [.server] decides_server fun server hserver => ?_
  refine Decides.bind [.datasource, .file, .assignments, .keys, .reserved, .repeated]
    decides_params fun params hparams => ?_
  refine Decides.bind [.image] (decides_some (fun r => ⟨r, rfl⟩) .rfl)
    fun image himage => ?_
  refine Decides.bind [.runtime] (decides_some (fun r => ⟨r, rfl⟩) .rfl)
    fun runtime hruntime => ?_
  exact decides_limits
    { root := hroot
      templatesDir := hdir
      outputDir := rfl
      server := hserver
      token := fun _ => resolveToken_iff
      params := hparams
      image := himage
      runtime := hruntime
      commandSeconds := rfl
      httpSeconds := rfl
      stopOnFirstFailure := rfl }

/-- Settings of which every part is accepted. -/
theorem ofSettings_eq_ok {t : Files} {s : Settings} {root dir : Path} {server : Url}
    {params : Params} (hroot : t.canonical s.root = .ok root)
    (hdir : resolveTemplates root s.templatesDir = .ok dir)
    (hserver : resolveServer s.serverUrl = .ok server) (hparams : resolveParams t s = .ok params)
    (himage : Text.trim s.image ≠ "") (hruntime : Text.trim s.runtime ≠ "")
    (hlimits : 1 ≤ s.commandSeconds ∧ 1 ≤ s.httpSeconds) :
    ofSettings t s = .ok
      { root, templatesDir := dir, outputDir := root.join (s.outputDir.getD Default.outputDir),
        server, token := resolveToken s.token, params, image := Text.trim s.image,
        runtime := Text.trim s.runtime, commandSeconds := s.commandSeconds,
        httpSeconds := s.httpSeconds, stopOnFirstFailure := s.stopOnFirstFailure } := by
  have hr : resolveRoot t s.root = .ok root := by
    rw [resolveRoot, hroot]
    rfl
  have hi : requireSome .noImage s.image = .ok (Text.trim s.image) :=
    requireSome_iff.mpr ⟨himage, rfl⟩
  have hru : requireSome .noRuntime s.runtime = .ok (Text.trim s.runtime) :=
    requireSome_iff.mpr ⟨hruntime, rfl⟩
  have hl : ¬ (s.commandSeconds = 0 || s.httpSeconds = 0) = true := by
    rw [Bool.or_eq_true, decide_eq_true_eq, decide_eq_true_eq]
    omega
  rw [ofSettings, hr, hserver, hparams, hi, hru]
  show (checked (resolveTemplates root s.templatesDir) >>= fun dir =>
    if s.commandSeconds = 0 || s.httpSeconds = 0 then
      throw (.validation .noTimeLimit) >>= fun (_ : Unit) => pure _ else pure _) = _
  rw [hdir]
  exact if_neg hl

end

/-- The configuration of settings in which nothing else is given. -/
def plain (root templatesDir : Path) (server : Url) (token : Option String) : Config where
  root
  templatesDir
  outputDir := root.join Default.outputDir
  server
  token
  params := initialParams Default.datasource
  image := Default.image
  runtime := Default.runtime
  commandSeconds := Default.commandSeconds
  httpSeconds := Default.httpSeconds
  stopOnFirstFailure := true

theorem ofSettings_plain {t : Files} {r d root dir : Path} {raw : String} {server : Url}
    (token : Option String) (hroot : t.canonical r = .ok root)
    (hdir : resolveTemplates root d = .ok dir) (hserver : resolveServer raw = .ok server) :
    ofSettings t { root := r, templatesDir := d, serverUrl := raw, token } =
      .ok (plain root dir server (resolveToken token)) := by
  have hparams : resolveParams t { root := r, templatesDir := d, serverUrl := raw, token } =
      .ok (initialParams Default.datasource) := by
    have h : resolveParams {} {} = .ok (initialParams Default.datasource) := rfl
    exact h
  have himage : Text.trim Default.image = Default.image := by cbv
  have hruntime : Text.trim Default.runtime = Default.runtime := by cbv
  have hnone : Default.image ≠ "" ∧ Default.runtime ≠ "" := by decide
  have hlimits : 1 ≤ Default.commandSeconds ∧ 1 ≤ Default.httpSeconds := by decide
  have hc := ofSettings_eq_ok
    (s := { root := r, templatesDir := d, serverUrl := raw, token }) hroot hdir hserver hparams
    (by rw [himage]; exact hnone.1) (by rw [hruntime]; exact hnone.2) hlimits
  dsimp only at hc
  rw [himage, hruntime] at hc
  exact hc

/-- An address in numbers is read without the tables of names. -/
theorem resolveServer_loopback : resolveServer "http://[::1]" =
    .ok ⟨"http", "", "", "[::1]", none, "/", none, none⟩ := rfl

end Config

theorem Check.mem_all (c : Check) : c ∈ Check.all := by
  cases c <;> decide

/-- Settings are accepted if all checks hold. Otherwise the first that does not hold decides the
failure. An accepted configuration holds what the settings say; its token, if there is one, is not
blank and has no blanks around it. -/
theorem ofSettings_exact (t : Files) (s : Settings) :
    ((∃ c, Config.ofSettings t s = .ok c) ↔ ∀ check : Check, check.Holds t s) ∧
    Check.Decides t s Check.all
      (fun c => c.Carries t s ∧ ∀ token ∈ c.token, token ≠ "" ∧ Text.trim token = token)
      (Config.ofSettings t s) := by
  have h := Config.decides_ofSettings (t := t) (s := s)
  constructor
  · rw [h.isOk_iff]
    exact ⟨fun hall c => hall c c.mem_all, fun hall c _ => hall c⟩
  · refine h.imp fun c hc => ⟨hc, fun token htoken => ?_⟩
    obtain ⟨raw, -, rfl, hne⟩ := (hc.token token).mp htoken
    exact ⟨hne, Text.trim_trim raw⟩

end Dashboards
