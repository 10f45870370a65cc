import Dashboards.Proofs.Files.Walk
import Dashboards.Proofs.Text.Utf8
import Dashboards.Proofs.Validation

/-!
# Parameters from three sources

* `Params.lookup_iff`           what stands under a key;
* `Agree`                       the same result, or a refusal of the same kind;
* `insertAll_perm`, `assignAll_perm`   the order in which parameters are added makes no difference;
* `agree_ofSettings`            nor does the order of the assignments, for the whole configuration;
* `Params.IsUnion`              parameters put together from ones with different keys;
* `ofSettings_merges`           the parameters are those of the three sources, each of them once.
-/

namespace Dashboards
namespace Params

/-! ### lookups and orders -/

section
variable {k v : String} {es es' : List (String × String)} {p q : Params}

theorem nodup_keys {α : Type} {xs : List (String × α)} (h : xs.Pairwise (·.1 < ·.1)) :
    (xs.map (·.1)).Nodup :=
  List.pairwise_map.mpr (h.imp Std.ne_of_lt)

theorem lookup_iff {α : Type} {xs : List (String × α)} {x : α} (h : xs.Pairwise (·.1 < ·.1)) :
    xs.lookup k = some x ↔ (k, x) ∈ xs :=
  ⟨Files.mem_of_lookup, Files.lookup_of_mem (h.imp Std.ne_of_lt)⟩

theorem Admits.perm_keys {taken ks ks' : List String} (h : Admits taken ks) (hp : ks.Perm ks') :
    Admits taken ks' :=
  ⟨fun k hk => h.isKey k (hp.mem_iff.mpr hk), fun k hk => h.fresh k (hp.mem_iff.mpr hk),
    hp.nodup h.distinct⟩

/-- Which parameter is refused depends on the order, but not whether one is. -/
theorem insertAll_perm (h : es.Perm es') (hq : p.insertAll es = .ok q) :
    p.insertAll es' = .ok q := by
  rw [insertAll_iff] at hq ⊢
  obtain ⟨hadmits, hperm⟩ := hq
  exact ⟨hadmits.perm_keys (h.map _), hperm.trans (h.append_right _)⟩

end
end Params

namespace Config

theorem assignAll_perm {raws raws' : List String} {p q : Params} (h : raws.Perm raws')
    (hq : assignAll p raws = .ok q) : assignAll p raws' = .ok q := by
  rw [assignAll_eq_ok_iff] at hq ⊢
  obtain ⟨es, hes, hq⟩ := hq
  obtain ⟨es', hes', he⟩ := List.perm_comp_forall₂ h.symm hes
  exact ⟨es', hes', Params.insertAll_perm he.symm hq⟩

/-! ### results of the same kind -/

/-- The same result, or refusals of a configuration that may differ in the reason. -/
inductive Agree {α : Type} : Except Failure α → Except Failure α → Prop
  | same (r : Except Failure α) : Agree r r
  | refused (reason reason' : Invalid) :
      Agree (.error (.validation reason)) (.error (.validation reason'))

section
variable {α β : Type}

theorem Agree.bind {r r' : Except Failure α} (h : Agree r r') (next : α → Except Failure β) :
    Agree (r >>= next) (r' >>= next) := by
  cases h with
  | same => exact .same _
  | refused reason reason' => exact .refused reason reason'

theorem Agree.bind_right {r : Except Failure α} {next next' : α → Except Failure β}
    (h : ∀ a, r = .ok a → Agree (next a) (next' a)) : Agree (r >>= next) (r >>= next') := by
  cases r with
  | error f => exact .same _
  | ok a => exact h a rfl

theorem agree_checked {r r' : Except Invalid α} (h : ∀ a, r = .ok a ↔ r' = .ok a) :
    Agree (checked r) (checked r') := by
  cases r with
  | ok a =>
    rw [(h a).mp rfl]
    exact .same _
  | error reason =>
    cases r' with
    | ok a => cases (h a).mpr rfl
    | error reason' => exact .refused reason reason'

end

section
variable {raws : List String} (t : Files) (s : Settings)

theorem agree_params (h : raws.Perm s.assignments) :
    Agree (resolveParams t s) (resolveParams t { s with assignments := raws }) := by
  rw [resolveParams, resolveParams]
  refine Agree.bind_right fun datasource _ => ?_
  refine Agree.bind_right fun first _ => ?_
  refine Agree.bind_right fun es _ => ?_
  refine Agree.bind_right fun p _ => ?_
  exact agree_checked fun q => ⟨assignAll_perm h.symm, assignAll_perm h⟩

/-- The other checks do not look at the assignments. -/
theorem agree_ofSettings (h : raws.Perm s.assignments) :
    Agree (ofSettings t s) (ofSettings t { s with assignments := raws }) := by
  rw [ofSettings, ofSettings]
  refine Agree.bind_right fun root _ => ?_
  refine Agree.bind_right fun templatesDir _ => ?_
  refine Agree.bind_right fun server _ => ?_
  exact (agree_params t s h).bind _

end
end Config

/-! ### the union -/

/-- The parameters are these, in the order of their keys, and no two of them share a key. -/
structure Params.IsUnion (p : Params) (all : List (String × String)) : Prop where
  ascending : p.entries.Pairwise (·.1 < ·.1)
  distinct : (all.map (·.1)).Nodup
  perm : p.entries.Perm all
  get?_iff : ∀ k v, p.get? k = some v ↔ (k, v) ∈ all

theorem Params.isUnion_of_perm {p : Params} {all : List (String × String)}
    (h : p.entries.Perm all) : p.IsUnion all :=
  ⟨p.ascending, (h.map _).nodup (Params.nodup_keys p.ascending), h,
    fun _ _ => (Params.lookup_iff p.ascending).trans h.mem_iff⟩

theorem Config.isUnion_ofSettings {t : Files} {s : Settings} {c : Config}
    (hc : Config.ofSettings t s = .ok c) : ∃ es fs,
      Config.fileEntries t s.paramsFile = .ok es ∧ List.Forall₂ Assigns s.assignments fs ∧
      c.params.IsUnion ((Config.datasourceKey, Text.trim s.datasource) :: (es ++ fs)) := by
  have hd := Config.decides_ofSettings (t := t) (s := s)
  rw [hc] at hd
  obtain ⟨es, fs, hes, hfs, hperm⟩ := hd.result.params
  exact ⟨es, fs, hes, hfs, Params.isUnion_of_perm hperm⟩

/-- The parameters of an accepted configuration are the datasource, those of the file, and what the
assignments stand for; no two of all these have the same key, and none is lost, changed or added. In
another order the same assignments lead to the same configuration, or to a refusal of the same
kind. -/
theorem ofSettings_merges (t : Files) (s : Settings) :
    (∀ c, Config.ofSettings t s = .ok c → ∃ es fs,
      Config.fileEntries t s.paramsFile = .ok es ∧ List.Forall₂ Assigns s.assignments fs ∧
      c.params.IsUnion ((Config.datasourceKey, Text.trim s.datasource) :: (es ++ fs))) ∧
    ∀ raws, raws.Perm s.assignments → Config.Agree (Config.ofSettings t s)
      (Config.ofSettings t { s with assignments := raws }) :=
  ⟨fun _ hc => Config.isUnion_ofSettings hc, fun _ h => Config.agree_ofSettings t s h⟩

/-- A tree with nothing but the file `/p`. -/
def oneFile (contents : Text.Bytes) : Files where
  entries := [([[112]], .file contents false)]
  single := List.pairwise_singleton _ _

theorem entry_oneFile (contents : Text.Bytes) :
    (oneFile contents).entry ⟨[47, 112]⟩ = .ok ([[112]], .file contents false) := by cbv

theorem canonical_oneFile (contents : Text.Bytes) :
    (oneFile contents).canonical Default.root = .ok (.ofString "/") := by cbv

theorem readText_of_entry {t : Files} {p : Path} {l : Location} {text : String} {x : Bool}
    (h : t.entry p = .ok (l, .file (Text.utf8 text) x)) : t.readText p = .ok text := by
  rw [Files.readText, Files.read, h]
  dsimp only
  rw [Text.text?_eq_some_iff.mpr rfl]

theorem load_of_entry {t : Files} {p : Path} {l : Location} {text : String} {x : Bool}
    {es : List (String × String)} (hentry : t.entry p = .ok (l, .file (Text.utf8 text) x))
    (h : Params.ofText text = .ok es) : Params.load t p = .ok es := by
  rw [Params.load, readText_of_entry hentry]
  dsimp only
  rw [h]

/-- A configuration with these parameters, if the file can be loaded and they can be added. -/
theorem ofSettings_loading {t : Files} {r root dir file : Path} {assignments : List String}
    {es : List (String × String)} {p : Params} (hroot : t.canonical r = .ok root)
    (hdir : Config.resolveTemplates root Default.templatesDir = .ok dir)
    (hload : Params.load t file = .ok es)
    (hp : ((Config.initialParams "prometheus").insertAll es >>=
      (Config.assignAll · assignments)) = .ok p) :
    ∃ c, Config.ofSettings t
        { root := r, serverUrl := "http://[::1]", paramsFile := some file, assignments } = .ok c ∧
      c.params = p := by
  have hparams : Config.resolveParams t
      { root := r, serverUrl := "http://[::1]", paramsFile := some file, assignments } =
      .ok p := by
    have hdatasource : Config.requireSome .noDatasource Default.datasource = .ok "prometheus" := rfl
    show (Config.checked (Config.requireSome .noDatasource Default.datasource) >>= _) = _
    rw [hdatasource]
    show (Config.checked (Params.empty.insert Config.datasourceKey "prometheus") >>= fun p =>
      Params.load t file >>= fun es =>
        Config.checked (p.insertAll es) >>= fun p =>
          Config.checked (Config.assignAll p assignments)) = _
    rw [Config.insert_datasource, hload]
    show (Config.checked _ >>= fun p => Config.checked (Config.assignAll p assignments)) = _
    rw [Config.checked_bind]
    exact congrArg Config.checked hp
  have himage : Text.trim Default.image ≠ "" := by decide
  have hruntime : Text.trim Default.runtime ≠ "" := by decide
  have hlimits : 1 ≤ Default.commandSeconds ∧ 1 ≤ Default.httpSeconds := by decide
  exact ⟨_, Config.ofSettings_eq_ok hroot hdir Config.resolveServer_loopback hparams himage hruntime
    hlimits, rfl⟩

/-- The parameters of the file `/p` and those of assignments; all else is left as it is. -/
def fileSettings (assignments : List String) : Settings :=
  { serverUrl := "http://[::1]", paramsFile := some ⟨[47, 112]⟩, assignments }

theorem ofSettings_oneFile {text : String} {assignments : List String}
    {es : List (String × String)} {p : Params} (h : Params.ofText text = .ok es)
    (hp : ((Config.initialParams "prometheus").insertAll es >>=
      (Config.assignAll · assignments)) = .ok p) :
    ∃ c, Config.ofSettings (oneFile (Text.utf8 text)) (fileSettings assignments) = .ok c ∧
      c.params = p := by
  have hdir : Config.resolveTemplates (.ofString "/") Default.templatesDir =
      .ok (.ofString "/dashboards") := rfl
  exact ofSettings_loading (canonical_oneFile _) hdir (load_of_entry (entry_oneFile _) h) hp

theorem ok_of_toOption {ε α : Type} {r : Except ε α} {a : α} (h : r.toOption = some a) :
    r = .ok a := by
  cases r with
  | error e => cases h
  | ok b => exact congrArg Except.ok (Option.some.inj h)

/-- A value with a sign of equality and one with a blank in front, and the same in another order. -/
theorem ofSettings_merges_three :
    let t := oneFile (Text.utf8 "params:\n  b: x\n")
    let s := fileSettings ["c=1=2", " a = y"]
    ∃ c, Config.ofSettings t s = .ok c ∧ c.params.entries =
        [("a", " y"), ("b", "x"), ("c", "1=2"), ("datasource", "prometheus")] ∧
      (∃ es fs, Config.fileEntries t s.paramsFile = .ok es ∧
        List.Forall₂ Assigns s.assignments fs ∧ c.params.IsUnion
          ((Config.datasourceKey, Text.trim Default.datasource) :: (es ++ fs))) ∧
      Config.Agree (.ok c) (Config.ofSettings t { s with assignments := [" a = y", "c=1=2"] }) := by
  intro t s
  have hfile : Params.ofText "params:\n  b: x\n" = .ok [("b", "x")] :=
    ok_of_toOption (by decide +kernel)
  let p : Params :=
    { entries := [("a", " y"), ("b", "x"), ("c", "1=2"), ("datasource", "prometheus")] }
  obtain ⟨c, hc, hp⟩ : ∃ c, Config.ofSettings t s = .ok c ∧ c.params = p :=
    ofSettings_oneFile hfile (by cbv)
  obtain ⟨hunion, horder⟩ := ofSettings_merges t s
  refine ⟨c, hc, congrArg Params.entries hp, hunion c hc, ?_⟩
  rw [← hc]
  exact horder _ (.swap ..)

end Dashboards
