import Dashboards.Toolchain
import Dashboards.Proofs.Path.Relative
import Dashboards.Proofs.Text.Utf8
import Dashboards.Proofs.Validation

/-!
# Directories in containers

A tool that is called from the directory of the templates works in the directory of a container that
the same names lead to.

* `Toolchain.Offers`      the calls that are built from a call of a tool;
* `Command.WorksIn`       the directory of a container that a call asks for;
* `Config.Descends`       the names that lead from the root to the templates;
* `mounted`, `unmounted`  from names to a directory in a container, and from there to a path outside;
* `container_directory`   the directory asked for is the one for these names, lies at or below the
                          mount point, and leads back to the templates.
-/

namespace Dashboards
open Text (Bytes)

/-- A call of a tool, and what becomes of it when arguments and a cleanup are added. -/
inductive Toolchain.Offers (t : Toolchain) : Command → Prop
  | tool (program : String) : t.Offers (t.tool program)
  | arg {c : Command} (h : t.Offers c) (a : String) : t.Offers (c.arg a)
  | withArgs {c : Command} (h : t.Offers c) (as : List String) : t.Offers (c.withArgs as)
  | cleanup {c : Command} (h : t.Offers c) (k : Command) : t.Offers (c.cleanupOnTimeout k)

/-- The call starts a container that works in this directory. -/
def Command.WorksIn (c : Command) (dir : String) : Prop :=
  ∃ name mount rest, c.args =
    "run" :: "--rm" :: "--init" :: "--name" :: name :: "-v" :: mount :: "-w" :: dir :: rest

/-- The names lead from the root to the directory of the templates. -/
def Config.Descends (c : Config) (names : List String) : Prop :=
  c.templatesDir.parts = c.root.parts ++ names.map fun n => .name (Text.utf8 n)

/-- The directory that the names lead to in a container. -/
def mounted (names : List String) : String := mountPoint ++ String.join (names.map ("/" ++ ·))

/-- A path in a container as it is outside, with the root in place of the mount point. -/
def unmounted (root : Path) (dir : String) : Path :=
  ⟨root.bytes ++ (Text.utf8 dir).drop (Text.utf8 mountPoint).length⟩

/-! ### names -/

theorem utf8_names (names : List String) :
    Text.utf8 (String.join (names.map ("/" ++ ·))) =
      (names.map Text.utf8).flatMap (Path.slash :: ·) := by
  induction names with
  | nil => rfl
  | cons n names ih =>
    have hslash : Text.utf8 "/" = [Path.slash] := by decide
    rw [List.map_cons, String.join_cons, Text.utf8_append, Text.utf8_append, ih, hslash,
      List.map_cons, List.flatMap_cons]
    rfl

section
variable {names : List String} (hn : ∀ n ∈ names, Path.IsName (Text.utf8 n))
include hn

theorem parts_mounted : (Path.ofString (mounted names)).parts =
    (Path.ofString mountPoint).parts ++ names.map fun n => .name (Text.utf8 n) := by
  have hb : (Path.ofString mountPoint).bytes ≠ [] := by decide
  have hns : ∀ n ∈ names.map Text.utf8, Path.IsName n := by
    intro n hm
    obtain ⟨s, hs, rfl⟩ := List.mem_map.mp hm
    exact hn s hs
  have hp := Path.parts_behind hb hns
  rw [List.map_map] at hp
  rw [Path.ofString, mounted, Text.utf8_append, utf8_names]
  exact hp

theorem parts_unmounted {root : Path} (hr : root.bytes ≠ []) :
    (unmounted root (mounted names)).parts =
      root.parts ++ names.map fun n => .name (Text.utf8 n) := by
  have hns : ∀ n ∈ names.map Text.utf8, Path.IsName n := by
    intro n hm
    obtain ⟨s, hs, rfl⟩ := List.mem_map.mp hm
    exact hn s hs
  have hp := Path.parts_behind hr hns
  rw [List.map_map] at hp
  rw [unmounted, mounted, Text.utf8_append, List.drop_left, utf8_names]
  exact hp

/-- Names are never left out: they are not empty. -/
theorem containerDir_names {relative : Path}
    (hp : relative.parts = names.map fun n => .name (Text.utf8 n)) :
    Toolchain.containerDir relative = mounted names := by
  rw [Toolchain.containerDir, hp, mounted]
  clear hp
  generalize mountPoint = dir
  induction names generalizing dir with
  | nil => rw [List.map_nil, List.map_nil, String.join_nil, String.append_empty]; rfl
  | cons n names ih =>
    obtain ⟨hfirst, hrest⟩ := List.forall_mem_cons.mp hn
    have hne : ¬ n.isEmpty = true := by
      intro he
      have hidle := hfirst.idle
      rw [String.isEmpty_iff.mp he] at hidle
      exact absurd hidle (by decide)
    rw [List.map_cons, List.map_cons, List.foldl_cons, String.join_cons, ih hrest]
    show (if (Text.lossy (Text.utf8 n)).isEmpty = true then dir
      else dir ++ "/" ++ Text.lossy (Text.utf8 n)) ++ _ = _
    rw [Text.lossy_utf8, if_neg hne, String.append_assoc, String.append_assoc, String.append_assoc]

end

/-! ### calls of tools -/

theorem workingDir_offers {t : Toolchain} {c : Command} (h : t.Offers c) :
    c.workingDir = t.templatesDir := by
  induction h with
  | tool program => rfl
  | arg _ _ ih => exact ih
  | withArgs _ _ ih => exact ih
  | cleanup _ _ ih => exact ih

/-- In a container there is one directory that a call works in. -/
theorem worksIn_route {t : Toolchain} {image : String} (ht : t.mode = .containerized image)
    (name : String) (c : Command) (dir : String) : (t.route name c).WorksIn dir ↔
      dir = Toolchain.containerDir (c.workingDir.relativeTo t.root) := by
  rw [Toolchain.route, ht]
  constructor
  · rintro ⟨name', mount, rest, e⟩
    injection e with _ e
    injection e with _ e
    injection e with _ e
    injection e with _ e
    injection e with _ e
    injection e with _ e
    injection e with _ e
    injection e with _ e
    injection e with e _
    exact e.symm
  · rintro rfl
    exact ⟨name, t.root.shown ++ ":" ++ mountPoint, image :: c.program :: c.args, rfl⟩

/-! ### accepted configurations -/

theorem canonical_slash {t : Files} {p root : Path} (h : t.canonical p = .ok root) :
    ∃ bs, root.bytes = Path.slash :: bs := by
  rw [Files.canonical] at h
  cases he : t.entry p with
  | error cause =>
    rw [he] at h
    cases h
  | ok x =>
    rw [he] at h
    cases h
    show ∃ bs, x.1.path.bytes = Path.slash :: bs
    cases x.1 with
    | nil => exact ⟨[], rfl⟩
    | cons n l => exact ⟨_, rfl⟩

section
variable {t : Files} {s : Settings} {c : Config}

theorem root_slash (h : Config.ofSettings t s = .ok c) :
    ∃ bs, c.root.bytes = Path.slash :: bs := by
  have hd := Config.decides_ofSettings (t := t) (s := s)
  rw [h] at hd
  exact canonical_slash hd.result.root

theorem root_ne_nil (h : Config.ofSettings t s = .ok c) : c.root.bytes ≠ [] := by
  obtain ⟨bs, e⟩ := root_slash h
  rw [e]
  exact List.cons_ne_nil _ _

/-- Below the root there are only names, and they are what the root sees of the templates. -/
theorem templates_below (h : Config.ofSettings t s = .ok c) :
    ∃ ns : List Bytes, (∀ n ∈ ns, Path.IsName n) ∧
      c.templatesDir.parts = c.root.parts ++ ns.map .name ∧
      (c.templatesDir.relativeTo c.root).parts = ns.map .name := by
  have hd := Config.decides_ofSettings (t := t) (s := s)
  have hchecks := hd.isOk_iff.mp ⟨c, h⟩
  rw [h] at hd
  have hc := hd.result
  obtain ⟨hup, hinside⟩ := hchecks .templates (Check.mem_all .templates) c.root hc.root
  rw [← hc.templatesDir] at hup hinside
  exact Path.relativeTo_names (root_ne_nil h) hinside hup

theorem descends_names (h : Config.ofSettings t s = .ok c) {names : List String}
    (hd : c.Descends names) : (∀ n ∈ names, Path.IsName (Text.utf8 n)) ∧
      (c.templatesDir.relativeTo c.root).parts = names.map fun n => .name (Text.utf8 n) := by
  obtain ⟨ns, hns, hp, hr⟩ := templates_below h
  have hsame : ns.map Path.Part.name = names.map fun n => .name (Text.utf8 n) :=
    List.append_cancel_left (hp.symm.trans hd)
  refine ⟨fun n hn => hns _ ?_, hr.trans hsame⟩
  have hm : Path.Part.name (Text.utf8 n) ∈ ns.map Path.Part.name := by
    rw [hsame]
    exact List.mem_map.mpr ⟨n, hn, rfl⟩
  obtain ⟨m, hm, e⟩ := List.mem_map.mp hm
  rwa [← Path.Part.name.inj e]

end

/-- From the root of an accepted configuration only names lead to its templates. When they are
texts, every call of a tool works in just the directory of its container that these names lead to
from the mount point. With the root in place of the mount point it is the directory of the
templates, and no other directory of templates below that root has the same. -/
theorem container_directory {t : Files} {s : Settings} {c : Config}
    (h : Config.ofSettings t s = .ok c) :
    (∃ ns : List Bytes, (∀ n ∈ ns, Path.IsName n) ∧
      c.templatesDir.parts = c.root.parts ++ ns.map .name) ∧
    ∀ names, c.Descends names →
      (∀ image name k, (Toolchain.ofMode c (.containerized image)).Offers k → ∀ dir,
        ((Toolchain.ofMode c (.containerized image)).route name k).WorksIn dir ↔
          dir = mounted names) ∧
      (Path.ofString (mounted names)).parts =
        (Path.ofString mountPoint).parts ++ names.map (fun n => .name (Text.utf8 n)) ∧
      (unmounted c.root (mounted names)).parts = c.templatesDir.parts ∧
      ∀ t' s' c' names', Config.ofSettings t' s' = .ok c' → c'.root = c.root →
        c'.Descends names' → ∀ image name k,
          (Toolchain.ofMode c' (.containerized image)).Offers k →
          ((Toolchain.ofMode c' (.containerized image)).route name k).WorksIn (mounted names) →
            c'.templatesDir.parts = c.templatesDir.parts := by
  obtain ⟨ns, hns, hp, _⟩ := templates_below h
  refine ⟨⟨ns, hns, hp⟩, fun names hd => ?_⟩
  have hworks : ∀ {t : Files} {s : Settings} {c : Config} {names : List String},
      Config.ofSettings t s = .ok c → c.Descends names → ∀ image name k,
      (Toolchain.ofMode c (.containerized image)).Offers k → ∀ dir,
        ((Toolchain.ofMode c (.containerized image)).route name k).WorksIn dir ↔
          dir = mounted names := by
    intro t s c names h hd image name k hk dir
    obtain ⟨hn, hr⟩ := descends_names h hd
    rw [worksIn_route rfl, workingDir_offers hk]
    show dir = Toolchain.containerDir (c.templatesDir.relativeTo c.root) ↔ _
    rw [containerDir_names hn hr]
  have hback : ∀ {t : Files} {s : Settings} {c : Config} {names : List String},
      Config.ofSettings t s = .ok c → c.Descends names →
        (unmounted c.root (mounted names)).parts = c.templatesDir.parts := by
    intro t s c names h hd
    rw [parts_unmounted (descends_names h hd).1 (root_ne_nil h)]
    exact hd.symm
  refine ⟨hworks h hd, parts_mounted (descends_names h hd).1, hback h hd, ?_⟩
  intro t' s' c' names' h' hroot hd' image name k hk hw
  have hsame := (hworks h' hd' image name k hk _).mp hw
  rw [← hback h hd, ← hback h' hd', hroot, hsame]

/-- Two spellings of a directory, one seen from the root and one from the top. -/
theorem container_directory_spelled :
    let t : Files := { entries := [([[114]], .directory)] }
    let s : Settings := { root := .ofString "r/.", templatesDir := .ofString "./a//é/."
                          serverUrl := "http://[::1]" }
    let s' : Settings := { root := .ofString "/r", templatesDir := .ofString "//r/a/./é//"
                           serverUrl := "http://[::1]" }
    ∃ c c', Config.ofSettings t s = .ok c ∧ Config.ofSettings t s' = .ok c' ∧
      c.Descends ["a", "é"] ∧ c'.Descends ["a", "é"] ∧
      ((Toolchain.ofMode c (.containerized c.image)).route "n"
        ((Toolchain.ofMode c (.containerized c.image)).tool compiler)).WorksIn "/workspace/a/é" ∧
      c'.templatesDir.parts = c.templatesDir.parts := by
  intro t s s'
  have hroot : t.canonical (.ofString "r/.") = .ok (.ofString "/r") := by cbv
  have hroot' : t.canonical (.ofString "/r") = .ok (.ofString "/r") := by cbv
  have hdir : Config.resolveTemplates (.ofString "/r") (.ofString "./a//é/.") =
      .ok (.ofString "/r/./a//é/.") := by decide
  have hdir' : Config.resolveTemplates (.ofString "/r") (.ofString "//r/a/./é//") =
      .ok (.ofString "//r/a/./é//") := by decide
  obtain ⟨c, h, hc, hr⟩ : ∃ c, Config.ofSettings t s = .ok c ∧ c.Descends ["a", "é"] ∧
      c.root = .ofString "/r" := by
    refine ⟨_, Config.ofSettings_plain none hroot hdir Config.resolveServer_loopback, ?_, rfl⟩
    show (Path.ofString "/r/./a//é/.").parts = (Path.ofString "/r").parts ++
      ["a", "é"].map fun n => .name (Text.utf8 n)
    decide
  obtain ⟨c', h', hc', hr'⟩ : ∃ c, Config.ofSettings t s' = .ok c ∧ c.Descends ["a", "é"] ∧
      c.root = .ofString "/r" := by
    refine ⟨_, Config.ofSettings_plain none hroot' hdir' Config.resolveServer_loopback, ?_, rfl⟩
    show (Path.ofString "//r/a/./é//").parts = (Path.ofString "/r").parts ++
      ["a", "é"].map fun n => .name (Text.utf8 n)
    decide
  have hmounted : mounted ["a", "é"] = "/workspace/a/é" := by decide
  obtain ⟨hworks, _, _, hsame⟩ := (container_directory h).2 _ hc
  have hworks' : ((Toolchain.ofMode c' (.containerized c'.image)).route "n"
      ((Toolchain.ofMode c' (.containerized c'.image)).tool compiler)).WorksIn
        (mounted ["a", "é"]) :=
    (((container_directory h').2 _ hc').1 _ "n" _ (.tool compiler) _).mpr rfl
  refine ⟨c, c', h, h', hc, hc', (hworks c.image "n" _ (.tool compiler) _).mpr hmounted.symm, ?_⟩
  exact hsame t s' c' _ h' (hr'.trans hr.symm) hc' c'.image "n" _ (.tool compiler) hworks'

end Dashboards
