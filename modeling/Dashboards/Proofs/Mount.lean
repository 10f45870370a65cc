import Dashboards.Proofs.ContainerDirectory

/-!
# Volumes of containers

A volume is given to a container as one text, whose fields stand between colons: a path outside, the
place in the container, and options if there is a third.

* `Command.Mounts`    the volume that a call gives to its container;
* `volumeFields`      the fields of a volume;
* `Binds`             the volume stands for one path, mounted at one place, without options;
* `root_mounted`      what the volume of a routed call stands for: the root, when the root is a text
                      without colons, and only then.
-/

namespace Dashboards
open Text (Bytes)

/-- The call starts a container with this volume. -/
def Command.Mounts (c : Command) (volume : String) : Prop :=
  ∃ name rest, c.args = "run" :: "--rm" :: "--init" :: "--name" :: name :: "-v" :: volume :: rest

/-- What stands between the colons of a volume. -/
def volumeFields (volume : String) : List String :=
  (volume.toList.splitOn ':').map String.ofList

/-- The volume stands for this path, byte for byte, mounted at this place. -/
def Binds (volume : String) (p : Path) (place : String) : Prop :=
  ∃ host, volumeFields volume = [host, place] ∧ Path.ofString host = p

/-! ### fields -/

theorem volumeFields_append (v w : String) :
    volumeFields (v ++ ":" ++ w) = volumeFields v ++ volumeFields w := by
  have hcolon : ":".toList = [':'] := rfl
  have hcut := List.splitOnP_append_cons (p := (· == ':')) v.toList w.toList (beq_self_eq_true ':')
  rw [volumeFields, String.toList_append, String.toList_append, hcolon, List.append_assoc,
    List.singleton_append, List.splitOn, hcut, List.map_append]
  rfl

theorem volumeFields_plain {v : String} (h : ':' ∉ v.toList) : volumeFields v = [v] := by
  have hsplit : v.toList.splitOn ':' = [v.toList] := by
    refine List.splitOnP_eq_singleton fun c hc => beq_eq_false_iff_ne.mpr ?_
    rintro rfl
    exact h hc
  rw [volumeFields, hsplit, List.map_singleton, String.ofList_toList]

/-- At a colon a text falls into two parts, each with a field at least. -/
theorem length_volumeFields (v : String) :
    (volumeFields v).length = v.toList.count ':' + 1 := by
  rw [volumeFields, List.length_map]
  generalize v.toList = cs
  induction cs with
  | nil => rfl
  | cons c cs ih =>
    rw [List.splitOn, List.splitOnP_cons_eq_if_modifyHead, List.count_cons]
    rw [List.splitOn] at ih
    by_cases hc : (c == ':') = true
    · rw [if_pos hc, if_pos hc, List.length_cons, ih]
    · rw [if_neg hc, if_neg hc, List.length_modifyHead, ih]

theorem volumeFields_eq_singleton_iff {v w : String} :
    volumeFields v = [w] ↔ w = v ∧ ':' ∉ v.toList := by
  constructor
  · intro h
    have hlength := length_volumeFields v
    rw [h, List.length_singleton] at hlength
    have hnot : ':' ∉ v.toList := List.count_eq_zero.mp (by omega)
    rw [volumeFields_plain hnot] at h
    exact ⟨(List.cons.inj h).1.symm, hnot⟩
  · rintro ⟨rfl, h⟩
    exact volumeFields_plain h

/-- What a volume starts with, up to a colon, its first field starts with. -/
theorem volumeFields_head {v : String} {c : Char} {cs : List Char} (hv : v.toList = c :: cs)
    (hc : c ≠ ':') :
    ∃ field rest, volumeFields v = field :: rest ∧ field.toList.head? = some c := by
  rw [volumeFields, hv, List.splitOn, List.splitOnP_cons_eq_if_modifyHead,
    if_neg (by rwa [beq_iff_eq])]
  cases h : cs.splitOnP (· == ':') with
  | nil => exact absurd h (List.splitOnP_ne_nil _ _)
  | cons field rest =>
    refine ⟨String.ofList (c :: field), rest.map String.ofList, rfl, ?_⟩
    rw [String.toList_ofList, List.head?_cons]

/-! ### the volume of a root -/

theorem volumeFields_root (root : Path) :
    volumeFields (root.shown ++ ":" ++ mountPoint) = volumeFields root.shown ++ [mountPoint] := by
  rw [volumeFields_append, volumeFields_plain (v := mountPoint) (by decide)]

theorem binds_iff {root p : Path} {place : String} :
    Binds (root.shown ++ ":" ++ mountPoint) p place ↔
      ':' ∉ root.shown.toList ∧ p = .ofString root.shown ∧ place = mountPoint := by
  rw [Binds, volumeFields_root]
  constructor
  · rintro ⟨host, h, rfl⟩
    have happend : volumeFields root.shown ++ [mountPoint] = [host] ++ [place] := h
    obtain ⟨h, hplace⟩ := List.append_inj' happend rfl
    obtain ⟨rfl, hnot⟩ := volumeFields_eq_singleton_iff.mp h
    exact ⟨hnot, rfl, (List.cons.inj hplace).1.symm⟩
  · rintro ⟨hnot, rfl, rfl⟩
    exact ⟨root.shown, by rw [volumeFields_plain hnot]; rfl, rfl⟩

theorem shown_ofString (s : String) : (Path.ofString s).shown = s := Text.lossy_utf8 s

theorem binds_root_iff {root : Path} : Binds (root.shown ++ ":" ++ mountPoint) root mountPoint ↔
    ∃ text, root = .ofString text ∧ ':' ∉ text.toList := by
  rw [binds_iff]
  constructor
  · rintro ⟨hnot, hroot, _⟩
    exact ⟨root.shown, hroot, hnot⟩
  · rintro ⟨text, rfl, hnot⟩
    rw [shown_ofString]
    exact ⟨hnot, rfl, rfl⟩

theorem mounts_route {t : Toolchain} {image : String} (ht : t.mode = .containerized image)
    (name : String) (c : Command) (volume : String) :
    (t.route name c).Mounts volume ↔ volume = t.root.shown ++ ":" ++ mountPoint := by
  rw [Toolchain.route, ht]
  constructor
  · rintro ⟨name', rest, e⟩
    injection e with _ e
    injection e with _ e
    injection e with _ e
    injection e with _ e
    injection e with _ e
    injection e with _ e
    injection e with e _
    exact e.symm
  · rintro rfl
    exact ⟨name, _, rfl⟩

theorem shown_slash {root : Path} {bs : Bytes} (h : root.bytes = Path.slash :: bs) :
    ∃ cs, root.shown.toList = '/' :: cs := by
  have hchunk : Text.Utf8.chunk Path.slash bs = .char '/' bs := rfl
  rw [Path.shown, h, Text.lossy, String.toList_ofList, Text.pieces]
  split
  · rename_i c rest hc
    rw [hchunk] at hc
    cases hc
    exact ⟨_, rfl⟩
  · rename_i hc
    rw [hchunk] at hc
    cases hc

/-- A path that is written with a slash in front starts at the root. -/
theorem isAbsolute_ofString {v : String} (h : v.toList.head? = some '/') :
    (Path.ofString v).isAbsolute = true := by
  obtain ⟨cs, hcs⟩ := List.head?_eq_some_iff.mp h
  rw [Path.isAbsolute, Path.ofString, Text.utf8, hcs, List.flatMap_cons]
  rfl

/-- A call that is made in a container mounts one volume, and says of it that the root of the
repository is mounted at the mount point: the first field is a path outside, not the name of a
volume that the runtime keeps, and the last the mount point. The volume stands for a path without
options just if there is no colon in the root as it is shown. It stands for the root itself just if
that is a text without colons: a colon splits the root over several fields, and bytes that are no
text are shown as others. -/
theorem root_mounted {t : Files} {s : Settings} {c : Config} (h : Config.ofSettings t s = .ok c)
    (image name : String) (logical : Command) :
    ∃ volume,
      (∀ v, ((Toolchain.ofMode c (.containerized image)).route name logical).Mounts v ↔
        v = volume) ∧
      (∃ host rest, volumeFields volume = host :: rest ∧ (Path.ofString host).isAbsolute = true) ∧
      (volumeFields volume).getLast? = some mountPoint ∧
      (volumeFields volume).length = c.root.shown.toList.count ':' + 2 ∧
      (∀ p place, Binds volume p place ↔
        ':' ∉ c.root.shown.toList ∧ p = .ofString c.root.shown ∧ place = mountPoint) ∧
      (Binds volume c.root mountPoint ↔ ∃ text, c.root = .ofString text ∧ ':' ∉ text.toList) := by
  refine ⟨c.root.shown ++ ":" ++ mountPoint, mounts_route rfl name logical, ?_, ?_, ?_,
    fun p place => binds_iff, binds_root_iff⟩
  · obtain ⟨bs, hbs⟩ := root_slash h
    obtain ⟨cs, hcs⟩ := shown_slash hbs
    obtain ⟨host, rest, hfields, hhead⟩ := volumeFields_head hcs (by decide)
    refine ⟨host, rest ++ [mountPoint], ?_, isAbsolute_ofString hhead⟩
    rw [volumeFields_root, hfields]
    rfl
  · rw [volumeFields_root, List.getLast?_concat]
  · rw [volumeFields_root, List.length_append, length_volumeFields, List.length_singleton]

/-- Blanks, options of calls and other letters in a root do no harm. -/
theorem root_mounted_blank :
    let t : Files := { entries := [([Text.utf8 "-v é"], .directory)] }
    let s : Settings := { root := .ofString "-v é", serverUrl := "http://[::1]" }
    ∃ c, Config.ofSettings t s = .ok c ∧ c.root = .ofString "/-v é" ∧ ∃ volume,
      ((Toolchain.ofMode c (.containerized "img")).route "n"
        ((Toolchain.ofMode c (.containerized "img")).tool installer)).Mounts volume ∧
      Binds volume c.root mountPoint := by
  intro t s
  have hroot : t.canonical (.ofString "-v é") = .ok (.ofString "/-v é") := by cbv
  have hdir : Config.resolveTemplates (.ofString "/-v é") Default.templatesDir =
      .ok (.ofString "/-v é/dashboards") := by decide
  have h := Config.ofSettings_plain none hroot hdir Config.resolveServer_loopback
  refine ⟨_, h, rfl, ?_⟩
  obtain ⟨volume, hmounts, _, _, _, _, hbinds⟩ := root_mounted h "img" "n"
    ((Toolchain.ofMode _ (.containerized "img")).tool installer)
  exact ⟨volume, (hmounts volume).mpr rfl, hbinds.mpr ⟨"/-v é", rfl, by decide⟩⟩

/-- With a colon in its name the root is no field of its volume. -/
theorem root_mounted_fails : ¬ ∀ (t : Files) (s : Settings) (c : Config) (image name : String)
    (logical : Command) (volume : String), Config.ofSettings t s = .ok c →
      ((Toolchain.ofMode c (.containerized image)).route name logical).Mounts volume →
        Binds volume c.root mountPoint := by
  intro hall
  let t : Files := { entries := [([Text.utf8 "re:po"], .directory)] }
  have hroot : t.canonical (.ofString "re:po") = .ok (.ofString "/re:po") := by cbv
  have hdir : Config.resolveTemplates (.ofString "/re:po") Default.templatesDir =
      .ok (.ofString "/re:po/dashboards") := by decide
  have h := Config.ofSettings_plain none hroot hdir Config.resolveServer_loopback
  have hnot : ':' ∉ (Path.ofString "/re:po").shown.toList :=
    (binds_iff.mp (hall t _ _ "img" "n" (.new installer (.ofString "/re:po")) _ h
      ((mounts_route rfl _ _ _).mpr rfl))).1
  rw [shown_ofString] at hnot
  exact hnot (by decide)

end Dashboards
