import Dashboards.Proofs.ContainerDirectory
import Dashboards.Proofs.Files.Directories
import Dashboards.Proofs.Overriding

/-!
# What paths of settings are relative to

The directories of settings are relative to the root, and the file of parameters is relative to the
working directory.

* `Settings.anchored`, `Settings.rooted`   the settings with their directories, or all their paths,
                                           put behind the root;
* `Files.Stands`        a location of which every name is that of a directory;
* `Files.find_behind`   there a relative path leads where it leads from the working directory;
* `Files.find_cwd`      an absolute path leads to the same place from everywhere;
* `paths_resolved`      settings and their anchored form are the same; with the file behind the root
                        too they are as long as the file has the same parameters.
-/

namespace Dashboards
open Text (Bytes)

/-- The directories put behind a root; absolute ones stay as they are. -/
def Settings.anchored (s : Settings) (root : Path) : Settings :=
  { s with templatesDir := root.join s.templatesDir, outputDir := s.outputDir.map root.join }

/-- All paths put behind a root. -/
def Settings.rooted (s : Settings) (root : Path) : Settings :=
  { s.anchored root with paramsFile := s.paramsFile.map root.join }

/-! ### paths behind an absolute one -/

namespace Path

theorem join_of_isAbsolute {base p : Path} (h : p.isAbsolute = true) : base.join p = p := by
  rw [join, if_pos h]

theorem isAbsolute_of_slash {p : Path} {bs : Bytes} (h : p.bytes = slash :: bs) :
    p.isAbsolute = true := by
  rw [isAbsolute, h, List.head?_cons]
  exact beq_self_eq_true _

section
variable {root : Path} {bs : Bytes} (h : root.bytes = slash :: bs) (p : Path)
include h

theorem isAbsolute_join_slash : (root.join p).isAbsolute = true := by
  rw [join]
  split
  · assumption
  · split
    · exact isAbsolute_of_slash (by rw [h, List.cons_append])
    · exact isAbsolute_of_slash (by rw [h, List.cons_append])

theorem join_join : root.join (root.join p) = root.join p :=
  join_of_isAbsolute (isAbsolute_join_slash h p)

end

/-- Names that stand each behind a slash. -/
theorem segments_names {ns : List Bytes} {s : Bytes} (hs : slash ∉ s) (hn : ∀ n ∈ ns, slash ∉ n) :
    segments (s ++ ns.flatMap (slash :: ·)) = s :: ns := by
  induction ns generalizing s with
  | nil => rw [List.flatMap_nil, List.append_nil, segments_of_not_mem hs]
  | cons n ns ih =>
    obtain ⟨hfirst, hrest⟩ := List.forall_mem_cons.mp hn
    rw [List.flatMap_cons, List.cons_append, segments_append, ih hfirst hrest,
      segments_of_not_mem hs]
    rfl

end Path

/-! ### walks from the working directory -/

namespace Files

/-- Every name on the way to the location is that of a directory. -/
inductive Stands (t : Files) : Location → Prop
  | root : t.Stands []
  | name {l : Location} {n : Bytes} (h : t.Stands l) (hn : Path.IsName n) (hzero : 0 ∉ n)
      (hlen : n.length ≤ 255) (hd : t.get? (l ++ [n]) = some .directory) : t.Stands (l ++ [n])

section
variable {t : Files} {l : Location}

theorem Stands.names (h : t.Stands l) : ∀ n ∈ l, Path.IsName n ∧ 0 ∉ n := by
  induction h with
  | root => exact fun n hn => absurd hn List.not_mem_nil
  | name _ hn hzero _ _ ih =>
    intro m hm
    rcases List.mem_append.mp hm with hm | hm
    · exact ih m hm
    · rw [List.mem_singleton.mp hm]
      exact ⟨hn, hzero⟩

/-- The names lead from the top to the location. -/
theorem Stands.walk (h : t.Stands l) (follow : Bool) (links : Nat) (ss : List Bytes) :
    t.walk follow links [] (l ++ ss) = t.walk follow links l ss := by
  induction h generalizing ss with
  | root => rfl
  | @name l n _ hn _ hlen hd ih =>
    have hidle : ¬ Path.isIdle n = true := by
      rw [hn.idle]
      exact Bool.false_ne_true
    have hup : ¬ isUp n = true := fun h => hn.up (of_decide_eq_true h)
    rw [List.append_assoc, ih, List.singleton_append, walk_cons, step, if_neg hidle, if_neg hup,
      if_neg (by omega), enter, hd]

theorem Stands.zero (h : t.Stands l) : 0 ∉ l.path.bytes := by
  have hall : 0 ∉ l.flatMap (Path.slash :: ·) := by
    intro hm
    obtain ⟨n, hn, hm⟩ := List.mem_flatMap.mp hm
    rcases List.mem_cons.mp hm with hz | hz
    · exact absurd hz (by decide)
    · exact (h.names n hn).2 hz
  cases l with
  | nil => decide
  | cons n l => exact hall

/-- What a relative path is when it is put behind the path of a location. -/
theorem join_location (h : t.Stands l) {p : Path} (hp : p.isAbsolute = false) :
    ∃ front, (l.path.join p).bytes = front ++ p.bytes ∧ 0 ∉ front ∧
      Path.segments (l.path.join p).bytes = [] :: (l ++ Path.segments p.bytes) := by
  rw [Path.join, if_neg (by rw [hp]; exact Bool.false_ne_true)]
  rcases List.eq_nil_or_concat l with rfl | ⟨front, n, rfl⟩
  · exact ⟨[Path.slash], rfl, by decide, Path.segments_slash _⟩
  · rw [List.concat_eq_append] at h ⊢
    have hnames := h.names
    have hlast : n ∈ front ++ [n] := List.mem_append_right _ (List.mem_singleton_self n)
    have hpath :
        (Location.path (front ++ [n])).bytes = (front ++ [n]).flatMap (Path.slash :: ·) := by
      cases front with
      | nil => rfl
      | cons m front => rfl
    have hend : ¬ ((Location.path (front ++ [n])).bytes.isEmpty ||
        (Location.path (front ++ [n])).bytes.getLast? = some Path.slash) = true := by
      rw [hpath, List.flatMap_append, List.flatMap_singleton]
      rcases List.eq_nil_or_concat n with rfl | ⟨bs, b, rfl⟩
      · exact absurd (hnames _ hlast).1.idle (by decide)
      · rw [List.concat_eq_append, ← List.cons_append, ← List.append_assoc, List.getLast?_concat]
        have hb : b ≠ Path.slash := by
          rintro rfl
          exact (hnames _ hlast).1.slash (by simp)
        simp [hb]
    have hzero := h.zero
    rw [if_neg hend]
    refine ⟨(Location.path (front ++ [n])).bytes ++ [Path.slash], ?_, ?_, ?_⟩
    · rw [List.append_assoc, List.singleton_append]
    · rw [List.mem_append, List.mem_singleton, not_or]
      exact ⟨hzero, by decide⟩
    · have hnil := Path.segments_names (s := []) List.not_mem_nil fun m hm => (hnames m hm).1.slash
      rw [List.nil_append] at hnil
      rw [Path.segments_append, hpath, hnil, List.cons_append]

/-- Behind the path of the working directory a path leads where it leads without. -/
theorem find_behind (h : t.Stands t.cwd) {p : Path} (hp : p.isAbsolute = false)
    (hne : p.bytes ≠ []) (hlen : (t.cwd.path.join p).bytes.length < 4096) (follow : Bool) :
    t.find (t.cwd.path.join p) follow = t.find p follow := by
  obtain ⟨front, hbytes, hzero, hsegments⟩ := join_location h hp
  have hroot : ∃ bs, t.cwd.path.bytes = Path.slash :: bs := by
    cases t.cwd with
    | nil => exact ⟨[], rfl⟩
    | cons n l => exact ⟨_, rfl⟩
  obtain ⟨bs, hbs⟩ := hroot
  have hwalk : t.walk follow 40 [] (Path.segments (t.cwd.path.join p).bytes) =
      t.walk follow 40 t.cwd (Path.segments p.bytes) := by
    rw [hsegments, walk_cons]
    exact h.walk follow 40 _
  have hlong : ¬ (t.cwd.path.join p).bytes.length ≥ 4096 := by omega
  have hshort : ¬ p.bytes.length ≥ 4096 := by
    rw [hbytes, List.length_append] at hlen
    omega
  have hnul : (t.cwd.path.join p).bytes.contains 0 = p.bytes.contains 0 := by
    rw [hbytes, Bool.eq_iff_iff, List.contains_iff_mem, List.contains_iff_mem, List.mem_append]
    exact or_iff_right hzero
  have hsome : (t.cwd.path.join p).bytes.isEmpty = false := by
    rw [hbytes, List.isEmpty_eq_false_iff]
    exact fun e => hne (List.append_eq_nil_iff.mp e).2
  rw [find, find, hnul, hsome, List.isEmpty_eq_false_iff.mpr hne,
    Path.isAbsolute_join_slash hbs p, hp, if_neg hlong, if_neg hshort, if_pos rfl, hwalk]
  rfl

end

/-! ### other working directories -/

section
variable (t : Files) (cwd : Location)

theorem walk_cwd (follow : Bool) (links : Nat) (here : Location) (ss : List Bytes) :
    ({ t with cwd } : Files).walk follow links here ss = t.walk follow links here ss := by
  induction links, here, ss using walk_induction t follow with
  | nil links here => rw [walk_nil, walk_nil]
  | cons links here s rest ih =>
    have hstep : ({ t with cwd } : Files).step follow links here s rest =
        t.step follow links here s rest := rfl
    rw [walk_cons, walk_cons, hstep]
    cases e : t.step follow links here s rest with
    | done r => rfl
    | go links' here' rest' => exact ih links' here' rest' e

theorem find_cwd {p : Path} (hp : p.isAbsolute = true) (follow : Bool) :
    ({ t with cwd } : Files).find p follow = t.find p follow := by
  rw [find, find, hp, if_pos rfl, if_pos rfl, walk_cwd]

end
end Files

/-! ### the configuration -/

namespace Config
variable {t : Files} {s : Settings} {root : Path} {c : Config}

/-- Two files from which the same parameters are loaded, or neither can be. -/
def SameEntries (t : Files) (file file' : Option Path) : Prop :=
  (fileEntries t file).toOption = (fileEntries t file').toOption

/-- Paths behind the root are put behind it again by the checks, and stay what they are. -/
theorem ofSettings_anchored (h : t.canonical s.root = .ok root) :
    ofSettings t (s.anchored root) = ofSettings t s := by
  obtain ⟨bs, hbs⟩ := canonical_slash h
  have hroot : resolveRoot t s.root = .ok root := by
    rw [resolveRoot, h]
    rfl
  have htemplates : resolveTemplates root (s.anchored root).templatesDir =
      resolveTemplates root s.templatesDir := by
    show resolveTemplates root (root.join s.templatesDir) = _
    rw [resolveTemplates, resolveTemplates, Path.join_join hbs]
  have houtput : root.join ((s.anchored root).outputDir.getD Default.outputDir) =
      root.join (s.outputDir.getD Default.outputDir) := by
    show root.join ((s.outputDir.map root.join).getD Default.outputDir) = _
    cases s.outputDir with
    | none => rfl
    | some dir => exact Path.join_join hbs dir
  show (resolveRoot t s.root >>= fun root' => _) = resolveRoot t s.root >>= fun root' => _
  rw [hroot]
  show (checked (resolveTemplates root (s.anchored root).templatesDir) >>= fun dir => _) =
    checked (resolveTemplates root s.templatesDir) >>= fun dir => _
  rw [htemplates, houtput]
  rfl

/-- Of a file the checks see the parameters only. -/
theorem ofSettings_file {file : Option Path} (hc : ofSettings t s = .ok c)
    (h : SameEntries t file s.paramsFile) : ofSettings t { s with paramsFile := file } = .ok c := by
  obtain ⟨es, fs, hes, -⟩ := isUnion_ofSettings hc
  rw [SameEntries, hes] at h
  have hfile : fileEntries t file = fileEntries t s.paramsFile := by
    rw [ok_of_toOption h, hes]
  have hparams : resolveParams t { s with paramsFile := file } = resolveParams t s := by
    rw [resolveParams, resolveParams, hfile]
  rw [ofSettings] at hc ⊢
  rw [hparams]
  exact hc

theorem entries_ascending {es : List (String × String)} (h : fileEntries t s.paramsFile = .ok es) :
    es.Pairwise (·.1 < ·.1) :=
  (keeps_file h).ascending

/-- And it sees all of them. -/
theorem sameEntries_of_ofSettings {file : Option Path} (hc : ofSettings t s = .ok c)
    (hc' : ofSettings t { s with paramsFile := file } = .ok c) :
    SameEntries t file s.paramsFile := by
  obtain ⟨es, fs, hes, hfs, hunion⟩ := isUnion_ofSettings hc
  obtain ⟨es', fs', hes', hfs', hunion'⟩ := isUnion_ofSettings hc'
  have hunique : Relator.RightUnique Assigns := by
    intro raw e e' he he'
    rw [← parseAssignment_eq_ok_iff] at he he'
    exact Except.ok.inj (he.symm.trans he')
  obtain rfl := List.right_unique_forall₂' hunique hfs hfs'
  have hperm : es.Perm es' :=
    (List.perm_append_right_iff fs).mp (hunion.perm.symm.trans hunion'.perm).cons_inv
  rw [SameEntries, hes, hes',
    Params.eq_of_ascending (entries_ascending hes) (entries_ascending hes') hperm]

theorem ofSettings_rooted (h : t.canonical s.root = .ok root) : ofSettings t (s.rooted root) =
    ofSettings t { s with paramsFile := s.paramsFile.map root.join } :=
  ofSettings_anchored (s := { s with paramsFile := s.paramsFile.map root.join }) h

theorem ofSettings_rooted_iff (h : t.canonical s.root = .ok root)
    (hsame : SameEntries t (s.rooted root).paramsFile s.paramsFile) (c : Config) :
    ofSettings t (s.rooted root) = .ok c ↔ ofSettings t s = .ok c := by
  rw [ofSettings_rooted h]
  constructor
  · intro hc
    exact ofSettings_file (s := { s with paramsFile := s.paramsFile.map root.join }) hc hsame.symm
  · exact fun hc => ofSettings_file hc hsame

/-- An absolute path is the same behind the root. -/
theorem map_join_of_isAbsolute {file : Option Path}
    (h : ∀ p, file = some p → p.isAbsolute = true) : file.map root.join = file := by
  cases file with
  | none => rfl
  | some p => exact congrArg some (Path.join_of_isAbsolute (h p rfl))

theorem load_congr {p p' : Path} (h : t.find p' = t.find p) :
    (Params.load t p').toOption = (Params.load t p).toOption := by
  have hentry : t.entry p' = t.entry p := by
    rw [Files.entry, Files.entry, h]
  have hread : t.readText p' = t.readText p := by
    rw [Files.readText, Files.readText, Files.read, Files.read, hentry]
  rw [Params.load, Params.load, hread]
  cases t.readText p with
  | error cause => rfl
  | ok text => rfl

/-- In the working directory itself the file is the same behind the root and without it. -/
theorem sameEntries_cwd (hroot : t.cwd.path = root) (hstands : t.Stands t.cwd)
    (hfile : ∀ p, s.paramsFile = some p → p.bytes ≠ [] ∧ (root.join p).bytes.length < 4096) :
    SameEntries t (s.rooted root).paramsFile s.paramsFile := by
  show SameEntries t (s.paramsFile.map root.join) s.paramsFile
  cases hp : s.paramsFile with
  | none => rfl
  | some p =>
    obtain ⟨hne, hlen⟩ := hfile p hp
    rw [Option.map_some]
    cases ha : p.isAbsolute with
    | true => rw [Path.join_of_isAbsolute ha, SameEntries]
    | false =>
      subst hroot
      exact load_congr (Files.find_behind hstands ha hne hlen true)

theorem ofSettings_cwd (cwd : Location) (hroot : s.root.isAbsolute = true)
    (hfile : ∀ p, s.paramsFile = some p → p.isAbsolute = true) :
    ofSettings { t with cwd } s = ofSettings t s := by
  have hentry : ∀ {p : Path}, p.isAbsolute = true →
      ({ t with cwd } : Files).entry p = t.entry p := by
    intro p hp
    rw [Files.entry, Files.entry, Files.find_cwd t cwd hp]
  have hresolve : resolveRoot { t with cwd } s.root = resolveRoot t s.root := by
    rw [resolveRoot, resolveRoot, Files.canonical, Files.canonical, hentry hroot]
  have hentries : fileEntries { t with cwd } s.paramsFile = fileEntries t s.paramsFile := by
    cases hp : s.paramsFile with
    | none => rfl
    | some p =>
      show Params.load { t with cwd } p = Params.load t p
      rw [Params.load, Params.load, Files.readText, Files.readText, Files.read, Files.read,
        hentry (hfile p hp)]
  have hparams : resolveParams { t with cwd } s = resolveParams t s := by
    rw [resolveParams, resolveParams, hentries]
  rw [ofSettings, ofSettings, hresolve, hparams]

end Config

theorem ofText_one : Params.ofText "params:\n  a: 1\n" = .ok [("a", "1")] :=
  ok_of_toOption (by decide +kernel)

/-- Directories that are put behind the root make no difference to the checks. When the file of
parameters is put there too, an accepted configuration stays the same just if the same parameters
are loaded from there: the file, and nothing else, is looked for from the working directory. An
absolute path leads to the same file, and so does any other when the root is the working directory.
With all paths behind a root that is absolute, nothing depends on the working directory. -/
theorem paths_resolved {t : Files} {s : Settings} {root : Path}
    (h : t.canonical s.root = .ok root) :
    Config.ofSettings t (s.anchored root) = Config.ofSettings t s ∧
    (∀ c, Config.ofSettings t s = .ok c → (Config.ofSettings t (s.rooted root) = .ok c ↔
      Config.SameEntries t (s.rooted root).paramsFile s.paramsFile)) ∧
    (∀ c, Config.ofSettings t (s.rooted root) = .ok c → (Config.ofSettings t s = .ok c ↔
      Config.SameEntries t (s.rooted root).paramsFile s.paramsFile)) ∧
    ((∀ p, s.paramsFile = some p → p.isAbsolute = true) →
      Config.ofSettings t (s.rooted root) = Config.ofSettings t s) ∧
    (t.cwd.path = root → t.Stands t.cwd →
      (∀ p, s.paramsFile = some p → p.bytes ≠ [] ∧ (root.join p).bytes.length < 4096) →
        ∀ c, Config.ofSettings t (s.rooted root) = .ok c ↔ Config.ofSettings t s = .ok c) ∧
    (s.root.isAbsolute = true → ∀ cwd, Config.ofSettings { t with cwd } (s.rooted root) =
      Config.ofSettings t (s.rooted root)) := by
  have hrooted := Config.ofSettings_rooted h
  refine ⟨Config.ofSettings_anchored h, fun c hc => ⟨fun hc' => ?_, fun hsame => ?_⟩,
    fun c hc' => ⟨fun hc => ?_, fun hsame => ?_⟩, fun habs => ?_, fun hroot hstands hfile => ?_,
    fun habs cwd => ?_⟩
  · rw [hrooted] at hc'
    exact Config.sameEntries_of_ofSettings hc hc'
  · exact (Config.ofSettings_rooted_iff h hsame c).mpr hc
  · rw [hrooted] at hc'
    exact Config.sameEntries_of_ofSettings hc hc'
  · exact (Config.ofSettings_rooted_iff h hsame c).mp hc'
  · rw [hrooted, Config.map_join_of_isAbsolute habs]
  · exact Config.ofSettings_rooted_iff h (Config.sameEntries_cwd hroot hstands hfile)
  · obtain ⟨bs, hbs⟩ := canonical_slash h
    refine Config.ofSettings_cwd cwd habs fun p hp => ?_
    obtain ⟨file, -, rfl⟩ := Option.map_eq_some_iff.mp hp
    exact Path.isAbsolute_join_slash hbs file

/-- A file next to the directory of the templates, in a root that is the working directory. -/
theorem paths_resolved_here :
    let t := oneFile (Text.utf8 "params:\n  a: 1\n")
    let s : Settings := { fileSettings [] with paramsFile := some (.ofString "p") }
    ∃ c, Config.ofSettings t s = .ok c ∧ Config.ofSettings t (s.rooted (.ofString "/")) = .ok c ∧
      c.params.get? "a" = some "1" := by
  intro t s
  let p : Params := { entries := [("a", "1"), ("datasource", "prometheus")] }
  obtain ⟨c, hc, hparams⟩ : ∃ c, Config.ofSettings t (fileSettings []) = .ok c ∧ c.params = p :=
    ofSettings_oneFile ofText_one (by cbv)
  have hroot : t.canonical Default.root = .ok (.ofString "/") := canonical_oneFile _
  have hsame : (fileSettings []).rooted (.ofString "/") = s.rooted (.ofString "/") := by decide
  obtain ⟨-, -, -, habs, -, -⟩ := paths_resolved (s := fileSettings []) hroot
  have hrooted := habs fun p hp => by
    rw [← Option.some.inj hp]
    rfl
  obtain ⟨-, -, -, -, hhere, -⟩ := paths_resolved (s := s) hroot
  rw [hsame, hc] at hrooted
  refine ⟨c, (hhere rfl .root (fun p hp => ?_) c).mp hrooted, hrooted, by rw [hparams]; decide⟩
  rw [← Option.some.inj hp]
  decide

/-- From another directory the file in the root is not found. -/
theorem paths_resolved_fails : ¬ ∀ (t : Files) (s : Settings) (root : Path),
    t.canonical s.root = .ok root → ∀ c, Config.ofSettings t (s.rooted root) = .ok c ↔
      Config.ofSettings t s = .ok c := by
  intro hall
  let tree (contents : Bytes) : Files :=
    { entries := [([[112]], .file contents false), ([[100]], .directory)]
      cwd := [[100]]
      single := List.pairwise_pair.mpr (show ([[112]] : Location) ≠ [[100]] by decide) }
  let s : Settings :=
    { root := .ofString "/", serverUrl := "http://[::1]", paramsFile := some (.ofString "p") }
  have hroot : ∀ contents, (tree contents).canonical (.ofString "/") = .ok (.ofString "/") :=
    fun contents => by cbv
  have hentry : ∀ contents, (tree contents).entry (.ofString "/p") =
      .ok ([[112]], .file contents false) := fun contents => by cbv
  have hnone : ∀ contents, (tree contents).entry (.ofString "p") = .error .noEntry :=
    fun contents => by cbv
  have hdir : Config.resolveTemplates (.ofString "/") Default.templatesDir =
      .ok (.ofString "/dashboards") := rfl
  let t := tree (Text.utf8 "params:\n  a: 1\n")
  let p : Params := { entries := [("a", "1"), ("datasource", "prometheus")] }
  obtain ⟨c, hc, -⟩ : ∃ c, Config.ofSettings t { s with paramsFile := some (.ofString "/p") } =
        .ok c ∧ c.params = p :=
    ofSettings_loading (hroot _) hdir (load_of_entry (hentry _) ofText_one) (by cbv)
  have hrooted : Config.ofSettings t (s.rooted (.ofString "/")) = .ok c := by
    rw [Config.ofSettings_rooted (hroot _)]
    exact hc
  obtain ⟨es, -, hes, -⟩ := Config.isUnion_ofSettings ((hall t s _ (hroot _) c).mp hrooted)
  have hload : Params.load t (.ofString "p") = .error (.io (.ofString "p") .noEntry) := by
    rw [Params.load, Files.readText, Files.read, hnone]
  cases hload.symm.trans hes

end Dashboards
