import Dashboards.Cli.Job
import Dashboards.Proofs.Files.Walk
import Dashboards.Proofs.Text.Split
import Mathlib.Data.List.Pairwise

/-!
# Options with and without a command

A run is asked for by its options alone, or by the name of the command in front of them.

* `Spelled`             an option as it is spelled in arguments;
* `readArgs_spelled`    what is read of such options: they are added one by one;
* `Accepted`, `Suits`   options and environments that hold no value that is refused;
* `Chosen`              a setting from its option, else from its variable, else its default;
* `FromOptions`         the settings of a run, all of them chosen;
* `run_options`         with and without the command, each setting is chosen for itself.
-/

namespace Dashboards
namespace Cli

/-! ### spelling -/

/-- An option of a run with its value: behind a sign of equality, or in an argument of its own. -/
structure Spelled where
  opt : Opt
  value : String
  joined : Bool := false
  known : opt ∈ Opt.ofRun
  /-- An option that takes nothing stands without a value. -/
  empty : opt.taken = .nothing → value = ""
deriving DecidableEq

namespace Spelled

def args (w : Spelled) : List String :=
  if w.opt.taken = .nothing then ["--" ++ w.opt.name]
  else if w.joined then ["--" ++ w.opt.name ++ "=" ++ w.value]
  else ["--" ++ w.opt.name, w.value]

/-- What is given when the option is read behind those that have been given before. -/
def addTo (w : Spelled) (g : Given) : Except Misuse Given :=
  if !w.joined && looksLikeOption w.value then .error (.missingValue w.opt.name)
  else g.add w.opt w.value

end Spelled

theorem longOption?_eq {a : String} {cs : List Char} (h : a.toList = '-' :: '-' :: cs) :
    longOption? a = (match cs.drop (cs.takeWhile (· ≠ '=')).length with
      | _ :: value =>
        some (String.ofList (cs.takeWhile (· ≠ '=')), some (String.ofList value))
      | [] => some (String.ofList (cs.takeWhile (· ≠ '=')), none)) := by
  rw [longOption?, h]
  rfl

section
variable {name : String} (h : '=' ∉ name.toList)
include h

theorem longOption?_flag : longOption? ("--" ++ name) = some (name, none) := by
  have hlist : ("--" ++ name).toList = '-' :: '-' :: name.toList := String.toList_append
  rw [longOption?_eq hlist, List.takeWhile_eq_self_iff.mpr (Text.ne_equals h), List.drop_length,
    String.ofList_toList]

theorem longOption?_joined (value : String) :
    longOption? ("--" ++ name ++ "=" ++ value) = some (name, some value) := by
  have hlist : ("--" ++ name ++ "=" ++ value).toList =
      '-' :: '-' :: (name.toList ++ '=' :: value.toList) := by
    rw [String.toList_append, String.toList_append, String.toList_append, List.append_assoc]
    rfl
  rw [longOption?_eq hlist, Text.takeWhile_stop (Text.ne_equals h) (by decide), List.drop_left,
    String.ofList_toList]
  dsimp only
  rw [String.ofList_toList]

end

theorem names_ofRun : ∀ o ∈ Opt.ofRun, '=' ∉ o.name.toList ∧ o.name ≠ "" ∧ o.name ≠ "help" ∧
    o.name ≠ "version" ∧ Opt.ofRun.find? (·.name = o.name) = some o := by
  decide

theorem head_of_longOption? {a : String} {r : String × Option String}
    (h : longOption? a = some r) : a.toList.head? = some '-' := by
  rw [longOption?] at h
  split at h
  · rename_i hlist
    rw [hlist]
    rfl
  · cases h

/-- The texts name commands, so that no option is one of them. -/
def NoOptions (cs : List String) : Prop := ∀ c ∈ cs, c.toList.head? ≠ some '-'

theorem noOptions_commands : NoOptions commands := by
  rw [NoOptions]
  decide

section
variable {cs : List String} (hcs : NoOptions cs)
include hcs

/-- An argument that holds a long option is read as that option. -/
theorem readArgs_long {o : Opt} (ho : o ∈ Opt.ofRun) (v : Option String) {a : String} (g : Given)
    (as : List String) : longOption? a = some (o.name, v) →
    readArgs Opt.ofRun cs g (a :: as) = (match o.taken, v with
      | .nothing, some _ => .error (.unexpectedValue o.name)
      | .nothing, none => do readArgs Opt.ofRun cs (← g.add o "") as
      | _, some v => do readArgs Opt.ofRun cs (← g.add o v) as
      | _, none => match as with
        | [] => .error (.missingValue o.name)
        | v :: as =>
          if looksLikeOption v then .error (.missingValue o.name)
          else do readArgs Opt.ofRun cs (← g.add o v) as) := by
  intro ha
  obtain ⟨-, hne, hhelp, hversion, hfind⟩ := names_ofRun o ho
  have hcommand : cs.contains a = false := by
    rw [List.contains_eq_mem, decide_eq_false_iff_not]
    exact fun hmem => hcs a hmem (head_of_longOption? ha)
  have hend : a ≠ "--" := by
    rintro rfl
    have hnil : longOption? "--" = some ("", none) := by decide
    exact hne (Prod.mk.inj (Option.some.inj (hnil.symm.trans ha))).1.symm
  have hread := readArgs.eq_def Opt.ofRun cs g (a :: as)
  simp only [hcommand, hend, ha, hhelp, hversion, hfind, if_false, Bool.false_eq_true,
    decide_false, Bool.false_and] at hread
  exact hread

/-- What a name without a value is read as. -/
theorem readArgs_nothing {o : Opt} (ho : o ∈ Opt.ofRun) (hn : o.taken = .nothing) (g : Given)
    (as : List String) : readArgs Opt.ofRun cs g (("--" ++ o.name) :: as) =
      g.add o "" >>= fun g => readArgs Opt.ofRun cs g as := by
  rw [readArgs_long hcs ho none g as (longOption?_flag (names_ofRun o ho).1), hn]

theorem readArgs_joined {o : Opt} (ho : o ∈ Opt.ofRun) (hn : o.taken ≠ .nothing) (value : String)
    (g : Given) (as : List String) :
    readArgs Opt.ofRun cs g (("--" ++ o.name ++ "=" ++ value) :: as) =
      g.add o value >>= fun g => readArgs Opt.ofRun cs g as := by
  rw [readArgs_long hcs ho (some value) g as (longOption?_joined (names_ofRun o ho).1 value)]
  cases ht : o.taken with
  | nothing => exact absurd ht hn
  | _ => rfl

theorem readArgs_apart {o : Opt} (ho : o ∈ Opt.ofRun) (hn : o.taken ≠ .nothing) (value : String)
    (g : Given) (as : List String) :
    readArgs Opt.ofRun cs g (("--" ++ o.name) :: value :: as) =
      if looksLikeOption value then .error (.missingValue o.name)
      else g.add o value >>= fun g => readArgs Opt.ofRun cs g as := by
  rw [readArgs_long hcs ho none g (value :: as) (longOption?_flag (names_ofRun o ho).1)]
  cases ht : o.taken with
  | nothing => exact absurd ht hn
  | _ => rfl

/-- One option is read after the other. -/
theorem readArgs_step (w : Spelled) (g : Given) (as : List String) :
    readArgs Opt.ofRun cs g (w.args ++ as) =
      w.addTo g >>= fun g => readArgs Opt.ofRun cs g as := by
  obtain ⟨o, value, joined, ho, hempty⟩ := w
  rw [Spelled.args, Spelled.addTo]
  dsimp only
  by_cases hn : o.taken = .nothing
  · have hplain : looksLikeOption "" = false := by decide
    obtain rfl : value = "" := hempty hn
    rw [if_pos hn, hplain, Bool.and_false]
    exact readArgs_nothing hcs ho hn g as
  · rw [if_neg hn]
    cases joined with
    | true => exact readArgs_joined hcs ho hn value g as
    | false =>
      rw [if_neg Bool.false_ne_true]
      refine (readArgs_apart hcs ho hn value g as).trans ?_
      cases looksLikeOption value <;> rfl

/-- Options are read to the end, whatever commands there are. -/
theorem readArgs_spelled (ws : List Spelled) (g : Given) :
    readArgs Opt.ofRun cs g (ws.flatMap Spelled.args) =
      Reading.options <$> ws.foldlM (fun g w => w.addTo g) g := by
  induction ws generalizing g with
  | nil => rw [List.flatMap_nil, readArgs.eq_def]; rfl
  | cons w ws ih =>
    rw [List.flatMap_cons, readArgs_step hcs, List.foldlM_cons, map_bind]
    exact congrArg (w.addTo g >>= ·) (funext ih)

end

/-! ### what is accepted -/

/-- Each option has a value that it takes, and none is there twice but the one for texts. -/
structure Accepted (ws : List Spelled) : Prop where
  values : ∀ w ∈ ws, w.opt.check w.value = .ok ()
  plain : ∀ w ∈ ws, w.joined = false → looksLikeOption w.value = false
  once : ws.Pairwise fun w w' => w.opt = w'.opt → w.opt.taken = .texts

/-- The variables that stand in for options hold values that these take. -/
def Suits (env : List (String × String)) : Prop :=
  ∀ o ∈ Opt.ofRun, ∀ x v, o.environment = some x → env.lookup x = some v → o.check v = .ok ()

def given (ws : List Spelled) : Given := ws.map fun w => (w.opt, w.value)

theorem Accepted.tail {w : Spelled} {ws : List Spelled} (h : Accepted (w :: ws)) : Accepted ws :=
  ⟨(List.forall_mem_cons.mp h.values).2, (List.forall_mem_cons.mp h.plain).2,
    (List.pairwise_cons.mp h.once).2⟩

theorem Accepted.perm {ws ws' : List Spelled} (h : Accepted ws) (hp : ws.Perm ws') :
    Accepted ws' where
  values w hw := h.values w (hp.mem_iff.mpr hw)
  plain w hw := h.plain w (hp.mem_iff.mpr hw)
  once := (hp.pairwise_iff fun hr e => e ▸ hr e.symm).mp h.once

theorem addTo_of_accepted {w : Spelled} {g : Given} (hvalue : w.opt.check w.value = .ok ())
    (hplain : w.joined = false → looksLikeOption w.value = false)
    (hg : g.has w.opt = true → w.opt.taken = .texts) :
    w.addTo g = .ok (g ++ [(w.opt, w.value)]) := by
  have hfront : (!w.joined && looksLikeOption w.value) = false := by
    cases hj : w.joined with
    | true => rfl
    | false => exact hplain hj
  have htwice : ¬ (w.opt.taken ≠ .texts && g.has w.opt) = true := by
    rw [Bool.and_eq_true, decide_eq_true_iff]
    exact fun h => h.1 (hg h.2)
  rw [Spelled.addTo, hfront, if_neg Bool.false_ne_true, Given.add]
  exact (if_neg htwice).trans (by rw [hvalue]; rfl)

/-- What is accepted is given as it stands, behind what has been given before. -/
theorem foldlM_addTo {ws : List Spelled} {g : Given} (h : Accepted ws)
    (hg : ∀ w ∈ ws, g.has w.opt = true → w.opt.taken = .texts) :
    ws.foldlM (fun g w => w.addTo g) g = .ok (g ++ given ws) := by
  induction ws generalizing g with
  | nil => rw [given, List.map_nil, List.append_nil]; rfl
  | cons w ws ih =>
    obtain ⟨hw, hws⟩ := List.forall_mem_cons.mp hg
    have hadd := addTo_of_accepted (h.values w List.mem_cons_self)
      (h.plain w List.mem_cons_self) hw
    have hrest : ∀ w' ∈ ws, Given.has (g ++ [(w.opt, w.value)]) w'.opt = true →
        w'.opt.taken = .texts := by
      intro w' hw' hhas
      rw [Given.has, List.any_append, Bool.or_eq_true] at hhas
      rcases hhas with hhas | hhas
      · exact hws w' hw' hhas
      · have he : w.opt = w'.opt := by simpa using hhas
        exact he ▸ (List.pairwise_cons.mp h.once).1 w' hw' he
    rw [List.foldlM_cons, hadd]
    refine (ih h.tail hrest).trans ?_
    rw [List.append_assoc]
    rfl

theorem checkEnvironment_of_suits {env : List (String × String)} (g : Given) {os : List Opt}
    (h : ∀ o ∈ os, ∀ x v, o.environment = some x → env.lookup x = some v → o.check v = .ok ()) :
    checkEnvironment g env os = .ok () := by
  induction os with
  | nil => rfl
  | cons o os ih =>
    obtain ⟨ho, hos⟩ := List.forall_mem_cons.mp h
    rw [checkEnvironment, ih hos]
    cases hv : o.environment.bind (List.lookup · env) with
    | none => cases g.has o <;> rfl
    | some v =>
      obtain ⟨x, hx, hv⟩ := Option.bind_eq_some_iff.mp hv
      dsimp only
      rw [ho x v hx hv]
      cases g.has o <;> rfl

/-! ### with and without the command -/

section
variable {env : List (String × String)} (henv : Suits env) (ws : List Spelled)
include henv

/-- Without a command the options are those of a run. -/
theorem ofArgs_options : Ask.ofArgs (ws.flatMap Spelled.args) env =
    (fun g => .job (runJob env g)) <$> ws.foldlM (fun g w => w.addTo g) [] := by
  rw [Ask.ofArgs, readArgs_spelled noOptions_commands]
  cases ws.foldlM (fun g w => w.addTo g) [] with
  | error m => rfl
  | ok g =>
    show (checkEnvironment g env Opt.ofRun >>= fun _ => _) = _
    rw [checkEnvironment_of_suits g henv]
    rfl

theorem jobOf_options : jobOf env Opt.ofRun (runJob env) (ws.flatMap Spelled.args) =
    (fun g => .job (runJob env g)) <$> ws.foldlM (fun g w => w.addTo g) [] := by
  rw [jobOf, readArgs_spelled (List.forall_mem_nil _)]
  cases ws.foldlM (fun g w => w.addTo g) [] with
  | error m => rfl
  | ok g =>
    show (checkEnvironment g env Opt.ofRun >>= fun _ => _) = _
    rw [checkEnvironment_of_suits g henv]
    rfl

/-- The command reads the same options. -/
theorem ofArgs_command : Ask.ofArgs ("run" :: ws.flatMap Spelled.args) env =
    (fun g => .job (runJob env g)) <$> ws.foldlM (fun g w => w.addTo g) [] := by
  have hread : readArgs Opt.ofRun commands [] ("run" :: ws.flatMap Spelled.args) =
      .ok (.command [] "run" (ws.flatMap Spelled.args)) := by
    rw [readArgs.eq_def]
    rfl
  rw [Ask.ofArgs, hread]
  show (jobOf env Opt.ofRun (runJob env) (ws.flatMap Spelled.args) >>= fun ask => _) = _
  rw [jobOf_options henv]
  cases ws.foldlM (fun g w => w.addTo g) [] with
  | error m => rfl
  | ok g =>
    show (checkEnvironment [] env Opt.ofRun >>= fun _ => _) = _
    rw [checkEnvironment_of_suits [] henv]
    rfl

end

/-- What is accepted becomes a run. -/
theorem ofArgs_accepted {env : List (String × String)} (henv : Suits env) {ws : List Spelled}
    (h : Accepted ws) : Ask.ofArgs (ws.flatMap Spelled.args) env =
      .ok (.job (runJob env (given ws))) := by
  rw [ofArgs_options henv, foldlM_addTo (g := []) h fun _ _ hw => absurd hw Bool.false_ne_true]
  rfl

/-! ### settings -/

/-- How a setting comes about: from its option, else from the variable for it, else it is the
default. -/
inductive Chosen {α : Type} (env : List (String × String)) (ws : List Spelled) (o : Opt)
    (read : String → Option α) (default : α) : α → Prop
  | flag {w : Spelled} {a : α} (hw : w ∈ ws) (ho : w.opt = o) (ha : read w.value = some a) :
      Chosen env ws o read default a
  | environment {x v : String} {a : α} (hno : ∀ w ∈ ws, w.opt ≠ o) (hx : o.environment = some x)
      (hv : env.lookup x = some v) (ha : read v = some a) : Chosen env ws o read default a
  | default (hno : ∀ w ∈ ws, w.opt ≠ o) (hx : ∀ x, o.environment = some x → env.lookup x = none) :
      Chosen env ws o read default default

/-- A run with its settings and the place of its report, all chosen from options and variables. -/
structure FromOptions (env : List (String × String)) (ws : List Spelled) (s : Settings)
    (report : Option Path) : Prop where
  root : Chosen env ws .root (some ∘ Path.ofString) Default.root s.root
  templatesDir :
    Chosen env ws .templatesDir (some ∘ Path.ofString) Default.templatesDir s.templatesDir
  outputDir : Chosen env ws .outputDir (some ∘ some ∘ Path.ofString) none s.outputDir
  serverUrl : Chosen env ws .serverUrl some Default.serverUrl s.serverUrl
  token : Chosen env ws .token (some ∘ some) none s.token
  datasource : Chosen env ws .datasource some Default.datasource s.datasource
  image : Chosen env ws .image some Default.image s.image
  runtime : Chosen env ws .runtime some Default.runtime s.runtime
  assignments : s.assignments = (ws.filter (·.opt = .assignment)).map (·.value)
  paramsFile : Chosen env ws .paramsFile (some ∘ some ∘ Path.ofString) none s.paramsFile
  commandSeconds :
    Chosen env ws .commandSeconds seconds? Default.commandSeconds s.commandSeconds
  httpSeconds : Chosen env ws .httpSeconds seconds? Default.httpSeconds s.httpSeconds
  stopOnFirstFailure : s.stopOnFirstFailure = false ↔ ∃ w ∈ ws, w.opt = .keepGoing
  report : Chosen env ws .report (some ∘ some ∘ Path.ofString) none report

section
variable {env : List (String × String)} {ws : List Spelled} {o : Opt} {α : Type}
  {read : String → Option α} {default : α}

/-- What is chosen does not depend on the order of the options. -/
theorem Chosen.perm {ws' : List Spelled} {a : α} (h : Chosen env ws o read default a)
    (hp : ws.Perm ws') : Chosen env ws' o read default a := by
  cases h with
  | flag hw ho ha => exact .flag (hp.mem_iff.mp hw) ho ha
  | environment hno hx hv ha =>
    exact .environment (fun w hw => hno w (hp.mem_iff.mpr hw)) hx hv ha
  | default hno hx => exact .default (fun w hw => hno w (hp.mem_iff.mpr hw)) hx

theorem Accepted.eq_of_opt (h : Accepted ws) {w w' : Spelled} (hw : w ∈ ws) (hw' : w' ∈ ws)
    (ho : w.opt = w'.opt) (ht : w.opt.taken ≠ .texts) : w = w' := by
  have hsymm : Std.Symm fun w w' : Spelled => w.opt = w'.opt → w.opt.taken = .texts :=
    ⟨fun _ _ hr e => e ▸ hr e.symm⟩
  by_contra hne
  exact ht (h.once.forall hw hw' hne ho)

/-- Nothing else is chosen. -/
theorem Chosen.unique (h : Accepted ws) (ht : o.taken ≠ .texts) {a b : α}
    (ha : Chosen env ws o read default a) (hb : Chosen env ws o read default b) : a = b := by
  cases ha with
  | flag hw ho ha =>
    cases hb with
    | flag hw' ho' hb =>
      obtain rfl := h.eq_of_opt hw hw' (ho.trans ho'.symm) (ho ▸ ht)
      exact Option.some.inj (ha.symm.trans hb)
    | environment hno _ _ _ => exact absurd ho (hno _ hw)
    | default hno _ => exact absurd ho (hno _ hw)
  | environment hno hx hv ha =>
    cases hb with
    | flag hw ho _ => exact absurd ho (hno _ hw)
    | environment _ hx' hv' hb =>
      obtain rfl := Option.some.inj (hx.symm.trans hx')
      obtain rfl := Option.some.inj (hv.symm.trans hv')
      exact Option.some.inj (ha.symm.trans hb)
    | default _ hunset => cases (hunset _ hx).symm.trans hv
  | default hno hunset =>
    cases hb with
    | flag hw ho _ => exact absurd ho (hno _ hw)
    | environment _ hx hv _ => cases (hunset _ hx).symm.trans hv
    | default _ _ => rfl

theorem exists_of_lookup {v : String} (h : (given ws).lookup o = some v) :
    ∃ w ∈ ws, w.opt = o ∧ w.value = v := by
  obtain ⟨w, hw, he⟩ := List.mem_map.mp (Files.mem_of_lookup h)
  exact ⟨w, hw, (Prod.mk.inj he).1, (Prod.mk.inj he).2⟩

theorem none_of_lookup (h : (given ws).lookup o = none) : ∀ w ∈ ws, w.opt ≠ o := by
  intro w hw he
  have hne := List.lookup_eq_none_iff.mp h _ (List.mem_map_of_mem hw)
  exact bne_iff_ne.mp hne he.symm

/-- What the option, the variable or the default gives is chosen. -/
theorem chosen_value? (h : Accepted ws) (henv : Suits env) (ho : o ∈ Opt.ofRun)
    (hread : ∀ v, o.check v = .ok () → ∃ a, read v = some a) :
    Chosen env ws o read default ((((given ws).value? env o).bind read).getD default) := by
  rw [Given.value?]
  cases hl : (given ws).lookup o with
  | some v =>
    obtain ⟨w, hw, rfl, rfl⟩ := exists_of_lookup hl
    obtain ⟨a, ha⟩ := hread _ (h.values w hw)
    show Chosen env ws w.opt read default ((read w.value).getD default)
    rw [ha]
    exact .flag hw rfl ha
  | none =>
    have hno := none_of_lookup hl
    cases hv : o.environment.bind (List.lookup · env) with
    | none => exact .default hno fun x hx => by rwa [hx] at hv
    | some v =>
      obtain ⟨x, hx, hv⟩ := Option.bind_eq_some_iff.mp hv
      obtain ⟨a, ha⟩ := hread v (henv o ho x v hx hv)
      show Chosen env ws o read default ((read v).getD default)
      rw [ha]
      exact .environment hno hx hv ha

end

section
variable {env : List (String × String)} {ws : List Spelled} (h : Accepted ws) (henv : Suits env)
  {o : Opt} (ho : o ∈ Opt.ofRun)
include h henv ho

theorem chosen_text (default : String) :
    Chosen env ws o some default (textOf env (given ws) o default) := by
  have hc : Chosen env ws o some default _ := chosen_value? h henv ho fun v _ => ⟨v, rfl⟩
  rwa [Option.bind_fun_some] at hc

theorem chosen_path (default : Path) :
    Chosen env ws o (some ∘ Path.ofString) default (pathOf env (given ws) o default) := by
  have hc : Chosen env ws o (some ∘ Path.ofString) default _ :=
    chosen_value? h henv ho fun v _ => ⟨.ofString v, rfl⟩
  rwa [← Option.map_eq_bind] at hc

theorem chosen_seconds (ht : o.taken = .seconds) (default : Nat) :
    Chosen env ws o seconds? default (secondsOf env (given ws) o default) := by
  refine chosen_value? h henv ho fun v hv => ?_
  rw [Opt.check, ht] at hv
  cases hn : seconds? v with
  | none => rw [hn] at hv; cases hv
  | some n => exact ⟨n, rfl⟩

/-- A setting that is there only if it is given. -/
theorem chosen_some {α : Type} (f : String → α) :
    Chosen env ws o (some ∘ some ∘ f) none (((given ws).value? env o).map f) := by
  have hc : Chosen env ws o (some ∘ some ∘ f) none _ :=
    chosen_value? h henv ho fun v _ => ⟨some (f v), rfl⟩
  have he : (((given ws).value? env o).bind (some ∘ some ∘ f)).getD none =
      ((given ws).value? env o).map f := by
    cases (given ws).value? env o <;> rfl
  rwa [he] at hc

end

theorem values_given (ws : List Spelled) (o : Opt) :
    (given ws).values o = (ws.filter (·.opt = o)).map (·.value) := by
  rw [Given.values, given, List.filterMap_map, ← List.filterMap_eq_map, List.filterMap_filter]
  refine congrArg (List.filterMap · ws) (funext fun w => ?_)
  by_cases hw : w.opt = o
  · exact (if_pos hw).trans (if_pos (decide_eq_true hw)).symm
  · exact (if_neg hw).trans (if_neg fun h => hw (of_decide_eq_true h)).symm

theorem has_given (ws : List Spelled) (o : Opt) :
    (given ws).has o = true ↔ ∃ w ∈ ws, w.opt = o := by
  rw [Given.has, given, List.any_map, List.any_eq_true]
  exact exists_congr fun w => and_congr_right fun _ => decide_eq_true_iff

theorem FromOptions.perm {env : List (String × String)} {ws ws' : List Spelled} {s : Settings}
    {report : Option Path} (hs : FromOptions env ws s report) (hp : ws.Perm ws')
    (ha : ws'.filter (·.opt = .assignment) = ws.filter (·.opt = .assignment)) :
    FromOptions env ws' s report where
  root := hs.root.perm hp
  templatesDir := hs.templatesDir.perm hp
  outputDir := hs.outputDir.perm hp
  serverUrl := hs.serverUrl.perm hp
  token := hs.token.perm hp
  datasource := hs.datasource.perm hp
  image := hs.image.perm hp
  runtime := hs.runtime.perm hp
  assignments := ha ▸ hs.assignments
  paramsFile := hs.paramsFile.perm hp
  commandSeconds := hs.commandSeconds.perm hp
  httpSeconds := hs.httpSeconds.perm hp
  stopOnFirstFailure :=
    hs.stopOnFirstFailure.trans (exists_congr fun _ => and_congr_left fun _ => hp.mem_iff)
  report := hs.report.perm hp

section
variable {env : List (String × String)} {ws : List Spelled} (h : Accepted ws)
include h

/-- The settings of a run are chosen, each for itself. -/
theorem fromOptions (henv : Suits env) : FromOptions env ws (settingsOf env (given ws))
    (((given ws).value? env .report).map Path.ofString) where
  root := chosen_path h henv (by decide) _
  templatesDir := chosen_path h henv (by decide) _
  outputDir := chosen_some h henv (by decide) _
  serverUrl := chosen_text h henv (by decide) _
  token := by
    have hc := chosen_some h henv (o := .token) (by decide) id
    rwa [Option.map_id] at hc
  datasource := chosen_text h henv (by decide) _
  image := chosen_text h henv (by decide) _
  runtime := chosen_text h henv (by decide) _
  assignments := values_given ws _
  paramsFile := chosen_some h henv (by decide) _
  commandSeconds := chosen_seconds h henv (by decide) rfl _
  httpSeconds := chosen_seconds h henv (by decide) rfl _
  stopOnFirstFailure := by
    rw [← has_given]
    show (!(given ws).has .keepGoing) = false ↔ _
    rw [Bool.not_eq_false']
  report := chosen_some h henv (by decide) _

/-- There is one choice. -/
theorem FromOptions.unique {s s' : Settings} {report report' : Option Path}
    (hs : FromOptions env ws s report) (hs' : FromOptions env ws s' report') :
    s = s' ∧ report = report' := by
  have hstop : s.stopOnFirstFailure = s'.stopOnFirstFailure :=
    Bool.eq_iff_iff.mpr ((not_iff_not.mp (by
      rw [Bool.not_eq_true, Bool.not_eq_true]
      exact hs.stopOnFirstFailure.trans hs'.stopOnFirstFailure.symm)))
  obtain ⟨⟩ := s
  obtain ⟨⟩ := s'
  refine ⟨?_, hs.report.unique h (by decide) hs'.report⟩
  rw [Settings.mk.injEq]
  exact ⟨hs.root.unique h (by decide) hs'.root,
    hs.templatesDir.unique h (by decide) hs'.templatesDir,
    hs.outputDir.unique h (by decide) hs'.outputDir,
    hs.serverUrl.unique h (by decide) hs'.serverUrl, hs.token.unique h (by decide) hs'.token,
    hs.datasource.unique h (by decide) hs'.datasource, hs.image.unique h (by decide) hs'.image,
    hs.runtime.unique h (by decide) hs'.runtime, hs.assignments.trans hs'.assignments.symm,
    hs.paramsFile.unique h (by decide) hs'.paramsFile,
    hs.commandSeconds.unique h (by decide) hs'.commandSeconds,
    hs.httpSeconds.unique h (by decide) hs'.httpSeconds, hstop⟩

end

/-- In an environment that suits, options mean the same with the command of a run in front of them
and without it, even if they are refused. If they are accepted, each setting of the run is the value
of its option, else that of the variable for it, else its default: there is just one such choice,
and any other order of the options makes it too that keeps the order of the assignments. -/
theorem run_options {env : List (String × String)} (henv : Suits env) (ws : List Spelled) :
    Ask.ofArgs ("run" :: ws.flatMap Spelled.args) env =
      Ask.ofArgs (ws.flatMap Spelled.args) env ∧
    (Accepted ws → ∃ s report,
      Ask.ofArgs (ws.flatMap Spelled.args) env = .ok (.job (.run s report)) ∧
      FromOptions env ws s report ∧
      (∀ s' report', FromOptions env ws s' report' → s' = s ∧ report' = report) ∧
      ∀ ws', ws.Perm ws' →
        ws'.filter (·.opt = .assignment) = ws.filter (·.opt = .assignment) →
        Ask.ofArgs (ws'.flatMap Spelled.args) env = .ok (.job (.run s report))) := by
  refine ⟨(ofArgs_command henv ws).trans (ofArgs_options henv ws).symm, fun h => ?_⟩
  have hfrom := fromOptions h henv
  refine ⟨_, _, ofArgs_accepted henv h, hfrom, fun s' report' hs' => hs'.unique h hfrom,
    fun ws' hp hassignments => ?_⟩
  obtain ⟨hsettings, hreport⟩ :=
    (fromOptions (h.perm hp) henv).unique (h.perm hp) (hfrom.perm hp hassignments)
  rw [ofArgs_accepted henv (h.perm hp), runJob, hsettings, hreport]

/-- Values that look like commands, one that looks like an option, assignments on both sides, a
variable that counts and one that does not. -/
theorem run_options_commands :
    let args := ["--ext-str", "a=1", "--image", "list", "--grafana-token=--report", "--keep-going",
      "--report", "run", "--ext-str=a=2", "--command-timeout=7"]
    let env := [("DATASOURCE", "d"), ("JSONNET_IMAGE", "i")]
    ∃ s, Ask.ofArgs args env = .ok (.job (.run s (some (.ofString "run")))) ∧
      Ask.ofArgs ("run" :: args) env = Ask.ofArgs args env ∧
      s.image = "list" ∧ s.token = some "--report" ∧ s.datasource = "d" ∧
      s.assignments = ["a=1", "a=2"] ∧ s.commandSeconds = 7 ∧
      s.httpSeconds = Default.httpSeconds ∧ s.stopOnFirstFailure = false := by
  intro args env
  let ws : List Spelled := [⟨.assignment, "a=1", false, by decide, by decide⟩,
    ⟨.image, "list", false, by decide, by decide⟩,
    ⟨.token, "--report", true, by decide, by decide⟩,
    ⟨.keepGoing, "", false, by decide, by decide⟩,
    ⟨.report, "run", false, by decide, by decide⟩,
    ⟨.assignment, "a=2", true, by decide, by decide⟩,
    ⟨.commandSeconds, "7", true, by decide, by decide⟩]
  have henv : Suits env := by
    have htexts : ∀ o ∈ Opt.ofRun,
        o.environment.bind (List.lookup · env) = none ∨ o.taken = .text := by decide
    intro o ho x v hx hv
    rcases htexts o ho with hnone | htext
    · rw [hx] at hnone
      cases hv.symm.trans hnone
    · rw [Opt.check, htext]
  have hws : Accepted ws := ⟨by decide, by decide +kernel, by decide⟩
  obtain ⟨hcommand, haccepted⟩ := run_options henv ws
  obtain ⟨s, report, hs, hfrom, -⟩ := haccepted hws
  have hargs : ws.flatMap Spelled.args = args := by decide
  rw [hargs] at hs hcommand
  have hmem : ∀ i, (hi : i < ws.length) → ws[i] ∈ ws := fun i hi => List.getElem_mem hi
  have hunset : ∀ w ∈ ws, w.opt ≠ .httpSeconds ∧ w.opt ≠ .datasource := by decide
  obtain rfl : report = some (.ofString "run") :=
    hfrom.report.unique hws (by decide) (.flag (hmem 4 (by decide)) rfl rfl)
  exact ⟨s, hs, hcommand, hfrom.image.unique hws (by decide) (.flag (hmem 1 (by decide)) rfl rfl),
    hfrom.token.unique hws (by decide) (.flag (hmem 2 (by decide)) rfl rfl),
    hfrom.datasource.unique hws (by decide)
      (.environment (fun w hw => (hunset w hw).2) rfl rfl rfl),
    hfrom.assignments,
    hfrom.commandSeconds.unique hws (by decide) (.flag (hmem 6 (by decide)) rfl (by decide)),
    hfrom.httpSeconds.unique hws (by decide) (.default (fun w hw => (hunset w hw).1) (by decide)),
    hfrom.stopOnFirstFailure.mpr ⟨_, hmem 3 (by decide), rfl⟩⟩

end Cli
end Dashboards
