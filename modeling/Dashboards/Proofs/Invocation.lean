import Dashboards.Proofs.Discovery
import Dashboards.Proofs.Phases
import Dashboards.Proofs.Validation

/-!
# What the call of the compiler says

* `parse_assigned`        the assignment of a parameter is read as this parameter;
* `assignedBy`            the parameters that arguments assign;
* `discover_path`         where a template lies, and how it is seen from its directory;
* `invocation_lossless`   the arguments tell the parameters and the file of the template, and nothing
                          else makes a difference to them.
-/

namespace Dashboards
namespace Params

/-! ### keys -/

theorem IsKey.rest {k : String} (h : IsKey k) : ∀ c ∈ k.toList, KeyRest c := by
  obtain ⟨c, cs, e, hc, hcs⟩ := h
  rw [e]
  exact List.forall_mem_cons.mpr ⟨.inl hc, hcs⟩

theorem KeyRest.ne {c : Char} (h : KeyRest c) : c ≠ '=' := by
  rintro rfl
  exact absurd ((isKeyChar_iff '=').mpr h) (by decide)

theorem KeyRest.not_blank {c : Char} (h : KeyRest c) : Text.isBlank c = false := by
  have hc : (65 ≤ c.toNat ∧ c.toNat ≤ 90) ∨ (97 ≤ c.toNat ∧ c.toNat ≤ 122) ∨ c.toNat = 95 ∨
      (48 ≤ c.toNat ∧ c.toNat ≤ 57) ∨ c.toNat = 46 ∨ c.toNat = 45 := by
    rcases h with (h | h | rfl) | h | rfl | rfl
    · exact .inl h
    · exact .inr (.inl h)
    · decide
    · exact .inr (.inr (.inr (.inl h)))
    · decide
    · decide
  simp only [Text.isBlank, Bool.or_eq_false_iff, Bool.and_eq_false_iff, decide_eq_false_iff_not]
  omega

theorem IsKey.trim_eq {k : String} (h : IsKey k) : Text.trim k = k :=
  Text.Bare.trim_eq ⟨fun c hc => (h.rest c (List.mem_of_mem_head? hc)).not_blank,
    fun c hc => (h.rest c (List.mem_of_mem_getLast? hc)).not_blank⟩

end Params

/-! ### assignments -/

/-- The assignment of a parameter. -/
def assignment (e : String × String) : String := e.1 ++ "=" ++ e.2

/-- A key holds no `=` and has no blanks around it, and the value is all that follows. -/
theorem parse_assigned {e : String × String} (hk : Params.IsKey e.1) :
    parseAssignment (assignment e) = .ok e := by
  refine parseAssignment_eq_ok_iff.mpr ⟨e.1.toList, ?_, fun h => (hk.rest _ h).ne rfl, ?_⟩
  · rw [assignment, String.toList_append, String.toList_append, List.append_assoc]
    rfl
  · rw [String.ofList_toList, hk.trim_eq]

/-- The parameters that arguments assign, one by each pair. -/
def assignedBy : List String → Except Invalid (List (String × String))
  | option :: a :: rest =>
    if option = "--ext-str" then do
      let e ← parseAssignment a
      let es ← assignedBy rest
      return e :: es
    else .ok []
  | _ => .ok []

theorem assignedBy_assignments {es : List (String × String)}
    (h : ∀ e ∈ es, Params.IsKey e.1) (last : String) :
    assignedBy ((es.flatMap fun e => ["--ext-str", assignment e]) ++ [last]) = .ok es := by
  induction es with
  | nil => rfl
  | cons e es ih =>
    obtain ⟨he, hes⟩ := List.forall_mem_cons.mp h
    rw [List.flatMap_cons, List.append_assoc]
    show assignedBy ("--ext-str" :: assignment e :: (_ ++ [last])) = _
    rw [assignedBy, if_pos rfl, parse_assigned he, ih hes]
    rfl

/-! ### templates in their directory -/

/-- A template that is found lies directly inside the directory, and is seen by its file name. -/
theorem discover_path {t : Files} (ht : t.WellFormed) {directory : Path} {ts : List Template}
    (h : discover t directory = .ok ts) {template : Template} (hm : template ∈ ts) :
    template.path = directory.join (.ofString (template.name ++ ".jsonnet")) ∧
      template.path.fileName? = some (Text.utf8 (template.name ++ ".jsonnet")) ∧
      (template.path.relativeTo directory).shown = template.name ++ ".jsonnet" := by
  obtain ⟨l, n, e, _, hc, hat⟩ := mem_discover h hm
  have hn := ht.isName hc
  have hof := (templateAt_iff hn).mp hat
  refine ⟨?_, ?_, (discover_seen ht h).1 template hm⟩
  · rw [hof.path, hof.stem]
    rfl
  · rw [hof.path, ← hof.stem]
    exact Path.fileName_join directory hn

/-! ### the arguments -/

theorem workingDir_foldl (entries : List (String × String)) (c : Command) :
    (entries.foldl (fun c (k, v) => c.withArgs ["--ext-str", k ++ "=" ++ v]) c).workingDir =
      c.workingDir := by
  induction entries generalizing c with
  | nil => rfl
  | cons e entries ih =>
    rw [List.foldl_cons, ih]
    rfl

theorem workingDir_invocation (t : Toolchain) (template : Template) (params : Params) :
    (invocation t template params).workingDir = t.templatesDir := by
  rw [invocation]
  dsimp only [Command.arg]
  rw [workingDir_foldl]
  rfl

/-- The parameters and the file, which `file` seen from the directory of the templates is. -/
theorem read_invocation {t : Toolchain} {template : Template} {params : Params} {file : String}
    (hs : (template.path.relativeTo t.templatesDir).shown = file) :
    (invocation t template params).args = "-J" :: "vendor" ::
        (params.entries.flatMap fun e => ["--ext-str", assignment e]) ++ [file] ∧
      assignedBy ((invocation t template params).args.drop 2) = .ok params.entries ∧
      (invocation t template params).args.getLast? = some file := by
  have hargs : (invocation t template params).args = "-J" :: "vendor" ::
      (params.entries.flatMap fun e => ["--ext-str", assignment e]) ++ [file] := by
    rw [args_invocation, hs]
    rfl
  refine ⟨hargs, ?_, ?_⟩
  · rw [hargs]
    exact assignedBy_assignments (fun _ => Params.isKey_of_mem) file
  · rw [hargs, List.getLast?_concat]

/-- The call for a template that is found names the installed libraries, then each parameter in the
order of the keys, then the file of the template, which lies under this name in the directory that
the call is made from. The parameters are read off the arguments as they are, whatever their values.
So two calls have the same arguments only for the same parameters and the same file name, whatever
the configurations. -/
theorem invocation_lossless (c : Config) (mode : Mode) {t : Files} (ht : t.WellFormed)
    {ts : List Template} (hfound : discover t c.templatesDir = .ok ts) {template : Template}
    (hm : template ∈ ts) (params : Params) :
    let call := invocation (.ofMode c mode) template params
    let file := template.name ++ ".jsonnet"
    (template.path.fileName? = some (Text.utf8 file) ∧
      call.workingDir.join (.ofString file) = template.path) ∧
    (params.entries.Pairwise (·.1 < ·.1) ∧ call.args = "-J" :: "vendor" ::
      (params.entries.flatMap fun e => ["--ext-str", assignment e]) ++ [file]) ∧
    ((∀ e ∈ params.entries, parseAssignment (assignment e) = .ok e) ∧
      assignedBy (call.args.drop 2) = .ok params.entries) ∧
    ∀ (c' : Config) (mode' : Mode) (t' : Files) (ts' : List Template) (template' : Template)
      (params' : Params), t'.WellFormed → discover t' c'.templatesDir = .ok ts' →
      template' ∈ ts' →
      (invocation (.ofMode c' mode') template' params').args = call.args →
      params' = params ∧ template'.path.fileName? = template.path.fileName? := by
  intro call file
  obtain ⟨hpath, hfile, hshown⟩ := discover_path ht hfound hm
  obtain ⟨hargs, hread, hlast⟩ := read_invocation (t := .ofMode c mode) hshown
  refine ⟨⟨hfile, ?_⟩, ⟨params.ascending, hargs⟩,
    ⟨fun e he => parse_assigned (Params.isKey_of_mem he), hread⟩, ?_⟩
  · rw [workingDir_invocation]
    exact hpath.symm
  intro c' mode' t' ts' template' params' ht' hfound' hm' e
  obtain ⟨-, hfile', hshown'⟩ := discover_path ht' hfound' hm'
  obtain ⟨-, hread', hlast'⟩ := read_invocation (t := .ofMode c' mode') hshown'
  constructor
  · rw [e, hread] at hread'
    exact Params.ext (Except.ok.inj hread').symm
  · rw [e, hlast] at hlast'
    rw [hfile, hfile', ← Option.some.inj hlast']

/-- Signs of equality, blanks, a line break, quotes, a letter beyond ASCII, and no value at all. -/
theorem invocation_lossless_quoted :
    let c : Config :=
      { root := ⟨[47]⟩, templatesDir := ⟨[47, 100]⟩, outputDir := ⟨[47, 111]⟩,
        server := ⟨"http", "", "", "localhost", none, "/", none, none⟩, token := none,
        params := {}, image := "jsonnet", runtime := "docker", commandSeconds := 1,
        httpSeconds := 1, stopOnFirstFailure := true }
    let params : Params := { entries := [("b.c", ""), ("x", "= \"ü\"\n")] }
    let call := invocation (.ofMode c .native) ⟨"a", ⟨Text.utf8 "/d/a.jsonnet"⟩⟩ params
    twoTemplates.WellFormed ∧
      call.args = ["-J", "vendor", "--ext-str", "b.c=", "--ext-str", "x== \"ü\"\n", "a.jsonnet"] ∧
      assignedBy (call.args.drop 2) = .ok params.entries ∧
      call.workingDir.join (.ofString "a.jsonnet") = ⟨Text.utf8 "/d/a.jsonnet"⟩ := by
  intro c params call
  obtain ⟨⟨_, hjoin⟩, ⟨_, hargs⟩, ⟨_, hread⟩, _⟩ :=
    invocation_lossless c .native wellFormed_twoTemplates discover_twoTemplates
      List.mem_cons_self params
  exact ⟨wellFormed_twoTemplates, hargs, hread, hjoin⟩

end Dashboards
