import Dashboards.Proofs.Fallback
import Dashboards.Proofs.Invocation

/-!
# What the compiler takes for options

A program that knows some options, each with a value, takes the words of its call one by one: an
option with the word behind it, another word that begins with a hyphen, or an operand.

* `readWords`          the words of a call as such a program takes them;
* `readWords_pairs`    options that it knows are taken with their values, whatever these are;
* `readWords_file`     the file of a template is the operand or hyphened by its first character;
* `template_operand`   of the call for a template, the file is the one operand just if its name does
                       not begin with a hyphen.
-/

namespace Dashboards

/-- What a word of a call is taken for. -/
inductive Word where
  | option (name value : String)
  /-- A word with a hyphen in front that is no option, or is one but lacks its value. -/
  | hyphened (text : String)
  | operand (text : String)
deriving DecidableEq

namespace Word

def operand? : Word → Option String
  | .operand text => some text
  | _ => none

def hyphened? : Word → Option String
  | .hyphened text => some text
  | _ => none

/-- A word that belongs to no option. The hyphen alone is an operand. -/
def lone (text : String) : Word :=
  match text.toList with
  | '-' :: _ :: _ => .hyphened text
  | _ => .operand text

end Word

/-- The words of a call, for a program that knows these options. Behind `--` all are operands. -/
def readWords (options : List String) : List String → List Word
  | [] => []
  | [a] => if a = "--" then [] else [.lone a]
  | a :: v :: rest =>
    if a ∈ options then .option a v :: readWords options rest
    else if a = "--" then (v :: rest).map .operand
    else .lone a :: readWords options (v :: rest)

/-! ### options and their values -/

/-- The value is not looked at, so it may have a hyphen in front. -/
theorem readWords_pairs {options : List String} {pairs : List (String × String)}
    (h : ∀ p ∈ pairs, p.1 ∈ options) (rest : List String) :
    readWords options ((pairs.flatMap fun p => [p.1, p.2]) ++ rest) =
      (pairs.map fun p => .option p.1 p.2) ++ readWords options rest := by
  induction pairs with
  | nil => rfl
  | cons p pairs ih =>
    obtain ⟨hp, hpairs⟩ := List.forall_mem_cons.mp h
    rw [List.flatMap_cons, List.append_assoc]
    show readWords options (p.1 :: p.2 :: (_ ++ rest)) = _
    rw [readWords, if_pos hp, ih hpairs]
    rfl

/-- The options of the compiler, with their values. -/
def compilerOptions (params : Params) : List (String × String) :=
  ("-J", vendorDir) :: params.entries.map fun e => ("--ext-str", assignment e)

theorem readWords_invocation (t : Toolchain) (template : Template) (params : Params) :
    readWords ["-J", "--ext-str"] (invocation t template params).args =
      ((compilerOptions params).map fun p => .option p.1 p.2) ++
        readWords ["-J", "--ext-str"] [(template.path.relativeTo t.templatesDir).shown] := by
  have hargs : (invocation t template params).args =
      ((compilerOptions params).flatMap fun p => [p.1, p.2]) ++
        [(template.path.relativeTo t.templatesDir).shown] := by
    rw [args_invocation, compilerOptions, List.flatMap_cons, List.flatMap_map]
    rfl
  have hknown : ∀ p ∈ compilerOptions params, p.1 ∈ ["-J", "--ext-str"] := by
    intro p hp
    rcases List.mem_cons.mp hp with rfl | hp
    · decide
    · obtain ⟨e, -, rfl⟩ := List.mem_map.mp hp
      show "--ext-str" ∈ ["-J", "--ext-str"]
      decide
  rw [hargs, readWords_pairs hknown]

/-! ### the file -/

section
variable {name : String}

theorem head_file (h : name ≠ "") : (name ++ ".jsonnet").toList.head? = name.toList.head? := by
  have hne : name.toList ≠ [] := fun e => h (String.toList_injective e)
  rw [String.toList_append, List.head?_append_of_ne_nil _ hne]

/-- The suffix stands behind a name, so the file is more than a hyphen and is not `--`. -/
theorem readWords_file (h : name ≠ "") (options : List String) :
    readWords options [name ++ ".jsonnet"] =
      [if name.toList.head? = some '-' then .hyphened (name ++ ".jsonnet")
        else .operand (name ++ ".jsonnet")] := by
  have hlength : 8 < (name ++ ".jsonnet").toList.length := by
    have hpos := List.length_pos_iff.mpr fun e => h (String.toList_injective e)
    have hsuffix : ".jsonnet".toList.length = 8 := by decide
    rw [String.toList_append, List.length_append, hsuffix]
    omega
  have hend : name ++ ".jsonnet" ≠ "--" := by
    intro e
    rw [e] at hlength
    exact absurd hlength (by decide)
  rw [readWords, if_neg hend, Word.lone, ← head_file h]
  split
  · rename_i c cs e
    rw [e, List.head?_cons, if_pos rfl]
  · rename_i hno
    rw [if_neg]
    intro hd
    obtain ⟨cs, e⟩ := List.head?_eq_some_iff.mp hd
    cases cs with
    | nil =>
      rw [e] at hlength
      exact absurd hlength (by decide)
    | cons d cs => exact hno d cs e

end

/-! ### one operand -/

theorem operand_options (pairs : List (String × String)) :
    (pairs.map fun p => Word.option p.1 p.2).filterMap Word.operand? = [] := by
  simp [Word.operand?]

theorem hyphened_options (pairs : List (String × String)) :
    (pairs.map fun p => Word.option p.1 p.2).filterMap Word.hyphened? = [] := by
  simp [Word.hyphened?]

/-- Options with their values are neither operands nor other words with a hyphen in front. -/
theorem one_operand_iff {words : List Word} {pairs : List (String × String)} {text : String}
    {hyphen : Prop} [Decidable hyphen]
    (h : words = (pairs.map fun p => .option p.1 p.2) ++
      [if hyphen then .hyphened text else .operand text]) :
    words.filterMap Word.operand? = [text] ∧ words.filterMap Word.hyphened? = [] ↔ ¬ hyphen := by
  rw [h, List.filterMap_append, List.filterMap_append, operand_options, hyphened_options]
  by_cases hh : hyphen
  · rw [if_pos hh]
    constructor
    · rintro ⟨hnone, -⟩
      have hnone : ([] : List String) = [text] := hnone
      cases hnone
    · intro hno
      exact absurd hh hno
  · rw [if_neg hh]
    exact ⟨fun _ => hh, fun _ => ⟨rfl, rfl⟩⟩

/-- The call for a template that is found ends in the file name of the template, on the host and in a
container. A compiler that knows the options for libraries and for parameters takes the libraries
and each parameter for what they are, and then the file. It has the file for its one operand and
comes upon no other option just if the name of the template does not begin with a hyphen. -/
theorem template_operand (c : Config) (mode : Mode) {t : Files} (ht : t.WellFormed)
    {ts : List Template} (hfound : discover t c.templatesDir = .ok ts) {template : Template}
    (hm : template ∈ ts) (params : Params) (container : String) :
    let call := invocation (.ofMode c mode) template params
    let routed := (Toolchain.ofMode c mode).route container call
    let file := template.name ++ ".jsonnet"
    let words := readWords ["-J", "--ext-str"] call.args
    (call.args.getLast? = some file ∧
      (file.toList.head? = some '-' ↔ template.name.toList.head? = some '-')) ∧
    ((mode = .native → routed = call) ∧
      ∀ image, mode = .containerized image → Wraps call routed) ∧
    words = ((compilerOptions params).map fun p => .option p.1 p.2) ++
      [if template.name.toList.head? = some '-' then .hyphened file else .operand file] ∧
    (words.filterMap Word.operand? = [file] ∧ words.filterMap Word.hyphened? = [] ↔
      template.name.toList.head? ≠ some '-') := by
  intro call routed file words
  obtain ⟨_, n, e, _, hc, hat⟩ := mem_discover hfound hm
  have hne : template.name ≠ "" := ((templateAt_iff (ht.isName hc)).mp hat).nonempty
  have hseen : (template.path.relativeTo c.templatesDir).shown = file :=
    (discover_seen ht hfound).1 template hm
  have hwords : words = ((compilerOptions params).map fun p => .option p.1 p.2) ++
      [if template.name.toList.head? = some '-' then .hyphened file else .operand file] := by
    show readWords _ (invocation _ template params).args = _
    rw [readWords_invocation]
    show _ ++ readWords _ [(template.path.relativeTo c.templatesDir).shown] = _
    rw [hseen, readWords_file hne]
  refine ⟨⟨?_, by rw [head_file hne]⟩, ⟨?_, ?_⟩, hwords, one_operand_iff hwords⟩
  · show (invocation _ template params).args.getLast? = _
    rw [args_invocation, List.getLast?_concat]
    exact congrArg some hseen
  · rintro rfl
    rfl
  · rintro image rfl
    exact wraps_route _ _ _ rfl

/-- A value with a hyphen in front, in a container. -/
theorem template_operand_hyphens :
    let c := Config.plain ⟨[47]⟩ ⟨[47, 100]⟩
      ⟨"http", "", "", "localhost", none, "/", none, none⟩ none
    let params : Params := { entries := [("x", "--y")] }
    let call := invocation (.ofMode c (.containerized "i")) ⟨"b", ⟨Text.utf8 "/d/b.jsonnet"⟩⟩ params
    twoTemplates.WellFormed ∧
      Wraps call ((Toolchain.ofMode c (.containerized "i")).route "n" call) ∧
      readWords ["-J", "--ext-str"] call.args = [.option "-J" "vendor",
        .option "--ext-str" "x=--y", .operand "b.jsonnet"] ∧
      (readWords ["-J", "--ext-str"] call.args).filterMap Word.operand? = ["b.jsonnet"] := by
  intro c params call
  have hm : (⟨"b", ⟨Text.utf8 "/d/b.jsonnet"⟩⟩ : Template) ∈
      [⟨"a", ⟨Text.utf8 "/d/a.jsonnet"⟩⟩, ⟨"b", ⟨Text.utf8 "/d/b.jsonnet"⟩⟩] := by simp
  obtain ⟨-, ⟨-, hwraps⟩, hwords, hone⟩ := template_operand c (.containerized "i")
    wellFormed_twoTemplates discover_twoTemplates hm params "n"
  exact ⟨wellFormed_twoTemplates, hwraps "i" rfl, hwords, (hone.mpr (by decide)).1⟩

/-- A directory with a template whose name is that of an option. -/
def hyphenedTemplate : Files :=
  { entries := [([[100]], .directory), ([[100], Text.utf8 "-J.jsonnet"], .file [] false)] }

theorem discover_hyphenedTemplate : discover hyphenedTemplate ⟨[47, 100]⟩ =
    .ok [⟨"-J", ⟨Text.utf8 "/d/-J.jsonnet"⟩⟩] := by
  have hl : hyphenedTemplate.list ⟨[47, 100]⟩ = .ok [(Text.utf8 "-J.jsonnet", .file [] false)] := by
    cbv
  have hj : templateAt? hyphenedTemplate ⟨[47, 100]⟩ (Text.utf8 "-J.jsonnet") (.file [] false) =
      some ⟨"-J", ⟨Text.utf8 "/d/-J.jsonnet"⟩⟩ :=
    (templateAt_iff (by decide)).mpr ⟨.inl ⟨_, _, rfl⟩, by decide, by decide, by decide, by decide⟩
  rw [discover, hl]
  simp only [templatesAmong, List.filterMap, hj, Option.map, List.mergeSort_singleton, List.map]

/-- The template `-J` is found, and its file is taken for an option. -/
theorem template_operand_fails : ¬ ∀ (c : Config) (mode : Mode) (t : Files) (ts : List Template)
    (template : Template) (params : Params), t.WellFormed → discover t c.templatesDir = .ok ts →
      template ∈ ts → ∀ last, (invocation (.ofMode c mode) template params).args.getLast? = some last →
        last.toList.head? ≠ some '-' := by
  intro hall
  let c := Config.plain ⟨[47]⟩ ⟨[47, 100]⟩
    ⟨"http", "", "", "localhost", none, "/", none, none⟩ none
  have hlast : (invocation (.ofMode c .native) ⟨"-J", ⟨Text.utf8 "/d/-J.jsonnet"⟩⟩ {}).args.getLast? =
      some "-J.jsonnet" := by
    rw [args_invocation, List.getLast?_concat]
    exact congrArg some ((discover_seen (by decide) discover_hyphenedTemplate).1 _ (by simp))
  exact hall c .native hyphenedTemplate _ _ {} (by decide) discover_hyphenedTemplate
    List.mem_cons_self _ hlast (by decide)

end Dashboards
