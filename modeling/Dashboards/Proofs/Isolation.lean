import Dashboards.Proofs.Files.Apart
import Dashboards.Proofs.Rerun

/-!
# Templates side by side

The output directory holds no links here, and no two templates have the same name.

* `verdict`             what becomes of a template, by the reply for it and by the cause, if there is
                        one, that keeps its document from being written;
* `Settles`             a template comes to that, and its document is what its path reads then;
* `compileResults`      the results of a pass, template by template;
* `Outcome.ofResults`   its documents and its failures, each kind in the order of the templates;
* `settles_pass`, `compileAll_settles`   every template of a pass is settled, whatever becomes of the
                        others;
* `compileAll_isolated` and it is settled alike in another pass with the same reply for it.
-/

namespace Dashboards
open Text (Bytes)

/-! ### one template -/

/-- What becomes of a template. A reply without a document is a failure. A document that cannot be
written is one, too, and the cause of that is told. -/
def verdict (outputDir : Path) (template : Template) (reply : Except Failure Output)
    (refusal : Option Cause) : Except CompileFailure Compiled :=
  match reply with
  | .error f => .error ⟨template.name, f.message⟩
  | .ok o =>
    match documentOf o with
    | .error message => .error ⟨template.name, message⟩
    | .ok document =>
      match refusal with
      | some cause =>
        .error ⟨template.name, (Failure.io (outputPath outputDir template) cause).message⟩
      | none => .ok ⟨template.name, outputPath outputDir template, document⟩

section
variable {outputDir : Path} {template : Template} {reply : Except Failure Output} {t : Files}

theorem judge_verdict : (judge outputDir template reply t).1 =
    verdict outputDir template reply (t.refusal? (outputPath outputDir template)) := by
  cases reply with
  | error f => rfl
  | ok o =>
    rw [judge, verdict]
    cases documentOf o with
    | error message => rfl
    | ok document =>
      dsimp only
      cases hw : t.write (outputPath outputDir template) (Text.utf8 o.stdout) with
      | error cause => rw [Files.write_eq_error_iff.mp hw]
      | ok files => rw [Files.refusal?_eq_none_iff.mpr (Files.writable_of_write hw)]

/-- A template has been settled between two trees. The reply and the tree before decide how: with a
document, which its path reads afterwards, if the compiler prints one and the path can be written;
otherwise with a failure, and the path reads what it did before. -/
structure Settles (outputDir : Path) (before after : Files) (template : Template)
    (reply : Except Failure Output) (result : Except CompileFailure Compiled) : Prop where
  decided : result =
    verdict outputDir template reply (before.refusal? (outputPath outputDir template))
  succeeds : (∃ c, result = .ok c) ↔
    before.Writable (outputPath outputDir template) ∧ ∃ o, reply = .ok o ∧ o.Prints
  compiled : ∀ c, result = .ok c → ∃ o : Printed, reply = .ok o.toOutput ∧
    c = compiledOf outputDir template o ∧
    after.read (outputPath outputDir template) = .ok (Text.utf8 o.stdout)
  failed : ∀ f, result = .error f → f.template = template.name ∧
    after.read (outputPath outputDir template) = before.read (outputPath outputDir template)

theorem judge_settles : Settles outputDir t (judge outputDir template reply t).2 template reply
    (judge outputDir template reply t).1 := by
  refine ⟨judge_verdict, ?_, fun c hc => ?_, fun f hf => ?_⟩
  · rcases judge_cases outputDir template reply t with ⟨o, t', hr, hw, hj⟩ | ⟨hn, message, hj⟩
    · rw [hj]
      exact ⟨fun _ => ⟨Files.writable_of_write hw, _, hr, o.prints⟩, fun _ => ⟨_, rfl⟩⟩
    · rw [hj]
      constructor
      · rintro ⟨c, hc⟩
        cases hc
      · rintro ⟨hw, o, hr, hp⟩
        exact absurd hw (hn o hr hp)
  · rcases judge_cases outputDir template reply t with ⟨o, t', hr, hw, hj⟩ | ⟨_, message, hj⟩
    · rw [hj] at hc ⊢
      cases hc
      exact ⟨o, hr, rfl, Files.read_write hw⟩
    · rw [hj] at hc
      cases hc
  · rcases judge_cases outputDir template reply t with ⟨o, t', hr, hw, hj⟩ | ⟨_, message, hj⟩
    · rw [hj] at hf
      cases hf
    · rw [hj] at hf ⊢
      cases hf
      exact ⟨rfl, rfl⟩

/-- Only the path of the template counts in the two trees. -/
theorem Settles.frame {before after before' after' : Files}
    {result : Except CompileFailure Compiled}
    (h : Settles outputDir before after template reply result)
    (hb : before'.find (outputPath outputDir template) = before.find (outputPath outputDir template))
    (ha : after'.read (outputPath outputDir template) =
      after.read (outputPath outputDir template)) :
    Settles outputDir before' after' template reply result := by
  have hr := Files.refusal?_eq hb
  refine ⟨by rw [hr]; exact h.decided, ?_, fun c hc => ?_, fun f hf => ?_⟩
  · rw [← Files.refusal?_eq_none_iff, hr, Files.refusal?_eq_none_iff]
    exact h.succeeds
  · rw [ha]
    exact h.compiled c hc
  · rw [ha, Files.read_eq hb]
    exact h.failed f hf

/-- Both trees show what has become of a template. -/
theorem Settles.same {before after before' after' : Files}
    {result result' : Except CompileFailure Compiled}
    (h : Settles outputDir before after template reply result)
    (h' : Settles outputDir before' after' template reply result')
    (hb : before'.find (outputPath outputDir template) =
      before.find (outputPath outputDir template)) :
    result' = result ∧ after'.read (outputPath outputDir template) =
      after.read (outputPath outputDir template) := by
  have hs : result' = result := by rw [h.decided, h'.decided, Files.refusal?_eq hb]
  subst hs
  refine ⟨rfl, ?_⟩
  cases hr : result' with
  | ok c =>
    obtain ⟨o, e, -, hread⟩ := h.compiled c hr
    obtain ⟨o', e', -, hread'⟩ := h'.compiled c hr
    rw [e] at e'
    rw [hread, hread', Except.ok.inj e']
  | error f => rw [(h.failed f hr).2, (h'.failed f hr).2, Files.read_eq hb]

end

/-! ### the results of a pass -/

/-- What becomes of each template when they are compiled one after the other. -/
def compileResults {σ : Type} (h : Host σ) (t : Toolchain) (params : Params) (outputDir : Path) :
    List Template → Session σ → List (Except CompileFailure Compiled)
  | [], _ => []
  | template :: rest, s =>
    let r := compile h t params outputDir template s
    r.1 :: compileResults h t params outputDir rest r.2

/-- The documents and the failures among results, each kind in its order. -/
def Outcome.ofResults (rs : List (Except CompileFailure Compiled)) : Outcome where
  compiled := rs.filterMap fun
    | .ok c => some c
    | .error _ => none
  failures := rs.filterMap fun
    | .ok _ => none
    | .error f => some f

/-- The template that a result is about. -/
def resultName : Except CompileFailure Compiled → String
  | .ok c => c.name
  | .error f => f.template

theorem Outcome.ofResults_perm (rs : List (Except CompileFailure Compiled)) :
    ((Outcome.ofResults rs).compiled.map (·.name) ++
      (Outcome.ofResults rs).failures.map (·.template)).Perm (rs.map resultName) := by
  induction rs with
  | nil => exact .nil
  | cons r rs ih =>
    cases r with
    | ok c => exact ih.cons c.name
    | error f => exact List.perm_middle.trans (ih.cons f.template)

/-- What stands in two lists without a repetition stands in one of them. -/
theorem xor_of_perm {α : Type} {as bs cs : List α} {a : α} (h : (as ++ bs).Perm cs)
    (hd : cs.Nodup) (ha : a ∈ cs) : Xor (a ∈ as) (a ∈ bs) := by
  obtain ⟨-, -, hapart⟩ := List.nodup_append.mp (h.nodup_iff.mpr hd)
  rcases List.mem_append.mp (h.mem_iff.mpr ha) with has | hbs
  · exact .inl ⟨has, fun hbs => hapart _ has _ hbs rfl⟩
  · exact .inr ⟨hbs, fun has => hapart _ has _ hbs rfl⟩

theorem Outcome.attempted_ofResults (rs : List (Except CompileFailure Compiled)) :
    (Outcome.ofResults rs).attempted = rs.length := by
  have h := (Outcome.ofResults_perm rs).length_eq
  rwa [List.length_append, List.length_map, List.length_map, List.length_map] at h

section
variable {σ : Type} (h : Host σ) (t : Toolchain) (params : Params) (outputDir : Path)

theorem length_compileResults (templates : List Template) (s : Session σ) :
    (compileResults h t params outputDir templates s).length = templates.length := by
  induction templates generalizing s with
  | nil => rfl
  | cons template rest ih => exact congrArg Nat.succ (ih _)

theorem names_compileResults (templates : List Template) (s : Session σ) :
    (compileResults h t params outputDir templates s).map resultName =
      templates.map (·.name) := by
  induction templates generalizing s with
  | nil => rfl
  | cons template rest ih =>
    rw [compileResults, List.map_cons, List.map_cons, ih, compile_eq]
    rcases judge_cases outputDir template (compilerReply h t params template s).1
      (compilerReply h t params template s).2.files with ⟨o, t', _, _, hj⟩ | ⟨_, message, hj⟩
    · dsimp only
      rw [hj]
      rfl
    · dsimp only
      rw [hj]
      rfl

theorem compileEach_results (templates : List Template) (o : Outcome) (s : Session σ) :
    (compileEach h t params outputDir templates o s).1 =
      let all := Outcome.ofResults (compileResults h t params outputDir templates s)
      ⟨o.compiled ++ all.compiled, o.failures ++ all.failures⟩ := by
  induction templates generalizing o s with
  | nil =>
    show o = ⟨o.compiled ++ [], o.failures ++ []⟩
    rw [List.append_nil, List.append_nil]
  | cons template rest ih =>
    rw [compileEach_cons]
    dsimp only
    rw [ih, compileResults]
    cases (compile h t params outputDir template s).1 with
    | ok c =>
      show Outcome.mk ((o.compiled ++ [c]) ++ _) _ = Outcome.mk (o.compiled ++ c :: _) _
      rw [List.append_assoc]
      rfl
    | error f =>
      show Outcome.mk _ ((o.failures ++ [f]) ++ _) = Outcome.mk _ (o.failures ++ f :: _)
      rw [List.append_assoc]
      rfl

/-- Where the output directory has been made, a pass comes to the single results. -/
theorem compileAll_of_made {outputDir : Path} {made : Files} (templates : List Template)
    {s : Session σ} (hmade : s.files.makeDirs outputDir = (.ok (), made)) :
    compileAll h t params outputDir templates s =
      (.ok (.ofResults (compileResults h t params outputDir templates { s with files := made })),
        (compileEach h t params outputDir templates {} { s with files := made }).2) := by
  have he := compileEach_results h t params outputDir templates {} { s with files := made }
  exact (compileAll_eq_ok_iff.mpr ⟨made, hmade, rfl⟩).trans
    (Prod.ext (congrArg Except.ok he) rfl)

/-- A call is made as the toolchain routes it, under some name. -/
theorem route_fst (s : Session σ) (c : Command) : (s.route t c).1 = t.route s.containerName c := by
  rw [Session.route, Toolchain.route]
  cases t.mode <;> rfl

/-- One call for each template, in their order. -/
theorem commands_pass (templates : List Template) (o : Outcome) (s : Session σ) : ∃ calls,
    (compileEach h t params outputDir templates o s).2.commands = s.commands ++ calls ∧
      List.Forall₂ (fun template call => ∃ name,
        call = t.route name (invocation t template params)) templates calls := by
  induction templates generalizing o s with
  | nil => exact ⟨[], (List.append_nil _).symm, .nil⟩
  | cons template rest ih =>
    have hone : (compile h t params outputDir template s).2.commands =
        s.commands ++ [t.route s.containerName (invocation t template params)] := by
      rw [compile_eq, ← route_fst]
      exact commands_call h t _ s
    obtain ⟨calls, hc, hcalls⟩ := ih (o.add (compile h t params outputDir template s).1)
      (compile h t params outputDir template s).2
    refine ⟨t.route s.containerName (invocation t template params) :: calls, ?_,
      .cons ⟨_, rfl⟩ hcalls⟩
    rw [compileEach_cons]
    dsimp only
    rw [hc, hone, List.append_assoc]
    rfl

end

/-! ### a pass by a script -/

section
variable (t : Toolchain) (params : Params) {outputDir : Path} {dir : Location}
  {templates : List Template} {s : Session Script}

/-- The session after one template. -/
def Session.judged (outputDir : Path) (template : Template) (s : Session Script) :
    Session Script :=
  { (s.call Script.host t (invocation t template params)).2 with
    files := (judge outputDir template s.state.nextOutput.1 s.files).2 }

theorem compile_judged (outputDir : Path) (template : Template) (s : Session Script) :
    compile Script.host t params outputDir template s =
      ((judge outputDir template s.state.nextOutput.1 s.files).1,
        s.judged t params outputDir template) := by
  rw [compile_judge (fun _ _ _ => rfl)]
  dsimp only
  rw [reply_call]
  rfl

/-- A template changes no entry of the output directory but its own. -/
theorem Files.Plain.judged (hp : s.files.Plain outputDir dir) {template : Template}
    (hn : Path.IsName (Text.utf8 template.outputName)) :
    (s.judged t params outputDir template).files.Plain outputDir dir ∧
      ∀ m, m ≠ Text.utf8 template.outputName →
        (s.judged t params outputDir template).files.get? (dir ++ [m]) =
          s.files.get? (dir ++ [m]) := by
  rw [Session.judged]
  rcases judge_cases outputDir template s.state.nextOutput.1 s.files with
    ⟨o, t', _, hw, hj⟩ | ⟨_, message, hj⟩
  · rw [hj]
    exact hp.write hn hw
  · rw [hj]
    exact ⟨hp, fun _ _ => rfl⟩

variable (hn : ∀ template ∈ templates, Path.IsName (Text.utf8 template.outputName))
include hn

/-- A pass leaves alone what stands under other names. -/
theorem Files.Plain.pass (hp : s.files.Plain outputDir dir) (o : Outcome) :
    let after := (compileEach Script.host t params outputDir templates o s).2.files
    after.Plain outputDir dir ∧
      ∀ m, (∀ template ∈ templates, m ≠ Text.utf8 template.outputName) →
        after.get? (dir ++ [m]) = s.files.get? (dir ++ [m]) := by
  induction templates generalizing o s with
  | nil => exact ⟨hp, fun _ _ => rfl⟩
  | cons template rest ih =>
    obtain ⟨hn₁, hn⟩ := List.forall_mem_cons.mp hn
    obtain ⟨hp₁, hsame⟩ := hp.judged t params hn₁
    rw [compileEach_cons, compile_judged]
    obtain ⟨hafter, hrest⟩ := ih hn hp₁ _
    refine ⟨hafter, fun m hm => ?_⟩
    obtain ⟨hm₁, hm⟩ := List.forall_mem_cons.mp hm
    rw [hrest m hm, hsame m hm₁]

/-- Every template of a pass is settled by its own reply. -/
theorem settles_pass (hp : s.files.Plain outputDir dir)
    (hd : templates.Pairwise fun a b => Text.utf8 a.outputName ≠ Text.utf8 b.outputName)
    (o : Outcome) {i : Nat} {template : Template} (hi : templates[i]? = some template) :
    ∃ reply result, (s.state.nextOutputs templates.length)[i]? = some reply ∧
      (compileResults Script.host t params outputDir templates s)[i]? = some result ∧
      Settles outputDir s.files
        (compileEach Script.host t params outputDir templates o s).2.files template reply
        result := by
  induction templates generalizing o s i with
  | nil => cases hi
  | cons first rest ih =>
    obtain ⟨hn₁, hns⟩ := List.forall_mem_cons.mp hn
    obtain ⟨hd₁, hds⟩ := List.pairwise_cons.mp hd
    obtain ⟨hp₁, hsame⟩ := hp.judged t params hn₁
    have hstate : s.state.nextOutput.2 = (s.judged t params outputDir first).state := by
      rw [Script.nextOutput_snd]
      exact advanced_call.state.symm
    rw [compileEach_cons, compileResults, compile_judged, List.length_cons, Script.nextOutputs,
      hstate]
    dsimp only
    cases i with
    | zero =>
      cases hi
      refine ⟨_, _, rfl, rfl, judge_settles.frame rfl ?_⟩
      -- The rest of the pass leaves the document of the first template alone.
      obtain ⟨hafter, hrest⟩ := Files.Plain.pass t params hns hp₁ _
      exact Files.read_eq (hp₁.find_eq hafter hn₁ (hrest _ hd₁))
    | succ i =>
      rw [List.getElem?_cons_succ] at hi
      have hm : template ∈ rest := List.mem_of_getElem? hi
      obtain ⟨reply, result, hreply, hresult, hs⟩ := ih hns hp₁ hds _ hi
      refine ⟨reply, result, hreply, hresult, hs.frame ?_ rfl⟩
      -- The first template has not touched the place of this one.
      exact (hp.find_eq hp₁ (hns _ hm) (hsame _ (hd₁ _ hm).symm)).symm

omit hn in
/-- Up to the names of containers, the calls do not depend on replies. -/
theorem unnamed_calls {calls : List Command} (h : List.Forall₂ (fun template call => ∃ name,
    call = t.route name (invocation t template params)) templates calls) :
    calls.map Command.unnamed =
      templates.map fun template => (t.route "" (invocation t template params)).unnamed := by
  induction h with
  | nil => rfl
  | cons h _ ih =>
    obtain ⟨name, rfl⟩ := h
    rw [List.map_cons, List.map_cons, ih, unnamed_route t name ""]

end

/-! ### all templates -/

theorem outputs_distinct_names {templates : List Template} (h : (templates.map (·.name)).Nodup) :
    templates.Pairwise fun a b => Text.utf8 a.outputName ≠ Text.utf8 b.outputName := by
  refine (List.pairwise_map.mp h).imp fun {a b} hab e => hab ?_
  rw [Template.utf8_outputName, Template.utf8_outputName] at e
  exact Text.utf8_injective (List.append_cancel_right e)

/-- A pass into a directory that is plain once it has been made. -/
theorem compileAll_settles (t : Toolchain) (params : Params) {outputDir : Path} {dir : Location}
    {templates : List Template} {s : Session Script} {made : Files}
    (hmade : s.files.makeDirs outputDir = (.ok (), made)) (hp : made.Plain outputDir dir)
    (hn : ∀ template ∈ templates, Path.IsName (Text.utf8 template.outputName))
    (hd : templates.Pairwise fun a b => Text.utf8 a.outputName ≠ Text.utf8 b.outputName) :
    let pass := compileAll Script.host t params outputDir templates s
    let results := compileResults Script.host t params outputDir templates { s with files := made }
    let calls := pass.2.commands.drop s.commands.length
    pass.1 = .ok (.ofResults results) ∧
    (pass.2.commands = s.commands ++ calls ∧ List.Forall₂ (fun template call => ∃ name,
      call = t.route name (invocation t template params)) templates calls) ∧
    ∀ (i : Nat) (template : Template), templates[i]? = some template → ∃ reply result,
      (s.state.nextOutputs templates.length)[i]? = some reply ∧ results[i]? = some result ∧
        Settles outputDir made pass.2.files template reply result := by
  intro pass results calls
  have hpass : pass = (.ok (.ofResults results),
      (compileEach Script.host t params outputDir templates {} { s with files := made }).2) :=
    compileAll_of_made Script.host t params templates hmade
  refine ⟨congrArg Prod.fst hpass, ?_, fun i template hi => ?_⟩
  · obtain ⟨new, hc, hnew⟩ : ∃ new, (compileEach Script.host t params outputDir templates {}
        { s with files := made }).2.commands = s.commands ++ new ∧ _ := commands_pass ..
    have hcalls : calls = new := by
      show pass.2.commands.drop s.commands.length = new
      rw [hpass, hc, List.drop_left]
    rw [hcalls, hpass]
    exact ⟨hc, hnew⟩
  · rw [hpass]
    exact settles_pass t params hn (s := { s with files := made }) hp hd {} hi

/-- The templates have different names without slashes, and the output directory can be made and
holds no links. Then a pass makes one call for each template, in their order, and its documents and
its failures are those of the single results, so that each template is in just one of the two lists.
What a template comes to and what its path reads then is decided by the reply for it and by what can
be written there; so another pass, whatever its replies for other templates are, comes to the same
for a template with the same reply, and its call is the same but for the name of the container. -/
theorem compileAll_isolated (t : Toolchain) (params : Params) (outputDir : Path)
    (templates : List Template) (s : Session Script) (made : Files)
    (hmade : s.files.makeDirs outputDir = (.ok (), made)) (hl : made.HoldsNoLinks outputDir)
    (hs : ∀ template ∈ templates, '/' ∉ template.name.toList)
    (hd : (templates.map (·.name)).Nodup) :
    let pass := fun s : Session Script =>
      compileAll Script.host t params outputDir templates s
    let results := fun s : Session Script =>
      compileResults Script.host t params outputDir templates { s with files := made }
    let replies := fun s : Session Script => s.state.nextOutputs templates.length
    let calls := fun s : Session Script => (pass s).2.commands.drop s.commands.length
    let o := Outcome.ofResults (results s)
    ((pass s).1 = .ok o ∧ (results s).length = templates.length ∧
      o.attempted = templates.length ∧
      ∀ template ∈ templates, Xor (template.name ∈ o.compiled.map (·.name))
        (template.name ∈ o.failures.map (·.template))) ∧
    ((pass s).2.commands = s.commands ++ calls s ∧
      List.Forall₂ (fun template call => ∃ name,
        call = t.route name (invocation t template params)) templates (calls s)) ∧
    ∀ (i : Nat) (template : Template), templates[i]? = some template →
      (∃ reply result, (replies s)[i]? = some reply ∧ (results s)[i]? = some result ∧
        Settles outputDir made (pass s).2.files template reply result) ∧
      ∀ s' : Session Script, s'.files = s.files → (replies s')[i]? = (replies s)[i]? →
        (results s')[i]? = (results s)[i]? ∧
        (pass s').2.files.read (outputPath outputDir template) =
          (pass s).2.files.read (outputPath outputDir template) ∧
        ((calls s')[i]?).map Command.unnamed = ((calls s)[i]?).map Command.unnamed := by
  intro pass results replies calls o
  obtain ⟨dir, hp⟩ := Files.plain_of_makeDirs hmade hl
  have hn : ∀ template ∈ templates, Path.IsName (Text.utf8 template.outputName) := by
    intro template ht
    refine Template.isName_output fun hm => hs template ht ?_
    exact Text.ascii_of_mem_utf8 (by decide) hm
  have hone := fun (s' : Session Script) (hf : s'.files = s.files) =>
    compileAll_settles t params (hf ▸ hmade) hp hn (outputs_distinct_names hd)
  have hlength : (results s).length = templates.length := length_compileResults ..
  obtain ⟨hok, hcalls, hsettles⟩ := hone s rfl
  refine ⟨⟨hok, hlength, ?_, ?_⟩, hcalls, ?_⟩
  · exact (Outcome.attempted_ofResults _).trans hlength
  · intro template ht
    have hperm := Outcome.ofResults_perm (results s)
    rw [names_compileResults] at hperm
    exact xor_of_perm hperm hd (List.mem_map_of_mem ht)
  · intro i template hi
    obtain ⟨reply, result, hreply, hresult, hset⟩ := hsettles i template hi
    refine ⟨⟨reply, result, hreply, hresult, hset⟩, fun s' hf hsame => ?_⟩
    obtain ⟨-, hcalls', hsettles'⟩ := hone s' hf
    obtain ⟨reply', result', hreply', hresult', hset'⟩ := hsettles' i template hi
    obtain rfl : reply' = reply := by
      rw [hreply', hreply] at hsame
      exact Option.some.inj hsame
    obtain ⟨hr, hread⟩ := hset.same hset' rfl
    refine ⟨by rw [hresult', hresult, hr], hread, ?_⟩
    rw [← List.getElem?_map, ← List.getElem?_map, unnamed_calls t params hcalls'.2,
      unnamed_calls t params hcalls.2]

/-- The first of three templates, of which one has no document and one has no place for it. -/
theorem compileAll_isolated_mixed :
    let files : Files :=
      { entries := [([[111]], .directory), ([[111], Text.utf8 "c.json"], .directory)] }
    let templates : List Template := [⟨"a", ⟨Text.utf8 "/d/a.jsonnet"⟩⟩,
      ⟨"b", ⟨Text.utf8 "/d/b.jsonnet"⟩⟩, ⟨"c", ⟨Text.utf8 "/d/c.jsonnet"⟩⟩]
    let t : Toolchain := ⟨.containerized "jsonnet", "docker", ⟨[47]⟩, ⟨[47, 100]⟩⟩
    let s : Output → Session Script := fun o =>
      { files, state := { outputs := [.ok ⟨some 0, "{}", ""⟩, .ok o, .ok ⟨some 0, "1", ""⟩] }
        process := 1 }
    let pass := fun o => compileAll Script.host t {} ⟨[47, 111]⟩ templates (s o)
    let failing := pass ⟨some 1, "", "no"⟩
    let other := pass ⟨some 0, "[]", ""⟩
    (∃ o, failing.1 = .ok o ∧ o.attempted = 3) ∧
      failing.2.files.read ⟨Text.utf8 "/o/a.json"⟩ = .ok (Text.utf8 "{}") ∧
      other.2.files.read ⟨Text.utf8 "/o/a.json"⟩ =
        failing.2.files.read ⟨Text.utf8 "/o/a.json"⟩ := by
  intro files templates t s pass failing other
  have hmade : files.makeDirs ⟨[47, 111]⟩ = (.ok (), files) := by cbv
  have hl : files.HoldsNoLinks ⟨[47, 111]⟩ := by
    have hfree : files.LinkFree := by
      intro x hx target
      simp only [files, List.mem_cons, List.not_mem_nil, or_false] at hx
      rcases hx with rfl | rfl
      · exact Entry.noConfusion
      · exact Entry.noConfusion
    exact fun dir _ n target => hfree.get? (dir ++ [n]) target
  obtain ⟨⟨ho, _, hthree, _⟩, _, hsettled⟩ := compileAll_isolated t {} ⟨[47, 111]⟩ templates
    (s ⟨some 1, "", "no"⟩) files hmade hl (by decide) (by decide)
  obtain ⟨⟨reply, result, hreply, _, hs⟩, hsame⟩ := hsettled 0 _ rfl
  cases hreply
  have hw : files.Writable (outputPath ⟨[47, 111]⟩ ⟨"a", ⟨Text.utf8 "/d/a.jsonnet"⟩⟩) :=
    Files.writable_of_free (l := [[111], Text.utf8 "a.json"]) (by cbv)
  have hp : (⟨some 0, "{}", ""⟩ : Output).Prints :=
    ⟨rfl, (Json.check_eq_ok_iff _).mp (by cbv)⟩
  obtain ⟨c, hc⟩ := hs.succeeds.mpr ⟨hw, _, rfl, hp⟩
  obtain ⟨o, e, _, hread⟩ := hs.compiled c hc
  rw [← Except.ok.inj e] at hread
  exact ⟨⟨_, ho, hthree⟩, hread, (hsame (s ⟨some 0, "[]", ""⟩) rfl rfl).2.1⟩

end Dashboards
