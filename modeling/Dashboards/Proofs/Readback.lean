import Dashboards.Proofs.Conclusion
import Dashboards.Proofs.Json.Printed

/-!
# Reports read back

The written form of a report tells all of it but the documents, which stand in files of their own.

* `Report.Told`            what a report tells;
* `Report.read?`           the same, read from a JSON value member by member;
* `Path.text?_eq_some_iff` a path has a text just when it is made from one;
* `readsAll`               a list is read back if each of its entries is;
* `read_json`              the JSON form of a report is read back;
* `json_of_texts`, `json_of_not_text`   a report has a JSON form just when its paths are texts;
* `report_read_back`       the two texts of a report, and what can be told from them.
-/

namespace Dashboards

/-! ### reading JSON values -/

namespace Json.Value

def text? : Value → Option String
  | .text s => some s
  | _ => none

def nat? : Value → Option Nat
  | .nat n => some n
  | _ => none

def bool? : Value → Option Bool
  | .bool b => some b
  | _ => none

/-- The value of the first member with this key. -/
def member? (v : Value) (key : String) : Option Value :=
  match v with
  | .object ms => ms.lookup key
  | _ => none

/-- What a reader finds in the entries of a list, if it can read all of them. -/
def all? {α : Type} (read : Value → Option α) : Value → Option (List α)
  | .list vs => vs.mapM read
  | _ => none

end Json.Value

open Json (Value)

/-- The mode is named by its tag. -/
def Mode.read? (v : Value) : Option Mode := do
  let tag ← (← v.member? "mode").text?
  if tag = "native" then return .native
  else if tag = "containerized" then return .containerized (← (← v.member? "image").text?)
  else none

/-- The name of a dashboard and the place where its document was written. -/
def Compiled.read? (v : Value) : Option (String × Path) := do
  return (← (← v.member? "name").text?, .ofString (← (← v.member? "path").text?))

def CompileFailure.read? (v : Value) : Option CompileFailure := do
  return ⟨← (← v.member? "template").text?, ← (← v.member? "message").text?⟩

def PublishStatus.read? (v : Value) : Option PublishStatus := do
  let tag ← (← v.member? "kind").text?
  if tag = "http" then return .http (← (← v.member? "code").nat?)
  else if tag = "transport" then return .transport
  else none

/-- A detail may be left out. -/
def PublishResult.detail? (v : Value) : Option (Option String) :=
  match v.member? "detail" with
  | none => some none
  | some d => d.text?.map some

def PublishResult.read? (v : Value) : Option PublishResult := do
  return ⟨← (← v.member? "name").text?, ← PublishStatus.read? (← v.member? "status"),
    ← (← v.member? "success").bool?, ← PublishResult.detail? v⟩

def PublishPhase.read? (v : Value) : Option PublishPhase := do
  let tag ← (← v.member? "state").text?
  if tag = "skipped" then return .skipped
  else if tag = "attempted" then
    return .attempted (← (← v.member? "results").all? PublishResult.read?)
  else none

namespace Report

/-- What a report tells: all of it but the documents. -/
structure Told where
  mode : Mode
  templates : Nat
  /-- The names of the compiled templates, and where their documents were written. -/
  compiled : List (String × Path)
  failures : List CompileFailure
  publish : PublishPhase
deriving DecidableEq

def told (r : Report) : Told :=
  ⟨r.mode, r.templates, r.compiled.map fun c => (c.name, c.path), r.failures, r.publish⟩

def read? (v : Value) : Option Told := do
  return ⟨← Mode.read? (← v.member? "mode"), ← (← v.member? "templates").nat?,
    ← (← v.member? "compiled").all? Compiled.read?,
    ← (← v.member? "compile_failures").all? CompileFailure.read?,
    ← PublishPhase.read? (← v.member? "publish")⟩

end Report

/-! ### lists -/

section
variable {α β ε : Type}

/-- Entries that are read back one by one are read back together. -/
theorem readsAll {read : Value → Option β} {view : α → β} {as : List α} {vs : List Value}
    (h : List.Forall₂ (fun a v => read v = some (view a)) as vs) :
    (Value.list vs).all? read = some (as.map view) := by
  show vs.mapM read = some (as.map view)
  induction h with
  | nil => rfl
  | cons h _ ih =>
    rw [List.mapM_cons, h, ih]
    rfl

theorem readsAll_map {read : Value → Option α} {write : α → Value}
    (h : ∀ a, read (write a) = some a) (as : List α) :
    (Value.list (as.map write)).all? read = some as := by
  have hall : (Value.list (as.map write)).all? read = some (as.map id) :=
    readsAll (List.forall₂_map_right_iff.mpr (List.forall₂_same.mpr fun a _ => h a))
  rwa [List.map_id] at hall

theorem forall₂_of_mapM {f : α → Except ε β} {as : List α} {bs : List β}
    (h : as.mapM f = .ok bs) : List.Forall₂ (fun a b => f a = .ok b) as bs := by
  induction as generalizing bs with
  | nil =>
    cases h
    exact .nil
  | cons a as ih =>
    rw [List.mapM_cons] at h
    cases hb : f a with
    | error e =>
      rw [hb] at h
      cases h
    | ok b =>
      cases hbs : as.mapM f with
      | error e =>
        rw [hb, hbs] at h
        cases h
      | ok bs' =>
        rw [hb, hbs] at h
        cases h
        exact .cons hb (ih hbs)

/-- Where every entry has a form, the list has one; and the first failure is the failure of one of
its entries. -/
theorem mapM_cases (f : α → Except ε β) (as : List α) :
    (∃ bs, as.mapM f = .ok bs ∧ ∀ a ∈ as, ∃ b, f a = .ok b) ∨
      ∃ a ∈ as, ∃ e, f a = .error e ∧ as.mapM f = .error e := by
  induction as with
  | nil => exact .inl ⟨[], rfl, List.forall_mem_nil _⟩
  | cons a as ih =>
    cases hb : f a with
    | error e =>
      refine .inr ⟨a, List.mem_cons_self, e, hb, ?_⟩
      rw [List.mapM_cons, hb]
      rfl
    | ok b =>
      rcases ih with ⟨bs, hbs, hall⟩ | ⟨a', ha', e, he, hbs⟩
      · refine .inl ⟨b :: bs, ?_, List.forall_mem_cons.mpr ⟨⟨b, hb⟩, hall⟩⟩
        rw [List.mapM_cons, hb, hbs]
        rfl
      · refine .inr ⟨a', List.mem_cons_of_mem a ha', e, he, ?_⟩
        rw [List.mapM_cons, hb, hbs]
        rfl

end

/-! ### the parts of a report -/

theorem Path.text?_eq_some_iff {p : Path} {s : String} : p.text? = some s ↔ p = .ofString s := by
  rw [Path.text?, Text.text?_eq_some_iff]
  exact ⟨congrArg Path.mk, congrArg Path.bytes⟩

theorem Path.json_eq_ok_iff {p : Path} {v : Value} :
    p.json = .ok v ↔ ∃ s, p = .ofString s ∧ v = .text s := by
  rw [Path.json]
  constructor
  · intro h
    split at h
    · rename_i s hs
      cases h
      exact ⟨s, Path.text?_eq_some_iff.mp hs, rfl⟩
    · cases h
  · rintro ⟨s, hs, rfl⟩
    rw [Path.text?_eq_some_iff.mpr hs]

theorem Mode.read_json (m : Mode) : Mode.read? m.json = some m := by
  cases m <;> rfl

theorem Compiled.read_json {c : Compiled} {v : Value} (h : c.json = .ok v) :
    Compiled.read? v = some (c.name, c.path) := by
  rw [Compiled.json] at h
  cases hp : c.path.json with
  | error e =>
    rw [hp] at h
    cases h
  | ok w =>
    rw [hp] at h
    cases h
    obtain ⟨s, hs, rfl⟩ := Path.json_eq_ok_iff.mp hp
    rw [hs]
    rfl

theorem CompileFailure.read_json (f : CompileFailure) : CompileFailure.read? f.json = some f := rfl

theorem PublishStatus.read_json (s : PublishStatus) : PublishStatus.read? s.json = some s := by
  cases s <;> rfl

theorem PublishResult.read_json (r : PublishResult) : PublishResult.read? r.json = some r := by
  obtain ⟨name, status, success, detail⟩ := r
  have hstatus := PublishStatus.read_json status
  cases detail with
  | none =>
    show (PublishStatus.read? status.json >>= fun s =>
      some (PublishResult.mk name s success none)) = _
    rw [hstatus]
    rfl
  | some d =>
    show (PublishStatus.read? status.json >>= fun s =>
      some (PublishResult.mk name s success (some d))) = _
    rw [hstatus]
    rfl

theorem PublishPhase.read_json (p : PublishPhase) : PublishPhase.read? p.json = some p := by
  cases p with
  | skipped => rfl
  | attempted rs =>
    show ((Value.list (rs.map (·.json))).all? PublishResult.read? >>= fun rs =>
      some (PublishPhase.attempted rs)) = _
    rw [readsAll_map PublishResult.read_json]
    rfl

/-! ### whole reports -/

section
variable {r : Report} {v : Value}

theorem json_eq_ok (h : r.json = .ok v) : ∃ places, r.compiled.mapM Compiled.json = .ok places ∧
    v = .object [("mode", r.mode.json), ("templates", .nat r.templates),
      ("compiled", .list places), ("compile_failures", .list (r.failures.map (·.json))),
      ("publish", r.publish.json)] := by
  rw [Report.json] at h
  cases hplaces : r.compiled.mapM Compiled.json with
  | error e =>
    rw [hplaces] at h
    cases h
  | ok places =>
    rw [hplaces] at h
    cases h
    exact ⟨places, rfl, rfl⟩

theorem read_json (h : r.json = .ok v) : Report.read? v = some r.told := by
  obtain ⟨places, hplaces, rfl⟩ := json_eq_ok h
  have hcompiled : (Value.list places).all? Compiled.read? =
      some (r.compiled.map fun c => (c.name, c.path)) :=
    readsAll ((forall₂_of_mapM hplaces).imp fun _ _ => Compiled.read_json)
  show (Mode.read? r.mode.json >>= fun mode =>
    (Value.list places).all? Compiled.read? >>= fun compiled =>
      (Value.list (r.failures.map (·.json))).all? CompileFailure.read? >>= fun failures =>
        PublishPhase.read? r.publish.json >>= fun publish =>
          some (Report.Told.mk mode r.templates compiled failures publish)) = _
  rw [Mode.read_json, hcompiled, readsAll_map CompileFailure.read_json, PublishPhase.read_json]
  rfl

theorem Compiled.json_of_text {c : Compiled} {s : String} (h : c.path = .ofString s) :
    c.json = .ok (.object [("name", .text c.name), ("path", .text s)]) := by
  rw [Compiled.json, Path.json_eq_ok_iff.mpr ⟨s, h, rfl⟩]
  rfl

theorem Compiled.json_of_not_text {c : Compiled} (h : ¬ ∃ s, c.path = .ofString s) :
    c.json = .error .notText := by
  have hnone : c.path.text? = none := by
    rw [Option.eq_none_iff_forall_ne_some]
    exact fun s hs => h ⟨s, Path.text?_eq_some_iff.mp hs⟩
  rw [Compiled.json, Path.json, hnone]
  rfl

/-- If all paths are texts, the report has a JSON form. -/
theorem json_of_texts (h : ∀ c ∈ r.compiled, ∃ s, c.path = .ofString s) : ∃ v, r.json = .ok v := by
  rcases mapM_cases Compiled.json r.compiled with ⟨places, hplaces, -⟩ | ⟨c, hc, e, he, -⟩
  · rw [Report.json, hplaces]
    exact ⟨_, rfl⟩
  · obtain ⟨s, hs⟩ := h c hc
    rw [Compiled.json_of_text hs] at he
    cases he

theorem json_of_not_text (h : ¬ ∀ c ∈ r.compiled, ∃ s, c.path = .ofString s) :
    r.json = .error .notText := by
  rcases mapM_cases Compiled.json r.compiled with ⟨_, -, hall⟩ | ⟨c, -, e, he, hplaces⟩
  · refine absurd (fun c hc => ?_) h
    by_contra hno
    obtain ⟨v, hv⟩ := hall c hc
    rw [Compiled.json_of_not_text hno] at hv
    cases hv
  · by_cases hs : ∃ s, c.path = .ofString s
    · obtain ⟨s, hs⟩ := hs
      rw [Compiled.json_of_text hs] at he
      cases he
    · rw [Compiled.json_of_not_text hs] at he
      cases he
      rw [Report.json, hplaces]
      rfl

end

theorem compact_toList (v : Value) : v.compact.toList = v.written false 0 := String.toList_ofList

theorem pretty_toList (v : Value) : v.pretty.toList = v.written true 0 := String.toList_ofList

/-- Both texts of a value are JSON texts that mean it. -/
theorem means_texts (v : Value) : ∀ text ∈ [v.compact, v.pretty],
    Json.IsText text.toList ∧ ∀ w, Json.Means w text.toList ↔ w = v := by
  intro text htext
  obtain ⟨pretty, hpretty⟩ : ∃ pretty, text.toList = v.written pretty 0 := by
    rcases List.mem_cons.mp htext with rfl | htext
    · exact ⟨false, compact_toList v⟩
    · rw [List.mem_singleton.mp htext]
      exact ⟨true, pretty_toList v⟩
  rw [hpretty]
  exact ⟨(Json.means_written pretty v 0).isValue.isText, fun w => Json.means_iff pretty 0⟩

theorem eq_of_text {v w : Value} (h : w.compact = v.compact ∨ w.pretty = v.pretty) : w = v := by
  rcases h with h | h
  · have hw : Json.Means w w.compact.toList := ((means_texts w _ List.mem_cons_self).2 w).mpr rfl
    exact ((means_texts v _ List.mem_cons_self).2 w).mp (h ▸ hw)
  · have hmem : ∀ u : Value, u.pretty ∈ [u.compact, u.pretty] := fun u =>
      List.mem_cons_of_mem _ List.mem_cons_self
    have hw : Json.Means w w.pretty.toList := ((means_texts w _ (hmem w)).2 w).mpr rfl
    exact ((means_texts v _ (hmem v)).2 w).mp (h ▸ hw)

/-- A report with a JSON form is saved as its indented text; what fails then is a file. -/
theorem save_of_json {r : Report} {v : Value} (hv : r.json = .ok v) (p : Path) (t : Files) :
    (∃ t', r.save p t = (.ok (), t') ∧ t'.readText p = .ok v.pretty) ∨
      ∃ q cause t', r.save p t = (.error (.io q cause), t') := by
  cases hs : r.save p t with
  | mk result t' =>
    cases result with
    | ok u =>
      obtain ⟨w, hw, hread⟩ := save_eq_ok hs
      cases hv.symm.trans hw
      refine .inl ⟨t', rfl, ?_⟩
      rw [Files.readText, hread]
      dsimp only
      rw [Text.text?_eq_some_iff.mpr rfl]
    | error f =>
      refine .inr ?_
      rw [Report.save, hv] at hs
      dsimp only at hs
      split at hs
      · rename_i hmade
        cases hs
        split at hmade
        · cases hmade
        · split at hmade
          · cases hmade
            exact ⟨_, _, _, rfl⟩
          · cases hmade
      · split at hs
        · cases hs
          exact ⟨_, _, _, rfl⟩
        · cases hs

/-- A report whose paths are texts has a JSON form. On one line and indented, this is a JSON text
that means the same value; the indented text is what is saved, unless a file fails. All that the
report tells can be read from the value, so reports with the same text tell the same. A report with
another path has no JSON form: saving it fails for that reason, and all files are left alone. -/
theorem report_read_back (r : Report) :
    ((∀ c ∈ r.compiled, ∃ s, c.path = .ofString s) → ∃ v, r.json = .ok v ∧
      (∀ text ∈ [v.compact, v.pretty],
        Json.IsText text.toList ∧ ∀ w, Json.Means w text.toList ↔ w = v) ∧
      Report.read? v = some r.told ∧
      (∀ (r' : Report) (v' : Value), r'.json = .ok v' →
        v'.compact = v.compact ∨ v'.pretty = v.pretty → r'.told = r.told) ∧
      ∀ p t, (∃ t', r.save p t = (.ok (), t') ∧ t'.readText p = .ok v.pretty) ∨
        ∃ q cause t', r.save p t = (.error (.io q cause), t')) ∧
    ((¬ ∀ c ∈ r.compiled, ∃ s, c.path = .ofString s) →
      ∀ p t, r.save p t = (.error (.serialize .notText), t)) := by
  constructor
  · intro htexts
    obtain ⟨v, hv⟩ := json_of_texts htexts
    have hmeans := means_texts v
    refine ⟨v, hv, hmeans, read_json hv, fun r' v' hv' hsame => ?_, save_of_json hv⟩
    cases eq_of_text hsame
    exact Option.some.inj ((read_json hv').symm.trans (read_json hv))
  · intro hbad p t
    rw [Report.save, json_of_not_text hbad]

/-- Quotes, backslashes, controls and line ends, a detail that is there and one that is not; and a
path that is no text. -/
theorem report_read_back_escaped :
    let results : List PublishResult :=
      [⟨"a", .http 500, false, some "\x00\n"⟩, ⟨"a", .transport, true, none⟩]
    let document := Half.compiled.document
    let r : Report := ⟨.containerized "i\"\\", 2, [⟨"a", .ofString "/b/a.json", document⟩],
      [⟨"b", "\"]"⟩], .attempted results⟩
    let bad : Report := { r with compiled := ⟨"c", ⟨[0xFF]⟩, document⟩ :: r.compiled }
    (∃ v t', r.json = .ok v ∧ Report.read? v = some r.told ∧
      r.save (.ofString "r.json") {} = (.ok (), t') ∧
        t'.readText (.ofString "r.json") = .ok v.pretty) ∧
    bad.save (.ofString "d/r.json") {} = (.error (.serialize .notText), {}) := by
  intro results document r bad
  have htexts : ∀ c ∈ r.compiled, ∃ s, c.path = .ofString s := by
    intro c hc
    rw [List.mem_singleton.mp hc]
    exact ⟨_, rfl⟩
  obtain ⟨v, hv, -, hread, -, hsave⟩ := (report_read_back r).1 htexts
  have hbad : ¬ ∀ c ∈ bad.compiled, ∃ s, c.path = .ofString s := by
    intro hall
    obtain ⟨s, hs⟩ := hall _ List.mem_cons_self
    have hnone : (⟨[0xFF]⟩ : Path).text? = none := by cbv
    rw [Path.text?_eq_some_iff.mpr hs] at hnone
    cases hnone
  have hplace : ({} : Files).find (.ofString "r.json") false =
      .ok (.free [Text.utf8 "r.json"] false) := by cbv
  have hsaved : (r.save (.ofString "r.json") {}).1 = .ok () := by
    obtain ⟨files, hw⟩ := Files.writable_of_free hplace (Text.utf8 v.pretty)
    have hparent : (Path.ofString "r.json").parent?.filter (!·.bytes.isEmpty) = none := rfl
    rw [Report.save, hv]
    dsimp only
    rw [hparent]
    dsimp only
    rw [hw]
  refine ⟨?_, (report_read_back bad).2 hbad _ _⟩
  rcases hsave (.ofString "r.json") {} with ⟨t', hs, ht⟩ | ⟨q, cause, t', hs⟩
  · exact ⟨v, t', hv, hread, hs, ht⟩
  · rw [hs] at hsaved
    cases hsaved

end Dashboards
