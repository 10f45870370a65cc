import Dashboards.Publish
import Dashboards.Proofs.Compile
import Dashboards.Proofs.Json.Printed

/-!
# The body of a request

An envelope is written as an object, with the document as the text of its first member. Since this
is a value, and a value can be cut off in one way only, the object has the three members that were
written, whatever the document holds.

* `Envelope.isObject_iff`   the members of the body;
* `envelope_body`           the body, letter by letter;
* `envelope_intact`         the body made from the output of the compiler.
-/

namespace Dashboards
open Json Json.Value

namespace Envelope

/-- The members with the raw texts of keys and values. -/
def rawMembers (e : Envelope) : List (List Char × List Char) :=
  e.members.map fun m => (quote m.1, m.2)

theorem isValue_members (e : Envelope) : ∀ m ∈ e.members, IsValue m.2 := by
  simp only [members, List.forall_mem_cons]
  exact ⟨e.dashboard.isValue, (means_written false (.bool e.overwrite) 0).isValue,
    (means_written false (.nat e.folderId) 0).isValue, List.forall_mem_nil _⟩

theorem body_chars (e : Envelope) : e.body.toList =
    '\x7b' :: between [','] (e.rawMembers.map fun m => m.1 ++ ':' :: m.2) ++ ['\x7d'] := by
  rw [body, String.toList_ofList, rawMembers, List.map_map]
  rfl

theorem isObject (e : Envelope) : IsObject e.rawMembers e.body.toList := by
  have h : IsObject e.rawMembers _ := isObject_enclosed false 0 fun m hm => by
    obtain ⟨x, hx, rfl⟩ := List.mem_map.mp hm
    exact ⟨(says_quote x.1).isString, e.isValue_members x hx⟩
  rw [enclosed_compact] at h
  rw [body_chars]
  exact h

theorem isObject_iff (e : Envelope) (ms : List (List Char × List Char)) :
    IsObject ms e.body.toList ↔ ms = e.rawMembers := by
  constructor
  · exact fun h => h.unique e.isObject
  · rintro rfl
    exact e.isObject

end Envelope

theorem rawMembers_envelope (d : Document) : (envelope d).rawMembers =
    [("\"dashboard\"".toList, d.text.toList), ("\"overwrite\"".toList, "true".toList),
      ("\"folderId\"".toList, "0".toList)] := by
  have hd : quote "dashboard" = "\"dashboard\"".toList := by decide
  have ho : quote "overwrite" = "\"overwrite\"".toList := by decide
  have hf : quote "folderId" = "\"folderId\"".toList := by decide
  have htrue : (Value.bool true).compactChars = "true".toList := by decide
  have hroot : (Value.nat rootFolder).compactChars = "0".toList := by decide
  simp only [Envelope.rawMembers, Envelope.members, envelope, List.map, hd, ho, hf, htrue, hroot]

theorem envelope_body (d : Document) : (envelope d).body =
    "\x7b\"dashboard\":" ++ d.text ++ ",\"overwrite\":true,\"folderId\":0\x7d" := by
  have hfront : "\x7b\"dashboard\":".toList = '\x7b' :: ("\"dashboard\"".toList ++ [':']) := by
    decide
  have hback : ",\"overwrite\":true,\"folderId\":0\x7d".toList =
      ',' :: ("\"overwrite\"".toList ++ ':' :: ("true".toList ++
        ',' :: ("\"folderId\"".toList ++ ':' :: ("0".toList ++ ['\x7d'])))) := by decide
  rw [← String.toList_inj, Envelope.body_chars, rawMembers_envelope, String.toList_append,
    String.toList_append, hfront, hback]
  simp only [List.map_cons, List.map_nil, between, List.cons_append, List.nil_append,
    List.append_assoc]

/-! ### from the output of the compiler -/

section
variable {σ : Type}

/-- Whatever a compiler prints, the body of the request for it is one JSON text, an object with the
three members of an envelope and nothing else. -/
theorem envelope_intact (h : Host σ) (t : Toolchain) (params : Params) (outputDir : Path)
    (template : Template) (s s' : Session σ) (c : Compiled)
    (hc : compile h t params outputDir template s = (.ok c, s')) :
    ∃ o, (compilerReply h t params template s).1 = .ok o ∧
      (envelope c.document).body =
        "\x7b\"dashboard\":" ++ Text.trim o.stdout ++ ",\"overwrite\":true,\"folderId\":0\x7d" ∧
      IsText (envelope c.document).body.toList ∧
      (∀ ms, IsObject ms (envelope c.document).body.toList ↔
        ms = [("\"dashboard\"".toList, (Text.trim o.stdout).toList),
          ("\"overwrite\"".toList, "true".toList), ("\"folderId\"".toList, "0".toList)]) ∧
      ∀ endpoint token (s : Session σ), (publish h endpoint token c s).2.requests =
        s.requests ++ [⟨endpoint, token, (envelope c.document).body⟩] := by
  obtain ⟨o, files, hr, _, rfl, _⟩ := compile_eq_ok_iff.mp hc
  refine ⟨o.toOutput, hr, envelope_body o.document, ?_, fun ms => ?_, fun _ _ _ => rfl⟩
  · exact (envelope o.document).isObject.isValue.isText
  · rw [Envelope.isObject_iff]
    exact iff_of_eq (congrArg (ms = ·) (rawMembers_envelope o.document))

end

theorem envelope_intact_quotes :
    let t : Toolchain := ⟨.native, "docker", ⟨[]⟩, ⟨[]⟩⟩
    let printed := "[\"\\\",\\\"overwrite\\\":false\x7d\"]\n"
    let s : Session Script :=
      { files := {}, state := { outputs := [.ok ⟨some 0, printed, ""⟩] }, process := 1 }
    ∃ c s', compile Script.host t {} ⟨[]⟩ ⟨"a", ⟨[]⟩⟩ s = (.ok c, s') ∧
      IsText (envelope c.document).body.toList := by
  intro t printed s
  have ht : IsText (Text.trim printed).toList := (check_eq_ok_iff (Text.trim printed)).mp (by cbv)
  obtain ⟨files, hw⟩ : ∃ files, s.files.write (outputPath ⟨[]⟩ ⟨"a", ⟨[]⟩⟩) (Text.utf8 printed)
      = .ok files := ⟨_, by cbv⟩
  have hc : compile Script.host t {} ⟨[]⟩ ⟨"a", ⟨[]⟩⟩ s = (.ok _, _) := compile_eq_ok_iff.mpr
    ⟨⟨⟨some 0, printed, ""⟩, rfl, ht⟩, files, rfl, hw, rfl, rfl⟩
  obtain ⟨_, _, _, hb, _⟩ := envelope_intact Script.host t {} ⟨[]⟩ ⟨"a", ⟨[]⟩⟩ s _ _ hc
  exact ⟨_, _, hc, hb⟩

end Dashboards
