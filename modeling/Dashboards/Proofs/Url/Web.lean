import Dashboards.Url

/-!
# Web addresses

* `WebScheme`          the schemes of the web, each with the port that goes without saying;
* `parse_of_split`     behind one of them, a text is read as a web address;
* `parse_web_iff`      and it is one in no other case.
-/

namespace Dashboards
namespace Url

inductive WebScheme : String → Nat → Prop where
  | http : WebScheme "http" 80
  | https : WebScheme "https" 443

theorem WebScheme.port {scheme : String} {standard : Nat} (h : WebScheme scheme standard) :
    defaultPort? scheme = some standard := by
  cases h with
  | http => rfl
  | https => rfl

theorem WebScheme.of_port {scheme : String} {standard : Nat}
    (hs : scheme = "http" ∨ scheme = "https") (hp : defaultPort? scheme = some standard) :
    WebScheme scheme standard := by
  rcases hs with rfl | rfl
  · cases Option.some.inj (hp.symm.trans (by rfl : defaultPort? "http" = some 80))
    exact .http
  · cases Option.some.inj (hp.symm.trans (by rfl : defaultPort? "https" = some 443))
    exact .https

theorem WebScheme.is_web {scheme : String} {standard : Nat} (h : WebScheme scheme standard) :
    (scheme = "http" || scheme = "https") = true := by
  cases h with
  | http => rfl
  | https => rfl

theorem scheme_of_parseWeb {scheme : String} {standard : Nat} {cs : List Char} {u : Url}
    (h : parseWeb scheme standard cs = .ok u) : u.scheme = scheme := by
  rw [parseWeb] at h
  split at h
  · cases h
  · rw [← Except.ok.inj h]

theorem parse_of_split {s scheme : String} {standard : Nat} {rest : List Char}
    (hs : splitScheme (clean s) = some (scheme, rest)) (h : WebScheme scheme standard) :
    parse s = (parseWeb scheme standard rest).map .web := by
  rw [parse, hs]
  dsimp only
  rw [h.port]
  dsimp only
  cases parseWeb scheme standard rest with
  | error e => rfl
  | ok u =>
    dsimp only
    rw [if_pos h.is_web]
    rfl

theorem parse_web_iff {s : String} {u : Url} : parse s = .ok (.web u) ↔
    ∃ scheme standard rest, splitScheme (clean s) = some (scheme, rest) ∧
      WebScheme scheme standard ∧ parseWeb scheme standard rest = .ok u := by
  constructor
  · intro h
    rw [parse] at h
    cases hs : splitScheme (clean s) with
    | none =>
      rw [hs] at h
      cases h
    | some p =>
      obtain ⟨scheme, rest⟩ := p
      rw [hs] at h
      dsimp only at h
      cases hd : defaultPort? scheme with
      | none =>
        rw [hd] at h
        dsimp only at h
        split at h
        · cases h
        · exact nomatch (Except.ok.inj h)
      | some standard =>
        rw [hd] at h
        dsimp only at h
        cases hw : parseWeb scheme standard rest with
        | error e =>
          rw [hw] at h
          cases h
        | ok u' =>
          rw [hw] at h
          dsimp only at h
          split at h
          · rename_i hweb
            rw [Parsed.web.inj (Except.ok.inj h)] at hw
            exact ⟨scheme, standard, rest, rfl, .of_port (by simpa using hweb) hd, hw⟩
          · exact nomatch (Except.ok.inj h)
  · rintro ⟨scheme, standard, rest, hs, hweb, hw⟩
    rw [parse_of_split hs hweb, hw]
    rfl

theorem scheme_of_parse {s : String} {u : Url} (h : parse s = .ok (.web u)) :
    u.scheme = "http" ∨ u.scheme = "https" := by
  obtain ⟨scheme, standard, rest, -, hweb, hw⟩ := parse_web_iff.mp h
  rw [scheme_of_parseWeb hw]
  simpa using hweb.is_web

end Url
end Dashboards
