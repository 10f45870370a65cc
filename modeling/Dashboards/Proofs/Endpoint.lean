import Dashboards.Proofs.Url.Settled
import Dashboards.Proofs.Validation

/-!
# Where dashboards are sent

The request goes to the text of the server's address, without the slashes at its end and with a path
behind it.

* `Url.continued`         the address that such a text belongs to: what is put behind it belongs to
                          the fragment, if there is one, or else to the query, or else to the path;
* `upsert_endpoint`       the text is read as this address, so that the path is extended just when
                          there is neither query nor fragment;
* `resolveServer_default` the server that stands when none is given is accepted;
* `upsert_endpoint_fails` with a query the path stays as it is.
-/

namespace Dashboards
namespace Url

def trimSlashes (s : String) : String := String.ofList (unslashed s.toList)

/-- The address with its last part continued. -/
def continued (u : Url) (more : String) : Url :=
  match u.fragment, u.query with
  | some f, _ => { u with fragment := some (trimSlashes f ++ more) }
  | none, some q => { u with query := some (trimSlashes q ++ more) }
  | none, none => { u with path := trimSlashes u.path ++ more }

/-- The same server, as the same user. -/
structure SameServer (u v : Url) : Prop where
  scheme : u.scheme = v.scheme
  username : u.username = v.username
  password : u.password = v.password
  host : u.host = v.host
  port : u.port = v.port

theorem sameServer_continued (u : Url) (more : String) : SameServer (u.continued more) u := by
  rw [continued]
  split
  · exact ⟨rfl, rfl, rfl, rfl, rfl⟩
  · exact ⟨rfl, rfl, rfl, rfl, rfl⟩
  · exact ⟨rfl, rfl, rfl, rfl, rfl⟩

/-! ### slashes at the end -/

theorem unslashed_append {front cs : List Char} {c : Char} (hc : c ≠ '/') :
    unslashed (front ++ c :: cs) = front ++ c :: unslashed cs := by
  induction cs using List.reverseRecOn with
  | nil =>
    exact List.rdropWhile_concat_neg _ _ _ (by simpa using hc)
  | append_singleton cs d ih =>
    have hassoc : front ++ c :: (cs ++ [d]) = (front ++ c :: cs) ++ [d] := by simp
    rw [hassoc]
    by_cases hd : d = '/'
    · subst hd
      rw [unslashed, unslashed, List.rdropWhile_concat_pos _ _ _ (by decide),
        List.rdropWhile_concat_pos _ _ _ (by decide)]
      exact ih
    · rw [unslashed, unslashed, List.rdropWhile_concat_neg _ _ _ (by simpa using hd),
        List.rdropWhile_concat_neg _ _ _ (by simpa using hd), hassoc]

theorem trimSlashes_toList (s : String) : (trimSlashes s).toList = unslashed s.toList :=
  String.toList_ofList

/-- The text of an address up to its path. -/
def front (u : Url) : List Char := u.scheme.toList ++ ':' :: '/' :: '/' :: u.authority.text

theorem text_front (u : Url) :
    u.text.toList = u.front ++ (u.path.toList ++ tailText u.query u.fragment) := by
  rw [text_toList, front, List.append_assoc]
  rfl

section
variable {u : Url} {standard : Nat}

/-- The last character in front of the path is no slash. -/
theorem Settled.unslashed_front (h : u.Settled standard) (path : List Char) :
    unslashed (u.front ++ path) = u.front ++ unslashed path := by
  obtain ⟨host, c, hlast⟩ := (List.eq_nil_or_concat' _).resolve_left h.authority_ne_nil
  have hc : isSlash c = false := h.authority_no_slash c (by simp [hlast])
  have hc : c ≠ '/' := fun e => absurd hc (by rw [e]; decide)
  have hfront : u.front = (u.scheme.toList ++ ':' :: '/' :: '/' :: host) ++ [c] := by
    rw [front, hlast, List.append_assoc]
    rfl
  rw [hfront, List.append_assoc, List.singleton_append, unslashed_append hc]
  simp

/-- What is put behind the text of an address continues its last part. -/
theorem Settled.text_continued (h : u.Settled standard) (more : String) :
    trimSlashes u.text ++ more = (u.continued more).text := by
  have hfront : (u.continued more).front = u.front := by
    rw [continued]
    split
    · rfl
    · rfl
    · rfl
  apply String.toList_injective
  rw [String.toList_append, trimSlashes_toList, text_front, text_front, hfront, continued, tailText]
  split
  · rename_i f hf
    have hend : u.front ++ (u.path.toList ++ (part '?' u.query ++ part '#' u.fragment)) =
        (u.front ++ (u.path.toList ++ part '?' u.query)) ++ '#' :: f.toList := by
      simp [hf, part]
    rw [hend, unslashed_append (by decide)]
    simp [tailText, part, trimSlashes_toList]
  · rename_i q hf hq
    have hend : u.front ++ (u.path.toList ++ (part '?' u.query ++ part '#' u.fragment)) =
        (u.front ++ u.path.toList) ++ '?' :: q.toList := by
      simp [hf, hq, part]
    rw [hend, unslashed_append (by decide)]
    simp [hf, tailText, part, trimSlashes_toList]
  · rename_i hf hq
    rw [hf, hq, part, part, List.append_nil, List.append_nil, h.unslashed_front]
    simp [tailText, part, trimSlashes_toList]

end

/-- A text that may stand in every part of an address. -/
structure Suffix (more : String) : Prop where
  path : Route more.toList
  query : ∀ c ∈ more.toList, Admits inQuery c
  fragment : ∀ c ∈ more.toList, Admits inFragment c

theorem Settled.continued {u : Url} {standard : Nat} (h : u.Settled standard) {more : String}
    (hm : Suffix more) : (u.continued more).Settled standard := by
  have hadmits : ∀ {reserved : Reserved} {s : String}, (∀ c ∈ s.toList, Admits reserved c) →
      (∀ c ∈ more.toList, Admits reserved c) →
      ∀ c ∈ (trimSlashes s ++ more).toList, Admits reserved c := by
    intro reserved s hs hmore
    rw [String.toList_append, trimSlashes_toList, List.forall_mem_append]
    exact ⟨fun c hc => hs c ((List.rdropWhile_prefix _ _).subset hc), hmore⟩
  rw [Url.continued]
  split
  · rename_i f hf
    exact ⟨h.scheme, h.authority, h.path, h.query,
      fun f' hf' => Option.some.inj hf' ▸ hadmits (h.fragment f hf) hm.fragment⟩
  · rename_i q hf hq
    exact ⟨h.scheme, h.authority, h.path,
      fun q' hq' => Option.some.inj hq' ▸ hadmits (h.query q hq) hm.query, h.fragment⟩
  · obtain ⟨ss, hne, hss, hmore⟩ := hm.path
    refine ⟨h.scheme, h.authority, ?_, h.query, h.fragment⟩
    dsimp only
    rw [String.toList_append, trimSlashes_toList, hmore]
    exact h.path.extend hne hss

end Url

namespace Config

/-- What is put behind the address of the server. -/
def upsertPath : String := "/api/dashboards/db"

theorem suffix_upsertPath : Url.Suffix upsertPath where
  path := ⟨["api".toList, "dashboards".toList, "db".toList], List.cons_ne_nil _ _, by
    simp only [List.forall_mem_cons]
    exact ⟨by decide, by decide, by decide, List.forall_mem_nil _⟩, by decide⟩
  query := List.all_iff_forall_prop.mp (by decide)
  fragment := List.all_iff_forall_prop.mp (by decide)

theorem endpoint_eq (c : Config) : c.endpoint = Url.trimSlashes c.server.text ++ upsertPath := rfl

/-- It is not left where it was put behind a path. -/
theorem ne_upsertPath (path : String) : path ≠ Url.trimSlashes path ++ upsertPath := by
  intro e
  have hlast : upsertPath.toList = "/api/dashboards/d".toList ++ ['b'] := by decide
  have htrim : Url.unslashed path.toList = path.toList := by
    rw [e, String.toList_append, hlast, ← List.append_assoc]
    exact List.rdropWhile_concat_neg _ _ _ (by decide)
  have hlength := congrArg (·.toList.length) e
  rw [String.toList_append, Url.trimSlashes_toList, htrim, List.length_append] at hlength
  have : upsertPath.toList.length = 18 := by decide
  omega

theorem server_of_ofSettings {t : Files} {s : Settings} {c : Config} (h : ofSettings t s = .ok c) :
    Url.parse (Text.trim s.serverUrl) = .ok (.web c.server) := by
  have hd := decides_ofSettings (t := t) (s := s)
  rw [h] at hd
  exact hd.result.server

end Config

/-- The text that requests are sent to is read just when the codes in the server's host can be read,
and then as the server's address with its last part continued. Its path is that of the server, with
the path for dashboards in place of the slashes at the end, just when there is neither a query nor a
fragment. -/
theorem upsert_endpoint {t : Files} {s : Settings} {c : Config}
    (h : Config.ofSettings t s = .ok c) :
    (∀ p, Url.parse c.endpoint = .ok p ↔
      p = .web (c.server.continued Config.upsertPath) ∧ Url.Idna.Readable c.server.host.toList) ∧
    (c.server.continued Config.upsertPath).SameServer c.server ∧
    ((c.server.continued Config.upsertPath).path =
        Url.trimSlashes c.server.path ++ Config.upsertPath ↔
      c.server.query = none ∧ c.server.fragment = none) := by
  obtain ⟨standard, hsettled⟩ := Url.settled_of_parse (Config.server_of_ofSettings h)
  have hsame := c.server.sameServer_continued Config.upsertPath
  refine ⟨fun p => ?_, hsame, ?_⟩
  · rw [Config.endpoint_eq, hsettled.text_continued,
      Url.parse_text_iff (hsettled.continued Config.suffix_upsertPath), hsame.host]
  · rw [Url.continued]
    split
    · rename_i f hf
      simp [hf, Config.ne_upsertPath]
    · rename_i q hf hq
      simp [hq, Config.ne_upsertPath]
    · rename_i hf hq
      simp [hf, hq]

/-! ### a server on the same machine -/

namespace Url

theorem toAscii_localhost : Idna.toAscii? "localhost".toList = some "localhost".toList :=
  Idna.toAscii?_plain (List.all_iff_forall_prop.mp (by decide)) (by decide) (by decide)

theorem settled_localhost : Authority.Settled 80 ⟨"", "", "localhost", some 3000, []⟩ where
  username := List.forall_mem_nil _
  password := List.forall_mem_nil _
  host := readAgain_domain toAscii_localhost (by decide) (by decide)
  port := by
    rintro n ⟨⟩
    decide

theorem parse_default : parse Default.serverUrl =
    .ok (.web ⟨"http", "", "", "localhost", some 3000, "/", none, none⟩) := by
  have hsplit : splitScheme (clean Default.serverUrl) =
      some ("http", "//localhost:3000".toList) := by decide
  have hslashes : "//localhost:3000".toList.dropWhile isSlash = "localhost:3000".toList := by decide
  have hread : Host.read "localhost".toList = .ok "localhost" :=
    settled_localhost.host.read (Idna.readable_of_no_sign (by decide))
  have hauthority : readAuthority 80 "localhost:3000".toList =
      .ok ⟨"", "", "localhost", some 3000, []⟩ := by
    show readAuthority 80 (Authority.text ⟨"", "", "localhost", some 3000, []⟩ ++ []) = _
    rw [readAuthority_text settled_localhost (by rintro c ⟨⟩)]
    dsimp only
    rw [hread]
    rfl
  rw [parse_of_split hsplit .http, parseWeb, hslashes, hauthority]
  rfl

end Url

/-- The server that stands when none is given is accepted. -/
theorem resolveServer_default : Config.resolveServer Default.serverUrl =
    .ok ⟨"http", "", "", "localhost", some 3000, "/", none, none⟩ := by
  have htrim : Text.trim Default.serverUrl = Default.serverUrl := by cbv
  rw [Config.resolveServer_iff, htrim, Url.parse_default]

/-- All other settings are left as they are. -/
def localConfig (server : Url) : Config :=
  .plain (.ofString "/") (.ofString "/dashboards") server none

theorem ofSettings_local {raw : String} {server : Url} (h : Config.resolveServer raw = .ok server) :
    Config.ofSettings {} { serverUrl := raw } = .ok (localConfig server) := by
  have hroot : ({} : Files).canonical Default.root = .ok (.ofString "/") := by cbv
  have hdir : Config.resolveTemplates (.ofString "/") Default.templatesDir =
      .ok (.ofString "/dashboards") := rfl
  exact Config.ofSettings_plain none hroot hdir h

theorem upsert_endpoint_local :
    ∃ c, Config.ofSettings {} { serverUrl := "http://me:key@[::1]:3000/grafana//" } = .ok c ∧
      Url.parse c.endpoint = .ok (.web ⟨"http", "me", "key", "[::1]", some 3000,
        "/grafana/api/dashboards/db", none, none⟩) := by
  have h : Config.ofSettings {} { serverUrl := "http://me:key@[::1]:3000/grafana//" } =
      .ok (localConfig ⟨"http", "me", "key", "[::1]", some 3000, "/grafana//", none, none⟩) :=
    ofSettings_local rfl
  exact ⟨_, h, ((upsert_endpoint h).1 _).mpr ⟨rfl, Url.Idna.readable_of_no_sign (by decide)⟩⟩

/-- With a query the path stays as it is: the text belongs to the query. -/
theorem upsert_endpoint_fails : ¬ ∀ (t : Files) (s : Settings) (c : Config),
    Config.ofSettings t s = .ok c → ∃ v, Url.parse c.endpoint = .ok (.web v) ∧
      v.SameServer c.server ∧ v.path = Url.trimSlashes c.server.path ++ Config.upsertPath := by
  intro hall
  have h : Config.ofSettings {} { serverUrl := "http://[::1]/?q=1" } =
      .ok (localConfig ⟨"http", "", "", "[::1]", none, "/", some "q=1", none⟩) :=
    ofSettings_local rfl
  obtain ⟨v, hv, -, hpath⟩ := hall _ _ _ h
  have hread : Url.parse "http://[::1]/?q=1/api/dashboards/db" =
      .ok (.web ⟨"http", "", "", "[::1]", none, "/", some "q=1/api/dashboards/db", none⟩) := rfl
  rw [Url.Parsed.web.inj (Except.ok.inj (hv.symm.trans hread))] at hpath
  exact absurd hpath (by decide)

end Dashboards
