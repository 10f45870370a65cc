import Dashboards.Proofs.Url.Authority
import Dashboards.Proofs.Url.Segments
import Dashboards.Proofs.Url.Web

/-!
# Web addresses are read back

* `Settled`           every part of a URL is in its final form;
* `text_toList`       where the parts stand in its text;
* `settled_of_parse`  every web address that is read is settled;
* `parse_text_iff`    and a settled one is read again from its text, if the codes in its host can be
                      read.
-/

namespace Dashboards
namespace Url

/-- What begins with a character that a part of a URL begins with, or is left out. -/
def part (c : Char) : Option String → List Char
  | some s => c :: s.toList
  | none => []

def tailText (query fragment : Option String) : List Char := part '?' query ++ part '#' fragment

def authority (u : Url) : Authority := ⟨u.username, u.password, u.host, u.port, []⟩

structure Settled (u : Url) (standard : Nat) : Prop where
  scheme : WebScheme u.scheme standard
  authority : u.authority.Settled standard
  path : Route u.path.toList
  query : ∀ q ∈ u.query, ∀ c ∈ q.toList, Admits inQuery c
  fragment : ∀ f ∈ u.fragment, ∀ c ∈ f.toList, Admits inFragment c

theorem credentials_toList (u : Url) :
    u.credentials.toList = credentialsText u.username.toList u.password.toList := by
  simp only [credentials, credentialsText, Bool.and_eq_true, String.isEmpty_iff,
    ← String.toList_eq_nil_iff]
  split
  · rfl
  · split
    · simp
    · simp

theorem text_toList (u : Url) : u.text.toList = u.scheme.toList ++ ':' :: '/' :: '/' ::
    (u.authority.text ++ (u.path.toList ++ tailText u.query u.fragment)) := by
  simp only [text, String.toList_append, credentials_toList, authority, Authority.text, tailText]
  cases u.port <;> cases u.query <;> cases u.fragment <;>
    simp [portText, part, Nat.toString_eq_repr, Nat.toList_repr]

/-! ### behind the path -/

theorem splitTail_text {query fragment : Option String}
    (hq : ∀ q ∈ query, ∀ c ∈ q.toList, Admits inQuery c)
    (hf : ∀ f ∈ fragment, ∀ c ∈ f.toList, Admits inFragment c) :
    splitTail (tailText query fragment) = (query, fragment) := by
  have hfragment : ∀ f ∈ fragment, String.ofList (percentEncode inFragment f.toList) = f :=
    fun f h => by rw [percentEncode_admitted (hf f h), String.ofList_toList]
  cases query with
  | none =>
    cases fragment with
    | none => rfl
    | some f => exact congrArg (fun f => (none, some f)) (hfragment f rfl)
  | some q =>
    have hsign : ∀ c ∈ q.toList, decide (c ≠ '#') = true :=
      fun c hc => decide_eq_true fun e => (e ▸ hq q rfl c hc).free (by decide)
    have hpart : ∀ c ∈ (part '#' fragment).head?, decide (c ≠ '#') = false := by
      cases fragment with
      | none => exact fun c hc => nomatch hc
      | some f => exact fun c hc => by rw [← Option.some.inj hc]; rfl
    rw [tailText, part, List.cons_append, splitTail]
    dsimp only
    rw [Text.takeWhile_until hsign hpart, Text.dropWhile_until hsign hpart,
      percentEncode_admitted (hq q rfl), String.ofList_toList]
    cases fragment with
    | none => rfl
    | some f => exact congrArg (fun f => (some q, some f)) (hfragment f rfl)

theorem splitTail_admits (cs : List Char) :
    (∀ q ∈ (splitTail cs).1, ∀ c ∈ q.toList, Admits inQuery c) ∧
      ∀ f ∈ (splitTail cs).2, ∀ c ∈ f.toList, Admits inFragment c := by
  rw [splitTail.eq_def]
  split
  · refine ⟨fun q hq => Option.some.inj hq ▸ admits_encoded escapable_inQuery _, ?_⟩
    dsimp only
    split
    · exact fun f hf => Option.some.inj hf ▸ admits_encoded escapable_inFragment _
    · exact fun f hf => absurd hf (Option.not_mem_none f)
  · refine ⟨fun q hq => absurd hq (Option.not_mem_none q), ?_⟩
    dsimp only
    split
    · exact fun f hf => Option.some.inj hf ▸ admits_encoded escapable_inFragment _
    · exact fun f hf => absurd hf (Option.not_mem_none f)

theorem Route.no_end {path : List Char} (h : Route path) : ∀ c ∈ path, isPathEnd c = false := by
  obtain ⟨ss, -, hss, rfl⟩ := h
  intro c hc
  obtain ⟨s, hs, hc⟩ := List.mem_flatMap.mp hc
  rcases List.mem_cons.mp hc with rfl | hc
  · rfl
  · have hfree := ((hss s hs).admits c hc).free
    rw [isPathEnd, Bool.or_eq_false_iff, decide_eq_false_iff_not, decide_eq_false_iff_not]
    exact ⟨fun e => hfree (e ▸ by decide), fun e => hfree (e ▸ by decide)⟩

/-! ### around the whole -/

theorem clean_self {s : String} (h : ∀ c ∈ s.toList, 0x20 < c.toNat) : clean s = s.toList := by
  have hdrop : ∀ l : List Char, (∀ c ∈ l, 0x20 < c.toNat) → l.dropWhile isTrimmed = l := by
    intro l hl
    cases l with
    | nil => rfl
    | cons c l =>
      have hc := hl c List.mem_cons_self
      rw [List.dropWhile_cons_of_neg (by simpa [isTrimmed] using hc)]
  rw [clean, hdrop s.toList h, hdrop _ fun c hc => h c (List.mem_reverse.mp hc),
    List.reverse_reverse, List.filter_eq_self]
  intro c hc
  have hne : ∀ {d : Char}, d.toNat ≤ 0x20 → decide (c ≠ d) = true :=
    fun hd => decide_eq_true fun e => absurd (h c hc) (Nat.not_lt.mpr (e ▸ hd))
  rw [hne (by decide), hne (by decide), hne (by decide)]
  rfl

theorem WebScheme.split {scheme : String} {standard : Nat} (h : WebScheme scheme standard)
    (rest : List Char) : splitScheme (scheme.toList ++ ':' :: rest) = some (scheme, rest) := by
  cases h with
  | http => rfl
  | https => rfl

section
variable {u : Url} {standard : Nat}

theorem head?_tailText (query fragment : Option String) :
    ∀ c ∈ (tailText query fragment).head?, isPathEnd c = true := by
  cases query with
  | some q => exact fun c hc => by rw [← Option.some.inj hc]; rfl
  | none =>
    cases fragment with
    | some f => exact fun c hc => by rw [← Option.some.inj hc]; rfl
    | none => exact fun c hc => nomatch hc

theorem Route.head? {path : List Char} (h : Route path) (rest : List Char) :
    (path ++ rest).head? = some '/' := by
  obtain ⟨ss, hne, -, rfl⟩ := h
  cases ss with
  | nil => exact absurd rfl hne
  | cons s ss => rfl

theorem Settled.authority_ne_nil (h : u.Settled standard) : u.authority.text ≠ [] := by
  intro e
  rw [Authority.text, List.append_eq_nil_iff, List.append_eq_nil_iff] at e
  exact h.authority.host.text.ne e.1.2

theorem Settled.authority_no_slash (h : u.Settled standard) :
    ∀ c ∈ u.authority.text, isSlash c = false := by
  intro c hc
  have hends := (h.authority.mem_text c hc).2
  simp only [endsAuthority, Bool.true_and, Bool.or_eq_false_iff] at hends
  rw [isSlash, hends.1.1.1, hends.2]
  rfl

theorem Settled.dropSlashes (h : u.Settled standard) (rest : List Char) :
    ('/' :: '/' :: (u.authority.text ++ rest)).dropWhile isSlash = u.authority.text ++ rest := by
  have hstart : ∀ c ∈ (u.authority.text ++ rest).head?, isSlash c = false := by
    intro c hc
    rw [List.head?_append_of_ne_nil _ h.authority_ne_nil] at hc
    exact h.authority_no_slash c (List.mem_of_mem_head? hc)
  show (['/', '/'] ++ (u.authority.text ++ rest)).dropWhile isSlash = _
  rw [Text.dropWhile_until (List.all_eq_true.mp rfl) hstart]

theorem Settled.parseWeb (h : u.Settled standard) : Url.parseWeb u.scheme standard
    ('/' :: '/' :: (u.authority.text ++ (u.path.toList ++ tailText u.query u.fragment))) =
      (Host.read u.host.toList).map fun host => { u with host } := by
  have hends : ∀ c ∈ (u.path.toList ++ tailText u.query u.fragment).head?,
      endsAuthority true c = true := by
    intro c hc
    rw [h.path.head?] at hc
    rw [← Option.some.inj hc]
    rfl
  have hpath : ∀ c ∈ u.path.toList, (!isPathEnd c) = true :=
    fun c hc => by rw [h.path.no_end c hc]; rfl
  have htail : ∀ c ∈ (tailText u.query u.fragment).head?, (!isPathEnd c) = false :=
    fun c hc => by rw [head?_tailText _ _ c hc]; rfl
  rw [Url.parseWeb, h.dropSlashes, readAuthority_text h.authority hends]
  show _ = (Host.read u.authority.host.toList).map _
  cases Host.read u.authority.host.toList with
  | error e => rfl
  | ok host =>
    dsimp only [Except.map]
    rw [Text.dropWhile_until hpath htail, Text.takeWhile_until hpath htail,
      splitTail_text h.query h.fragment, pathText_route h.path, String.ofList_toList]
    rfl

end

theorem settled_of_parse {s : String} {u : Url} (h : parse s = .ok (.web u)) :
    ∃ standard, u.Settled standard := by
  obtain ⟨scheme, standard, rest, -, hscheme, hweb⟩ := parse_web_iff.mp h
  rw [parseWeb] at hweb
  split at hweb
  · cases hweb
  · rename_i a ha
    obtain rfl := Except.ok.inj hweb
    have hsettled := settled_readAuthority ha
    have htail := splitTail_admits (a.rest.dropWhile (!isPathEnd ·))
    exact ⟨standard, hscheme, ⟨hsettled.username, hsettled.password, hsettled.host, hsettled.port⟩,
      route_pathText _, htail.1, htail.2⟩

theorem Route.visible {path : List Char} (h : Route path) : ∀ c ∈ path, 0x20 < c.toNat := by
  obtain ⟨ss, -, hss, rfl⟩ := h
  intro c hc
  obtain ⟨s, hs, hc⟩ := List.mem_flatMap.mp hc
  rcases List.mem_cons.mp hc with rfl | hc
  · decide
  · exact ((hss s hs).admits c hc).not_space (by decide)

theorem part_visible {reserved : Reserved} (hspace : ' ' ∈ reserved) {d : Char}
    (hd : 0x20 < d.toNat) {s : Option String} (hs : ∀ s' ∈ s, ∀ c ∈ s'.toList, Admits reserved c) :
    ∀ c ∈ part d s, 0x20 < c.toNat := by
  cases s with
  | none => exact List.forall_mem_nil _
  | some s =>
    exact List.forall_mem_cons.mpr ⟨hd, fun c hc => (hs s rfl c hc).not_space hspace⟩

theorem Settled.visible {u : Url} {standard : Nat} (h : u.Settled standard) :
    ∀ c ∈ u.text.toList, 0x20 < c.toNat := by
  have hscheme : ∀ c ∈ u.scheme.toList, 0x20 < c.toNat := by
    have := h.scheme
    generalize u.scheme = scheme at this
    cases this with
    | http => exact List.all_iff_forall_prop.mp (by decide)
    | https => exact List.all_iff_forall_prop.mp (by decide)
  rw [text_toList, tailText, List.forall_mem_append, List.forall_mem_cons, List.forall_mem_cons,
    List.forall_mem_cons, List.forall_mem_append, List.forall_mem_append, List.forall_mem_append]
  exact ⟨hscheme, by decide, by decide, by decide, fun c hc => (h.authority.mem_text c hc).1,
    h.path.visible, part_visible (by decide) (by decide) h.query,
    part_visible (by decide) (by decide) h.fragment⟩

theorem parse_text {u : Url} {standard : Nat} (h : u.Settled standard) :
    parse u.text = (Host.read u.host.toList).map fun host => .web { u with host } := by
  have hsplit : splitScheme (clean u.text) = some (u.scheme, '/' :: '/' ::
      (u.authority.text ++ (u.path.toList ++ tailText u.query u.fragment))) := by
    rw [clean_self h.visible, text_toList]
    exact h.scheme.split _
  rw [parse_of_split hsplit h.scheme, h.parseWeb]
  cases Host.read u.host.toList with
  | error e => rfl
  | ok host => rfl

/-- The text of a web address is read again just when the codes in its host can be read, and then
gives the same address. -/
theorem parse_text_iff {u : Url} {standard : Nat} (h : u.Settled standard) (p : Parsed) :
    parse u.text = .ok p ↔ p = .web u ∧ Idna.Readable u.host.toList := by
  have hhost := h.authority.host
  rw [parse_text h]
  constructor
  · intro hp
    cases hr : Host.read u.host.toList with
    | error e =>
      rw [hr] at hp
      cases hp
    | ok host =>
      have hreadable := hhost.readable host hr
      have hsame : host = u.host := Except.ok.inj (hr.symm.trans (hhost.read hreadable))
      rw [hr, hsame] at hp
      exact ⟨(Except.ok.inj hp).symm, hreadable⟩
  · rintro ⟨rfl, hreadable⟩
    have hr : Host.read u.host.toList = .ok u.host := hhost.read hreadable
    rw [hr]
    rfl

end Url
end Dashboards
