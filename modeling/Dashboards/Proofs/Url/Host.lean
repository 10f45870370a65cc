import Dashboards.Proofs.Text.Split
import Dashboards.Proofs.Text.Utf8
import Dashboards.Proofs.Url.Address
import Dashboards.Proofs.Url.Idna
import Dashboards.Url

/-!
# Hosts are read back

* `HostText`              the text of a host, which ends where the authority goes on;
* `ReadAgain`             a host that is read from its own text, just when the codes of its labels
                          can be read;
* `readAgain_ipv6Text`, `readAgain_ipv4Text`, `readAgain_domain`   the three kinds of hosts;
* `readAgain_of_read`     so every host that is read is one.
-/

namespace Dashboards
namespace Url

structure HostText (h : List Char) : Prop where
  ne : h ≠ []
  visible : ∀ c ∈ h, 0x20 < c.toNat ∧ c.toNat < 0x7F
  inside : ∀ c ∈ h, endsAuthority true c = false ∧ c ≠ '@'
  bounded : ∀ rest, (∀ c ∈ rest.head?, c = ':' ∨ endsAuthority true c = true) →
    hostChars true false (h ++ rest) = h

/-- A host is read from its own text if its codes can be read, and else not at all. -/
structure ReadAgain (host : String) : Prop where
  text : HostText host.toList
  read : Idna.Readable host.toList → Host.read host.toList = .ok host
  readable : ∀ host', Host.read host.toList = .ok host' → Idna.Readable host.toList

/-! ### where a host ends -/

theorem hostChars_stop {rest : List Char}
    (hrest : ∀ c ∈ rest.head?, c = ':' ∨ endsAuthority true c = true) :
    hostChars true false rest = [] := by
  cases rest with
  | nil => rfl
  | cons c rest =>
    rw [hostChars, if_pos]
    rcases hrest c rfl with rfl | h
    · rfl
    · rw [h, Bool.true_or]

/-- Outside of brackets a colon ends it. -/
theorem hostChars_plain {h rest : List Char}
    (hh : ∀ c ∈ h, endsAuthority true c = false ∧ c ≠ ':' ∧ c ≠ '[') :
    hostChars true false (h ++ rest) = h ++ hostChars true false rest := by
  induction h with
  | nil => rfl
  | cons c h ih =>
    obtain ⟨⟨hends, hcolon, hopen⟩, hh⟩ := List.forall_mem_cons.mp hh
    rw [List.cons_append, hostChars, if_neg (by simp [hends, hcolon]), if_neg hopen, ite_self,
      ih hh, List.cons_append]

theorem hostChars_brackets {h rest : List Char}
    (hh : ∀ c ∈ h, endsAuthority true c = false ∧ c ≠ '[' ∧ c ≠ ']') :
    hostChars true true (h ++ ']' :: rest) = h ++ ']' :: hostChars true false rest := by
  induction h with
  | nil => rfl
  | cons c h ih =>
    obtain ⟨⟨hends, hopen, hclose⟩, hh⟩ := List.forall_mem_cons.mp hh
    rw [List.cons_append, hostChars, if_neg (by simp [hends]), if_neg hopen, if_neg hclose, ih hh,
      List.cons_append]

/-! ### characters -/

theorem of_ascii {p : Char → Prop} (h : ∀ n < 128, p (Char.ofNat n)) {c : Char}
    (hc : c.toNat < 128) : p c := by
  have := h c.toNat hc
  rwa [Char.ofNat_toNat] at this

/-- A character that may stand in a host outside of brackets. -/
structure HostChar (c : Char) : Prop where
  visible : 0x20 < c.toNat ∧ c.toNat < 0x7F
  inside : endsAuthority true c = false ∧ c ≠ '@'
  unmarked : c ≠ ':' ∧ c ≠ '[' ∧ c ≠ ']' ∧ c ≠ '%'

instance (c : Char) : Decidable (HostChar c) :=
  decidable_of_iff ((0x20 < c.toNat ∧ c.toNat < 0x7F) ∧ (endsAuthority true c = false ∧ c ≠ '@') ∧
    c ≠ ':' ∧ c ≠ '[' ∧ c ≠ ']' ∧ c ≠ '%')
    ⟨fun ⟨h, h', h''⟩ => ⟨h, h', h''⟩, fun ⟨h, h', h''⟩ => ⟨h, h', h''⟩⟩

theorem hostChar_of_allowed {c : Char} (hc : c.toNat < 128) (h : Idna.isForbidden c = false) :
    HostChar c := by
  revert h
  exact of_ascii (p := fun c => Idna.isForbidden c = false → HostChar c) (by decide) hc

theorem isDigit_ascii {c : Char} (h : c.isDigit = true) : c.toNat < 128 := by
  simp only [Char.isDigit, ge_iff_le, UInt32.le_iff_toNat_le, Bool.and_eq_true,
    decide_eq_true_eq] at h
  have h9 : '9'.val.toNat = 57 := rfl
  show c.val.toNat < 128
  omega

theorem digitIn?_ascii {c : Char} (h : (digitIn? 16 c).isSome = true) : c.toNat < 128 := by
  have hle : ∀ {d : Char}, c ≤ d → c.toNat ≤ d.toNat := fun h => UInt32.le_iff_toNat_le.mp h
  obtain ⟨d, hd⟩ := Option.isSome_iff_exists.mp h
  rw [digitIn?, Option.filter_eq_some_iff] at hd
  obtain ⟨hd, -⟩ := hd
  split at hd
  · rename_i hdigit
    exact isDigit_ascii hdigit
  · split at hd
    · rename_i hsmall
      rw [Bool.and_eq_true, decide_eq_true_eq, decide_eq_true_eq] at hsmall
      exact Nat.lt_of_le_of_lt (hle hsmall.2) (by decide)
    · split at hd
      · rename_i hcapital
        rw [Bool.and_eq_true, decide_eq_true_eq, decide_eq_true_eq] at hcapital
        exact Nat.lt_of_le_of_lt (hle hcapital.2) (by decide)
      · cases hd

theorem hostChar_of_digit {c : Char} (h : (digitIn? 16 c).isSome = true) : HostChar c := by
  have hc := digitIn?_ascii h
  revert h
  exact of_ascii (p := fun c => (digitIn? 16 c).isSome = true → HostChar c) (by decide) hc

/-! ### addresses in brackets -/

theorem readBrackets_ok_iff {cs : List Char} {host : String} :
    Host.readBrackets cs = .ok host ↔ ∃ r groups, cs = r ++ [']'] ∧ ipv6? (r.drop 1) = some groups ∧
      host = "[" ++ ipv6Text groups ++ "]" := by
  rw [Host.readBrackets]
  constructor
  · intro h
    split at h
    · rename_i r hr
      split at h
      · rename_i groups hgroups
        refine ⟨r.reverse, groups, ?_, hgroups, (Except.ok.inj h).symm⟩
        rw [← List.reverse_cons, ← hr, List.reverse_reverse]
      · cases h
    · cases h
  · rintro ⟨r, groups, rfl, hgroups, rfl⟩
    rw [List.reverse_append, List.reverse_singleton, List.singleton_append]
    simp only [List.reverse_reverse, hgroups]

theorem bracketsText (gs : List Nat) :
    ("[" ++ ipv6Text gs ++ "]").toList = '[' :: (ipv6Text gs).toList ++ [']'] := by
  simp

theorem hostText_brackets (gs : List Nat) : HostText ("[" ++ ipv6Text gs ++ "]").toList := by
  have hinner : ∀ c ∈ (ipv6Text gs).toList, c = ':' ∨ HostChar c :=
    fun c hc => (mem_ipv6Text hc).imp_right hostChar_of_digit
  have hchars : ∀ c ∈ '[' :: (ipv6Text gs).toList ++ [']'],
      c = '[' ∨ c = ']' ∨ c = ':' ∨ HostChar c := by
    intro c hc
    rcases List.mem_append.mp hc with hc | hc
    · exact (List.mem_cons.mp hc).imp_right fun hc => .inr (hinner c hc)
    · exact .inr (.inl (List.mem_singleton.mp hc))
  rw [bracketsText]
  refine ⟨List.cons_ne_nil _ _, fun c hc => ?_, fun c hc => ?_, fun rest hrest => ?_⟩
  · rcases hchars c hc with rfl | rfl | rfl | h
    · decide
    · decide
    · decide
    · exact h.visible
  · rcases hchars c hc with rfl | rfl | rfl | h
    · decide
    · decide
    · decide
    · exact h.inside
  · have hbrackets : ∀ c ∈ (ipv6Text gs).toList,
        endsAuthority true c = false ∧ c ≠ '[' ∧ c ≠ ']' := by
      intro c hc
      rcases hinner c hc with rfl | h
      · decide
      · exact ⟨h.inside.1, h.unmarked.2.1, h.unmarked.2.2.1⟩
    rw [List.append_assoc, List.singleton_append, List.cons_append, hostChars, if_neg (by decide),
      if_pos rfl, hostChars_brackets hbrackets, hostChars_stop hrest]
    rfl

theorem readAgain_ipv6Text {gs : List Nat} (hgs : ∀ g ∈ gs, g < 65536) (hlen : gs.length = 8) :
    ReadAgain ("[" ++ ipv6Text gs ++ "]") := by
  refine ⟨hostText_brackets gs, fun _ => ?_, fun _ _ => Idna.readable_of_no_sign fun hx => ?_⟩
  · rw [bracketsText]
    exact readBrackets_ok_iff.mpr
      ⟨'[' :: (ipv6Text gs).toList, gs, rfl, ipv6?_ipv6Text hgs hlen, rfl⟩
  · rw [bracketsText] at hx
    rcases List.mem_append.mp hx with hx | hx
    · rcases List.mem_cons.mp hx with hx | hx
      · cases hx
      · exact absurd (mem_ipv6Text hx) (by decide)
    · exact absurd hx (by decide)

/-! ### names -/

theorem percentDecode_self {bs : Text.Bytes} (h : ∀ b ∈ bs, b ≠ 37) : percentDecode bs = bs := by
  fun_induction percentDecode bs with
  | case1 => exact absurd rfl (h 37 List.mem_cons_self)
  | case2 => exact absurd rfl (h 37 List.mem_cons_self)
  | case3 b bs _ ih => rw [ih fun b hb => h b (List.mem_cons_of_mem _ hb)]
  | case4 => rfl

theorem percentDecode_plain {cs : List Char} (h : ∀ c ∈ cs, HostChar c) :
    percentDecode (cs.flatMap String.utf8EncodeChar) = cs.flatMap String.utf8EncodeChar := by
  have hbyte : ∀ {c : Char}, c.toNat < 128 → HostChar c → 37 ∉ String.utf8EncodeChar c :=
    of_ascii (p := fun c => HostChar c → 37 ∉ String.utf8EncodeChar c) (by decide)
  refine percentDecode_self ?_
  rintro b hb rfl
  obtain ⟨c, hc, hb⟩ := List.mem_flatMap.mp hb
  have hvisible := (h c hc).visible
  exact hbyte (by omega) (h c hc) hb

theorem readDomain_ok_iff {cs : List Char} {host : String} :
    Host.readDomain cs = .ok host ↔ ∃ decoded domain,
      Text.fromUtf8? (percentDecode (cs.flatMap String.utf8EncodeChar)) = some decoded ∧
      Idna.toAscii? decoded = some domain ∧ domain ≠ [] ∧
      (looksNumeric domain = false ∧ host = String.ofList domain ∨
        looksNumeric domain = true ∧ ∃ n, ipv4? domain = some n ∧ host = ipv4Text n) := by
  rw [Host.readDomain]
  constructor
  · intro h
    split at h
    · cases h
    · rename_i domain hdomain
      obtain ⟨decoded, hdecoded, hascii⟩ := Option.bind_eq_some_iff.mp hdomain
      split at h
      · cases h
      · rename_i hne
        refine ⟨decoded, domain, hdecoded, hascii, by simpa using hne, ?_⟩
        split at h
        · rename_i hnumeric
          split at h
          · rename_i n hn
            exact .inr ⟨hnumeric, n, hn, (Except.ok.inj h).symm⟩
          · cases h
        · rename_i hnumeric
          exact .inl ⟨Bool.eq_false_iff.mpr hnumeric, (Except.ok.inj h).symm⟩
  · rintro ⟨decoded, domain, hdecoded, hascii, hne, h⟩
    rw [hdecoded, Option.bind_some, hascii]
    dsimp only
    rw [if_neg (by simpa using hne)]
    rcases h with ⟨hnumeric, rfl⟩ | ⟨hnumeric, n, hn, rfl⟩
    · rw [if_neg (by rw [hnumeric]; exact Bool.false_ne_true)]
    · rw [if_pos hnumeric, hn]

section
variable {h : List Char}

theorem decoded_plain (hh : ∀ c ∈ h, HostChar c) :
    Text.fromUtf8? (percentDecode (h.flatMap String.utf8EncodeChar)) = some h := by
  rw [percentDecode_plain hh, Text.fromUtf8?_encode]

theorem hostText_plain (hne : h ≠ []) (hh : ∀ c ∈ h, HostChar c) : HostText h := by
  refine ⟨hne, fun c hc => (hh c hc).visible, fun c hc => (hh c hc).inside, fun rest hrest => ?_⟩
  have hplain : ∀ c ∈ h, endsAuthority true c = false ∧ c ≠ ':' ∧ c ≠ '[' :=
    fun c hc => ⟨(hh c hc).inside.1, (hh c hc).unmarked.1, (hh c hc).unmarked.2.1⟩
  rw [hostChars_plain hplain, hostChars_stop hrest, List.append_nil]

theorem read_plain (hh : ∀ c ∈ h, HostChar c) : Host.read h = Host.readDomain h := by
  rw [Host.read]
  rintro rest rfl
  exact (hh '[' List.mem_cons_self).unmarked.2.1 rfl

end

theorem readAgain_ipv4Text {n : Nat} (hn : n < 2 ^ 32) : ReadAgain (ipv4Text n) := by
  have hdigit : ∀ {c : Char}, c = '.' ∨ c.isDigit = true → HostChar c ∧ Idna.Plain c ∧
      Idna.isForbidden c = false ∧ c ≠ 'x' := by
    intro c hc
    have hascii : c.toNat < 128 := hc.elim (fun e => e ▸ by decide) isDigit_ascii
    revert hc
    exact of_ascii (p := fun c => c = '.' ∨ c.isDigit = true → HostChar c ∧ Idna.Plain c ∧
      Idna.isForbidden c = false ∧ c ≠ 'x') (by decide) hascii
  have hchars : ∀ c ∈ (ipv4Text n).toList, _ := fun c hc => hdigit (mem_ipv4Text hc)
  have hhost : ∀ c ∈ (ipv4Text n).toList, HostChar c := fun c hc => (hchars c hc).1
  have hnumeric := looksNumeric_ipv4Text n
  have hne : (ipv4Text n).toList ≠ [] := by
    intro e
    rw [e] at hnumeric
    exact absurd hnumeric (by decide)
  have hx : 'x' ∉ (ipv4Text n).toList := fun hx => (hchars 'x' hx).2.2.2 rfl
  refine ⟨hostText_plain hne hhost, fun _ => ?_, fun _ _ => Idna.readable_of_no_sign hx⟩
  rw [read_plain hhost]
  refine readDomain_ok_iff.mpr ⟨_, _, decoded_plain hhost, Idna.toAscii?_plain ?_ ?_ ?_, hne,
    .inr ⟨hnumeric, n, ipv4?_ipv4Text hn, rfl⟩⟩
  · exact fun c hc => (hchars c hc).2.1
  · rw [List.any_eq_false]
    exact fun c hc => by simp [(hchars c hc).2.2.1]
  · exact fun w hw hsign => hx (Idna.mem_of_mem_splitAt w hw 'x' (hsign.subset (by decide)))

theorem readAgain_domain {d domain : List Char} (h : Idna.toAscii? d = some domain)
    (hne : domain ≠ []) (hnumeric : looksNumeric domain = false) :
    ReadAgain (String.ofList domain) := by
  have hchars : ∀ c ∈ domain, HostChar c := fun c hc =>
    hostChar_of_allowed (Idna.ascii_of_toAscii? h c hc).1 (Idna.ascii_of_toAscii? h c hc).2
  constructor
  · rw [String.toList_ofList]
    exact hostText_plain hne hchars
  · rw [String.toList_ofList, read_plain hchars]
    exact fun hread => readDomain_ok_iff.mpr
      ⟨domain, domain, decoded_plain hchars, Idna.toAscii?_again h hread, hne, .inl ⟨hnumeric, rfl⟩⟩
  · rw [String.toList_ofList, read_plain hchars]
    intro host' hhost'
    obtain ⟨decoded, domain', hdecoded, hascii, -⟩ := readDomain_ok_iff.mp hhost'
    rw [decoded_plain hchars] at hdecoded
    obtain rfl := Option.some.inj hdecoded
    exact Idna.readable_of_again h hascii

theorem readAgain_of_read {cs : List Char} {host : String} (h : Host.read cs = .ok host) :
    ReadAgain host := by
  rw [Host.read.eq_def] at h
  split at h
  · obtain ⟨r, groups, -, hgroups, rfl⟩ := readBrackets_ok_iff.mp h
    obtain ⟨hsmall, hlen⟩ := ipv6?_groups hgroups
    exact readAgain_ipv6Text hsmall hlen
  · obtain ⟨decoded, domain, -, hascii, hne, hhost⟩ := readDomain_ok_iff.mp h
    rcases hhost with ⟨hnumeric, rfl⟩ | ⟨-, n, hn, rfl⟩
    · exact readAgain_domain hascii hne hnumeric
    · exact readAgain_ipv4Text (ipv4?_lt hn)

end Url
end Dashboards
