import Dashboards.Proofs.Text.Split
import Dashboards.Proofs.Url.Host
import Dashboards.Proofs.Url.Percent
import Dashboards.Url

/-!
# Authorities are read back

* `credentialsText`, `portText`   how name, password and port stand around the host;
* `Authority.Settled`       the parts of an authority in their final form;
* `settled_readAuthority`   every authority that is read has such parts;
* `readAuthority_text`      and they are read again from the text of it, if the host is.
-/

namespace Dashboards
namespace Url

def credentialsText (username password : List Char) : List Char :=
  if username = [] ∧ password = [] then []
  else username ++ (if password = [] then [] else ':' :: password) ++ ['@']

def portText : Option Nat → List Char
  | some n => ':' :: Nat.toDigits 10 n
  | none => []

structure Authority.Settled (standard : Nat) (a : Authority) : Prop where
  username : ∀ c ∈ a.username.toList, Admits inUserinfo c
  password : ∀ c ∈ a.password.toList, Admits inUserinfo c
  host : ReadAgain a.host
  port : ∀ n, a.port = some n → n ≤ 65535 ∧ n ≠ standard

def Authority.text (a : Authority) : List Char :=
  credentialsText a.username.toList a.password.toList ++ a.host.toList ++ portText a.port

/-! ### the port -/

theorem readPort_le {n : Nat} {found : Bool} {cs : List Char} {r : Option Nat × List Char}
    (hn : n ≤ 65535) (h : readPort n found cs = .ok r) : ∀ m, r.1 = some m → m ≤ 65535 := by
  have hport : ∀ {n : Nat} {found : Bool}, n ≤ 65535 →
      ∀ m, (if found then some n else none) = some m → m ≤ 65535 := by
    intro n found hn m hm
    rw [Option.ite_none_right_eq_some, Option.some.injEq] at hm
    omega
  fun_induction readPort n found cs with
  | case1 => exact Except.ok.inj h ▸ hport hn
  | case2 => cases h
  | case3 _ _ _ _ _ _ hle ih => exact ih (Nat.le_of_not_lt hle) h
  | case4 => exact Except.ok.inj h ▸ hport hn
  | case5 => cases h

theorem digitChar_digit : ∀ d < 10, (Nat.digitChar d).isDigit = true ∧
    (Nat.digitChar d).toNat - 48 = d := by decide

theorem readPort_digit {n d : Nat} {found : Bool} {rest : List Char} (hd : d < 10)
    (hn : n * 10 + d ≤ 65535) :
    readPort n found (Nat.digitChar d :: rest) = readPort (n * 10 + d) true rest := by
  obtain ⟨hdigit, hvalue⟩ := digitChar_digit d hd
  rw [readPort, if_pos hdigit, hvalue, if_neg (by omega)]

/-- The digits before the rest are read first. -/
theorem readPort_toDigits {m : Nat} {found : Bool} {rest : List Char} (hm : m ≤ 65535) :
    readPort 0 found (Nat.toDigits 10 m ++ rest) = readPort m true rest := by
  induction m using Nat.strongRecOn generalizing rest with
  | ind m ih =>
    rw [Nat.toDigits_eq_if (by decide)]
    split
    · rename_i h
      rw [List.singleton_append, readPort_digit h (by omega), Nat.zero_mul, Nat.zero_add]
    · rw [List.append_assoc, ih (m / 10) (by omega) (by omega), List.singleton_append,
        readPort_digit (Nat.mod_lt m (by decide)) (by omega), Nat.div_add_mod']

theorem readPort_stop {m : Nat} {rest : List Char}
    (hrest : ∀ c ∈ rest.head?, endsAuthority true c = true) :
    readPort m true rest = .ok (some m, rest) := by
  cases rest with
  | nil => rfl
  | cons c rest =>
    have hc := hrest c rfl
    simp only [endsAuthority, Bool.true_and, Bool.or_eq_true, decide_eq_true_eq] at hc
    rw [readPort]
    rcases hc with ((rfl | rfl) | rfl) | rfl
    · rfl
    · rfl
    · rfl
    · rfl

/-! ### name and password -/

section
variable {username password : List Char}

theorem splitCredentials_text (hu : ∀ c ∈ username, Admits inUserinfo c)
    (hp : ∀ c ∈ password, Admits inUserinfo c) :
    splitCredentials (username ++ (if password = [] then [] else ':' :: password)) =
      (String.ofList username, String.ofList password) := by
  have hcolon : ∀ c ∈ username, decide (c ≠ ':') = true :=
    fun c hc => decide_eq_true fun e => (e ▸ hu c hc).free (by decide)
  rw [splitCredentials]
  split
  · rename_i hnil
    rw [List.append_nil, List.takeWhile_eq_self_iff.mpr hcolon, hnil]
    rw [percentEncode_admitted hu, List.drop_of_length_le (Nat.le_succ _)]
    rfl
  · rw [Text.takeWhile_stop hcolon (by decide), percentEncode_admitted hu]
    simp [percentEncode_admitted hp]

end

section
variable {inner host rest : List Char}

theorem takeWhile_authority (hhost : ∀ c ∈ host, endsAuthority true c = false)
    (hrest : ∀ c ∈ rest.head?, endsAuthority true c = true) :
    (host ++ rest).takeWhile (!endsAuthority true ·) = host :=
  Text.takeWhile_until (fun c hc => by rw [hhost c hc]; rfl) fun c hc => by rw [hrest c hc]; rfl

theorem splitUserinfo_none (hhost : ∀ c ∈ host, endsAuthority true c = false ∧ c ≠ '@')
    (hrest : ∀ c ∈ rest.head?, endsAuthority true c = true) :
    splitUserinfo true (host ++ rest) = (none, host ++ rest) := by
  have hat : ∀ c ∈ host.reverse, decide (c ≠ '@') = true :=
    fun c hc => decide_eq_true (hhost c (List.mem_reverse.mp hc)).2
  rw [splitUserinfo, takeWhile_authority (fun c hc => (hhost c hc).1) hrest,
    List.takeWhile_eq_self_iff.mpr hat, List.reverse_reverse]
  exact if_pos rfl

theorem splitUserinfo_some (hinner : ∀ c ∈ inner, endsAuthority true c = false)
    (hhost : ∀ c ∈ host, endsAuthority true c = false ∧ c ≠ '@')
    (hrest : ∀ c ∈ rest.head?, endsAuthority true c = true) :
    splitUserinfo true (inner ++ '@' :: (host ++ rest)) = (some inner, host ++ rest) := by
  have hat : ∀ c ∈ host.reverse, decide (c ≠ '@') = true :=
    fun c hc => decide_eq_true (hhost c (List.mem_reverse.mp hc)).2
  have hall : ∀ c ∈ inner ++ '@' :: host, endsAuthority true c = false := by
    intro c hc
    rcases List.mem_append.mp hc with hc | hc
    · exact hinner c hc
    · exact (List.mem_cons.mp hc).elim (fun e => e ▸ rfl) fun hc => (hhost c hc).1
  have hauthority : (inner ++ '@' :: (host ++ rest)).takeWhile (!endsAuthority true ·) =
      inner ++ '@' :: host := by
    rw [← List.cons_append, ← List.append_assoc, takeWhile_authority hall hrest]
  have hreverse : (inner ++ '@' :: host).reverse = host.reverse ++ '@' :: inner.reverse := by simp
  have hlength : (inner ++ '@' :: host).length - host.length = inner.length + 1 := by
    rw [List.length_append, List.length_cons]
    omega
  rw [splitUserinfo, hauthority, hreverse, Text.takeWhile_stop hat (by decide),
    List.reverse_reverse]
  dsimp only
  rw [if_neg (by rw [List.length_append, List.length_cons]; omega), hlength]
  simp

theorem not_ends_of_admits {c : Char} (h : Admits inUserinfo c) : endsAuthority true c = false := by
  rw [Bool.eq_false_iff]
  intro hends
  simp only [endsAuthority, Bool.true_and, Bool.or_eq_true, decide_eq_true_eq] at hends
  rcases hends with ((rfl | rfl) | rfl) | rfl
  all_goals exact h.free (by decide)

theorem splitUserinfo_text {username password : List Char}
    (hu : ∀ c ∈ username, Admits inUserinfo c) (hp : ∀ c ∈ password, Admits inUserinfo c)
    (hhost : ∀ c ∈ host, endsAuthority true c = false ∧ c ≠ '@')
    (hrest : ∀ c ∈ rest.head?, endsAuthority true c = true) :
    ∃ userinfo, splitUserinfo true (credentialsText username password ++ (host ++ rest)) =
        (userinfo, host ++ rest) ∧ userinfo ≠ some [] ∧
      splitCredentials (userinfo.getD []) = (String.ofList username, String.ofList password) := by
  rw [credentialsText]
  split
  · rename_i hnone
    rw [List.nil_append, hnone.1, hnone.2]
    exact ⟨none, splitUserinfo_none hhost hrest, (Option.some_ne_none []).symm, rfl⟩
  · rename_i hsome
    have hpass : ∀ c ∈ if password = [] then [] else ':' :: password,
        endsAuthority true c = false := by
      split
      · exact List.forall_mem_nil _
      · exact List.forall_mem_cons.mpr ⟨rfl, fun c hc => not_ends_of_admits (hp c hc)⟩
    refine ⟨some (username ++ (if password = [] then [] else ':' :: password)), ?_, fun e => ?_,
      splitCredentials_text hu hp⟩
    · rw [List.append_assoc (_ ++ _), List.singleton_append]
      refine splitUserinfo_some (List.forall_mem_append.mpr ⟨fun c hc => ?_, hpass⟩) hhost hrest
      exact not_ends_of_admits (hu c hc)
    · obtain ⟨hname, hrest⟩ := List.append_eq_nil_iff.mp (Option.some.inj e)
      refine hsome ⟨hname, ?_⟩
      split at hrest
      · assumption
      · cases hrest

end

/-! ### the whole -/

theorem settled_readAuthority {standard : Nat} {cs : List Char} {a : Authority}
    (h : readAuthority standard cs = .ok a) : a.Settled standard := by
  rw [readAuthority] at h
  dsimp only at h
  split at h
  · cases h
  · split at h
    · cases h
    · split at h
      · cases h
      · rename_i host hhost
        split at h
        · split at h
          · cases h
          · rename_i port rest hport
            obtain rfl := Except.ok.inj h
            refine ⟨admits_encoded escapable_inUserinfo _, admits_encoded escapable_inUserinfo _,
              readAgain_of_read hhost, fun n hn => ?_⟩
            obtain ⟨hn, hne⟩ := Option.filter_eq_some_iff.mp hn
            exact ⟨readPort_le (Nat.zero_le _) hport n hn, of_decide_eq_true hne⟩
        · obtain rfl := Except.ok.inj h
          exact ⟨admits_encoded escapable_inUserinfo _, admits_encoded escapable_inUserinfo _,
            readAgain_of_read hhost, fun n hn => nomatch hn⟩

theorem head?_portText {port : Option Nat} {rest : List Char}
    (hrest : ∀ c ∈ rest.head?, endsAuthority true c = true) :
    ∀ c ∈ (portText port ++ rest).head?, c = ':' ∨ endsAuthority true c = true := by
  cases port with
  | none => exact fun c hc => .inr (hrest c hc)
  | some n => exact fun c hc => .inl (Option.some.inj hc).symm

theorem mem_portText {port : Option Nat} :
    ∀ c ∈ portText port, 0x20 < c.toNat ∧ endsAuthority true c = false ∧ c ≠ '@' := by
  cases port with
  | none => exact List.forall_mem_nil _
  | some n =>
    refine List.forall_mem_cons.mpr ⟨by decide, fun c hc => ?_⟩
    have hd := Nat.isDigit_of_mem_toDigits (by decide) (by decide) hc
    exact of_ascii (p := fun c => c.isDigit = true → 0x20 < c.toNat ∧
      endsAuthority true c = false ∧ c ≠ '@') (by decide) (isDigit_ascii hd) hd

theorem mem_credentialsText {username password : List Char}
    (hu : ∀ c ∈ username, Admits inUserinfo c) (hp : ∀ c ∈ password, Admits inUserinfo c) :
    ∀ c ∈ credentialsText username password, 0x20 < c.toNat ∧ endsAuthority true c = false := by
  have hadmits : ∀ {c : Char}, Admits inUserinfo c →
      0x20 < c.toNat ∧ endsAuthority true c = false :=
    fun h => ⟨h.not_space (by decide), not_ends_of_admits h⟩
  rw [credentialsText]
  split
  · exact List.forall_mem_nil _
  · rw [List.forall_mem_append, List.forall_mem_append, List.forall_mem_singleton]
    refine ⟨⟨fun c hc => hadmits (hu c hc), ?_⟩, by decide⟩
    split
    · exact List.forall_mem_nil _
    · exact List.forall_mem_cons.mpr ⟨by decide, fun c hc => hadmits (hp c hc)⟩

/-- The characters of an authority. -/
theorem Authority.Settled.mem_text {standard : Nat} {a : Authority} (h : a.Settled standard) :
    ∀ c ∈ a.text, 0x20 < c.toNat ∧ endsAuthority true c = false := by
  rw [Authority.text, List.forall_mem_append, List.forall_mem_append]
  exact ⟨⟨mem_credentialsText h.username h.password, fun c hc =>
    ⟨(h.host.text.visible c hc).1, (h.host.text.inside c hc).1⟩⟩, fun c hc =>
    ⟨(mem_portText c hc).1, (mem_portText c hc).2.1⟩⟩

/-- Only the host decides whether the text is read; everything else comes back. -/
theorem readAuthority_text {standard : Nat} {a : Authority} (h : a.Settled standard)
    {rest : List Char} (hrest : ∀ c ∈ rest.head?, endsAuthority true c = true) :
    readAuthority standard (a.text ++ rest) =
      (Host.read a.host.toList).map fun host => { a with host, rest } := by
  obtain ⟨username, password, host, port, before⟩ := a
  obtain ⟨huser, hpassword, ⟨hhost, -, -⟩, hport⟩ := h
  dsimp only at *
  have hinside : ∀ c ∈ host.toList ++ portText port, endsAuthority true c = false ∧ c ≠ '@' :=
    List.forall_mem_append.mpr ⟨hhost.inside, fun c hc => (mem_portText c hc).2⟩
  obtain ⟨userinfo, hsplit, hne, hcredentials⟩ :=
    splitUserinfo_text huser hpassword hinside hrest
  have htext : Authority.text ⟨username, password, host, port, before⟩ ++ rest =
      credentialsText username.toList password.toList ++
        (host.toList ++ portText port ++ rest) := by
    simp only [Authority.text, List.append_assoc]
  have hbounded := hhost.bounded (portText port ++ rest) (head?_portText hrest)
  rw [String.ofList_toList, String.ofList_toList] at hcredentials
  rw [htext, readAuthority, hsplit]
  dsimp only
  rw [hcredentials]
  dsimp only
  rw [List.append_assoc, hbounded, if_neg (by simp [hne]), if_neg (by simp [hhost.ne]),
    List.drop_left]
  cases Host.read host.toList with
  | error e => rfl
  | ok host' =>
    cases port with
    | none =>
      simp only [portText, List.nil_append]
      split
      · exact absurd (hrest ':' rfl) (by decide)
      · rfl
    | some n =>
      obtain ⟨hle, hstandard⟩ := hport n rfl
      have hkept : (some n).filter (· ≠ standard) = some n := by
        rw [Option.filter_some, if_pos (decide_eq_true hstandard)]
      simp only [portText, List.cons_append, readPort_toDigits hle, readPort_stop hrest, hkept]
      rfl

end Url
end Dashboards
