import Dashboards.Proofs.Json.Scalar

/-!
# Checking accepts exactly the grammar

`scan` walks over a text with a stack of open brackets. Its steps are stated once, by what comes
next in the text; the two directions are derived from them.

* `IsValue.walks`     a value of the grammar is walked over, whatever is open around it: induction
                      on its derivation;
* `Reads`             what a text must hold for the rest of a walk to succeed, for each mode;
* `reads_of_scan`     a walk that succeeds has read that: induction on the length of the text;
* `check_eq_ok_iff`   a text is accepted if and only if it is derived from `IsText`.
-/

namespace Dashboards
namespace Json

/-! ### one step -/

/-- The text at which the value of an entry starts: in an object the key is read first. -/
def enter (b : Bracket) (cs : List Char) : Except Stop (List Char) :=
  match b with
  | .list => .ok cs
  | .object => key (skip cs)

section steps
variable {bs : List Bracket} {cs r : List Char} {c : Char} {m : Mode}

/-- Nothing but blanks is left. -/
theorem scan_nil (h : skip cs = []) : scan m bs cs =
    match m, bs with
    | .value, _ => .error ⟨.endInValue, [], 0⟩
    | _, [] => .ok ()
    | _, b :: _ => .error ⟨b.endProblem, [], 0⟩ := by
  rw [scan.eq_def]
  split
  · rfl
  · next h' =>
    rw [h] at h'
    cases h'

/-- One step, by the next character that is not blank. -/
theorem scan_cons (h : skip cs = c :: r) : scan m bs cs =
    match m, bs with
    | .value, _ =>
      if c = '[' then scan .first (.list :: bs) r
      else if c = '\x7b' then scan .first (.object :: bs) r
      else (scalar (c :: r)).bind (scan .after bs)
    | _, [] => .error ⟨.trailing, c :: r, 1⟩
    | .after, b :: bs =>
      if c = b.closing then scan .after bs r
      else if c = ',' then (enter b r).bind (scan .value (b :: bs))
      else .error ⟨b.commaProblem, c :: r, 1⟩
    | .first, b :: bs =>
      if c = b.closing then scan .after bs r
      else (enter b (c :: r)).bind (scan .value (b :: bs)) := by
  have hk : skip (c :: r) = c :: r := skip_of_not_blank (skip_head h) r
  rw [scan.eq_def]
  split
  · next h' =>
    rw [h] at h'
    cases h'
  · next h' =>
    rw [h] at h'
    cases h'
    cases m with
    | value =>
      by_cases h1 : c = '['
      · simp only [if_pos h1]
      · by_cases h2 : c = '\x7b'
        · simp only [if_neg h1, if_pos h2]
        · simp only [if_neg h1, if_neg h2]
          split <;> next hs => rw [hs]; rfl
    | first =>
      cases bs with
      | nil => rfl
      | cons b bs =>
        cases b with
        | list => rfl
        | object =>
          by_cases h1 : c = Bracket.closing .object
          · simp only [if_pos h1]
          · simp only [if_neg h1, enter, hk]
            split <;> next hs => rw [hs]; rfl
    | after =>
      cases bs with
      | nil => rfl
      | cons b bs =>
        cases b with
        | list => rfl
        | object =>
          by_cases h1 : c = Bracket.closing .object
          · simp only [if_pos h1]
          · by_cases h2 : c = ','
            · simp only [if_neg h1, if_pos h2, enter]
              split <;> next hs => rw [hs]; rfl
            · simp only [if_neg h1, if_neg h2]

theorem scan_closing (hm : m ≠ .value) (b : Bracket) (h : skip cs = b.closing :: r) :
    scan m (b :: bs) cs = scan .after bs r := by
  rw [scan_cons h]
  cases m with
  | value => exact absurd rfl hm
  | first => exact if_pos rfl
  | after => exact if_pos rfl

theorem scan_comma (b : Bracket) (h : skip cs = ',' :: r) :
    scan .after (b :: bs) cs = (enter b r).bind (scan .value (b :: bs)) := by
  have hc : ',' ≠ b.closing := by cases b <;> decide
  rw [scan_cons h]
  simp only [if_neg hc, if_pos]

theorem skip_skip (cs : List Char) : skip (skip cs) = skip cs := by
  cases h : skip cs with
  | nil => rfl
  | cons c r => exact skip_of_not_blank (skip_head h) r

theorem scan_skip : scan m bs (skip cs) = scan m bs cs := by
  have hs := skip_skip cs
  cases h : skip cs with
  | nil => rw [scan_nil h, scan_nil (h ▸ hs)]
  | cons c r => rw [scan_cons h, scan_cons (h ▸ hs)]

theorem scan_entry (b : Bracket) (h : skip cs = c :: r) (hc : c ≠ b.closing) :
    scan .first (b :: bs) cs = (enter b cs).bind (scan .value (b :: bs)) := by
  rw [scan_cons h]
  simp only [if_neg hc]
  rw [← h]
  cases b with
  | list => exact scan_skip
  | object => simp only [enter, skip_skip]

end steps

/-! ### the head of an entry -/

theorem enter_append {b : Bracket} {h : List Char} (hh : IsHead b h) (r : List Char) :
    ∃ w, IsBlanks w ∧ enter b (h ++ r) = .ok (w ++ r) := by
  cases b with
  | list => exact ⟨h, hh, rfl⟩
  | object =>
    obtain ⟨k, hk⟩ := hh
    obtain ⟨hw, hk, hw', hw''⟩ := hk
    refine ⟨_, hw'', ?_⟩
    obtain ⟨cs, rfl⟩ := hk.head
    have hq : isBlank '"' = false := rfl
    simp only [enter, List.append_assoc, skip_append hw, List.cons_append]
    rw [skip_of_not_blank hq]
    exact key_append hk hw' _

theorem enter_sound {b : Bracket} {cs r : List Char} (h : enter b cs = .ok r) :
    ∃ h, cs = h ++ r ∧ ∀ w, IsBlanks w → IsHead b (h ++ w) := by
  cases b with
  | list =>
    cases h
    exact ⟨[], rfl, fun w hw => hw⟩
  | object =>
    obtain ⟨w, hw, e⟩ := skip_sound cs
    obtain ⟨k, w', hk, hw', e'⟩ := key_sound h
    refine ⟨w ++ (k ++ (w' ++ [':'])), ?_, fun w'' hw'' => ⟨k, ?_⟩⟩
    · rw [e, e']
      simp only [List.append_assoc, List.cons_append, List.nil_append]
    · have hk' := IsKey.colon hw hk hw' hw''
      simpa only [List.append_assoc, List.cons_append, List.nil_append] using hk'

/-! ### texts of the grammar are accepted -/

/-- The value is walked over, whatever brackets are open around it. -/
def Walks (v : List Char) : Prop :=
  ∀ (bs : List Bracket) (w r : List Char), IsBlanks w → Ends r →
    scan .value bs (w ++ (v ++ r)) = scan .after bs r

theorem ends_blanks {w : List Char} (hw : IsBlanks w) {r : List Char} (hr : Ends r) :
    Ends (w ++ r) := by
  intro c cs h
  cases w with
  | nil => exact hr c cs h
  | cons d w =>
    have hd : d = c := (List.cons.inj h).1
    have hc := hw d List.mem_cons_self
    rw [hd] at hc
    simp only [List.mem_cons, List.not_mem_nil, or_false] at hc
    rcases hc with rfl | rfl | rfl | rfl
    · exact ⟨fun h => h.ne (d := ' ') rfl rfl, by decide⟩
    · exact ⟨fun h => h.ne (d := '\t') rfl rfl, by decide⟩
    · exact ⟨fun h => h.ne (d := '\n') rfl rfl, by decide⟩
    · exact ⟨fun h => h.ne (d := '\r') rfl rfl, by decide⟩

theorem ends_of_ne {c : Char} (hd : c.isDigit = false) (hc : c ∉ ['.', 'e', 'E'])
    (r : List Char) : Ends (c :: r) := by
  intro d ds h
  rw [← (List.cons.inj h).1]
  simp only [List.mem_cons, List.not_mem_nil, or_false, not_or] at hc
  exact ⟨fun h => h.ne hd rfl, hc⟩

theorem ends_following (b : Bracket) (ps : List Piece) (r : List Char) :
    Ends (following ps ++ b.closing :: r) := by
  cases ps with
  | nil => cases b <;> exact ends_of_ne rfl (by decide) r
  | cons p ps => exact ends_of_ne rfl (by decide) _

theorem scan_piece {b : Bracket} {p : Piece} (hh : IsHead b p.head) (hv : Walks p.value)
    (bs : List Bracket) {r : List Char} (hr : Ends (p.after ++ r)) :
    (enter b (p.text ++ r)).bind (scan .value (b :: bs)) =
      scan .after (b :: bs) (p.after ++ r) := by
  have e : p.text ++ r = p.head ++ (p.value ++ (p.after ++ r)) := by
    simp only [Piece.text, List.append_assoc]
  obtain ⟨w, hw, he⟩ := enter_append hh (p.value ++ (p.after ++ r))
  rw [e, he]
  exact hv (b :: bs) w (p.after ++ r) hw hr

/-- What stands in an entry is walked over, given that its value is. -/
def Walked (b : Bracket) (p : Piece) : Prop := IsHead b p.head ∧ Walks p.value ∧ IsBlanks p.after

theorem scan_following {b : Bracket} (bs : List Bracket) (r : List Char) {ps : List Piece}
    (hp : ∀ p ∈ ps, Walked b p) {w : List Char} (hw : IsBlanks w) :
    scan .after (b :: bs) (w ++ (following ps ++ b.closing :: r)) = scan .after bs r := by
  induction ps generalizing w with
  | nil =>
    have hb : isBlank b.closing = false := by cases b <;> rfl
    refine scan_closing (m := .after) (by decide) b ?_
    rw [skip_append hw]
    exact skip_of_not_blank hb r
  | cons p ps ih =>
    obtain ⟨hh, hv, ha⟩ := hp p List.mem_cons_self
    have hs : skip (w ++ (following (p :: ps) ++ b.closing :: r))
        = ',' :: (p.text ++ (following ps ++ b.closing :: r)) := by
      rw [skip_append hw, following_cons, List.cons_append, skip_of_not_blank rfl,
        List.append_assoc]
    rw [scan_comma b hs, scan_piece hh hv bs (ends_blanks ha (ends_following b ps r))]
    exact ih (fun q hq => hp q (List.mem_cons_of_mem p hq)) ha

theorem skip_entry {b : Bracket} {h : List Char} (hh : IsHead b h) {v : List Char}
    (hv : IsValue v) (r : List Char) :
    ∃ c cs, skip (h ++ (v ++ r)) = c :: cs ∧ c ≠ b.closing := by
  cases b with
  | list =>
    obtain ⟨c, cs, rfl, hc⟩ := hv.head
    refine ⟨c, cs ++ r, ?_, hc.ne_closing .list⟩
    rw [skip_append hh]
    exact skip_of_not_blank hc.not_blank _
  | object =>
    obtain ⟨k, hk⟩ := hh
    cases hk with
    | @colon w w' w'' hw hk hw' hw'' =>
      obtain ⟨cs, rfl⟩ := hk.head
      refine ⟨'"', cs ++ (w' ++ ':' :: w'') ++ (v ++ r), ?_, by decide⟩
      rw [List.append_assoc, skip_append hw]
      exact skip_of_not_blank rfl _

theorem scan_inside {b : Bracket} (bs : List Bracket) (r : List Char) {ps : List Piece}
    (hne : ps ≠ []) (hv : ∀ p ∈ ps, IsValue p.value) (hp : ∀ p ∈ ps, Walked b p) :
    scan .first (b :: bs) (inside ps ++ b.closing :: r) = scan .after bs r := by
  cases ps with
  | nil => exact absurd rfl hne
  | cons p ps =>
    obtain ⟨hh, hw, ha⟩ := hp p List.mem_cons_self
    have hr := ends_blanks ha (ends_following b ps r)
    have e : inside (p :: ps) ++ b.closing :: r = p.text ++ (following ps ++ b.closing :: r) := by
      rw [inside_cons, List.append_assoc]
    obtain ⟨c, cs, hs, hc⟩ := skip_entry hh (hv p List.mem_cons_self)
      (p.after ++ (following ps ++ b.closing :: r))
    have hs' : skip (p.text ++ (following ps ++ b.closing :: r)) = c :: cs := by
      rw [← hs, Piece.text, List.append_assoc, List.append_assoc]
    rw [e, scan_entry b hs' hc, scan_piece hh hw bs hr]
    exact scan_following bs r (fun q hq => hp q (List.mem_cons_of_mem p hq)) ha

theorem scan_opening {bs : List Bracket} (b : Bracket) {w r : List Char} (hw : IsBlanks w) :
    scan .value bs (w ++ b.opening :: r) = scan .first (b :: bs) r := by
  have hb : isBlank b.opening = false := by cases b <;> rfl
  have hs : skip (w ++ b.opening :: r) = b.opening :: r := by
    rw [skip_append hw]
    exact skip_of_not_blank hb r
  rw [scan_cons hs]
  cases b with
  | list => rfl
  | object => rfl

theorem IsScalar.walks {v : List Char} (h : IsScalar v) : Walks v := by
  intro bs w r hw hr
  obtain ⟨c, cs, rfl, hc⟩ := h.head
  have h1 : c ≠ '[' := hc.ne_opening .list
  have h2 : c ≠ '\x7b' := hc.ne_opening .object
  have hs : skip (w ++ (c :: cs ++ r)) = c :: (cs ++ r) := by
    rw [skip_append hw]
    exact skip_of_not_blank (Starts.scalar hc).not_blank _
  rw [scan_cons hs]
  simp only [if_neg h1, if_neg h2]
  rw [← List.cons_append, scalar_append h hr]
  rfl

theorem IsValue.walks {v : List Char} (h : IsValue v) : Walks v := by
  induction h with
  | scalar h => exact h.walks
  | @empty b w' hw' =>
    intro bs w r hw _
    have hb : isBlank b.closing = false := by cases b <;> rfl
    have e : b.opening :: w' ++ [b.closing] ++ r = b.opening :: (w' ++ b.closing :: r) := by
      simp only [List.cons_append, List.append_assoc, List.nil_append]
    rw [e, scan_opening b hw]
    refine scan_closing (m := .first) (by decide) b ?_
    rw [skip_append hw']
    exact skip_of_not_blank hb r
  | @entries b ps hne hh hv ha ih =>
    intro bs w r hw _
    have e : b.opening :: inside ps ++ [b.closing] ++ r
        = b.opening :: (inside ps ++ b.closing :: r) := by
      simp only [List.cons_append, List.append_assoc, List.nil_append]
    rw [e, scan_opening b hw]
    exact scan_inside bs r hne hv (fun p hp => ⟨hh p hp, ih p hp, ha p hp⟩)

/-! ### accepted texts are texts of the grammar -/

def Entries (b : Bracket) (ps : List Piece) : Prop :=
  ∀ p ∈ ps, IsHead b p.head ∧ IsValue p.value ∧ IsBlanks p.after

/-- What a text holds when the rest of the walk succeeds. -/
def Reads (m : Mode) (bs : List Bracket) (cs : List Char) : Prop :=
  match m, bs with
  | .value, bs => ∃ w v r, IsBlanks w ∧ IsValue v ∧ cs = w ++ (v ++ r) ∧ scan .after bs r = .ok ()
  | _, [] => IsBlanks cs
  | .first, b :: bs => ∃ v r, cs = v ++ r ∧ IsValue (b.opening :: v) ∧ scan .after bs r = .ok ()
  | .after, b :: bs => ∃ w ps r, IsBlanks w ∧ Entries b ps ∧
      cs = w ++ (following ps ++ b.closing :: r) ∧ scan .after bs r = .ok ()

theorem IsHead.blanks {b : Bracket} {w h : List Char} (hw : IsBlanks w) (hh : IsHead b h) :
    IsHead b (w ++ h) := by
  cases b with
  | list => exact hw.append hh
  | object =>
    obtain ⟨k, hk⟩ := hh
    cases hk with
    | colon hw1 hk hw2 hw3 =>
      rw [← List.append_assoc]
      exact ⟨k, .colon (hw.append hw1) hk hw2 hw3⟩

theorem Entries.cons {b : Bracket} {p : Piece} {ps : List Piece} (hh : IsHead b p.head)
    (hv : IsValue p.value) (ha : IsBlanks p.after) (h : Entries b ps) : Entries b (p :: ps) :=
  List.forall_mem_cons.mpr ⟨⟨hh, hv, ha⟩, h⟩

theorem Entries.isValue {b : Bracket} {p : Piece} {ps : List Piece} (h : Entries b (p :: ps)) :
    IsValue (b.opening :: (p.text ++ (following ps ++ [b.closing]))) := by
  have hv := IsValue.entries b (List.cons_ne_nil p ps) (fun q hq => (h q hq).1)
    (fun q hq => (h q hq).2.1) (fun q hq => (h q hq).2.2)
  rwa [inside_cons, List.cons_append, List.append_assoc] at hv

/-- An entry is followed by more of them and the closing bracket, if both of its two walks, over
the value and after it, do what they should. -/
theorem reads_entry {b : Bracket} {bs : List Bracket} {cs : List Char}
    (h : (enter b cs).bind (scan .value (b :: bs)) = .ok ())
    (hv : ∀ x, x.length ≤ cs.length → scan .value (b :: bs) x = .ok () → Reads .value (b :: bs) x)
    (ha : ∀ x, x.length < cs.length → scan .after (b :: bs) x = .ok () → Reads .after (b :: bs) x) :
    ∃ p ps r, Entries b (p :: ps) ∧ cs = p.text ++ (following ps ++ b.closing :: r) ∧
      scan .after bs r = .ok () := by
  cases he : enter b cs with
  | error e =>
    rw [he] at h
    cases h
  | ok x =>
    rw [he] at h
    obtain ⟨hd, rfl, hh⟩ := enter_sound he
    obtain ⟨w, v, y, hw, hval, rfl, hy⟩ := hv x (by simp) h
    obtain ⟨c, vs, rfl, _⟩ := hval.head
    obtain ⟨w', ps, r, hw', hps, rfl, hr⟩ := ha y (by simp; omega) hy
    refine ⟨⟨hd ++ w, c :: vs, w'⟩, ps, r, .cons (hh w hw) hval hw' hps, ?_, hr⟩
    simp only [Piece.text, List.append_assoc]

/-- What an accepting walk over shorter texts reads, as the induction gives it. -/
def ReadsBelow (n : Nat) : Prop :=
  ∀ (m : Mode) (bs : List Bracket) (x : List Char), 2 * x.length + m.rank < n →
    scan m bs x = .ok () → Reads m bs x

theorem ReadsBelow.entry {n : Nat} (ih : ReadsBelow n) {b : Bracket} {bs : List Bracket}
    {x : List Char} (hn : 2 * x.length < n)
    (h : (enter b x).bind (scan .value (b :: bs)) = .ok ()) :
    ∃ p ps r, Entries b (p :: ps) ∧ x = p.text ++ (following ps ++ b.closing :: r) ∧
      scan .after bs r = .ok () := by
  refine reads_entry h (fun y hy => ih .value _ y ?_) (fun y hy => ih .after _ y ?_)
  · simp only [Mode.rank]
    omega
  · simp only [Mode.rank]
    omega

theorem reads_value {n : Nat} (ih : ReadsBelow n) {bs : List Bracket} {w r : List Char} {c : Char}
    (hn : 2 * (w ++ c :: r).length ≤ n) (hw : IsBlanks w)
    (h : (if c = '[' then scan .first (.list :: bs) r
      else if c = '\x7b' then scan .first (.object :: bs) r
      else (scalar (c :: r)).bind (scan .after bs)) = .ok ()) :
    Reads .value bs (w ++ c :: r) := by
  have hr : 2 * r.length + 1 < n := by
    simp only [List.length_append, List.length_cons] at hn
    omega
  have opened : ∀ b : Bracket, scan .first (b :: bs) r = .ok () →
      Reads .value bs (w ++ b.opening :: r) := fun b hb => by
    obtain ⟨v, r', rfl, hv, ha⟩ := ih .first (b :: bs) r hr hb
    exact ⟨w, _, r', hw, hv, rfl, ha⟩
  split at h
  · next hc => exact hc ▸ opened .list h
  · split at h
    · next hc => exact hc ▸ opened .object h
    · cases hs : scalar (c :: r) with
      | error e =>
        rw [hs] at h
        cases h
      | ok r' =>
        rw [hs] at h
        obtain ⟨v, hv, e⟩ := scalar_sound hs
        exact ⟨w, v, r', hw, .scalar hv, by rw [e], h⟩

theorem reads_first {n : Nat} (ih : ReadsBelow n) {b : Bracket} {bs : List Bracket}
    {w r : List Char} {c : Char} (hn : 2 * (w ++ c :: r).length < n) (hw : IsBlanks w)
    (h : (if c = b.closing then scan .after bs r
      else (enter b (c :: r)).bind (scan .value (b :: bs))) = .ok ()) :
    Reads .first (b :: bs) (w ++ c :: r) := by
  split at h
  · next hc =>
    rw [hc]
    refine ⟨w ++ [b.closing], r, by simp, ?_, h⟩
    exact IsValue.empty b hw
  · have hl : 2 * (c :: r).length < n := by
      simp only [List.length_append] at hn
      omega
    obtain ⟨p, ps, r', hp, e, ha⟩ := ih.entry hl h
    obtain ⟨hh, hv, ha'⟩ := hp p List.mem_cons_self
    have hp' : Entries b (⟨w ++ p.head, p.value, p.after⟩ :: ps) :=
      .cons (hh.blanks hw) hv ha' (fun q hq => hp q (List.mem_cons_of_mem p hq))
    refine ⟨_, r', ?_, hp'.isValue, ha⟩
    rw [e]
    simp only [Piece.text, List.append_assoc, List.cons_append, List.nil_append]

theorem reads_after {n : Nat} (ih : ReadsBelow n) {b : Bracket} {bs : List Bracket}
    {w r : List Char} {c : Char} (hn : 2 * (w ++ c :: r).length ≤ n) (hw : IsBlanks w)
    (h : (if c = b.closing then scan .after bs r
      else if c = ',' then (enter b r).bind (scan .value (b :: bs))
      else .error ⟨b.commaProblem, c :: r, 1⟩) = .ok ()) :
    Reads .after (b :: bs) (w ++ c :: r) := by
  split at h
  · next hc =>
    rw [hc]
    exact ⟨w, [], r, hw, List.forall_mem_nil _, rfl, h⟩
  · split at h
    · next hc =>
      have hl : 2 * r.length < n := by
        simp only [List.length_append, List.length_cons] at hn
        omega
      obtain ⟨p, ps, r', hp, e, ha⟩ := ih.entry hl h
      refine ⟨w, p :: ps, r', hw, hp, ?_, ha⟩
      rw [hc, e, following_cons, List.cons_append, List.append_assoc]
    · cases h

theorem reads_of_scan {m : Mode} {bs : List Bracket} {cs : List Char}
    (h : scan m bs cs = .ok ()) : Reads m bs cs := by
  induction hn : 2 * cs.length + m.rank using Nat.strongRecOn generalizing m bs cs with
  | ind n ih =>
    have ih' : ReadsBelow n := fun m bs x hx hm => ih _ hx hm rfl
    obtain ⟨w, hw, e⟩ := skip_sound cs
    cases hs : skip cs with
    | nil =>
      have hb := skip_eq_nil hs
      rw [scan_nil hs] at h
      cases m with
      | value => cases h
      | first =>
        cases bs with
        | nil => exact hb
        | cons b bs => cases h
      | after =>
        cases bs with
        | nil => exact hb
        | cons b bs => cases h
    | cons c r =>
      rw [scan_cons hs] at h
      rw [hs] at e
      subst e
      cases m with
      | value => exact reads_value ih' (by simp only [Mode.rank] at hn; omega) hw h
      | first =>
        cases bs with
        | nil => cases h
        | cons b bs => exact reads_first ih' (by simp only [Mode.rank] at hn; omega) hw h
      | after =>
        cases bs with
        | nil => cases h
        | cons b bs => exact reads_after ih' (by simp only [Mode.rank] at hn; omega) hw h

/-! ### the whole text -/

theorem scan_eq_ok_iff (cs : List Char) : scan .value [] cs = .ok () ↔ IsText cs := by
  constructor
  · intro h
    obtain ⟨w, v, r, hw, hv, rfl, ha⟩ := reads_of_scan h
    have hr : IsBlanks r := reads_of_scan ha
    exact .blanks hw hv hr
  · intro h
    cases h with
    | @blanks w v w' hw hv hw' =>
      have hs : skip w' = [] := by
        have := skip_append hw' []
        rwa [List.append_nil] at this
      have hr : Ends w' := by
        have := ends_blanks hw' Ends.nil
        rwa [List.append_nil] at this
      rw [hv.walks [] w w' hw hr, scan_nil hs]

/-- A text is accepted if and only if it is a JSON text. -/
theorem check_eq_ok_iff (s : String) : check s = .ok () ↔ IsText s.toList := by
  rw [← scan_eq_ok_iff, check]
  split
  · next h => simp only [h]
  · next h =>
    rw [h]
    constructor
    · exact fun h => nomatch h
    · exact fun h => nomatch h

end Json
end Dashboards
