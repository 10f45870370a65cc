import Dashboards.Proofs.Json.Cut
import Dashboards.Proofs.Json.Spelling

/-!
# What printed values mean

* `Means`            a value with one of its texts, by the grammar and with blanks anywhere;
* `Means.unique`     a text means one value only;
* `Value.written`    a value as it is printed, on one line or on many;
* `means_written`    the text that is printed means the value.
-/

namespace Dashboards
namespace Json
open Value

/-! ### texts of values -/

/-- The text is one of the value. A number stands in its decimal digits. -/
inductive Means : Value → List Char → Prop
  | bool (b : Bool) : Means (.bool b) (boolChars b)
  | nat (n : Nat) : Means (.nat n) (Nat.toDigits 10 n)
  | text {s : String} {cs : List Char} (h : Says s cs) : Means (.text s) cs
  | list {es : List (Value × List Char)} {cs : List Char} (h : IsList (es.map (·.2)) cs)
      (hv : ∀ e ∈ es, Means e.1 e.2) : Means (.list (es.map (·.1))) cs
  | object {es : List ((String × Value) × (List Char × List Char))} {cs : List Char}
      (h : IsObject (es.map (·.2)) cs) (hk : ∀ e ∈ es, Says e.1.1 e.2.1)
      (hv : ∀ e ∈ es, Means e.1.2 e.2.2) : Means (.object (es.map (·.1))) cs

theorem head_toDigits {n : Nat} (hn : n ≠ 0) : ∃ c cs, Nat.toDigits 10 n = c :: cs ∧ c ≠ '0' := by
  induction n using Nat.strongRecOn with
  | ind n ih =>
    rw [Nat.toDigits_eq_if (by decide)]
    split
    · rename_i hlt
      have hall : ∀ m < 10, m ≠ 0 → m.digitChar ≠ '0' := by decide
      exact ⟨_, _, rfl, hall n hlt hn⟩
    · obtain ⟨c, cs, e, hc⟩ := ih (n / 10) (by omega) (by omega)
      exact ⟨c, cs ++ [(n % 10).digitChar], by rw [e, List.cons_append], hc⟩

theorem isInteger_toDigits (n : Nat) : IsInteger (Nat.toDigits 10 n) := by
  by_cases hn : n = 0
  · subst hn
    exact .zero
  · have hdigits : ∀ c ∈ Nat.toDigits 10 n, IsDigit c := fun c hc =>
      (isDigit_iff c).mp (Nat.isDigit_of_mem_toDigits (by decide) (by decide) hc)
    obtain ⟨c, cs, e, hc⟩ := head_toDigits hn
    rw [e] at hdigits ⊢
    obtain ⟨hfirst, hrest⟩ := List.forall_mem_cons.mp hdigits
    exact .digits hfirst hc hrest

theorem Means.isValue {v : Value} {cs : List Char} (h : Means v cs) : IsValue cs := by
  cases h with
  | bool b => cases b <;> exact .scalar (.word (by decide))
  | nat n =>
    have h := IsNumber.plain (.parts (isInteger_toDigits n) .absent .absent)
    rw [List.append_nil, List.append_nil] at h
    exact .scalar (.number h)
  | text h => exact .scalar (.string h.isString)
  | list h _ => exact h.isValue
  | object h _ _ => exact h.isValue

/-! ### one value only -/

inductive Kind where
  | bool
  | nat
  | text
  | list
  | object
deriving DecidableEq

def Value.kind : Value → Kind
  | .bool _ => .bool
  | .nat _ => .nat
  | .text _ => .text
  | .list _ => .list
  | .object _ => .object

/-- The kind of value that a character begins. -/
def kindOf (c : Char) : Kind :=
  if c.isDigit then .nat
  else if c = '"' then .text
  else if c = '[' then .list
  else if c = '\x7b' then .object
  else .bool

theorem IsList.head {vs : List (List Char)} {cs : List Char} (h : IsList vs cs) :
    ∃ r, cs = '[' :: r := by
  cases h <;> exact ⟨_, rfl⟩

theorem IsObject.head {ms : List (List Char × List Char)} {cs : List Char} (h : IsObject ms cs) :
    ∃ r, cs = '\x7b' :: r := by
  cases h <;> exact ⟨_, rfl⟩

theorem Means.kind {v : Value} {cs : List Char} (h : Means v cs) :
    ∃ c r, cs = c :: r ∧ kindOf c = v.kind := by
  cases h with
  | bool b => cases b <;> exact ⟨_, _, rfl, rfl⟩
  | nat n =>
    cases h : Nat.toDigits 10 n with
    | nil => exact absurd h Nat.toDigits_ne_nil
    | cons c r =>
      refine ⟨c, r, rfl, if_pos ?_⟩
      exact Nat.isDigit_of_mem_toDigits (by decide) (by decide) (h ▸ List.mem_cons_self)
  | text h =>
    obtain ⟨h⟩ := h
    exact ⟨_, _, rfl, rfl⟩
  | list h _ =>
    obtain ⟨r, rfl⟩ := h.head
    exact ⟨_, _, rfl, rfl⟩
  | object h _ _ =>
    obtain ⟨r, rfl⟩ := h.head
    exact ⟨_, _, rfl, rfl⟩

theorem Means.kind_eq {v v' : Value} {cs : List Char} (h : Means v cs) (h' : Means v' cs) :
    v.kind = v'.kind := by
  obtain ⟨c, r, rfl, hc⟩ := h.kind
  obtain ⟨c', r', e, hc'⟩ := h'.kind
  rw [← hc, ← hc', (List.cons.inj e).1]

/-- Data that are determined by their texts, one after the other. -/
theorem firsts_unique {α β : Type} {P : α → β → Prop} {es es' : List (α × β)}
    (h : es.map (·.2) = es'.map (·.2)) (hu : ∀ e ∈ es, ∀ a, P a e.2 → e.1 = a)
    (h' : ∀ e ∈ es', P e.1 e.2) : es.map (·.1) = es'.map (·.1) := by
  induction es generalizing es' with
  | nil =>
    rw [List.map_eq_nil_iff.mp h.symm]
  | cons e es ih =>
    cases es' with
    | nil => cases h
    | cons e' es' =>
      obtain ⟨hfirst, hrest⟩ := List.cons.inj h
      have hfirst : e.2 = e'.2 := hfirst
      obtain ⟨hu, hus⟩ := List.forall_mem_cons.mp hu
      obtain ⟨hp, hps⟩ := List.forall_mem_cons.mp h'
      rw [List.map_cons, List.map_cons, hu e'.1 (hfirst ▸ hp), ih hrest hus hps]

theorem Means.unique {v v' : Value} {cs : List Char} (h : Means v cs) (h' : Means v' cs) :
    v = v' := by
  have hkind := h.kind_eq h'
  induction h generalizing v' with
  | bool b =>
    generalize hx : boolChars b = x at h'
    cases h' with
    | bool b' => cases b <;> cases b' <;> first | rfl | cases hx
    | _ => cases hkind
  | nat n =>
    generalize hx : Nat.toDigits 10 n = x at h'
    cases h' with
    | nat n' =>
      have hn := Nat.ofDigitChars_toDigits (b := 10) (n := n) (by decide) (by decide)
      rw [hx, Nat.ofDigitChars_toDigits (by decide) (by decide)] at hn
      rw [hn]
    | _ => cases hkind
  | text h =>
    cases h' with
    | text h' => rw [h.unique h']
    | _ => cases hkind
  | list h hv ih =>
    cases h' with
    | list h' hv' =>
      rw [firsts_unique (h.unique h') (fun e he a ha => ih e he ha ((hv e he).kind_eq ha)) hv']
    | _ => cases hkind
  | object h hk hv ih =>
    cases h' with
    | object h' hk' hv' =>
      rw [firsts_unique (P := fun m r => Says m.1 r.1 ∧ Means m.2 r.2) (h.unique h')
        (fun e he a ha => Prod.ext ((hk e he).unique ha.1) (ih e he ha.2 ((hv e he).kind_eq ha.2)))
        fun e he => ⟨hk' e he, hv' e he⟩]
    | _ => cases hkind

/-! ### how values are printed -/

/-- What stands in front of an entry on a line of its own. -/
def lineStart (pretty : Bool) (depth : Nat) : List Char := if pretty then newline depth else []

/-- What stands between the colon and the value of a member. -/
def gap (pretty : Bool) : List Char := if pretty then [' '] else []

/-- Entries between brackets, on one line or each on a line of its own. -/
def enclosed (pretty : Bool) (depth : Nat) (opening closing : Char) (entries : List (List Char)) :
    List Char :=
  if entries = [] then [opening, closing]
  else opening :: (lineStart pretty (depth + 1) ++
    between (',' :: lineStart pretty (depth + 1)) entries ++ lineStart pretty depth) ++ [closing]

def Value.written (pretty : Bool) (depth : Nat) (v : Value) : List Char :=
  if pretty then v.prettyChars depth else v.compactChars

theorem isBlanks_lineStart (pretty : Bool) (depth : Nat) : IsBlanks (lineStart pretty depth) := by
  intro c hc
  cases pretty with
  | false => cases hc
  | true =>
    rcases List.mem_cons.mp hc with hc | hc
    · rw [hc]
      decide
    · rw [(List.mem_replicate.mp hc).2]
      decide

theorem isBlanks_gap (pretty : Bool) : IsBlanks (gap pretty) := by
  cases pretty with
  | false => exact .nil
  | true =>
    intro c hc
    rw [List.mem_singleton.mp hc]
    decide

theorem compactList_eq (vs : List Value) : compactList vs = vs.map compactChars := by
  induction vs with
  | nil => rfl
  | cons v vs ih => rw [compactList, ih, List.map_cons]

theorem prettyList_eq (depth : Nat) (vs : List Value) :
    prettyList depth vs = vs.map (prettyChars depth) := by
  induction vs with
  | nil => rfl
  | cons v vs ih => rw [prettyList, ih, List.map_cons]

theorem compactMembers_eq (ms : List (String × Value)) :
    compactMembers ms = ms.map fun m => memberChars m.1 (compactChars m.2) := by
  induction ms with
  | nil => rfl
  | cons m ms ih => rw [compactMembers, ih, List.map_cons]

theorem prettyMembers_eq (depth : Nat) (ms : List (String × Value)) :
    prettyMembers depth ms = ms.map fun m => quote m.1 ++ [':', ' '] ++ prettyChars depth m.2 := by
  induction ms with
  | nil => rfl
  | cons m ms ih => rw [prettyMembers, ih, List.map_cons]

theorem enclosed_compact (depth : Nat) (opening closing : Char) (entries : List (List Char)) :
    enclosed false depth opening closing entries =
      opening :: between [','] entries ++ [closing] := by
  rw [enclosed, lineStart, lineStart, if_neg Bool.false_ne_true, if_neg Bool.false_ne_true,
    List.nil_append, List.append_nil]
  split
  · rename_i h
    rw [h]
    rfl
  · rfl

theorem enclosed_pretty (depth : Nat) (opening closing : Char) (entries : List (List Char)) :
    enclosed true depth opening closing entries = block depth opening closing entries := by
  rw [enclosed, block, lineStart, lineStart, if_pos rfl, if_pos rfl, List.append_assoc]
  simp only [List.isEmpty_iff, List.cons_append, List.append_assoc]

theorem written_list (pretty : Bool) (depth : Nat) (vs : List Value) :
    (Value.list vs).written pretty depth =
      enclosed pretty depth '[' ']' (vs.map (·.written pretty (depth + 1))) := by
  cases pretty with
  | false =>
    rw [enclosed_compact]
    show compactChars (.list vs) = '[' :: between [','] (vs.map compactChars) ++ [']']
    rw [compactChars, compactList_eq]
  | true =>
    rw [enclosed_pretty]
    show prettyChars depth (.list vs) = block depth '[' ']' (vs.map (prettyChars (depth + 1)))
    rw [prettyChars, prettyList_eq]

theorem written_object (pretty : Bool) (depth : Nat) (ms : List (String × Value)) :
    (Value.object ms).written pretty depth = enclosed pretty depth '\x7b' '\x7d'
      (ms.map fun m => quote m.1 ++ (':' :: gap pretty ++ m.2.written pretty (depth + 1))) := by
  cases pretty with
  | false =>
    rw [enclosed_compact]
    show compactChars (.object ms) =
      '\x7b' :: between [','] (ms.map fun m => quote m.1 ++ (':' :: compactChars m.2)) ++ ['\x7d']
    rw [compactChars, compactMembers_eq]
    rfl
  | true =>
    rw [enclosed_pretty]
    show prettyChars depth (.object ms) = block depth '\x7b' '\x7d'
      (ms.map fun m => quote m.1 ++ ([':', ' '] ++ prettyChars (depth + 1) m.2))
    rw [prettyChars, prettyMembers_eq]
    simp only [List.append_assoc]

/-! ### the layout of entries -/

/-- Entries each with a start of its line, and what stands behind the last. -/
def layout (start stop : List Char) : List Piece → List Piece
  | [] => []
  | [p] => [⟨start ++ p.head, p.value, p.after ++ stop⟩]
  | p :: q :: ps => ⟨start ++ p.head, p.value, p.after⟩ :: layout start stop (q :: ps)

theorem layout_ne_nil (start stop : List Char) {ps : List Piece} (h : ps ≠ []) :
    layout start stop ps ≠ [] := by
  cases ps with
  | nil => exact absurd rfl h
  | cons p ps => cases ps <;> exact List.cons_ne_nil _ _

theorem between_of_ne {sep x : List Char} {xs : List (List Char)} (h : xs ≠ []) :
    between sep (x :: xs) = x ++ sep ++ between sep xs := by
  cases xs with
  | nil => exact absurd rfl h
  | cons y ys => rw [between]

theorem inside_layout (start stop : List Char) {ps : List Piece} (hne : ps ≠ []) :
    inside (layout start stop ps) =
      start ++ between (',' :: start) (ps.map Piece.text) ++ stop := by
  induction ps with
  | nil => exact absurd rfl hne
  | cons p ps ih =>
    cases ps with
    | nil => simp only [layout, inside, List.map_cons, List.map_nil, between, Piece.text,
        List.append_assoc]
    | cons q ps =>
      have ih := ih (List.cons_ne_nil _ _)
      have hq : (layout start stop (q :: ps)).map Piece.text ≠ [] := fun e =>
        layout_ne_nil start stop (List.cons_ne_nil q ps) (List.map_eq_nil_iff.mp e)
      have hright : between (',' :: start) ((p :: q :: ps).map Piece.text) =
          p.text ++ ',' :: start ++ between (',' :: start) ((q :: ps).map Piece.text) :=
        between_of_ne (List.cons_ne_nil _ _)
      rw [inside] at ih ⊢
      rw [layout, List.map_cons, between_of_ne hq, ih, hright]
      simp only [Piece.text, List.append_assoc, List.cons_append, List.nil_append]

/-- Blanks around an entry are part of it. -/
def Roomy {μ : Type} (R : μ → Piece → Prop) : Prop :=
  ∀ {m : μ} {p : Piece} {w w' : List Char}, R m p → IsBlanks w → IsBlanks w' →
    R m ⟨w ++ p.head, p.value, p.after ++ w'⟩

theorem Roomy.layout {μ : Type} {R : μ → Piece → Prop} (hR : Roomy R) {start stop : List Char}
    (hstart : IsBlanks start) (hstop : IsBlanks stop) {ms : List μ} {ps : List Piece}
    (h : List.Forall₂ R ms ps) : List.Forall₂ R ms (layout start stop ps) := by
  induction h with
  | nil => exact .nil
  | @cons m p ms ps hm h ih =>
    cases h with
    | nil => exact .cons (hR hm hstart hstop) .nil
    | cons hq h =>
      have hp := hR hm hstart IsBlanks.nil
      rw [List.append_nil] at hp
      exact .cons hp ih

theorem roomy_item : Roomy IsItem := by
  rintro v p w w' ⟨hh, hm, hv, ha⟩ hw hw'
  exact ⟨hw.append hh, hm, hv, ha.append hw'⟩

theorem roomy_member : Roomy IsMember := by
  rintro m p w w' ⟨hk, hm, hv, ha⟩ hw hw'
  refine ⟨?_, hm, hv, ha.append hw'⟩
  obtain ⟨w₁, w₂, w₃, hw₁, hs, hw₂, hw₃, e⟩ := hk.parts
  have hkey := IsKey.colon (hw.append hw₁) hs hw₂ hw₃
  rwa [List.append_assoc, ← e] at hkey

section
variable (pretty : Bool) (depth : Nat)

/-- Entries between brackets are laid out with the start of a line in front of each. -/
theorem enclosed_eq {ps : List Piece} (hne : ps ≠ []) (opening closing : Char) :
    enclosed pretty depth opening closing (ps.map Piece.text) = opening ::
      inside (layout (lineStart pretty (depth + 1)) (lineStart pretty depth) ps) ++ [closing] := by
  rw [enclosed, if_neg fun e => hne (List.map_eq_nil_iff.mp e), inside_layout _ _ hne]

theorem isList_enclosed {vs : List (List Char)} (hv : ∀ v ∈ vs, IsValue v) :
    IsList vs (enclosed pretty depth '[' ']' vs) := by
  let ps : List Piece := vs.map fun v => ⟨[], v, []⟩
  have htext : ps.map Piece.text = vs := by
    rw [List.map_map]
    exact (List.map_congr_left fun v _ => List.append_nil v).trans (List.map_id vs)
  have hitems : List.Forall₂ IsItem vs ps :=
    List.forall₂_map_right_iff.mpr (List.forall₂_same.mpr fun v h => ⟨.nil, rfl, hv v h, .nil⟩)
  by_cases hne : vs = []
  · subst hne
    exact .empty .nil
  · have hps : ps ≠ [] := fun e => hne (List.map_eq_nil_iff.mp e)
    rw [← htext, enclosed_eq pretty depth hps, htext]
    exact .items (layout_ne_nil _ _ hps)
      (roomy_item.layout (isBlanks_lineStart _ _) (isBlanks_lineStart _ _) hitems)

theorem isObject_enclosed {ms : List (List Char × List Char)}
    (hm : ∀ m ∈ ms, IsString m.1 ∧ IsValue m.2) :
    IsObject ms (enclosed pretty depth '\x7b' '\x7d'
      (ms.map fun m => m.1 ++ (':' :: gap pretty ++ m.2))) := by
  let ps : List Piece := ms.map fun m => ⟨m.1 ++ ':' :: gap pretty, m.2, []⟩
  have htext : ps.map Piece.text = ms.map fun m => m.1 ++ (':' :: gap pretty ++ m.2) := by
    rw [List.map_map]
    refine List.map_congr_left fun m _ => ?_
    simp only [Function.comp_apply, Piece.text, List.append_nil, List.append_assoc]
  have hmembers : List.Forall₂ IsMember ms ps := by
    refine List.forall₂_map_right_iff.mpr (List.forall₂_same.mpr fun m h => ?_)
    have hkey := IsKey.colon .nil (hm m h).1 .nil (isBlanks_gap pretty)
    exact ⟨hkey, rfl, (hm m h).2, .nil⟩
  by_cases hne : ms = []
  · subst hne
    exact .empty .nil
  · have hps : ps ≠ [] := fun e => hne (List.map_eq_nil_iff.mp e)
    rw [← htext, enclosed_eq pretty depth hps]
    exact .members (layout_ne_nil _ _ hps)
      (roomy_member.layout (isBlanks_lineStart _ _) (isBlanks_lineStart _ _) hmembers)

/-! ### the meaning of what is printed -/

theorem means_list {vs : List Value} (h : ∀ v ∈ vs, Means v (v.written pretty (depth + 1))) :
    Means (.list vs) ((Value.list vs).written pretty depth) := by
  let es : List (Value × List Char) := vs.map fun v => (v, v.written pretty (depth + 1))
  have hvalues : es.map (·.1) = vs := by
    rw [List.map_map]
    exact List.map_id vs
  have htexts : es.map (·.2) = vs.map (·.written pretty (depth + 1)) := List.map_map
  have hes : ∀ e ∈ es, Means e.1 e.2 := by
    intro e he
    obtain ⟨v, hv, rfl⟩ := List.mem_map.mp he
    exact h v hv
  rw [written_list, ← htexts]
  have hlist := Means.list (isList_enclosed pretty depth fun w hw => ?_) hes
  · rwa [hvalues] at hlist
  · obtain ⟨e, he, rfl⟩ := List.mem_map.mp hw
    exact (hes e he).isValue

theorem means_object {ms : List (String × Value)}
    (h : ∀ m ∈ ms, Means m.2 (m.2.written pretty (depth + 1))) :
    Means (.object ms) ((Value.object ms).written pretty depth) := by
  let es : List ((String × Value) × (List Char × List Char)) :=
    ms.map fun m => (m, quote m.1, m.2.written pretty (depth + 1))
  have hvalues : es.map (·.1) = ms := by
    rw [List.map_map]
    exact List.map_id ms
  have hkeys : ∀ e ∈ es, Says e.1.1 e.2.1 := by
    intro e he
    obtain ⟨m, _, rfl⟩ := List.mem_map.mp he
    exact says_quote m.1
  have hes : ∀ e ∈ es, Means e.1.2 e.2.2 := by
    intro e he
    obtain ⟨m, hm, rfl⟩ := List.mem_map.mp he
    exact h m hm
  have htexts :
      (ms.map fun m => quote m.1 ++ (':' :: gap pretty ++ m.2.written pretty (depth + 1))) =
        (es.map (·.2)).map fun m => m.1 ++ (':' :: gap pretty ++ m.2) := by
    rw [List.map_map, List.map_map]
    rfl
  rw [written_object, htexts]
  have hobject := Means.object (isObject_enclosed pretty depth fun w hw => ?_) hkeys hes
  · rwa [hvalues] at hobject
  · obtain ⟨e, he, rfl⟩ := List.mem_map.mp hw
    exact ⟨(hkeys e he).isString, (hes e he).isValue⟩

end

mutual

/-- On one line or on many, what is printed means the value. -/
theorem means_written (pretty : Bool) :
    ∀ (v : Value) (depth : Nat), Means v (v.written pretty depth)
  | .bool b, _ => by cases pretty <;> exact .bool b
  | .nat n, _ => by cases pretty <;> exact .nat n
  | .text s, _ => by cases pretty <;> exact .text (says_quote s)
  | .list vs, depth => means_list pretty depth (means_values pretty vs (depth + 1))
  | .object ms, depth => means_object pretty depth (means_members pretty ms (depth + 1))

theorem means_values (pretty : Bool) :
    ∀ (vs : List Value) (depth : Nat), ∀ v ∈ vs, Means v (v.written pretty depth)
  | [], _ => List.forall_mem_nil _
  | v :: vs, depth =>
    List.forall_mem_cons.mpr ⟨means_written pretty v depth, means_values pretty vs depth⟩

theorem means_members (pretty : Bool) : ∀ (ms : List (String × Value)) (depth : Nat),
    ∀ m ∈ ms, Means m.2 (m.2.written pretty depth)
  | [], _ => List.forall_mem_nil _
  | (_, v) :: ms, depth =>
    List.forall_mem_cons.mpr ⟨means_written pretty v depth, means_members pretty ms depth⟩

end

theorem means_iff (pretty : Bool) (depth : Nat) {v w : Value} :
    Means w (v.written pretty depth) ↔ w = v := by
  constructor
  · exact fun h => h.unique (means_written pretty v depth)
  · rintro rfl
    exact means_written pretty w depth

end Json
end Dashboards
