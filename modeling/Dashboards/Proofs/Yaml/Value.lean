import Dashboards.Proofs.Overriding

/-!
# Values of nodes

* `Document.Reads.unique`   a node is read as one value only, wherever it is read;
* `run_asText`              where a value is read, the text of a scalar is read with the same count;
* `run_readEntries`         and the entries of a mapping are read by their texts.
-/

namespace Dashboards
namespace Yaml
open Reader

section
variable {α β : Type} {r : Reader α} {next : α → Reader β} {c c' : Nat}

theorem Reader.run_bind_of_ok {a : α} {m : Nat} (h : r.run c = .ok (a, m)) :
    (r >>= next).run c = (next a).run m := by
  rw [StateT.run_bind, h]
  rfl

end

/-! ### one value only -/

namespace Node

/-- What a scalar is read as does not depend on its place. -/
theorem scalarValue_unique {path path' text : String} {mark : Mark} {tag : Option Text.Bytes}
    {style : Style} {v w : Value} (h : Gives (scalarValue path mark tag text style) v)
    (h' : Gives (scalarValue path' mark tag text style) w) : v = w := by
  rw [scalarValue] at h h'
  split at h
  · exact (not_gives_throw h).elim
  · rename_i hs
    rw [hs] at h'
    exact h.pure.symm.trans h'.pure
  · rename_i hs
    rw [hs] at h'
    exact h.pure.symm.trans h'.pure
  · rename_i hs
    rw [hs] at h'
    exact h.pure.symm.trans h'.pure
  · rename_i hs
    rw [hs] at h'
    exact h.pure.symm.trans h'.pure
  · exact (not_gives_throw h).elim

/-- Two ways to read nodes that never come to different values. -/
def Agrees (read read' : String → Node → Reader Value) : Prop :=
  ∀ path path' n v w, Gives (read path n) v → Gives (read' path' n) w → v = w

section
variable {read read' : String → Node → Reader Value} (hread : Agrees read read')
  {path path' : String}
include hread

theorem Agrees.items {ns : List Node} {i j : Nat} {vs ws : List Value}
    (h : Gives (readItems read path i ns) vs) (h' : Gives (readItems read' path' j ns) ws) :
    vs = ws := by
  induction ns generalizing i j vs ws with
  | nil => exact h.pure.symm.trans h'.pure
  | cons n ns ih =>
    obtain ⟨v, hv, h⟩ := h.bind
    obtain ⟨w, hw, h'⟩ := h'.bind
    obtain ⟨vs, hvs, h⟩ := h.bind
    obtain ⟨ws, hws, h'⟩ := h'.bind
    rw [← h.pure, ← h'.pure, hread _ _ n v w hv hw, ih hvs hws]

theorem Agrees.entries {entries : List (Node × Node)} {mark mark' : Mark}
    {seen vs ws : List (Value × Value)} (h : Gives (readEntries read path mark seen entries) vs)
    (h' : Gives (readEntries read' path' mark' seen entries) ws) : vs = ws := by
  induction entries generalizing seen with
  | nil => exact h.pure.symm.trans h'.pure
  | cons e entries ih =>
    obtain ⟨k, n⟩ := e
    obtain ⟨key, hkey, h⟩ := h.bind
    obtain ⟨key', hkey', h'⟩ := h'.bind
    obtain rfl := hread _ _ k key key' hkey hkey'
    split at h
    · exact (not_gives_throw h).elim
    · rename_i hfind
      rw [hfind] at h'
      obtain ⟨v, hv, h⟩ := h.bind
      obtain ⟨w, hw, h'⟩ := h'.bind
      obtain rfl := hread _ _ n v w hv hw
      exact ih h h'

end

/-- Values agree if those one level below do. -/
theorem agrees_step (d : Document) {depth depth' : Nat}
    (hbelow : ∀ k k', depth = k + 1 → depth' = k' + 1 → Agrees (value d k) (value d k')) :
    Agrees (value d depth) (value d depth') := by
  intro path path' n v w h h'
  rw [value.eq_def] at h h'
  obtain ⟨m, hm, h⟩ := h.bind
  obtain ⟨m', hm', h'⟩ := h'.bind
  obtain rfl := Option.some.inj ((gives_follow hm).symm.trans (gives_follow hm'))
  cases m with
  | scalar => exact scalarValue_unique h h'
  | sequence =>
    cases depth with
    | zero => exact (not_gives_throw h).elim
    | succ k =>
      cases depth' with
      | zero => exact (not_gives_throw h').elim
      | succ k' =>
        obtain ⟨vs, hvs, h⟩ := h.bind
        obtain ⟨ws, hws, h'⟩ := h'.bind
        rw [← h.pure, ← h'.pure, (hbelow k k' rfl rfl).items hvs hws]
  | mapping =>
    cases depth with
    | zero => exact (not_gives_throw h).elim
    | succ k =>
      cases depth' with
      | zero => exact (not_gives_throw h').elim
      | succ k' =>
        obtain ⟨vs, hvs, h⟩ := h.bind
        obtain ⟨ws, hws, h'⟩ := h'.bind
        rw [← h.pure, ← h'.pure, (hbelow k k' rfl rfl).entries hvs hws]
  | «alias» | broken => exact (not_gives_throw h).elim

theorem agrees_value (d : Document) (depth depth' : Nat) :
    Agrees (value d depth) (value d depth') := by
  induction depth generalizing depth' with
  | zero => exact agrees_step d fun k k' h => nomatch h
  | succ depth ih =>
    refine agrees_step d fun k k' h _ => ?_
    cases h
    exact ih k'

end Node

theorem Document.Reads.unique {d : Document} {n : Node} {v w : Value} (h : d.Reads n v)
    (h' : d.Reads n w) : v = w := by
  obtain ⟨depth, path, h⟩ := h
  obtain ⟨depth', path', h'⟩ := h'
  exact Node.agrees_value d depth depth' path path' n v w h h'

/-! ### readers of texts -/

section
variable {d : Document} {c c' : Nat}

theorem run_follow {n m : Node} (h : (d.follow n).run c = .ok (m, c')) : d.means? n = some m :=
  gives_follow ⟨c, c', h⟩

/-- Reading a scalar leaves the count as it is. -/
theorem run_scalarValue {path text : String} {mark : Mark} {tag : Option Text.Bytes} {style : Style}
    {v : Value} (h : (Node.scalarValue path mark tag text style).run c = .ok (v, c')) : c = c' := by
  rw [Node.scalarValue] at h
  split at h <;> cases h <;> rfl

/-- The text of a scalar is read where a value is read. -/
theorem run_asText {depth : Nat} {path text : String} {n : Node} {v : Value}
    (h : (n.value d depth path).run c = .ok (v, c')) (ht : d.textOf? n = some text)
    (path' expected : String) :
    ∃ mark, (n.asText d path' expected).run c = .ok ((text, mark), c') := by
  rw [Node.value.eq_def] at h
  obtain ⟨m, c₁, hm, h⟩ := run_bind_eq_ok h
  rw [Document.textOf?, run_follow hm] at ht
  cases m with
  | scalar mark tag text style =>
    cases ht
    obtain rfl := run_scalarValue h
    exact ⟨mark, (run_bind_of_ok hm).trans rfl⟩
  | sequence | mapping | «alias» | broken => cases ht

end

end Yaml

namespace Params
open Yaml Reader

section
variable {d : Document} {c c' : Nat}

/-- Where a mapping is read whose keys are scalars, its entries are read by their texts. -/
theorem run_readEntries {depth : Nat} {path : String} {mark : Mark}
    {entries : List (Node × Node)} {before vs : List (Value × Value)}
    (hkeys : ∀ e ∈ entries, (d.textOf? e.1).isSome)
    (h : (Node.readEntries (Node.value d depth) path mark before entries).run c = .ok (vs, c'))
    (seen : List (String × Value)) :
    ∃ ws, Along d.Reads (d.keyed entries) ws ∧
      (readEntries d depth path seen entries).run c = .ok (puts seen ws, c') := by
  induction entries generalizing c before seen with
  | nil =>
    cases h
    exact ⟨[], .nil, rfl⟩
  | cons e entries ih =>
    obtain ⟨k, n⟩ := e
    obtain ⟨hk, hkeys⟩ := List.forall_mem_cons.mp hkeys
    obtain ⟨text, htext⟩ := Option.isSome_iff_exists.mp hk
    obtain ⟨key, c₁, hkey, h⟩ := run_bind_eq_ok h
    split at h
    · cases h
    · obtain ⟨v, c₂, hv, h⟩ := run_bind_eq_ok h
      obtain ⟨ws, hws, hrun⟩ := ih hkeys h (put text v seen)
      obtain ⟨mark, hasText⟩ := run_asText hkey htext path "a string"
      refine ⟨(text, v) :: ws, ?_, ?_⟩
      · rw [Document.keyed, List.filterMap_cons, htext]
        exact .cons ⟨rfl, _, _, _, _, hv⟩ hws
      · rw [readEntries]
        exact (run_bind_of_ok hasText).trans ((run_bind_of_ok hv).trans hrun)

end
end Params
end Dashboards
