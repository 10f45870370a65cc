import Dashboards.Proofs.Text.Order
import Dashboards.Proofs.Yaml.Scalar
import Dashboards.Proofs.Yaml.Value

/-!
# Loading a parameters file

A file is loaded as a whole or not at all.

* `Document.IsTree`      the text is one document that can be read as a value;
* `Document.IsLayout`    its root is a mapping, and so is what stands under `params`;
* `Document.OnlyParams`  and there is no other key;
* `puts_perm`            entries with different keys are all kept;
* `run_texts_ok`, `run_texts_error`   the texts of all values, or the first that has none;
* `ofDocument_eq`        what a document with no other key comes to;
* `Outcome`              what loading can come to, and for which documents;
* `load_all_or_nothing`  loading such a file succeeds just if there is no other key and all values
                         are texts, numbers and truth values.
-/

namespace Dashboards
namespace Yaml

/-! ### documents -/

/-- Texts, numbers and truth values. -/
def Value.IsPlain : Value → Prop
  | .text _ | .number _ | .bool _ => True
  | .null | .list _ | .map _ | .tagged .. => False

namespace Document
variable (d : Document)

/-- The text has been read to its end, holds no other document, and can be read as a value. -/
structure IsTree : Prop where
  read : ∃ n v count, d.root = some n ∧ (n.value d 128 ".").run 0 = .ok (v, count)
  whole : d.fault = none
  alone : d.more = false

def isMapping (n : Node) : Bool :=
  match d.means? n with
  | some (.mapping ..) => true
  | _ => false

/-- The entries of the root. -/
def members : List (Node × Node) := d.root.toList.flatMap d.entriesOf

/-- The place of the root. -/
def rootMark : Mark := ((d.root.bind d.means?).map Node.mark).getD Mark.first

/-- The root is a mapping. If there is a key `params`, a mapping stands under it whose keys are
scalars. Keys are known by their texts, and no two of these are the same. -/
structure IsLayout : Prop where
  root : d.root.any d.isMapping = true
  params : ∀ e ∈ d.members, d.textOf? e.1 = some "params" →
    d.isMapping e.2 = true ∧ ∀ x ∈ d.entriesOf e.2, (d.textOf? x.1).isSome
  distinct : (d.written.map (·.1)).Nodup

/-- The root has no key other than `params`. -/
def OnlyParams : Prop :=
  d.members.map (fun e => d.textOf? e.1) = [] ∨
    d.members.map (fun e => d.textOf? e.1) = [some "params"]

end Document
end Yaml

namespace Params
open Yaml Reader

/-! ### entries with different keys -/

/-- Where keys differ, no entry takes the place of another. -/
theorem puts_perm {ws : List (String × Value)} (h : (ws.map (·.1)).Nodup) :
    (puts [] ws).Perm ws := by
  have hasc : (puts [] ws).Pairwise (·.1 < ·.1) := puts_ascending [] ws .nil
  have hdistinct : ws.reverse.Pairwise fun x y => x.1 ≠ y.1 :=
    List.pairwise_map.mp (List.map_reverse ▸ List.nodup_reverse.mpr h)
  rw [List.perm_ext_iff_of_nodup (nodup_keys hasc).of_map h.of_map]
  intro x
  rw [← lookup_iff hasc, lookup_puts, List.lookup_nil, Option.or_none, ← List.mem_reverse]
  exact ⟨Files.mem_of_lookup, Files.lookup_of_mem hdistinct⟩

/-! ### texts -/

theorem text?_of_plain {v : Value} (h : v.IsPlain) : ∃ t, text? v = some t := by
  cases v with
  | text | number | bool => exact ⟨_, rfl⟩
  | null | list | map | tagged => exact h.elim

theorem text?_of_not_plain {v : Value} (h : ¬ v.IsPlain) : text? v = none := by
  cases v with
  | text | number | bool => exact (h trivial).elim
  | null | list | map | tagged => rfl

def complaint (key : String) : String := "params." ++ key ++ " must be a string, number or boolean"

section
variable {es : List (String × Value)} (root : Mark) (c : Nat)

theorem run_texts_ok (h : ∀ e ∈ es, e.2.IsPlain) : ∃ fs,
    Along (fun v t => text? v = some t) es fs ∧ (texts root es).run c = .ok (fs, c) := by
  induction es with
  | nil => exact ⟨[], .nil, rfl⟩
  | cons e es ih =>
    obtain ⟨key, v⟩ := e
    obtain ⟨hv, hes⟩ := List.forall_mem_cons.mp h
    obtain ⟨t, ht⟩ := text?_of_plain hv
    obtain ⟨fs, hfs, hrun⟩ := ih hes
    refine ⟨(key, t) :: fs, .cons ⟨rfl, ht⟩ hfs, ?_⟩
    rw [texts, ht]
    exact run_bind_of_ok hrun

/-- The first value without a text is the one that is complained about. -/
theorem run_texts_error (h : ¬ ∀ e ∈ es, e.2.IsPlain) : ∃ front k v back,
    es = front ++ (k, v) :: back ∧ (∀ e ∈ front, e.2.IsPlain) ∧ ¬ v.IsPlain ∧
      (texts root es).run c = .error (.unfit (complaint k) "." root) := by
  induction es with
  | nil => exact absurd (List.forall_mem_nil _) h
  | cons e es ih =>
    obtain ⟨key, v⟩ := e
    rw [texts]
    by_cases hv : v.IsPlain
    · obtain ⟨t, ht⟩ := text?_of_plain hv
      obtain ⟨front, k, w, back, rfl, hfront, hw, hrun⟩ :=
        ih fun hes => h (List.forall_mem_cons.mpr ⟨hv, hes⟩)
      refine ⟨(key, v) :: front, k, w, back, rfl, List.forall_mem_cons.mpr ⟨hv, hfront⟩, hw, ?_⟩
      rw [ht]
      dsimp only
      rw [StateT.run_bind, hrun]
      rfl
    · refine ⟨[], key, v, es, rfl, List.forall_mem_nil _, hv, ?_⟩
      rw [text?_of_not_plain hv]
      rfl

end

/-- The entry with this key has no text, and all other keys of such entries come after it, byte by
byte. -/
def IsLeast (ws : List (String × Value)) (k : String) : Prop :=
  (∃ v, (k, v) ∈ ws ∧ ¬ v.IsPlain) ∧
    ∀ k' v', (k', v') ∈ ws → ¬ v'.IsPlain → k' = k ∨ Text.utf8 k < Text.utf8 k'

theorem isLeast_of_split {ws front back : List (String × Value)} {k : String} {v : Value}
    (hasc : (front ++ (k, v) :: back).Pairwise (·.1 < ·.1))
    (hperm : (front ++ (k, v) :: back).Perm ws) (hfront : ∀ e ∈ front, e.2.IsPlain)
    (hv : ¬ v.IsPlain) : IsLeast ws k := by
  refine ⟨⟨v, hperm.mem_iff.mp (List.mem_append_right _ List.mem_cons_self), hv⟩,
    fun k' v' hmem hv' => ?_⟩
  rcases List.mem_append.mp (hperm.mem_iff.mpr hmem) with hmem | hmem
  · exact absurd (hfront _ hmem) hv'
  · rcases List.mem_cons.mp hmem with he | hmem
    · exact .inl (Prod.mk.inj he).1
    · have hback := (List.pairwise_cons.mp (List.pairwise_append.mp hasc).2.1).1
      exact .inr (Text.utf8_lt (hback _ hmem))

/-! ### what is read -/

section
variable {d : Document} {c c' : Nat}

theorem along_unique {xs : List (String × Node)} {vs ws : List (String × Value)}
    (h : Along d.Reads xs vs) (h' : Along d.Reads xs ws) : vs = ws := by
  induction h generalizing ws with
  | nil =>
    cases h'
    rfl
  | cons hv _ ih =>
    cases h' with
    | cons hw hws => rw [ih hws, Prod.ext (hv.1.trans hw.1.symm) (hv.2.unique hw.2)]

theorem reads_of_entries {depth : Nat} {path : String} {mark : Mark}
    {entries : List (Node × Node)} {before vs : List (Value × Value)}
    (h : Gives (Node.readEntries (Node.value d depth) path mark before entries) vs) :
    ∀ e ∈ entries, ∃ path v, Gives (e.2.value d depth path) v := by
  induction entries generalizing before with
  | nil => exact List.forall_mem_nil _
  | cons e entries ih =>
    obtain ⟨k, n⟩ := e
    obtain ⟨key, -, h⟩ := h.bind
    split at h
    · exact (not_gives_throw h).elim
    · obtain ⟨v, hv, h⟩ := h.bind
      exact List.forall_mem_cons.mpr ⟨⟨_, v, hv⟩, ih h⟩

/-- Where a mapping is read, its entries are read. -/
theorem run_mapping {depth : Nat} {path : String} {n : Node} {v : Value}
    (h : (n.value d depth path).run c = .ok (v, c')) (hn : d.isMapping n = true) :
    ∃ below mark tag c₁ vs, depth = below + 1 ∧
      (d.follow n).run c = .ok (.mapping mark tag (d.entriesOf n), c₁) ∧
      (Node.readEntries (Node.value d below) path mark [] (d.entriesOf n)).run c₁ =
        .ok (vs, c') := by
  rw [Node.value.eq_def] at h
  obtain ⟨m, c₁, hm, h⟩ := run_bind_eq_ok h
  rw [Document.isMapping, run_follow hm] at hn
  cases m with
  | mapping mark tag entries =>
    have he : d.entriesOf n = entries := by rw [Document.entriesOf, run_follow hm]
    cases depth with
    | zero => cases h
    | succ depth =>
      obtain ⟨vs, c₂, hvs, h⟩ := run_bind_eq_ok h
      cases h
      exact ⟨depth, mark, tag, c₁, vs, rfl, he ▸ hm, he ▸ hvs⟩
  | scalar | sequence | «alias» | broken => cases hn

theorem run_readMap {path : String} {n : Node} {v : Value}
    (h : (n.value d 127 path).run c = .ok (v, c')) (hn : d.isMapping n = true)
    (hkeys : ∀ x ∈ d.entriesOf n, (d.textOf? x.1).isSome) :
    ∃ ws, Along d.Reads (d.keyed (d.entriesOf n)) ws ∧
      (readMap d path n).run c = .ok (puts [] ws, c') := by
  obtain ⟨below, mark, tag, c₁, vs, hdepth, hfollow, hentries⟩ := run_mapping h hn
  cases hdepth
  obtain ⟨ws, hws, hrun⟩ := run_readEntries hkeys hentries []
  exact ⟨ws, hws, (run_bind_of_ok hfollow).trans hrun⟩

/-- With no other key, the texts of the values are all that is left to be read. -/
theorem run_readRoot (root : Mark) {mark : Mark} {members : List (Node × Node)}
    {vs : List (Value × Value)}
    (honly : members.map (fun e => d.textOf? e.1) = [] ∨
      members.map (fun e => d.textOf? e.1) = [some "params"])
    (hparams : ∀ e ∈ members, d.textOf? e.1 = some "params" →
      d.isMapping e.2 = true ∧ ∀ x ∈ d.entriesOf e.2, (d.textOf? x.1).isSome)
    (h : (Node.readEntries (Node.value d 127) "." mark [] members).run c = .ok (vs, c')) :
    ∃ ws, Along d.Reads (d.underParams members) ws ∧
      (readRoot d root none members).run c = (texts root (puts [] ws)).run c' := by
  rcases honly with hnil | hone
  · obtain rfl := List.map_eq_nil_iff.mp hnil
    cases h
    exact ⟨[], .nil, rfl⟩
  · obtain ⟨⟨k, n⟩, rfl, hk⟩ := List.map_eq_singleton_iff.mp hone
    have hk : d.textOf? k = some "params" := hk
    obtain ⟨hn, hkeys⟩ := hparams _ List.mem_cons_self hk
    obtain ⟨key, c₁, hkey, h⟩ := run_bind_eq_ok h
    obtain ⟨v, c₂, hv, h⟩ := run_bind_eq_ok h
    cases h
    obtain ⟨place, hasText⟩ := run_asText hkey hk "." "field identifier"
    obtain ⟨ws, hws, hmap⟩ := run_readMap hv hn hkeys
    refine ⟨ws, ?_, ?_⟩
    · rw [Document.underParams, List.flatMap_singleton, if_pos hk]
      exact hws
    · rw [readRoot]
      refine (run_bind_of_ok hasText).trans ((run_bind_of_ok hmap).trans ?_)
      show (texts root (puts [] ws) >>= pure).run c' = _
      rw [bind_pure]

end

section
variable {d : Document}

theorem members_eq {n : Node} (h : d.root = some n) : d.members = d.entriesOf n := by
  rw [Document.members, h, Option.toList_some, List.flatMap_singleton]

/-- The entries of the root are read. -/
theorem run_members (htree : d.IsTree) (hl : d.IsLayout) : ∃ n mark tag c vs c',
    d.root = some n ∧ (d.follow n).run 0 = .ok (.mapping mark tag d.members, c) ∧
      (Node.readEntries (Node.value d 127) "." mark [] d.members).run c = .ok (vs, c') := by
  obtain ⟨n, v, count, hroot, hread⟩ := htree.read
  have hmapping : d.isMapping n = true := by
    have h := hl.root
    rwa [hroot] at h
  obtain ⟨below, mark, tag, c, vs, hdepth, hfollow, hentries⟩ := run_mapping hread hmapping
  cases hdepth
  rw [← members_eq hroot] at hfollow hentries
  exact ⟨n, mark, tag, c, vs, count, hroot, hfollow, hentries⟩

/-- So are those under `params`. -/
theorem reads_written (htree : d.IsTree) (hl : d.IsLayout) : ∃ ws, Along d.Reads d.written ws := by
  obtain ⟨n, mark, tag, c, vs, c', -, -, hentries⟩ := run_members htree hl
  refine exists_along fun x hx => ?_
  obtain ⟨e, he, hx⟩ := List.mem_flatMap.mp hx
  split at hx
  · rename_i hk
    obtain ⟨hn, -⟩ := hl.params e he hk
    obtain ⟨path, v, m, m', hv⟩ := reads_of_entries ⟨_, _, hentries⟩ e he
    obtain ⟨below, mark, tag, c₁, vs, -, -, hentries⟩ := run_mapping hv hn
    obtain ⟨y, hy, hyx⟩ := List.mem_filterMap.mp hx
    obtain ⟨key, -, rfl⟩ := Option.map_eq_some_iff.mp hyx
    obtain ⟨path, w, hw⟩ := reads_of_entries ⟨_, _, hentries⟩ y hy
    exact ⟨w, _, path, hw⟩
  · cases hx

/-- What a document with no other key comes to. -/
theorem ofDocument_eq (htree : d.IsTree) (hl : d.IsLayout) (honly : d.OnlyParams) :
    ∃ ws count, Along d.Reads d.written ws ∧
      ofDocument d = ((texts d.rootMark (puts [] ws)).run count).map (·.1) := by
  obtain ⟨n, mark, tag, c, vs, c', hroot, hfollow, hentries⟩ := run_members htree hl
  have hmark : d.rootMark = mark := by
    rw [Document.rootMark, hroot, Option.bind_some, run_follow hfollow]
    rfl
  obtain ⟨ws, hws, hrun⟩ := run_readRoot mark honly hl.params hentries
  refine ⟨ws, c', hws, ?_⟩
  have hread : (ofRoot d n).run 0 = (texts mark (puts [] ws)).run c' :=
    (run_bind_of_ok hfollow).trans hrun
  rw [ofDocument, hroot, htree.whole, htree.alone, hmark]
  dsimp only
  rw [hread]
  cases (texts mark (puts [] ws)).run c' <;> rfl

/-- A document that is accepted has no other key. -/
theorem onlyParams_of_ok {fs : List (String × String)} (hl : d.IsLayout)
    (h : ofDocument d = .ok fs) : d.OnlyParams := by
  have hmapping := hl.root
  rcases gives_ofDocument h with ⟨hroot, -⟩ | ⟨n, hroot, hn⟩
  · rw [hroot] at hmapping
    cases hmapping
  · rw [hroot, Option.any_some, Document.isMapping] at hmapping
    obtain ⟨m, hm, hn⟩ := hn.bind
    rw [gives_follow hm] at hmapping
    cases m with
    | mapping mark tag entries =>
      have he : d.members = entries := by
        rw [members_eq hroot, Document.entriesOf, gives_follow hm]
      rw [Document.OnlyParams, he]
      rcases members_of_gives hn with ⟨rfl, -⟩ | ⟨k, v, es, rfl, hk, -⟩
      · exact .inl rfl
      · exact .inr (congrArg (fun t => [t]) hk)
    | scalar | sequence | «alias» | broken => cases hmapping

end

/-! ### files -/

/-- What is loaded for entries with these values: the same keys, texts as they are, truth values and
integers by their texts. -/
structure Loads (ws : List (String × Value)) (fs : List (String × String)) : Prop where
  keys : (fs.map (·.1)).Perm (ws.map (·.1))
  texts : ∀ k s, (k, .text s) ∈ ws → (k, s) ∈ fs
  bools : ∀ k b, (k, .bool b) ∈ ws → (k, if b then "true" else "false") ∈ fs
  /-- The text of an integer, as a plain scalar, is that integer again. -/
  integers : ∀ k i, (k, .number (.int i)) ∈ ws → -2 ^ 63 ≤ i → i < 2 ^ 64 →
    (k, toString i) ∈ fs ∧ Scalar.ofPlain (toString i) = .number (.int i)

theorem mem_of_along {es : List (String × Value)} {fs : List (String × String)}
    (h : Along (fun v t => text? v = some t) es fs) {k t : String} {v : Value} (hv : (k, v) ∈ es)
    (ht : text? v = some t) : (k, t) ∈ fs := by
  induction h with
  | nil => cases hv
  | cons h _ ih =>
    rcases List.mem_cons.mp hv with rfl | hv
    · exact List.mem_cons.mpr (.inl (Prod.ext h.1.symm (Option.some.inj (ht.symm.trans h.2))))
    · exact List.mem_cons_of_mem _ (ih hv)

theorem loads_of_along {ws : List (String × Value)} {fs : List (String × String)}
    (hdistinct : (ws.map (·.1)).Nodup)
    (h : Along (fun v t => text? v = some t) (puts [] ws) fs) : Loads ws fs := by
  have hperm := puts_perm hdistinct
  have hmem : ∀ k v t, (k, v) ∈ ws → text? v = some t → (k, t) ∈ fs := fun k v t hv =>
    mem_of_along h (hperm.mem_iff.mpr hv)
  refine ⟨?_, fun k s hs => hmem k _ s hs rfl, fun k b hb => hmem k _ _ hb ?_,
    fun k i hi hmin hmax => ⟨hmem k _ _ hi rfl, Scalar.ofPlain_toString hmin hmax⟩⟩
  · rw [h.keys]
    exact hperm.map _
  · cases b <;> rfl

/-- What a document comes to whose values under `params` are these. -/
inductive Outcome (d : Document) (ws : List (String × Value)) :
    Except Fault (List (String × String)) → Prop
  | loaded {fs : List (String × String)} (only : d.OnlyParams) (plain : ∀ w ∈ ws, w.2.IsPlain)
      (loads : Loads ws fs) : Outcome d ws (.ok fs)
  | refused {k : String} (only : d.OnlyParams) (least : IsLeast ws k) :
      Outcome d ws (.error (.unfit (complaint k) "." d.rootMark))
  | otherKey {f : Fault} (other : ¬ d.OnlyParams) : Outcome d ws (.error f)

theorem IsLeast.not_plain {ws : List (String × Value)} {k : String} (h : IsLeast ws k) :
    ¬ ∀ w ∈ ws, w.2.IsPlain := by
  obtain ⟨⟨v, hmem, hv⟩, -⟩ := h
  exact fun hall => hv (hall _ hmem)

theorem outcome_texts {d : Document} {ws : List (String × Value)} (honly : d.OnlyParams)
    (hdistinct : (ws.map (·.1)).Nodup) (count : Nat) :
    Outcome d ws (((texts d.rootMark (puts [] ws)).run count).map (·.1)) := by
  have hperm := puts_perm hdistinct
  by_cases hall : ∀ w ∈ puts [] ws, w.2.IsPlain
  · obtain ⟨fs, hfs, hrun⟩ := run_texts_ok d.rootMark count hall
    rw [hrun]
    exact .loaded honly (fun w hw => hall w (hperm.mem_iff.mpr hw)) (loads_of_along hdistinct hfs)
  · obtain ⟨front, k, v, back, hsplit, hfront, hv, hrun⟩ := run_texts_error d.rootMark count hall
    have hasc : (puts [] ws).Pairwise (·.1 < ·.1) := puts_ascending [] ws .nil
    rw [hrun]
    exact .refused honly (isLeast_of_split (hsplit ▸ hasc) (hsplit ▸ hperm) hfront hv)

theorem outcome_ofDocument {d : Document} (htree : d.IsTree) (hl : d.IsLayout) :
    ∃ ws, Along d.Reads d.written ws ∧ Outcome d ws (ofDocument d) := by
  by_cases honly : d.OnlyParams
  · obtain ⟨ws, count, hws, hdocument⟩ := ofDocument_eq htree hl honly
    have hdistinct : (ws.map (·.1)).Nodup := hws.keys ▸ hl.distinct
    exact ⟨ws, hws, hdocument ▸ outcome_texts honly hdistinct count⟩
  · obtain ⟨ws, hws⟩ := reads_written htree hl
    refine ⟨ws, hws, ?_⟩
    cases h : ofDocument d with
    | ok fs => exact absurd (onlyParams_of_ok hl h) honly
    | error f => exact .otherKey honly

end Params

open Yaml Params

section
variable {t : Files} {p : Path} {text : String}

theorem load_eq (hread : t.readText p = .ok text) :
    Params.load t p = (ofDocument (document text)).mapError .parse := by
  rw [Params.load, hread, ← ofText_eq]
  dsimp only
  cases ofText text <;> rfl

/-- Settings with a file that cannot be loaded are refused. -/
theorem ofSettings_of_not_loaded {f : Failure} (h : Params.load t p = .error f) {s : Settings}
    (hs : s.paramsFile = some p) : ∃ f', Config.ofSettings t s = .error f' := by
  cases hc : Config.ofSettings t s with
  | error f' => exact ⟨f', rfl⟩
  | ok c =>
    have hholds := (Config.decides_ofSettings (t := t) (s := s)).isOk_iff.mp ⟨c, hc⟩
    obtain ⟨es, hes⟩ := hholds .file (Check.mem_all .file) p hs
    cases h.symm.trans hes

end

/-- A file of blanks has no parameters. For any other file whose text is one document with a mapping
as its root and, under `params`, a mapping from different scalars, each value there is read as just
one value. The file is loaded just if there is no other key and all these values are texts, numbers
and truth values; what is loaded are these values. If only values are at fault, the complaint is
about the least key of such a value. Settings are refused if their file cannot be loaded. -/
theorem load_all_or_nothing {t : Files} {p : Path} {text : String}
    (hread : t.readText p = .ok text) :
    (Text.allBlank text = true → Params.load t p = .ok []) ∧
    (∀ f, Params.load t p = .error f → ∀ s, s.paramsFile = some p →
      ∃ f', Config.ofSettings t s = .error f') ∧
    let d := document text
    d.IsTree → d.IsLayout → ∃ ws, (∀ vs, Along d.Reads d.written vs ↔ vs = ws) ∧
      ((∃ fs, Params.load t p = .ok fs) ↔ d.OnlyParams ∧ ∀ w ∈ ws, w.2.IsPlain) ∧
      (∀ fs, Params.load t p = .ok fs → Loads ws fs) ∧
      (d.OnlyParams → (¬ ∀ w ∈ ws, w.2.IsPlain) → ∃ k, IsLeast ws k ∧
        Params.load t p = .error (.parse (.unfit (complaint k) "." d.rootMark))) := by
  refine ⟨fun hblank => ?_, fun f hf s hs => ofSettings_of_not_loaded hf hs, ?_⟩
  · rw [load_eq hread, ← ofText_eq, ofText, if_pos hblank]
    rfl
  intro d htree hl
  obtain ⟨ws, hws, hout⟩ := outcome_ofDocument htree hl
  refine ⟨ws, fun vs => ⟨fun hvs => along_unique hvs hws, fun h => h ▸ hws⟩, ?_⟩
  rw [load_eq hread]
  generalize ofDocument (document text) = r at hout ⊢
  cases hout with
  | @loaded fs only plain loads =>
    refine ⟨⟨fun _ => ⟨only, plain⟩, fun _ => ⟨fs, rfl⟩⟩, fun _ h => ?_,
      fun _ hnot => absurd plain hnot⟩
    cases h
    exact loads
  | @refused k only least =>
    refine ⟨⟨fun h => ?_, fun h => absurd h.2 least.not_plain⟩, fun _ h => ?_, fun _ _ =>
      ⟨k, least, rfl⟩⟩
    · obtain ⟨_, ⟨⟩⟩ := h
    · cases h
  | otherKey other =>
    refine ⟨⟨fun h => ?_, fun h => absurd h.1 other⟩, fun _ h => ?_, fun h _ => absurd h other⟩
    · obtain ⟨_, ⟨⟩⟩ := h
    · cases h

/-! ### scalars, and what is none -/

theorem isTree_of_checks {d : Document}
    (hread : d.root.any (fun n => ((n.value d 128 ".").run 0).isOk) = true)
    (hwhole : d.fault.isNone = true) (halone : d.more = false) : d.IsTree := by
  refine ⟨?_, Option.isNone_iff_eq_none.mp hwhole, halone⟩
  cases hroot : d.root with
  | none =>
    rw [hroot] at hread
    cases hread
  | some n =>
    rw [hroot, Option.any_some] at hread
    cases hrun : (n.value d 128 ".").run 0 with
    | error f =>
      rw [hrun] at hread
      cases hread
    | ok x => exact ⟨n, x.1, x.2, rfl, hrun⟩

theorem complaint_injective {k k' : String} (h : complaint k = complaint k') : k = k' := by
  have hlist := congrArg String.toList h
  simp only [complaint, String.toList_append, List.append_cancel_left_eq,
    List.append_cancel_right_eq] at hlist
  exact String.toList_inj.mp hlist

/-- Three scalars; and two values that are none, the later one under the smaller key. -/
theorem load_all_or_nothing_tagged :
    let scalars := "params:\n  t: \"~\"\n  n: -1\n  f: True\n"
    let others := "params:\n  b: !x 1\n  a: [1]\n  c: 1\n"
    (∃ ws, Along (document scalars).Reads (document scalars).written ws ∧
      (∀ w ∈ ws, w.2.IsPlain) ∧ Loads ws [("f", "true"), ("n", "-1"), ("t", "~")]) ∧
    ∃ ws, Along (document others).Reads (document others).written ws ∧ IsLeast ws "a" := by
  intro scalars others
  have hread : ∀ text, (oneFile (Text.utf8 text)).readText ⟨[47, 112]⟩ = .ok text := fun text =>
    readText_of_entry (entry_oneFile _)
  have htree : (document scalars).IsTree :=
    isTree_of_checks (by decide +kernel) (by decide +kernel) (by decide +kernel)
  have htree' : (document others).IsTree :=
    isTree_of_checks (by decide +kernel) (by decide +kernel) (by decide +kernel)
  have hl : (document scalars).IsLayout :=
    ⟨by decide +kernel, by decide +kernel, by decide +kernel⟩
  have hl' : (document others).IsLayout :=
    ⟨by decide +kernel, by decide +kernel, by decide +kernel⟩
  obtain ⟨-, -, hscalars⟩ := load_all_or_nothing (hread scalars)
  obtain ⟨ws, hws, hiff, hloads, -⟩ := hscalars htree hl
  have hload : Params.load (oneFile (Text.utf8 scalars)) ⟨[47, 112]⟩ =
      .ok [("f", "true"), ("n", "-1"), ("t", "~")] :=
    load_of_entry (entry_oneFile _) (ok_of_toOption (by decide +kernel))
  obtain ⟨-, -, hothers⟩ := load_all_or_nothing (hread others)
  obtain ⟨vs, hvs, hiff', -, hleast⟩ := hothers htree' hl'
  have hrefused : Params.ofText others = .error (.unfit (complaint "a") "." Mark.first) := by
    decide +kernel
  have hfailed : Params.load (oneFile (Text.utf8 others)) ⟨[47, 112]⟩ =
      .error (.parse (.unfit (complaint "a") "." Mark.first)) := by
    rw [load_eq (hread others), ← ofText_eq, hrefused]
    rfl
  have honly : (document others).OnlyParams := .inr (by decide +kernel)
  have hnot : ¬ ∀ w ∈ vs, w.2.IsPlain := by
    intro hall
    obtain ⟨fs, hfs⟩ := hiff'.mpr ⟨honly, hall⟩
    cases hfailed.symm.trans hfs
  obtain ⟨k, hk, hload'⟩ := hleast honly hnot
  have he : complaint "a" = complaint k :=
    (Fault.unfit.inj (Failure.parse.inj (Except.error.inj (hfailed.symm.trans hload')))).1
  refine ⟨⟨ws, (hws ws).mpr rfl, (hiff.mp ⟨_, hload⟩).2, hloads _ hload⟩, vs, (hvs vs).mpr rfl, ?_⟩
  rw [complaint_injective he]
  exact hk

end Dashboards
