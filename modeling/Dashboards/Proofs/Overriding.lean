import Dashboards.Proofs.Merging

/-!
# Parameters that are given more than once

Of a mapping in a document the last entry with a key is kept, so that one entry of the parameters
file can stand in the place of another. Nothing else can.

* `Yaml.Document.written`   the entries under `params`, in the order of the document;
* `Reader.Gives`            what a reader comes to;
* `Along`                   lists with the same keys;
* `puts`                    entries that are put one after the other, of which the last is found;
* `Params.Keeps`            the parameters that are kept of entries;
* `keeps_ofDocument`        a document that is accepted keeps what is written in it;
* `overriding_confined`     keys that are given in two of the places, or by two assignments, are
                            refused.
-/

namespace Dashboards
namespace Yaml

/-! ### what is written -/

namespace Document
variable (d : Document)

/-- The node that is meant where a node stands. -/
def means? : Node → Option Node
  | .broken => none
  | .alias id => d.target? id
  | n => some n

def textOf? (n : Node) : Option String :=
  match d.means? n with
  | some (.scalar _ _ text _) => some text
  | _ => none

def entriesOf (n : Node) : List (Node × Node) :=
  match d.means? n with
  | some (.mapping _ _ entries) => entries
  | _ => []

/-- The entries whose keys are texts. -/
def keyed (entries : List (Node × Node)) : List (String × Node) :=
  entries.filterMap fun e => (d.textOf? e.1).map (·, e.2)

/-- The entries under `params` in the members of a root. -/
def underParams (members : List (Node × Node)) : List (String × Node) :=
  members.flatMap fun e =>
    if d.textOf? e.1 = some "params" then d.keyed (d.entriesOf e.2) else []

/-- The entries under `params`, in the order of the document. -/
def written : List (String × Node) := d.underParams (d.root.toList.flatMap d.entriesOf)

end Document

/-! ### what a reader comes to -/

/-- The reader comes to this, for some count of the aliases before. -/
def Reader.Gives {α : Type} (r : Reader α) (a : α) : Prop := ∃ n m, r.run n = .ok (a, m)

open Reader

section
variable {α β : Type}

theorem Reader.run_bind_eq_ok {r : Reader α} {next : α → Reader β} {c c' : Nat} {b : β}
    (h : (r >>= next).run c = .ok (b, c')) :
    ∃ a m, r.run c = .ok (a, m) ∧ (next a).run m = .ok (b, c') := by
  rw [StateT.run_bind] at h
  cases hr : r.run c with
  | error f =>
    rw [hr] at h
    cases h
  | ok x =>
    rw [hr] at h
    exact ⟨x.1, x.2, rfl, h⟩

theorem Reader.Gives.bind {r : Reader α} {next : α → Reader β} {b : β}
    (h : Gives (r >>= next) b) : ∃ a, Gives r a ∧ Gives (next a) b := by
  obtain ⟨n, m, h⟩ := h
  obtain ⟨a, k, hr, hnext⟩ := run_bind_eq_ok h
  exact ⟨a, ⟨n, k, hr⟩, k, m, hnext⟩

theorem Reader.Gives.pure {a b : α} (h : Gives (Pure.pure a) b) : a = b := by
  obtain ⟨n, m, h⟩ := h
  cases h
  rfl

theorem not_gives_throw {f : Fault} {a : α} : ¬ Gives (throw f) a := by
  rintro ⟨n, m, h⟩
  cases h

end

section
variable {d : Document} {n m : Node}

theorem gives_follow (h : Gives (d.follow n) m) : d.means? n = some m := by
  cases n with
  | broken => exact (not_gives_throw h).elim
  | «alias» id =>
    rw [Document.follow] at h
    obtain ⟨count, -, h⟩ := h.bind
    obtain ⟨-, -, h⟩ := h.bind
    dsimp only at h
    split at h
    · obtain ⟨_, hf, _⟩ := h.bind
      exact (not_gives_throw hf).elim
    · split at h
      · rename_i hd
        exact hd.trans (congrArg some h.pure)
      · exact (not_gives_throw h).elim
  | scalar | sequence | mapping => exact congrArg some h.pure

theorem gives_asText {path expected text : String} {mark : Mark}
    (h : Gives (n.asText d path expected) (text, mark)) : d.textOf? n = some text := by
  obtain ⟨m, hm, h⟩ := h.bind
  rw [Document.textOf?, gives_follow hm]
  cases m with
  | scalar =>
    cases h.pure
    rfl
  | sequence | mapping | «alias» | broken => exact (not_gives_throw h).elim

end

/-- The value that a node is read as. -/
def Document.Reads (d : Document) (n : Node) (v : Value) : Prop :=
  ∃ depth path, Gives (n.value d depth path) v

end Yaml

/-! ### lists with the same keys -/

/-- The same keys in the same order, and values that are related. -/
def Along {α β : Type} (R : α → β → Prop) : List (String × α) → List (String × β) → Prop :=
  List.Forall₂ fun x y => y.1 = x.1 ∧ R x.2 y.2

section
variable {α β : Type} {R : α → β → Prop} {xs : List (String × α)} {ys : List (String × β)}

theorem exists_along (h : ∀ x ∈ xs, ∃ y, R x.2 y) : ∃ ys, Along R xs ys := by
  induction xs with
  | nil => exact ⟨[], .nil⟩
  | cons x xs ih =>
    obtain ⟨⟨y, hy⟩, hxs⟩ := List.forall_mem_cons.mp h
    obtain ⟨ys, hys⟩ := ih hxs
    exact ⟨(x.1, y) :: ys, .cons ⟨rfl, hy⟩ hys⟩

theorem Along.keys (h : Along R xs ys) : ys.map (·.1) = xs.map (·.1) := by
  induction h with
  | nil => rfl
  | cons h _ ih => rw [List.map_cons, List.map_cons, ih, h.1]

theorem Along.lookup (h : Along R xs ys) {k : String} {y : β} (hy : ys.lookup k = some y) :
    ∃ x, xs.lookup k = some x ∧ R x y := by
  induction h with
  | nil => cases hy
  | cons h _ ih =>
    rw [Files.lookup_cons_ite, h.1] at hy
    rw [Files.lookup_cons_ite]
    split at hy
    · rename_i hk
      cases hy
      rw [if_pos hk]
      exact ⟨_, rfl, h.2⟩
    · rename_i hk
      rw [if_neg hk]
      exact ih hy

end

namespace Params
open Yaml Reader

/-! ### entries in a sorted list -/

/-- Entries are put one after the other into others. -/
def puts (seen ws : List (String × Value)) : List (String × Value) :=
  ws.foldl (fun es w => put w.1 w.2 es) seen

section
variable {k key : String} {v : Value} {es : List (String × Value)}

theorem mem_put : k ∈ (put key v es).map (·.1) ↔ k = key ∨ k ∈ es.map (·.1) := by
  induction es with
  | nil => simp [put]
  | cons e es ih =>
    obtain ⟨j, w⟩ := e
    rw [put]
    split
    · simp
    · split
      · rename_i hj
        simp [hj]
      · simp [ih, or_left_comm]

theorem put_ascending (h : es.Pairwise (·.1 < ·.1)) : (put key v es).Pairwise (·.1 < ·.1) := by
  induction es with
  | nil => exact List.pairwise_singleton _ _
  | cons e es ih =>
    obtain ⟨j, w⟩ := e
    obtain ⟨hlt, htail⟩ := List.pairwise_cons.mp h
    rw [put]
    split
    · rename_i hj
      refine List.pairwise_cons.mpr ⟨fun x hx => ?_, h⟩
      rcases List.mem_cons.mp hx with rfl | hx
      · exact hj
      · exact String.lt_trans hj (hlt x hx)
    · split
      · rename_i hj
        exact List.pairwise_cons.mpr ⟨fun x hx => hj ▸ hlt x hx, htail⟩
      · rename_i hnot hne
        refine List.pairwise_cons.mpr ⟨fun x hx => ?_, ih htail⟩
        rcases mem_put.mp (List.mem_map_of_mem hx) with hx | hx
        · rw [hx]
          exact Std.lt_of_le_of_ne (String.not_lt.mp hnot) (Ne.symm hne)
        · obtain ⟨y, hy, he⟩ := List.mem_map.mp hx
          rw [← he]
          exact hlt y hy

theorem lookup_put : (put key v es).lookup k = if k = key then some v else es.lookup k := by
  induction es with
  | nil => exact Files.lookup_cons_ite (key, v) []
  | cons e es ih =>
    obtain ⟨j, w⟩ := e
    rw [put]
    split
    · exact Files.lookup_cons_ite (key, v) _
    · split
      · rename_i hj
        subst hj
        rw [Files.lookup_cons_ite, Files.lookup_cons_ite]
        by_cases hk : k = key
        · rw [if_pos hk, if_pos hk]
        · rw [if_neg hk, if_neg hk, if_neg hk]
      · rename_i hne
        rw [Files.lookup_cons_ite, Files.lookup_cons_ite, ih]
        by_cases hk : k = j
        · rw [if_pos hk, if_pos hk, if_neg fun e => hne (e.symm.trans hk)]
        · rw [if_neg hk, if_neg hk]

end

section
variable (seen ws : List (String × Value))

theorem mem_puts (k : String) :
    k ∈ (puts seen ws).map (·.1) ↔ k ∈ ws.map (·.1) ∨ k ∈ seen.map (·.1) := by
  induction ws generalizing seen with
  | nil => simp [puts]
  | cons w ws ih =>
    rw [puts, List.foldl_cons]
    exact (ih _).trans (by rw [mem_put, List.map_cons, List.mem_cons]; tauto)

theorem puts_ascending (h : seen.Pairwise (·.1 < ·.1)) :
    (puts seen ws).Pairwise (·.1 < ·.1) := by
  induction ws generalizing seen with
  | nil => exact h
  | cons w ws ih => exact ih _ (put_ascending h)

/-- The last entry with a key is found. -/
theorem lookup_puts (k : String) :
    (puts seen ws).lookup k = (ws.reverse.lookup k).or (seen.lookup k) := by
  induction ws generalizing seen with
  | nil => rfl
  | cons w ws ih =>
    rw [puts, List.foldl_cons]
    refine (ih _).trans ?_
    rw [lookup_put, List.reverse_cons, List.lookup_append, Files.lookup_cons_ite]
    by_cases hk : k = w.1
    · rw [if_pos hk, if_pos hk]
      cases ws.reverse.lookup k <;> rfl
    · rw [if_neg hk, if_neg hk]
      cases ws.reverse.lookup k <;> rfl

end

/-! ### reading the entries -/

section
variable {d : Document}

theorem gives_readEntries {depth : Nat} {path : String} {seen es : List (String × Value)}
    {entries : List (Node × Node)} (h : Gives (readEntries d depth path seen entries) es) :
    ∃ ws, Along d.Reads (d.keyed entries) ws ∧ es = puts seen ws := by
  induction entries generalizing seen with
  | nil => exact ⟨[], .nil, h.pure.symm⟩
  | cons e entries ih =>
    obtain ⟨k, n⟩ := e
    obtain ⟨⟨key, mark⟩, hk, h⟩ := h.bind
    obtain ⟨v, hv, h⟩ := h.bind
    obtain ⟨ws, hws, rfl⟩ := ih h
    refine ⟨(key, v) :: ws, ?_, rfl⟩
    rw [Document.keyed, List.filterMap_cons, gives_asText hk]
    exact .cons ⟨rfl, _, _, hv⟩ hws

theorem gives_readMap {path : String} {n : Node} {es : List (String × Value)}
    (h : Gives (readMap d path n) es) :
    ∃ ws, Along d.Reads (d.keyed (d.entriesOf n)) ws ∧ es = puts [] ws := by
  obtain ⟨m, hm, h⟩ := h.bind
  rw [Document.entriesOf, gives_follow hm]
  cases m with
  | scalar =>
    dsimp only at h
    split at h
    · exact ⟨[], .nil, h.pure.symm⟩
    · exact (not_gives_throw h).elim
  | mapping mark tag entries => exact gives_readEntries h
  | sequence | «alias» | broken => exact (not_gives_throw h).elim

theorem gives_texts {root : Mark} {es : List (String × Value)} {fs : List (String × String)}
    (h : Gives (texts root es) fs) :
    Along (fun v t => text? v = some t) es fs := by
  induction es generalizing fs with
  | nil =>
    cases h.pure
    exact .nil
  | cons e es ih =>
    obtain ⟨key, v⟩ := e
    rw [texts] at h
    split at h
    · exact (not_gives_throw h).elim
    · rename_i t ht
      obtain ⟨rest, hrest, h⟩ := h.bind
      cases h.pure
      exact .cons ⟨rfl, ht⟩ (ih hrest)

end

/-- The parameters are what is kept of the entries: these are read and put into a list one after the
other, and every value that is left in it has a text. -/
def Keeps (d : Document) (entries : List (String × Node)) (fs : List (String × String)) : Prop :=
  ∃ ws, Along d.Reads entries ws ∧ Along (fun v t => text? v = some t) (puts [] ws) fs

section
variable {d : Document} {fs : List (String × String)}

theorem keeps_nil : Keeps d [] [] := ⟨[], .nil, .nil⟩

/-- Behind the entries of `params` there is nothing. -/
theorem gives_readRoot_some {root : Mark} {found : List (String × String)}
    {members : List (Node × Node)} (h : Gives (readRoot d root (some found) members) fs) :
    members = [] ∧ found = fs := by
  cases members with
  | nil => exact ⟨rfl, h.pure⟩
  | cons e members =>
    obtain ⟨k, v⟩ := e
    obtain ⟨⟨key, mark⟩, -, h⟩ := h.bind
    dsimp only at h
    -- Another name is refused, and so is the same once more.
    split at h
    · exact (not_gives_throw h).elim
    · exact (not_gives_throw h).elim

/-- A root that is accepted has no members, or the one that it may have. -/
theorem members_of_gives {root : Mark} {members : List (Node × Node)}
    (h : Gives (readRoot d root none members) fs) : members = [] ∧ fs = [] ∨ ∃ k v es,
      members = [(k, v)] ∧ d.textOf? k = some "params" ∧
        Gives (readMap d (Node.keyPath "." k) v) es ∧ Gives (texts root es) fs := by
  cases members with
  | nil => exact .inl ⟨rfl, h.pure.symm⟩
  | cons e members =>
    obtain ⟨k, v⟩ := e
    obtain ⟨⟨key, mark⟩, hk, h⟩ := h.bind
    dsimp only at h
    split at h
    · exact (not_gives_throw h).elim
    · rename_i hkey
      rw [not_not] at hkey
      subst hkey
      obtain ⟨es, hes, h⟩ := h.bind
      obtain ⟨texts, htexts, h⟩ := h.bind
      obtain ⟨rfl, rfl⟩ := gives_readRoot_some h
      exact .inr ⟨k, v, es, rfl, gives_asText hk, hes, htexts⟩

theorem gives_readRoot {root : Mark} {members : List (Node × Node)}
    (h : Gives (readRoot d root none members) fs) : Keeps d (d.underParams members) fs := by
  rcases members_of_gives h with ⟨rfl, rfl⟩ | ⟨k, v, es, rfl, hk, hes, htexts⟩
  · exact keeps_nil
  · obtain ⟨ws, hws, rfl⟩ := gives_readMap hes
    rw [Document.underParams, List.flatMap_singleton, if_pos hk]
    exact ⟨ws, hws, gives_texts htexts⟩

theorem gives_ofRoot {n : Node} (h : Gives (ofRoot d n) fs) :
    Keeps d (d.underParams (d.entriesOf n)) fs := by
  obtain ⟨m, hm, h⟩ := h.bind
  rw [Document.entriesOf, gives_follow hm]
  cases m with
  | scalar =>
    dsimp only at h
    split at h
    · cases h.pure
      exact keeps_nil
    · exact (not_gives_throw h).elim
  | mapping mark tag entries => exact gives_readRoot h
  | sequence | «alias» | broken => exact (not_gives_throw h).elim

/-- A document that is accepted has no root, or one that is accepted. -/
theorem gives_ofDocument (h : ofDocument d = .ok fs) :
    d.root = none ∧ fs = [] ∨ ∃ n, d.root = some n ∧ Gives (ofRoot d n) fs := by
  rw [ofDocument] at h
  split at h
  · cases h
  · rename_i entries hread
    have he : entries = fs := by
      split at h
      · cases h
      · split at h
        · cases h
        · exact Except.ok.inj h
    subst he
    cases hr : d.root with
    | none =>
      rw [hr] at hread
      cases hread
      exact .inl ⟨rfl, rfl⟩
    | some n =>
      rw [hr] at hread
      dsimp only at hread
      cases hrun : (ofRoot d n).run 0 with
      | error f =>
        rw [hrun] at hread
        cases hread
      | ok x =>
        rw [hrun] at hread
        cases hread
        exact .inr ⟨n, rfl, 0, x.2, hrun⟩

theorem keeps_ofDocument (h : ofDocument d = .ok fs) : Keeps d d.written fs := by
  rw [Document.written]
  rcases gives_ofDocument h with ⟨hr, rfl⟩ | ⟨n, hr, hn⟩
  · rw [hr]
    exact keeps_nil
  · rw [hr, Option.toList_some, List.flatMap_singleton]
    exact gives_ofRoot hn

end

/-- The document of a text; a text of blanks has none, whatever the blanks are. -/
def document (text : String) : Document :=
  if Text.allBlank text then { root := none, anchored := [], size := 0, fault := none, more := false }
  else .ofText text

theorem ofText_eq (text : String) : ofText text = ofDocument (document text) := by
  rw [ofText, document]
  split
  · rfl
  · rfl

/-! ### what is kept -/

/-- The last of the entries with this key has a value with this text. -/
def LastSays (d : Document) (entries : List (String × Node)) (k v : String) : Prop :=
  ∃ n w, entries.reverse.lookup k = some n ∧ d.Reads n w ∧ text? w = some v

section
variable {d : Document} {entries : List (String × Node)} {fs : List (String × String)}

theorem Keeps.ascending (h : Keeps d entries fs) : fs.Pairwise (·.1 < ·.1) := by
  obtain ⟨ws, -, hfs⟩ := h
  refine List.pairwise_map.mp ?_
  rw [hfs.keys]
  exact List.pairwise_map.mpr (puts_ascending [] ws .nil)

/-- Every key is kept, once. -/
theorem Keeps.keys (h : Keeps d entries fs) :
    (fs.map (·.1)).Perm (entries.map (·.1)).dedup := by
  have hnodup : (fs.map (·.1)).Nodup := nodup_keys h.ascending
  obtain ⟨ws, hws, hfs⟩ := h
  rw [List.perm_ext_iff_of_nodup hnodup (List.nodup_dedup _)]
  intro k
  rw [hfs.keys, mem_puts, hws.keys, List.mem_dedup, List.map_nil]
  exact or_iff_left List.not_mem_nil

theorem Keeps.last (h : Keeps d entries fs) {k v : String} (hm : (k, v) ∈ fs) :
    LastSays d entries k v := by
  have hl : fs.lookup k = some v := (lookup_iff h.ascending).mpr hm
  obtain ⟨ws, hws, hfs⟩ := h
  obtain ⟨w, hw, ht⟩ := hfs.lookup hl
  rw [lookup_puts, List.lookup_nil, Option.or_none] at hw
  have hreverse : Along d.Reads entries.reverse ws.reverse := List.rel_reverse hws
  obtain ⟨n, hn, hread⟩ := hreverse.lookup hw
  exact ⟨n, w, hn, hread, ht⟩

end
end Params

/-! ### configurations -/

namespace Config
variable {t : Files} {s : Settings}

/-- The text of the parameters file, without one an empty text. -/
def fileText (t : Files) (s : Settings) : String :=
  (s.paramsFile.bind fun p => (t.readText p).toOption).getD ""

/-- The document of the parameters file. -/
def fileDocument (t : Files) (s : Settings) : Yaml.Document := Params.document (fileText t s)

theorem keeps_file {es : List (String × String)} (h : fileEntries t s.paramsFile = .ok es) :
    Params.Keeps (fileDocument t s) (fileDocument t s).written es := by
  refine Params.keeps_ofDocument ?_
  rw [fileDocument, ← Params.ofText_eq, fileText]
  cases hp : s.paramsFile with
  | none =>
    rw [hp] at h
    cases h
    rfl
  | some p =>
    rw [hp] at h
    replace h : Params.load t p = .ok es := h
    rw [Option.bind_some]
    rw [Params.load] at h
    cases hr : t.readText p with
    | error cause =>
      rw [hr] at h
      cases h
    | ok text =>
      rw [hr] at h
      show Params.ofText text = .ok es
      dsimp only at h
      split at h
      · cases h
      · rename_i hes
        cases h
        exact hes

end Config

/-- No parameter is given in two of the three places, nor by two assignments: with such a key settings
are refused. The parameters of an accepted configuration have the keys that are given, one each, and
a key of the file stands for the last entry that is written with it. So entries are overridden just
if two entries of the file have the same key. -/
theorem overriding_confined (t : Files) (s : Settings) :
    let written := (Config.fileDocument t s).written
    let file := written.map (·.1)
    let assigned := s.assignments.map assignedKey
    (¬ (Config.datasourceKey :: (file.dedup ++ assigned)).Nodup →
      ∃ f, Config.ofSettings t s = .error f) ∧
    ∀ c, Config.ofSettings t s = .ok c →
      c.params.keys.Perm (Config.datasourceKey :: (file.dedup ++ assigned)) ∧
      (∀ k ∈ file, ∃ v, c.params.get? k = some v ∧
        Params.LastSays (Config.fileDocument t s) written k v) ∧
      (c.params.keys.Perm (Config.datasourceKey :: (file ++ assigned)) ↔ file.Nodup) := by
  intro written file assigned
  have hok : ∀ c, Config.ofSettings t s = .ok c →
      c.params.keys.Perm (Config.datasourceKey :: (file.dedup ++ assigned)) ∧
      c.params.keys.Nodup ∧ ∀ k ∈ file, ∃ v, c.params.get? k = some v ∧
        Params.LastSays (Config.fileDocument t s) written k v := by
    intro c hc
    obtain ⟨es, fs, hes, hfs, hunion⟩ := Config.isUnion_ofSettings hc
    have hkeeps := Config.keeps_file hes
    have hkeys := hunion.perm.map Prod.fst
    rw [List.map_cons, List.map_append, assigns_keys hfs] at hkeys
    refine ⟨hkeys.trans ((hkeeps.keys.append_right assigned).cons _),
      Params.nodup_keys hunion.ascending, fun k hk => ?_⟩
    obtain ⟨⟨k, v⟩, hm, rfl⟩ := List.mem_map.mp (hkeeps.keys.mem_iff.mpr (List.mem_dedup.mpr hk))
    refine ⟨v, (hunion.get?_iff k v).mpr ?_, hkeeps.last hm⟩
    exact List.mem_cons_of_mem _ (List.mem_append_left _ hm)
  constructor
  · intro hcollide
    cases hc : Config.ofSettings t s with
    | error f => exact ⟨f, rfl⟩
    | ok c =>
      obtain ⟨hkeys, hnodup, -⟩ := hok c hc
      exact absurd (hkeys.nodup hnodup) hcollide
  · intro c hc
    obtain ⟨hkeys, hnodup, hlast⟩ := hok c hc
    refine ⟨hkeys, hlast, fun h => ?_, fun h => ?_⟩
    · exact (List.nodup_append.mp (List.nodup_cons.mp (h.nodup hnodup)).2).1
    · rwa [h.dedup] at hkeys

/-! ### one key twice in the file -/

/-- A text with `a` written twice. -/
def twice : String := "params:\n  a: 1\n  a: 2\n"

theorem ofText_twice : Params.ofText twice = .ok [("a", "2")] :=
  ok_of_toOption (by decide +kernel)

theorem written_twice (assignments : List String) :
    (Config.fileDocument (oneFile (Text.utf8 twice)) (fileSettings assignments)).written.map (·.1) =
      ["a", "a"] := by
  have h : Config.fileText (oneFile (Text.utf8 twice)) (fileSettings assignments) = twice := by
    rw [Config.fileText]
    show ((oneFile (Text.utf8 twice)).readText ⟨[47, 112]⟩).toOption.getD "" = twice
    rw [readText_of_entry (entry_oneFile _)]
    rfl
  rw [Config.fileDocument, h]
  decide +kernel

theorem overriding_confined_twice :
    let t := oneFile (Text.utf8 twice)
    (∃ f, Config.ofSettings t (fileSettings ["b=1", " a =3"]) = .error f) ∧
    ∃ c, Config.ofSettings t (fileSettings ["b=1"]) = .ok c ∧
      c.params.keys.Perm ["datasource", "a", "b"] ∧ ∃ v, c.params.get? "a" = some v ∧
        Params.LastSays (Config.fileDocument t (fileSettings ["b=1"]))
          (Config.fileDocument t (fileSettings ["b=1"])).written "a" v := by
  intro t
  have hb : assignedKey "b=1" = "b" := by cbv
  have ha : assignedKey " a =3" = "a" := by cbv
  let p : Params := { entries := [("a", "2"), ("b", "1"), ("datasource", "prometheus")] }
  obtain ⟨c, hc, -⟩ : ∃ c, Config.ofSettings t (fileSettings ["b=1"]) = .ok c ∧ c.params = p :=
    ofSettings_oneFile ofText_twice (by cbv)
  obtain ⟨hrefused, -⟩ := overriding_confined t (fileSettings ["b=1", " a =3"])
  obtain ⟨-, haccepted⟩ := overriding_confined t (fileSettings ["b=1"])
  rw [written_twice] at hrefused haccepted
  obtain ⟨hkeys, hlast, -⟩ := haccepted c hc
  refine ⟨hrefused ?_, c, hc, ?_, hlast "a" List.mem_cons_self⟩
  · show ¬ (["datasource", "a", assignedKey "b=1", assignedKey " a =3"]).Nodup
    rw [hb, ha]
    decide
  · rw [← hb]
    exact hkeys

/-- Of two entries in the file one is passed over without a word. -/
theorem overriding_fails : ¬ ∀ (t : Files) (s : Settings),
    let file := (Config.fileDocument t s).written.map (·.1)
    ¬ (Config.datasourceKey :: (file ++ s.assignments.map assignedKey)).Nodup →
      ∃ f, Config.ofSettings t s = .error f := by
  intro h
  let p : Params := { entries := [("a", "2"), ("datasource", "prometheus")] }
  have hc : ∃ c, Config.ofSettings (oneFile (Text.utf8 twice)) (fileSettings []) = .ok c ∧
      c.params = p :=
    ofSettings_oneFile ofText_twice (by cbv)
  have hf := h (oneFile (Text.utf8 twice)) (fileSettings [])
  rw [written_twice] at hf
  obtain ⟨f, hf⟩ := hf (by decide)
  obtain ⟨c, hc, -⟩ := hc
  rw [hc] at hf
  cases hf

end Dashboards
