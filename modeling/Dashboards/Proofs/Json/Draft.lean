import Dashboards.Json.Draft
import Dashboards.Proofs.Json.Document
import Dashboards.Proofs.Json.Printed

/-!
# How far a draft is written

A draft is written from the front until a place comes that cannot be written.

* `Draft.filled`       the value that a draft would be, if a given text stood in all such places;
* `Draft.Follows`      a text that is written up to its end, or up to such a place;
* `follows_write`      what is written of a draft follows the text of the value that is filled in;
* `fault_write`        it breaks off just if the draft has no value, and for the same reason;
* `write_of_value`     a draft that can be written everywhere is written as its value;
* `not_isText_of_quote`   what breaks off in front of a string is no JSON text.
-/

namespace Dashboards
namespace Json
open Value
namespace Draft

/-! ### places that are filled in -/

mutual

/-- The value with this text in every place that cannot be written. -/
def filled (p : String) : Draft → Value
  | .value v => v
  | .unwritable _ => .text p
  | .list ds => .list (filledAll p ds)
  | .object ms => .object (filledMembers p ms)

def filledAll (p : String) : List Draft → List Value
  | [] => []
  | d :: ds => filled p d :: filledAll p ds

def filledMembers (p : String) : List (String × Draft) → List (String × Value)
  | [] => []
  | (k, d) :: ms => (k, filled p d) :: filledMembers p ms

end

/-- A text that has been written to its end. -/
def Written.full (cs : List Char) : Written := ⟨cs, none⟩

/-- All of the text is written, or what stands in front of the string `p` at some place. -/
def Follows (p : String) (a : Written) (text : List Char) : Prop :=
  match a.fault with
  | none => a.chars = text
  | some _ => ∃ tail, text = a.chars ++ (quote p ++ tail)

section
variable {p : String} {a b : Written} {x y : List Char}

theorem follows_full (cs : List Char) : Follows p (.full cs) cs := rfl

theorem Follows.andThen (ha : Follows p a x) (hb : Follows p b y) :
    Follows p (a.andThen b) (x ++ y) := by
  obtain ⟨as, fault⟩ := a
  cases fault with
  | some e =>
    obtain ⟨tail, rfl⟩ := ha
    refine ⟨tail ++ y, ?_⟩
    simp only [List.append_assoc]
    rfl
  | none =>
    have ha : as = x := ha
    subst ha
    obtain ⟨bs, fault⟩ := b
    cases fault with
    | none => exact congrArg (as ++ ·) hb
    | some e =>
      obtain ⟨tail, rfl⟩ := hb
      exact ⟨tail, (List.append_assoc ..).symm⟩

theorem Follows.all {pieces : List Written} {texts : List (List Char)}
    (h : List.Forall₂ (Follows p) pieces texts) : Follows p (Written.all pieces) texts.flatten := by
  induction h with
  | nil => rfl
  | cons h _ ih => exact h.andThen ih

end

/-! ### entries between brackets -/

section
variable {p : String} (pretty : Bool) (depth : Nat) (opening closing : Char)

/-- Each entry with what stands in front of it. -/
theorem flatten_flatMap_pair (sep : List Char) (entries : List (List Char)) :
    (entries.flatMap fun cs => [sep, cs]).flatten = entries.flatMap (sep ++ ·) := by
  induction entries with
  | nil => rfl
  | cons cs entries ih =>
    rw [List.flatMap_cons, List.flatten_append, ih, List.flatMap_cons]
    simp only [List.flatten_cons, List.flatten_nil, List.append_nil, List.append_assoc]

theorem enclosed_cons (cs : List Char) (entries : List (List Char)) :
    enclosed pretty depth opening closing (cs :: entries) =
      ((opening :: lineStart pretty (depth + 1)) :: cs ::
        (entries.flatMap fun cs => [',' :: lineStart pretty (depth + 1), cs]) ++
          [lineStart pretty depth ++ [closing]]).flatten := by
  rw [enclosed, if_neg (List.cons_ne_nil _ _), between_cons, List.flatten_append,
    List.flatten_cons, List.flatten_cons, flatten_flatMap_pair]
  simp only [List.flatten_cons, List.flatten_nil, List.append_nil, List.cons_append,
    List.append_assoc]

/-- Entries with the same text in front of each follow their texts, if the entries do. -/
theorem Follows.separated (sep : List Char) {entries : List Written} {texts : List (List Char)}
    (h : List.Forall₂ (Follows p) entries texts) :
    List.Forall₂ (Follows p) (entries.flatMap fun e => [.full sep, e])
      (texts.flatMap fun cs => [sep, cs]) := by
  induction h with
  | nil => exact .nil
  | cons h _ ih => exact .cons (follows_full sep) (.cons h ih)

theorem Follows.enclose {entries : List Written} {texts : List (List Char)}
    (h : List.Forall₂ (Follows p) entries texts) :
    Follows p (enclose pretty depth opening closing entries)
      (enclosed pretty depth opening closing texts) := by
  cases h with
  | nil => rfl
  | cons h hs =>
    rw [enclosed_cons]
    have hlast :=
      List.Forall₂.cons (follows_full (p := p) (lineStart pretty depth ++ [closing])) .nil
    exact Follows.all (.cons (follows_full _) (.cons h
      (List.rel_append (Follows.separated (',' :: lineStart pretty (depth + 1)) hs) hlast)))

end

/-! ### where the writing breaks off -/

theorem fault_andThen (a b : Written) : (a.andThen b).fault = a.fault.or b.fault := by
  obtain ⟨as, fault⟩ := a
  cases fault <;> rfl

theorem fault_all (pieces : List Written) :
    (Written.all pieces).fault = pieces.findSome? (·.fault) := by
  induction pieces with
  | nil => rfl
  | cons a pieces ih =>
    rw [Written.all, fault_andThen, ih, List.findSome?_cons]
    cases a.fault <;> rfl

theorem findSome?_separated (sep : List Char) (entries : List Written) :
    (entries.flatMap fun e => [.full sep, e]).findSome? (·.fault) =
      entries.findSome? (·.fault) := by
  induction entries with
  | nil => rfl
  | cons e entries ih =>
    rw [List.flatMap_cons, List.findSome?_append, ih, List.findSome?_cons, List.findSome?_cons,
      List.findSome?_cons]
    cases e.fault <;> rfl

/-- The first entry that breaks off does so for the whole. -/
theorem fault_enclose (pretty : Bool) (depth : Nat) (opening closing : Char)
    (entries : List Written) :
    (enclose pretty depth opening closing entries).fault = entries.findSome? (·.fault) := by
  cases entries with
  | nil => rfl
  | cons e entries =>
    have hpieces : enclose pretty depth opening closing (e :: entries) =
        Written.all (.full (opening :: lineStart pretty (depth + 1)) :: e ::
          (entries.flatMap fun e => [.full (',' :: lineStart pretty (depth + 1)), e]) ++
            [.full (lineStart pretty depth ++ [closing])]) := rfl
    rw [hpieces, fault_all, List.findSome?_append]
    simp only [List.findSome?_cons, findSome?_separated]
    cases e.fault with
    | some e => rfl
    | none => exact Option.or_none

theorem bind_eq_ok {α β : Type} {r : Except Unwritable α} {f : α → Except Unwritable β} {b : β}
    (h : (r >>= f) = .ok b) : ∃ a, r = .ok a ∧ f a = .ok b := by
  cases r with
  | error e => cases h
  | ok a => exact ⟨a, rfl, h⟩

/-- The reason why there is no result. -/
def reason? {α : Type} : Except Unwritable α → Option Unwritable
  | .error e => some e
  | .ok _ => none

theorem reason?_bind {α β : Type} (r : Except Unwritable α) (f : α → Except Unwritable β) :
    reason? (r >>= f) = match r with
      | .error e => some e
      | .ok a => reason? (f a) := by
  cases r <;> rfl

mutual

theorem follows_write (p : String) (pretty : Bool) : ∀ (d : Draft) (depth : Nat),
    Follows p (d.write pretty depth) ((d.filled p).written pretty depth)
  | .value _, _ => rfl
  | .unwritable _, depth => ⟨[], by cases pretty <;> exact (List.append_nil _).symm⟩
  | .list ds, depth => by
    rw [write, filled, written_list]
    exact Follows.enclose pretty depth '[' ']' (follows_writeList p pretty ds (depth + 1))
  | .object ms, depth => by
    rw [write, filled, written_object]
    exact Follows.enclose pretty depth '\x7b' '\x7d' (follows_writeMembers p pretty ms (depth + 1))

theorem follows_writeList (p : String) (pretty : Bool) : ∀ (ds : List Draft) (depth : Nat),
    List.Forall₂ (Follows p) (writeList pretty depth ds)
      ((filledAll p ds).map (·.written pretty depth))
  | [], _ => .nil
  | d :: ds, depth => .cons (follows_write p pretty d depth) (follows_writeList p pretty ds depth)

theorem follows_writeMembers (p : String) (pretty : Bool) :
    ∀ (ms : List (String × Draft)) (depth : Nat),
      List.Forall₂ (Follows p) (writeMembers pretty depth ms) ((filledMembers p ms).map fun m =>
        quote m.1 ++ (':' :: gap pretty ++ m.2.written pretty depth))
  | [], _ => .nil
  | (k, d) :: ms, depth => by
    have hkey : Written.full (quote k ++ (if pretty then [':', ' '] else [':'])) =
        .full (quote k ++ ':' :: gap pretty) := by cases pretty <;> rfl
    have hmember := (follows_full (p := p) (quote k ++ ':' :: gap pretty)).andThen
      (follows_write p pretty d depth)
    rw [← hkey, List.append_assoc] at hmember
    exact .cons hmember (follows_writeMembers p pretty ms depth)

end

mutual

theorem fault_write (pretty : Bool) : ∀ (d : Draft) (depth : Nat),
    (d.write pretty depth).fault = reason? d.value?
  | .value _, _ => rfl
  | .unwritable _, _ => rfl
  | .list ds, depth => by
    rw [write, fault_enclose, fault_writeList pretty ds (depth + 1), value?, reason?_bind]
    cases values? ds <;> rfl
  | .object ms, depth => by
    rw [write, fault_enclose, fault_writeMembers pretty ms (depth + 1), value?, reason?_bind]
    cases members? ms <;> rfl

theorem fault_writeList (pretty : Bool) : ∀ (ds : List Draft) (depth : Nat),
    (writeList pretty depth ds).findSome? (·.fault) = reason? (values? ds)
  | [], _ => rfl
  | d :: ds, depth => by
    rw [writeList, List.findSome?_cons, fault_write pretty d depth,
      fault_writeList pretty ds depth, values?, reason?_bind]
    cases value? d with
    | error e => rfl
    | ok v => cases values? ds <;> rfl

theorem fault_writeMembers (pretty : Bool) : ∀ (ms : List (String × Draft)) (depth : Nat),
    (writeMembers pretty depth ms).findSome? (·.fault) = reason? (members? ms)
  | [], _ => rfl
  | (k, d) :: ms, depth => by
    rw [writeMembers, List.findSome?_cons, fault_andThen, fault_write pretty d depth,
      fault_writeMembers pretty ms depth, members?, reason?_bind]
    cases value? d with
    | error e => rfl
    | ok v => cases members? ms <;> rfl

end

mutual

theorem filled_of_value (p : String) : ∀ (d : Draft) (v : Value), d.value? = .ok v →
    d.filled p = v
  | .value _, _, h => Except.ok.inj h
  | .unwritable _, _, h => nomatch h
  | .list ds, v, h => by
    rw [value?] at h
    obtain ⟨vs, hvs, h⟩ := bind_eq_ok h
    cases h
    rw [filled, filledAll_of_values p ds vs hvs]
  | .object ms, v, h => by
    rw [value?] at h
    obtain ⟨vs, hvs, h⟩ := bind_eq_ok h
    cases h
    rw [filled, filledMembers_of_members p ms vs hvs]

theorem filledAll_of_values (p : String) : ∀ (ds : List Draft) (vs : List Value),
    values? ds = .ok vs → filledAll p ds = vs
  | [], _, h => Except.ok.inj h
  | d :: ds, _, h => by
    rw [values?] at h
    obtain ⟨v, hv, h⟩ := bind_eq_ok h
    obtain ⟨vs, hvs, h⟩ := bind_eq_ok h
    cases h
    rw [filledAll, filled_of_value p d v hv, filledAll_of_values p ds vs hvs]

theorem filledMembers_of_members (p : String) : ∀ (ms : List (String × Draft))
    (vs : List (String × Value)), members? ms = .ok vs → filledMembers p ms = vs
  | [], _, h => Except.ok.inj h
  | (k, d) :: ms, _, h => by
    rw [members?] at h
    obtain ⟨v, hv, h⟩ := bind_eq_ok h
    obtain ⟨vs, hvs, h⟩ := bind_eq_ok h
    cases h
    rw [filledMembers, filled_of_value p d v hv, filledMembers_of_members p ms vs hvs]

end

/-- A draft without a place that cannot be written is written as its value. -/
theorem write_of_value (pretty : Bool) (d : Draft) (depth : Nat) (v : Value)
    (h : d.value? = .ok v) : d.write pretty depth = .full (v.written pretty depth) := by
  have hfault : (d.write pretty depth).fault = none := by
    rw [fault_write, h]
    rfl
  have hfollows := follows_write "" pretty d depth
  rw [Follows, hfault, filled_of_value "" d v h] at hfollows
  rw [← hfollows, Written.full, ← hfault]

end Draft

/-! ### what breaks off -/

/-- A text that goes on with a string to become a value is none itself, whatever blanks stand at its
end. -/
theorem not_isText_of_quote {cs r : List Char} (h : IsValue (cs ++ '"' :: r)) : ¬ IsText cs := by
  rintro ⟨hw, hv, hw'⟩
  rename_i w v w'
  have hends : Ends ('"' :: r) := ends_of_ne rfl (by decide) r
  rw [List.append_assoc, List.append_assoc] at h
  -- The value starts at once, so that there are no blanks in front.
  have hskip := skip_append hw (v ++ (w' ++ '"' :: r))
  rw [hv.skip_eq, ← List.append_nil (w ++ _), h.skip_eq, List.append_nil] at hskip
  have hnil : w = [] := List.self_eq_append_left.mp hskip.symm
  subst hnil
  exact List.append_ne_nil_of_right_ne_nil _ (List.cons_ne_nil _ _)
    (hv.append_eq h (ends_blanks hw' hends))

end Json
end Dashboards
