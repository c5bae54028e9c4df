import Mathlib.Tactic.Lemma
import AgentManifest.Json.Pointer
import AgentManifest.Proofs.Decimal.Digits
import AgentManifest.Proofs.Json.Contents
import AgentManifest.Proofs.Json.Members

/-!
# Following pointers

A pointer is followed as RFC 6901 says: its tokens stand between slashes, a token for an object is a
name in which tildes and slashes are escaped, and a token for an array is an index in decimal digits
without leading zeros. The pointer to a place leads to the value at the place.
-/

namespace AgentManifest.Json

/-! ## Ways into a value -/

namespace Value

lemma wellFormed_of_mem_items : ∀ {vs : List Value} {v : Value}, WellFormedItems vs → v ∈ vs →
    v.WellFormed
  | _ :: _, _, h, .head _ => h.1
  | _ :: _, _, h, .tail _ hv => wellFormed_of_mem_items h.2 hv

lemma wellFormed_of_mem_members : ∀ {ms : Members} {m : String × Value}, WellFormedMembers ms →
    m ∈ ms → m.2.WellFormed
  | _ :: _, _, h, .head _ => h.1
  | _ :: _, _, h, .tail _ hm => wellFormed_of_mem_members h.2 hm

lemma names_item {vs : List Value} {v : Value} {name : String} (hv : v ∈ vs)
    (hname : name ∈ v.names) : name ∈ (Value.array vs).names := by
  induction vs with
  | nil => cases hv
  | cons w vs ih =>
    rw [names, namesOfItems, List.mem_append]
    obtain rfl | hv := List.mem_cons.mp hv
    · exact .inl hname
    · exact .inr (ih hv)

lemma names_member {ms : Members} {m : String × Value} {name : String} (hm : m ∈ ms)
    (hname : name = m.1 ∨ name ∈ m.2.names) : name ∈ (Value.object ms).names := by
  induction ms with
  | nil => cases hm
  | cons n ms ih =>
    obtain ⟨k, v⟩ := n
    rw [names, namesOfMembers, List.mem_cons, List.mem_append]
    obtain rfl | hm := List.mem_cons.mp hm
    · exact hname.imp_right .inl
    · exact .inr (.inr (ih hm))

/-- A way down a value that goes through members and items that are there. -/
inductive Leads : Value → Location → Prop
  | here {v : Value} : Leads v []
  | member {ms : Members} {m : String × Value} {l : Location} (hm : m ∈ ms) (h : Leads m.2 l) :
      Leads (.object ms) (.key m.1 :: l)
  | item {vs : List Value} {n : Nat} {v : Value} {l : Location} (hv : vs[n]? = some v)
      (h : Leads v l) : Leads (.array vs) (.index n :: l)

/-- The names on a way into a value are names in the value. -/
lemma Leads.mem_names {v : Value} {l : Location} (h : v.Leads l) {name : String}
    (hname : .key name ∈ l) : name ∈ v.names := by
  induction h with
  | here => cases hname
  | member hm _ ih =>
    obtain heq | hname := List.mem_cons.mp hname
    · exact names_member hm (.inl (Segment.key.inj heq))
    · exact names_member hm (.inr (ih hname))
  | item hv _ ih =>
    obtain heq | hname := List.mem_cons.mp hname
    · cases heq
    · exact names_item (List.mem_of_getElem? hv) (ih hname)

/-- A way into a value with one member for a name ends at a value. -/
lemma Leads.exists_at? {v : Value} {l : Location} (h : v.Leads l) (hv : v.WellFormed) :
    ∃ w, v.at? l = some w := by
  induction h with
  | @here v => exact ⟨v, rfl⟩
  | @member ms m l hm _ ih =>
    obtain ⟨w, hw⟩ := ih (wellFormed_of_mem_members hv.2 hm)
    have hget : Members.get? ms m.1 = some m.2 := Members.get?_of_mem hv.1 hm
    refine ⟨w, ?_⟩
    rw [at?, step?, hget, Option.bind_some, hw]
  | @item vs n v l hget _ ih =>
    obtain ⟨w, hw⟩ := ih (wellFormed_of_mem_items hv (List.mem_of_getElem? hget))
    refine ⟨w, ?_⟩
    rw [at?, step?, hget, Option.bind_some, hw]

end Value

/-! ## Tokens -/

namespace Pointer

/-- The name that a token stands for. A tilde is followed by what it stands for. -/
def name? : List Char → Option (List Char)
  | [] => some []
  | '~' :: '0' :: cs => (name? cs).map ('~' :: ·)
  | '~' :: '1' :: cs => (name? cs).map ('/' :: ·)
  | '~' :: _ => none
  | c :: cs => (name? cs).map (c :: ·)

/-- The index that a token stands for: decimal digits, of which the first is no zero if there are
more. -/
def index? (token : List Char) : Option Nat :=
  if token.isEmpty || !token.all Char.isDigit || (token.head? == some '0' && 1 < token.length) then
    none
  else some (Decimal.ofDigits (token.map fun c => c.toNat - '0'.toNat))

/-- The tokens of a pointer, each of which follows a slash. -/
def tokens? : List Char → Option (List (List Char))
  | [] => some []
  | '/' :: cs => some (cs.splitOn '/')
  | _ => none

/-- Where a token leads. -/
def step? : Value → List Char → Option Value
  | .object ms, token => (name? token).bind fun name => Members.get? ms (String.ofList name)
  | .array vs, token => (index? token).bind fun n => vs[n]?
  | _, _ => none

/-- Where tokens lead one after another. -/
def follow? : Value → List (List Char) → Option Value
  | v, [] => some v
  | v, token :: tokens => (step? v token).bind fun w => follow? w tokens

lemma name?_cons {c : Char} (hc : c ≠ '~') (cs : List Char) :
    name? (c :: cs) = (name? cs).map (c :: ·) := by
  rw [name?]
  · exact fun _ h => absurd h hc
  · exact fun _ h => absurd h hc
  · exact hc

lemma name?_escape (cs : List Char) : name? (cs.flatMap pointerEscape) = some cs := by
  induction cs with
  | nil => rfl
  | cons c cs ih =>
    rw [List.flatMap_cons, pointerEscape]
    split
    case isTrue hc =>
      subst hc
      rw [List.cons_append, List.singleton_append, name?, ih, Option.map_some]
    case isFalse hc =>
      split
      case isTrue hslash =>
        subst hslash
        rw [List.cons_append, List.singleton_append, name?, ih, Option.map_some]
      case isFalse => rw [List.singleton_append, name?_cons hc, ih, Option.map_some]

lemma index?_natText (n : Nat) : index? (Decimal.natText n) = some n := by
  by_cases hn : n = 0
  · subst hn
    rfl
  · obtain ⟨d, ds, hds, hd, htext⟩ := Decimal.natText_of_ne_zero hn
    have hlt : ∀ e ∈ d :: ds, e < 10 := fun e he => Decimal.digit_lt_ten (hds ▸ he)
    have hdigits : (Decimal.natText n).all Char.isDigit = true :=
      List.all_eq_true.mpr fun c hc => Decimal.isDigit_of_mem_natText hc
    have hfirst : ((Decimal.natText n).head? == some '0') = false := by
      rw [htext, List.head?_cons, beq_eq_false_iff_ne]
      exact fun h => hd ((Decimal.digitChar_eq_zero_iff (hlt d List.mem_cons_self)).mp
        (Option.some.inj h))
    have hvalues : (Decimal.natText n).map (fun c => c.toNat - '0'.toNat) = d :: ds := by
      rw [htext, ← List.map_cons, List.map_map]
      exact (List.map_congr_left fun e he => Decimal.toNat_digitChar (hlt e he)).trans
        (List.map_id _)
    have hempty : (Decimal.natText n).isEmpty = false := by
      rw [htext]
      rfl
    rw [index?, hempty, hdigits, hfirst, hvalues, ← hds, Decimal.ofDigits_natDigits]
    rfl

lemma slash_not_mem_write (s : Segment) : '/' ∉ s.write := by
  cases s with
  | key name =>
    rw [Segment.write, List.mem_flatMap]
    rintro ⟨c, -, hc⟩
    rw [pointerEscape] at hc
    split at hc
    · revert hc
      decide
    · split at hc
      · revert hc
        decide
      case isFalse hslash => exact hslash (List.mem_singleton.mp hc).symm
  | index n =>
    intro h
    exact absurd (Decimal.isDigit_of_mem_natText h) (by decide)

/-- The written forms of steps stand between slashes, after a first one. -/
lemma write_cons (s : Segment) (l : Location) :
    Location.write (s :: l) = '/' :: ['/'].intercalate ((s :: l).map Segment.write) := by
  induction l generalizing s with
  | nil =>
    rw [List.map_singleton, List.intercalate_singleton, Location.write, List.flatMap_singleton]
  | cons s' l ih =>
    rw [List.map_cons, List.map_cons, List.intercalate_cons_cons, ← List.map_cons,
      List.append_assoc, List.singleton_append, ← ih s', Location.write, List.flatMap_cons, List.cons_append,
      ← Location.write]

/-- The tokens of the pointer to a place are the written forms of the steps. -/
lemma tokens?_write (l : Location) : tokens? (Location.write l) = some (l.map Segment.write) := by
  cases l with
  | nil => rfl
  | cons s l =>
    rw [write_cons, tokens?, List.splitOn_intercalate]
    · exact List.forall_mem_map.mpr fun s _ => slash_not_mem_write s
    · exact List.cons_ne_nil _ _

lemma step?_write {v w : Value} {s : Segment} (h : v.step? s = some w) :
    step? v s.write = some w := by
  cases v with
  | object ms =>
    cases s with
    | key name =>
      rw [step?, Segment.write, name?_escape, Option.bind_some, String.ofList_toList]
      exact h
    | index n => cases h
  | array vs =>
    cases s with
    | key name => cases h
    | index n =>
      rw [step?, Segment.write, index?_natText, Option.bind_some]
      exact h
  | _ => cases h

lemma follow?_write {v w : Value} {l : Location} (h : v.at? l = some w) :
    follow? v (l.map Segment.write) = some w := by
  induction l generalizing v with
  | nil => exact h
  | cons s l ih =>
    obtain ⟨u, hu, h⟩ := Option.bind_eq_some_iff.mp h
    rw [List.map_cons, follow?, step?_write hu, Option.bind_some, ih h]

end Pointer

/-- The value that a pointer leads to. -/
def Value.resolve? (v : Value) (pointer : String) : Option Value :=
  (Pointer.tokens? pointer.toList).bind (Pointer.follow? v)

/-- The pointer to a place leads to the value there. -/
lemma Value.resolve?_pointer {v w : Value} {l : Location} (h : v.at? l = some w) :
    v.resolve? (Location.pointer l) = some w := by
  rw [Value.resolve?, Location.pointer, String.toList_ofList, Pointer.tokens?_write,
    Option.bind_some, Pointer.follow?_write h]

end AgentManifest.Json
