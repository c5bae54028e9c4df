import Mathlib.Tactic.SplitIfs
import AgentManifest.Proofs.Schema.Origins

/-!
# Places of failures

A failure lies inside the value that fails: the way to it goes through members and items that are
there, and what is missing is reported where it is missed. So the path of a violation leads to a
value of the document. In a value without empty names no way to a failure leads through an empty
name, so that the pointer to the failure is not taken for the whole value.
-/

namespace AgentManifest.Json.Location

lemma pointer_append (place way : Location) :
    pointer (place ++ way) = pointer place ++ pointer way := by
  rw [pointer, write, List.flatMap_append, String.ofList_append]
  rfl

lemma toList_pointer_cons (s : Segment) (l : Location) :
    (pointer (s :: l)).toList = '/' :: (s.write ++ write l) := by
  rw [pointer, String.toList_ofList, write, List.flatMap_cons]
  rfl

lemma pointer_ne_empty {l : Location} (h : l ≠ []) : pointer l ≠ "" := by
  cases l with
  | nil => exact absurd rfl h
  | cons s l =>
    intro heq
    have htext := toList_pointer_cons s l
    rw [heq] at htext
    cases htext

/-- The pointer that stands for the whole value is that of its member with the empty name. -/
lemma pointer_eq_slash_iff {l : Location} : pointer l = "/" ↔ l = [.key ""] := by
  constructor
  · intro h
    cases l with
    | nil => exact absurd h (by decide)
    | cons s l =>
      have htext := toList_pointer_cons s l
      rw [h] at htext
      obtain ⟨hwrite, hrest⟩ := List.append_eq_nil_iff.mp (List.cons.inj htext).2.symm
      obtain rfl : l = [] := by
        cases l with
        | nil => rfl
        | cons s' l => cases hrest
      cases s with
      | key name =>
        have hname : name.toList = [] := by
          rw [Segment.write, List.flatMap_eq_nil_iff] at hwrite
          refine List.eq_nil_iff_forall_not_mem.mpr fun c hc => ?_
          have hescape := hwrite c hc
          rw [pointerEscape] at hescape
          split_ifs at hescape
        rw [String.toList_eq_nil_iff.mp hname]
      | index n =>
        obtain ⟨c, cs, htext, -⟩ := Decimal.exists_natText_eq_cons n
        rw [Segment.write, htext] at hwrite
        cases hwrite
  · rintro rfl
    rfl

end AgentManifest.Json.Location

namespace AgentManifest.Report.Violation

/-- The violation with a pointer for its path, which is empty for the whole document. -/
def pointed (x : Violation) : Violation := { x with path := if x.path = "/" then "" else x.path }

/-- The violation as seen from further up in the document and in the schema. -/
def under (place keyword : Json.Location) (x : Violation) : Violation :=
  { x with path := place.pointer ++ x.path, schemaPath := keyword.pointer ++ x.schemaPath }

end AgentManifest.Report.Violation

namespace AgentManifest.Schema

open Json (Value Members Location)
open Report (Violation)

/-! ## Failures as they are reported -/

/-- The violation that reports a failure, with a pointer for its path. -/
def Failure.pointed (f : Failure) : Violation := f.violation.pointed

lemma Failure.pointed_eq {f : Failure} (h : .key "" ∉ f.place) :
    f.pointed = { f.violation with path := Location.pointer f.place } := by
  have hpath : f.violation.path =
      if (Location.pointer f.place).isEmpty then "/" else Location.pointer f.place := rfl
  have hslash : Location.pointer f.place ≠ "/" := by
    rw [Ne, Location.pointer_eq_slash_iff]
    exact fun heq => h (heq ▸ List.mem_singleton_self _)
  rw [Failure.pointed, Violation.pointed, hpath]
  split
  case isTrue hempty => rw [if_pos rfl, String.isEmpty_iff.mp hempty]
  case isFalse => rfl

lemma Cause.hidesKeyword_of_hidesPlace {cause : Cause} (h : cause.hidesPlace = true) :
    cause.hidesKeyword = true := by
  cases cause with
  | notUtf8 offset length => rfl
  | _ => cases h

/-- Seen from further up, a failure is reported with both places in front, unless it is one of those
that are reported without. -/
lemma Failure.pointed_under {f : Failure} {place : Location} (hplace : .key "" ∉ place)
    (h : .key "" ∉ f.place) (keyword : Location) :
    (f.under place keyword).pointed =
      f.pointed.under (if f.cause.hidesPlace then [] else place)
        (if f.cause.hidesKeyword then [] else keyword) := by
  have hunder : .key "" ∉ (f.under place keyword).place := by
    rw [Failure.under]
    dsimp only
    split
    · exact h
    · rw [List.mem_append]
      exact not_or.mpr ⟨hplace, h⟩
  have hnil : Location.pointer [] = "" := rfl
  rw [Failure.pointed_eq hunder, Failure.pointed_eq h]
  simp only [Failure.violation, Violation.make, Violation.under, Failure.under]
  cases f.cause.hidesPlace <;> cases f.cause.hidesKeyword <;>
    simp [Location.pointer_append, hnil]

lemma Failure.pointed_under_iff {f : Failure} {place keyword : Location}
    (hplace : .key "" ∉ place) (hkeyword : keyword ≠ []) (h : .key "" ∉ f.place) :
    (f.under place keyword).pointed = f.pointed.under place keyword ↔
      f.cause.hidesKeyword = false := by
  rw [Failure.pointed_under hplace h]
  constructor
  · intro heq
    rw [← Bool.not_eq_true]
    intro hhidden
    have hpath := congrArg Violation.schemaPath heq
    rw [hhidden, if_pos rfl] at hpath
    exact Location.pointer_ne_empty hkeyword (String.append_left_inj _ |>.mp hpath).symm
  · intro hshown
    have hplaced : f.cause.hidesPlace = false := by
      rw [← Bool.not_eq_true]
      intro hhidden
      rw [Cause.hidesKeyword_of_hidesPlace hhidden] at hshown
      cases hshown
    rw [hshown, hplaced]
    rfl

/-! ## Where failures lie -/

/-- A failure lies inside a value, and if it is reported for the whole value it lies there. -/
def Failure.LiesIn (v : Value) (f : Failure) : Prop :=
  v.Leads f.place ∧ (f.cause.hidesPlace = true → f.place = [])

/-- Each of some failures lies inside a value. -/
def Located (v : Value) (fs : List Failure) : Prop := ∀ f ∈ fs, f.LiesIn v

namespace Failure.LiesIn

variable {v w : Value} {f : Failure} {place : Location}

/-- A failure of the value itself. -/
lemma of_place (h : f.place = []) : f.LiesIn v := by
  rw [LiesIn, h]
  exact ⟨.here, fun _ => rfl⟩

/-- A failure further down, as seen from a value that leads there. -/
lemma under (hw : v.Within place w) (h : f.LiesIn w) (keyword : Location) :
    (f.under place keyword).LiesIn v := by
  obtain ⟨hleads, hhidden⟩ := h
  rw [LiesIn, Failure.under]
  dsimp only
  split
  case isTrue hhides =>
    rw [hhidden hhides]
    exact ⟨.here, fun _ => rfl⟩
  case isFalse hshows => exact ⟨hw.leads hleads, fun hhides => absurd hhides hshows⟩

end Failure.LiesIn

/-- References fail inside the value. -/
def LocatedLinks (r : Complaints) : Prop := ∀ t v, Located v (r t v)

/-- The failures of a value lie inside it. -/
theorem Form.located {l : Links} {r : Complaints} (h : LocatedLinks r) :
    ∀ (s : Form) (v : Value), Located v (s.failures l r v) := by
  refine Form.failures_induction (fun v => .of_place rfl) fun ks v f k _ horigin => ?_
  cases horigin with
  | own _ hplace => exact .of_place hplace
  | below _ hw hg keyword => exact .under hw hg keyword
  | ofName _ _ _ _ hplace => exact .of_place hplace
  | elsewhere hg => exact .under .self (h _ _ _ hg) _

/-! ## Compiled schemas -/

/-- What references lead to fails inside the value, however often they are followed. -/
lemma Table.complaints_located (table : Table) (n : Nat) : LocatedLinks (table.complaints n) := by
  induction n with
  | zero => exact fun _ _ => List.forall_mem_nil _
  | succ n ih =>
    intro t v
    dsimp only [Table.complaints]
    split
    case h_1 s _ => exact Form.located ih s v
    case h_2 => exact List.forall_mem_nil _

lemma Compiled.located (s : Compiled) (v : Value) : Located v (s.failures v) :=
  Form.located (s.table.complaints_located _) s.root v

/-- No failure lies in a member with an empty name. -/
def Addressed (fs : List Failure) : Prop := ∀ f ∈ fs, .key "" ∉ f.place

/-- The failures of a value without empty names lie in members that have a name. -/
lemma Compiled.addressed (s : Compiled) {v : Value} (hv : "" ∉ v.names) :
    Addressed (s.failures v) :=
  fun f hf hname => hv ((s.located v f hf).1.mem_names hname)

/-- The path of a violation is that of the whole document, or leads to a value in it. -/
theorem Compiled.path_resolves (s : Compiled) {v : Value} (hv : v.WellFormed) :
    ∀ x ∈ s.evaluate v, x.path = "/" ∨ ∃ w, v.resolve? x.path = some w := by
  intro x hx
  obtain ⟨f, hf, rfl⟩ := List.mem_map.mp hx
  obtain ⟨w, hw⟩ := (s.located v f hf).1.exists_at? hv
  have hpath : f.violation.path =
      if (Location.pointer f.place).isEmpty then "/" else Location.pointer f.place := rfl
  rw [hpath]
  split
  · exact .inl rfl
  · exact .inr ⟨w, Value.resolve?_pointer hw⟩

/-- A violation in an item of a member whose name is escaped in pointers. -/
theorem path_resolves_escaped :
    let s : Compiled :=
      { id? := none, root := .all [.additional [] [] (.all [.itemsFrom "items" 1 .never])],
        table := {} }
    let v : Value := .object [("a/~", .array [.bool true, .null])]
    v.WellFormed ∧ (s.evaluate v).map (fun x => x.path) = ["/a~1~0/1"] ∧
      ∀ x ∈ s.evaluate v, x.path = "/" ∨ ∃ w, v.resolve? x.path = some w := by
  have hv : (Value.object [("a/~", .array [.bool true, .null])]).WellFormed := by
    simp [Value.WellFormed, Value.WellFormedMembers, Value.WellFormedItems]
  exact ⟨hv, by decide +kernel, Compiled.path_resolves _ hv⟩

end AgentManifest.Schema
