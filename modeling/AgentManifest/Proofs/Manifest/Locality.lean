import AgentManifest.Proofs.Manifest.Extension
import AgentManifest.Proofs.Schema.Places

/-!
# Violations outside a section

A violation is in a section if its path is that of the section or leads further down. What a section
holds has no part in the violations outside it: as long as the section is there, they are the same
for any two values of it, in the same order (`evaluate_outside`).
-/

namespace AgentManifest.Report.Violation

/-- The path of a violation is that of a section, or leads further down. -/
def isIn (name : String) (x : Violation) : Bool :=
  x.path == "/" ++ name || ("/" ++ name ++ "/").toList.isPrefixOf x.path.toList

end AgentManifest.Report.Violation

namespace AgentManifest.Schema

open Json (Value Members Segment Location)
open Report (Violation)

/-! ## Failures that show their place -/

/-- No failure is reported for the whole value instead of where it arises. -/
def Shown (fs : List Failure) : Prop := ∀ f ∈ fs, f.cause.hidesPlace = false

/-- References fail at places that are shown. -/
def ShownLinks (r : Complaints) : Prop := ∀ t v, Shown (r t v)

/-- A schema fails at places that are shown if what it refers to does. -/
def Form.IsShown (s : Form) : Prop := ∀ ⦃l r⦄, ShownLinks r → ∀ v, Shown (s.failures l r v)

/-- A keyword fails at places that are shown if what it refers to does. -/
def Keyword.IsShown (k : Keyword) : Prop :=
  ∀ ⦃l r⦄, ShownLinks r → ∀ v, Shown (k.failures l r v)

/-- Only text in base 64 fails without a place. -/
lemma Assertion.hidesPlace_cause {a : Assertion} (ha : ∀ ofJson, a ≠ .base64 ofJson) (v : Value) :
    (a.cause v).hidesPlace = false := by
  cases a with
  | base64 ofJson => exact absurd rfl (ha ofJson)
  | pattern text matcher =>
    cases v with
    | string s =>
      rw [Assertion.cause]
      split <;> rfl
    | _ => rfl
  | _ => rfl

namespace Keyword

/-- A keyword fails at places that are shown if it does so by itself and with the schemas that it
applies. -/
lemma isShown_of {k : Keyword} (hself : ∀ v c, k.Fails v c → c.hidesPlace = false)
    (happlied : ∀ s, k.Applies s → s.IsShown) : k.IsShown := by
  intro l r hr v f hf
  cases Keyword.origin hf with
  | own hcause _ => exact hself v _ hcause
  | @below _ _ _ w _ g hs _ hg _ => exact (happlied _ hs hr w g hg :)
  | ofName _ _ _ hcause _ =>
    rw [hcause]
    rfl
  | @elsewhere _ t v g hg => exact (hr t v g hg :)

lemma isShown_test {a : Assertion} (ha : ∀ ofJson, a ≠ .base64 ofJson) (place : Location) :
    (Keyword.test place a).IsShown := by
  refine isShown_of (fun v c hcause => ?_) nofun
  cases hcause
  exact Assertion.hidesPlace_cause ha v

lemma isShown_required (place : Location) (names : List String) :
    (Keyword.required place names).IsShown := by
  refine isShown_of (fun v c hcause => ?_) nofun
  cases hcause
  rfl

lemma isShown_itemsFrom {s : Form} (h : s.IsShown) (keyword : String) (skip : Nat) :
    (Keyword.itemsFrom keyword skip s).IsShown := by
  refine isShown_of nofun fun _ hs => ?_
  cases hs
  exact h

lemma isShown_properties {named : List (String × Form)} (h : ∀ p ∈ named, p.2.IsShown) :
    (Keyword.properties named).IsShown := by
  refine isShown_of nofun fun _ hs => ?_
  cases hs with
  | properties hn => exact h _ hn

lemma isShown_reference (keyword : String) (t : Target) : (Keyword.reference keyword t).IsShown :=
  isShown_of nofun nofun

end Keyword

lemma Form.isShown_all {ks : List Keyword} (h : ∀ k ∈ ks, k.IsShown) : (Form.all ks).IsShown := by
  intro l r hr v f hf
  obtain ⟨k, hk, hf⟩ := exists_of_mem_allFailures hf
  exact h k hk hr v f hf

/-! ## The parts of a manifest -/

namespace Builtin

open Form (isShown_all)
open Keyword (isShown_itemsFrom isShown_properties isShown_required)

lemma isShown_test (keyword : String) {a : Assertion} (ha : ∀ ofJson, a ≠ .base64 ofJson) :
    (test keyword a).IsShown := Keyword.isShown_test ha [.key keyword]

lemma isShown_ofType (k : Kind) : (ofType k).IsShown := by
  apply isShown_test
  exact nofun

lemma isShown_text : text.IsShown :=
  isShown_all (List.forall_mem_singleton.mpr (isShown_ofType _))

lemma isShown_someText : someText.IsShown := by
  apply isShown_all
  simp only [List.forall_mem_cons]
  exact ⟨isShown_test _ nofun, isShown_ofType _, List.forall_mem_nil _⟩

lemma isShown_textBetween (least most : Nat) : (textBetween least most).IsShown := by
  apply isShown_all
  simp only [List.forall_mem_cons]
  exact ⟨isShown_test _ nofun, isShown_test _ nofun, isShown_ofType _, List.forall_mem_nil _⟩

lemma isShown_oneOf (options : List String) : (oneOf options).IsShown := by
  apply isShown_all
  simp only [List.forall_mem_cons]
  exact ⟨isShown_test _ nofun, isShown_ofType _, List.forall_mem_nil _⟩

lemma isShown_listOf {s : Form} (h : s.IsShown) : (listOf s).IsShown := by
  apply isShown_all
  simp only [List.forall_mem_cons]
  exact ⟨isShown_itemsFrom h _ _, isShown_ofType _, List.forall_mem_nil _⟩

lemma isShown_listOfDefined (name : String) : (listOfDefined name).IsShown :=
  isShown_listOf (isShown_all (List.forall_mem_singleton.mpr (Keyword.isShown_reference _ _)))

lemma isShown_record (required : List String) {members : List (String × Form)}
    (h : ∀ p ∈ members, p.2.IsShown) : (record required members).IsShown := by
  apply isShown_all
  simp only [List.forall_mem_cons]
  exact ⟨isShown_properties h, isShown_required _ _, isShown_ofType _, List.forall_mem_nil _⟩

lemma isShown_metadata : metadata.IsShown := by
  apply isShown_all
  simp only [List.forall_mem_cons]
  refine ⟨isShown_properties ?_, isShown_ofType _, List.forall_mem_nil _⟩
  have hpriority : (Form.all [test "maximum" (.bound .atMost (.int 5)),
      test "minimum" (.bound .atLeast (.int 1)), ofType .integer]).IsShown := by
    apply isShown_all
    simp only [List.forall_mem_cons]
    exact ⟨isShown_test _ nofun, isShown_test _ nofun, isShown_ofType _, List.forall_mem_nil _⟩
  simp only [List.forall_mem_cons]
  exact ⟨isShown_listOf isShown_text, isShown_text, hpriority, isShown_oneOf _,
    List.forall_mem_nil _⟩

/-- What stands in a section fails where it stands. -/
lemma isShown_sections : ∀ p ∈ sections, p.2.IsShown := by
  have htree : (Form.all [ofType .object]).IsShown :=
    isShown_all (List.forall_mem_singleton.mpr (isShown_ofType _))
  have hkeywords : (Form.all [.itemsFrom "items" 0 someText,
      test "maxItems" (.count .items false 20), ofType .array,
      test "uniqueItems" .uniqueItems]).IsShown := by
    apply isShown_all
    simp only [List.forall_mem_cons]
    exact ⟨isShown_itemsFrom isShown_someText _ _, isShown_test _ nofun, isShown_ofType _,
      isShown_test _ nofun, List.forall_mem_nil _⟩
  have hversion : (Form.all [test "pattern" (.pattern versionPattern (.simple version)),
      ofType .string]).IsShown := by
    apply isShown_all
    simp only [List.forall_mem_cons]
    exact ⟨isShown_test _ nofun, isShown_ofType _, List.forall_mem_nil _⟩
  simp only [sections, List.forall_mem_cons]
  exact ⟨isShown_oneOf _, isShown_listOfDefined _, htree, isShown_textBetween _ _,
    isShown_listOfDefined _, hkeywords, isShown_someText, isShown_metadata,
    isShown_textBetween _ _, isShown_listOfDefined _, isShown_listOf isShown_someText,
    isShown_someText, hversion, List.forall_mem_nil _⟩

lemma isShown_definitions : ∀ d ∈ definitions, d.2.IsShown := by
  have hmembers {a b c d : String} {s t u v : Form} (hs : s.IsShown) (ht : t.IsShown)
      (hu : u.IsShown) (hv : v.IsShown) :
      ∀ p ∈ [(a, s), (b, t), (c, u), (d, v)], p.2.IsShown := by
    simp only [List.forall_mem_cons]
    exact ⟨hs, ht, hu, hv, List.forall_mem_nil _⟩
  simp only [definitions, List.forall_mem_cons]
  exact ⟨
    isShown_record _ (hmembers isShown_someText isShown_someText isShown_text isShown_text),
    isShown_record _ (hmembers isShown_someText isShown_text isShown_text isShown_someText),
    isShown_record _ (hmembers isShown_text isShown_someText isShown_text isShown_text),
    List.forall_mem_nil _⟩

end Builtin

lemma builtin_complaints_shown : ShownLinks (builtin.table.complaints 1) := by
  intro t v
  simp only [Table.complaints]
  cases hlookup : builtin.table.forms.lookup t with
  | none => exact List.forall_mem_nil _
  | some s =>
    obtain ⟨d, hd, rfl⟩ := exists_definition hlookup
    exact Builtin.isShown_definitions d hd (fun _ _ => List.forall_mem_nil _) v

/-! ## Members and the rest of an object -/

section

variable {l : Links} {r : Complaints} {named : List (String × Form)}
variable {matching : List (NamePattern × Form)} {key : String}

/-- A named member fails below its own name. -/
lemma exists_place_of_mem_memberFailures (hnamed : ∀ p ∈ named, p.2.IsShown) (hr : ShownLinks r)
    {v : Value} {f : Failure} (hf : f ∈ memberFailures l r named key v) :
    ∃ place, f.place = .key key :: place := by
  rw [memberFailures_eq_flatMap] at hf
  obtain ⟨p, hp, hf⟩ := List.mem_flatMap.mp hf
  split at hf
  case isTrue =>
    obtain ⟨g, hg, rfl⟩ := List.mem_map.mp hf
    refine ⟨g.place, ?_⟩
    rw [Failure.under, hnamed p hp hr v g hg]
    rfl
  case isFalse => cases hf

/-- Outside a member that may be there, an object whose names are closed fails without the member
as it does with it. -/
lemma closed_failures_outside {p : Failure → Bool}
    (hkey : (!isNamed named key && !isMatched matching key) = false)
    (hin : ∀ v, ∀ f ∈ memberFailures l r named key v ++ matchingFailures l r matching key v,
      p f = false) (ms : Members) :
    (Keyword.failures l r (.closed named matching) (.object (Members.without ms key))).filter p =
      (Keyword.failures l r (.closed named matching) (.object ms)).filter p := by
  have hmembers (v : Value) :
      (memberFailures l r named key v ++ matchingFailures l r matching key v).filter p = [] := by
    apply List.filter_eq_nil_iff.mpr
    intro f hf
    rw [hin v f hf]
    exact Bool.false_ne_true
  simp only [Keyword.failures]
  rw [unexpectedNames_without hkey, List.filter_append, List.filter_append, List.filter_flatMap,
    List.filter_flatMap]
  exact congrArg (· ++ _) (Members.flatMap_without hmembers ms)

end

end AgentManifest.Schema

namespace AgentManifest.Manifest

open Json (Value Members Location Segment)
open Report (Violation)
open Schema

/-! ## Paths of sections -/

variable {name : String}

/-- The names of sections need no escaping in pointers. -/
lemma pointerEscape_section (hname : name ∈ Builtin.sections.map Prod.fst) :
    name.toList.flatMap Json.pointerEscape = name.toList := by
  revert name
  decide

/-- A failure below the name of a section is reported in the section. -/
lemma isIn_violation (hname : name ∈ Builtin.sections.map Prod.fst) {f : Failure}
    {place : Location} (hplace : f.place = .key name :: place) : f.violation.isIn name = true := by
  have htext : (Location.pointer f.place).toList =
      '/' :: (name.toList ++ Location.write place) := by
    rw [hplace, Location.toList_pointer_cons, Segment.write, pointerEscape_section hname]
  have hpath : f.violation.path = Location.pointer f.place := by
    show (if (Location.pointer f.place).isEmpty then "/" else Location.pointer f.place) = _
    apply if_neg
    rw [String.isEmpty_iff]
    exact Location.pointer_ne_empty (hplace ▸ List.cons_ne_nil _ _)
  rw [Violation.isIn, Bool.or_eq_true, beq_iff_eq, List.isPrefixOf_iff_prefix, hpath, htext]
  cases place with
  | nil =>
    apply Or.inl
    apply String.toList_injective
    rw [htext, String.toList_append]
    exact congrArg _ (List.append_nil _)
  | cons s place =>
    apply Or.inr
    refine ⟨s.write ++ Location.write place, ?_⟩
    simp [Location.write]

/-! ## Outside a section -/

/-- Outside a section that is there, the schema of manifests reports the same for objects that
differ in the section only. -/
lemma evaluate_outside_congr (hname : name ∈ Builtin.sections.map Prod.fst) {ms ns : Members}
    (hms : Members.contains ms name = true) (hns : Members.contains ns name = true)
    (h : Members.without ms name = Members.without ns name) :
    (builtin.evaluate (.object ms)).filter (fun x => !x.isIn name) =
      (builtin.evaluate (.object ns)).filter fun x => !x.isIn name := by
  have hnamed : (!isNamed Builtin.sections name &&
      !isMatched [(Builtin.extensionName, .all [])] name) = false := by
    obtain ⟨p, hp, rfl⟩ := List.mem_map.mp hname
    rw [(isNamed_iff _ _).mpr ⟨p.2, hp⟩]
    rfl
  have hin (l : Links) (v : Value) : ∀ f ∈ memberFailures l (builtin.table.complaints 1)
        Builtin.sections name v ++ matchingFailures l (builtin.table.complaints 1)
          [(Builtin.extensionName, .all [])] name v,
      (!f.violation.isIn name) = false := by
    intro f hf
    rw [matchingFailures_extension, List.append_nil] at hf
    obtain ⟨place, hplace⟩ :=
      exists_place_of_mem_memberFailures Builtin.isShown_sections builtin_complaints_shown hf
    rw [isIn_violation hname hplace, Bool.not_true]
  have hcontains : ∀ key ∈ Builtin.requiredSections,
      Members.contains ms key = Members.contains ns key := by
    intro key _
    by_cases hkey : key = name
    · rw [hkey, hms, hns]
    · rw [Members.contains, Members.contains, ← Members.get?_without ms hkey, h,
        Members.get?_without ns hkey]
  have hclosed := closed_failures_outside hnamed (hin (builtin.table.links 1))
  rw [Compiled.evaluate, Compiled.evaluate, List.filter_map, List.filter_map,
    builtin_failures_object, builtin_failures_object, required_failures_congr hcontains,
    List.filter_append, List.filter_append]
  have hsame := (hclosed ms).symm
  rw [h, hclosed ns] at hsame
  exact congrArg (fun fs => List.map Failure.violation (fs ++ _)) hsame

/-- Outside a section that is there, the schema of manifests reports the same for any value of the
section. -/
theorem evaluate_outside (hname : name ∈ Builtin.sections.map Prod.fst) (ms : Members)
    (hms : Members.contains ms name = true) (w : Value) :
    (builtin.evaluate (.object (Members.insert ms name w))).filter (fun x => !x.isIn name) =
      (builtin.evaluate (.object ms)).filter fun x => !x.isIn name := by
  apply evaluate_outside_congr hname _ hms (Members.without_insert ms name w)
  rw [Members.contains, Members.get?_insert, if_pos rfl]
  rfl

/-- No keywords at all instead of an empty one, next to an empty name and a section that should not
be there. -/
theorem evaluate_outside_keywords :
    let ms : Members :=
      [("keywords", .array [.string ""]), ("name", .string ""), ("zone", .array [])]
    "keywords" ∈ Builtin.sections.map Prod.fst ∧ Members.contains ms "keywords" = true ∧
      Members.insert ms "keywords" .null =
        [("keywords", .null), ("name", .string ""), ("zone", .array [])] ∧
      (builtin.evaluate (.object ms)).map Violation.path =
        ["/keywords/0", "/name", "/", "/", "/", "/"] ∧
      (builtin.evaluate (.object (Members.insert ms "keywords" .null))).filter
          (fun x => !x.isIn "keywords") =
        (builtin.evaluate (.object ms)).filter fun x => !x.isIn "keywords" := by
  intro ms
  have hname : "keywords" ∈ Builtin.sections.map Prod.fst := by decide
  have hms : Members.contains ms "keywords" = true := rfl
  exact ⟨hname, hms, rfl, by decide +kernel, evaluate_outside hname ms hms .null⟩

end AgentManifest.Manifest
