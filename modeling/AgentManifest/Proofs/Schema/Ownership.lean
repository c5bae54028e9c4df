import AgentManifest.Proofs.Json.Gathering
import AgentManifest.Proofs.Schema.Ensuring
import AgentManifest.Proofs.Schema.Kinship
import AgentManifest.Schema.Interpretation

/-!
# The member that a name belongs to

The keywords that a member of a schema is read as report under the name of the member. The exceptions
are few: a condition reports under the names of what it leads to, a limit of the oldest draft under
the name of its flag, and the keyword about other members takes care of named and matching ones. So
each name belongs to one member.
-/

namespace AgentManifest.Schema

open Json (Value Members Location)
open Compiling (Ensures)

/-! ## The member that a name belongs to -/

/-- The member of a schema whose keywords report under a name. -/
def ownerOf (d : Draft) (ms : Members) (name : String) : String :=
  if name ∈ ["then", "else"] then "if"
  else if name ∈ ["minContains", "maxContains"] then "contains"
  else if name ∈ ["properties", "patternProperties"] ∧ takesOverMembers ms then
    "additionalProperties"
  else if name = "exclusiveMinimum" ∧ d = .draft4 then "minimum"
  else if name = "exclusiveMaximum" ∧ d = .draft4 then "maximum"
  else name

/-- The names that belong to a member. -/
def Owned (d : Draft) (ms : Members) (keyword : String) : String → Prop :=
  fun name => ownerOf d ms name = keyword

variable {d : Draft} {ms : Members} {vocabularies : List Vocabulary} {keyword : String} {w : Word}

/-- A keyword is listed with its first draft. -/
lemma Word.mem_known (hw : Word.of? d vocabularies keyword = some w) :
    ∃ first last, (keyword, first, last, w) ∈ Word.known ∧ d.since first = true := by
  unfold Word.of? at hw
  split at hw
  case h_1 first last w' hlookup =>
    obtain ⟨front, back, heq, -⟩ := List.lookup_eq_some_iff.mp hlookup
    have hmem : (keyword, first, last, w') ∈ Word.known := by
      rw [heq]
      exact List.mem_append_right front List.mem_cons_self
    split at hw
    case isTrue hin =>
      cases hw
      exact ⟨first, last, hmem, (Bool.and_eq_true_iff.mp (Bool.and_eq_true_iff.mp hin).1).1⟩
    case isFalse => cases hw
  case h_2 => cases hw

/-- A keyword has one name. -/
lemma Word.name_eq (hw : Word.of? d vocabularies keyword = some w) (name : String)
    (hname : ∃ e ∈ Word.known, e.1 = name ∧ e.2.2.2 = w) : keyword = name := by
  have hdistinct : (Word.known.map fun e => e.2.2.2).Nodup := by decide
  obtain ⟨first, last, hmem, -⟩ := Word.mem_known hw
  obtain ⟨e, he, rfl, hword⟩ := hname
  exact congrArg Prod.fst (List.inj_on_of_nodup_map hdistinct hmem he hword.symm)

/-- The keywords that do not report under their own names, or not always. -/
def movedWords : List Word := [.alternative, .consequence, .patternProperties, .properties]

/-- Most keywords report under their own names. -/
lemma owned_self (hw : Word.of? d vocabularies keyword = some w) (hmoved : w ∉ movedWords) :
    Owned d ms keyword keyword := by
  have hknown : ∀ e ∈ Word.known, e.2.2.2 ∉ movedWords →
      e.1 ∉ ["then", "else"] ∧ e.1 ∉ ["minContains", "maxContains"] ∧
        e.1 ∉ ["properties", "patternProperties"] ∧
        (e.1 ∈ ["exclusiveMinimum", "exclusiveMaximum"] → e.2.1 = .draft6) := by decide
  obtain ⟨first, last, hmem, hfirst⟩ := Word.mem_known hw
  obtain ⟨hbranch, hcount, hmember, hflag⟩ := hknown _ hmem hmoved
  -- the oldest draft does not know the flags as keywords
  have hdraft (hkeyword : keyword ∈ ["exclusiveMinimum", "exclusiveMaximum"]) : d ≠ .draft4 := by
    rintro rfl
    dsimp only at hflag
    rw [hflag hkeyword] at hfirst
    cases hfirst
  have hminimum : ¬(keyword = "exclusiveMinimum" ∧ d = .draft4) := by
    rintro ⟨rfl, hd⟩
    exact hdraft (by decide) hd
  have hmaximum : ¬(keyword = "exclusiveMaximum" ∧ d = .draft4) := by
    rintro ⟨rfl, hd⟩
    exact hdraft (by decide) hd
  have htaken : ¬(keyword ∈ ["properties", "patternProperties"] ∧ takesOverMembers ms = true) :=
    fun h => hmember h.1
  rw [Owned, ownerOf, if_neg hbranch, if_neg hcount, if_neg htaken, if_neg hminimum,
    if_neg hmaximum]

lemma owned_members (htakes : takesOverMembers ms = false) {name : String}
    (hname : name ∈ ["properties", "patternProperties"]) : Owned d ms name name := by
  simp only [List.mem_cons, List.not_mem_nil, or_false] at hname
  obtain rfl | rfl := hname <;> simp [Owned, ownerOf, htakes]

lemma owned_additional (htakes : takesOverMembers ms = true) {name : String}
    (hname : name ∈ Keyword.memberKeywords) : Owned d ms "additionalProperties" name := by
  simp only [Keyword.memberKeywords, List.mem_cons, List.not_mem_nil, or_false] at hname
  obtain rfl | rfl | rfl := hname <;> simp [Owned, ownerOf, htakes]

lemma owned_contains {name : String} (hname : name ∈ ["contains", "minContains", "maxContains"]) :
    Owned d ms "contains" name := by
  simp only [List.mem_cons, List.not_mem_nil, or_false] at hname
  obtain rfl | rfl | rfl := hname <;> simp [Owned, ownerOf]

lemma owned_condition {name : String} (hname : name ∈ ["then", "else"]) : Owned d ms "if" name :=
  if_pos hname

lemma owned_minimum : Owned .draft4 ms "minimum" "exclusiveMinimum" := by
  simp [Owned, ownerOf]

lemma owned_maximum : Owned .draft4 ms "maximum" "exclusiveMaximum" := by
  simp [Owned, ownerOf]

/-! ## Conditions -/

section

variable {D : Deferred → Prop} {c : Context} {v : Value}

lemma readNames_ensures (place : Location) (v : Value) :
    Ensures D (readNames place v) fun _ => True := by
  unfold readNames
  split
  · split
    · exact .wrongType _ _ _
    · exact .pure trivial
  · exact .wrongType _ _ _

lemma badCount_ensures {α : Type} {P : α → Prop} (place : Location) (v : Value) :
    Ensures D (badCount place v) P := by
  unfold badCount
  split
  · split
    · exact .fail _ _
    · exact .wrongType _ _ _
  · exact .wrongType _ _ _

lemma containsLimit_ensures (place : Location) (ms : Members) (keyword : String) :
    Ensures D (containsLimit place ms keyword) fun _ => True := by
  unfold containsLimit
  split
  · exact .pure trivial
  · split
    · exact .pure trivial
    · exact badCount_ensures _ _
  · split
    · exact .pure trivial
    · exact badCount_ensures _ _
  · exact badCount_ensures _ _

lemma readKinds_ensures (place : Location) (strict : Bool) (v : Value) :
    Ensures D (readKinds place strict v) (Family (· = "type")) := by
  unfold readKinds
  split
  · split
    · exact .pure (.test _ _)
    · exact .fail _ _
  · split
    · exact .pure (.test _ _)
    · exact .fail _ _
  · exact .wrongType _ _ _
  · split
    · exact .fail _ _
    · exact .wrongType _ _ _
    · exact .pure (.test _ _)
  · exact .wrongType _ _ _

lemma readTriggered_ensures (keyword : String) (place : Location) (dep : String × Value) :
    Ensures D (readTriggered keyword place dep) (Family.IsDependent keyword dep.1) := by
  unfold readTriggered
  split
  · split
    · exact (readNames_ensures _ _).bind_pure fun names _ => .names _ names
    · exact .fail _ _
  · exact .wrongType _ _ _

lemma readMediaType_ensures (place : Location) (ms : Members) (v : Value) :
    Ensures D (readMediaType place ms v) (Family (· = "contentMediaType")) := by
  unfold readMediaType
  split
  · split
    · exact .pure (.test _ _)
    · exact .pure (.test _ _)
    · exact .pure .nil
    · exact .wrongType _ _ _
  · exact .pure .nil
  · exact .wrongType _ _ _

lemma readEncoding_ensures (place : Location) (ms : Members) (v : Value) :
    Ensures D (readEncoding place ms v) (Family (· = "contentEncoding")) := by
  unfold readEncoding
  split
  · exact .pure .nil
  · split
    · exact .pure (.test _ _)
    · exact .pure .nil
    · exact .wrongType _ _ _

/-- A keyword that reports under its own name. -/
lemma Family.owned {ks : List Keyword} (h : Family (· = keyword) ks)
    (hw : Word.of? d vocabularies keyword = some w) (hmoved : w ∉ movedWords) :
    Family (Owned d ms keyword) ks :=
  h.imp (by rintro _ rfl; exact owned_self hw hmoved)

lemma readBound_ensures {o : Comparison}
    (hw : Word.of? c.draft c.vocabularies keyword = some (.bound o)) :
    Ensures D (readBound c ms keyword o v) (Family (Owned c.draft ms keyword)) := by
  have hown (n : Json.Number) : Family (Owned c.draft ms keyword) [.test [.key keyword] (.bound o n)] :=
    (Family.test keyword _).owned hw (by simp [movedWords])
  unfold readBound
  split
  · dsimp only
    split
    case h_1 name strict hflag =>
      split
      · -- the flag stands beside the limit of the oldest draft
        refine .pure ?_
        split at hflag
        case h_1 hdraft =>
          cases hflag
          cases Word.name_eq hw "minimum" (by decide)
          rw [hdraft]
          exact (Family.test _ _).imp fun name hname => hname ▸ owned_minimum
        case h_2 hdraft =>
          cases hflag
          cases Word.name_eq hw "maximum" (by decide)
          rw [hdraft]
          exact (Family.test _ _).imp fun name hname => hname ▸ owned_maximum
        case h_3 => cases hflag
      · exact .pure (hown _)
    case h_2 => exact .pure (hown _)
  · exact .wrongType _ _ _

/-- A keyword whose value holds no schema reports under its own name. -/
lemma readCondition_ensures (hw : Word.of? c.draft c.vocabularies keyword = some w)
    (hv : v.WellFormed) (hmoved : w ∉ movedWords) :
    Ensures D (readCondition c ms keyword v w) (Family (Owned c.draft ms keyword)) := by
  have hown {ks : List Keyword} (h : Family (· = keyword) ks) :
      Family (Owned c.draft ms keyword) ks := h.owned hw hmoved
  unfold readCondition
  cases w with
  | bound o => exact readBound_ensures hw
  | const => exact .pure (hown (.test _ _))
  | contentEncoding =>
    cases Word.name_eq hw "contentEncoding" (by decide)
    exact (readEncoding_ensures _ ms v).imp fun ks h => hown h
  | contentMediaType =>
    cases Word.name_eq hw "contentMediaType" (by decide)
    exact (readMediaType_ensures _ ms v).imp fun ks h => hown h
  | count m atLeast =>
    dsimp only
    split
    · exact .pure (hown (.test _ _))
    · exact badCount_ensures _ v
  | dependentRequired =>
    dsimp only
    split
    case h_1 deps =>
      refine (Ensures.mapM fun dep _ => readTriggered_ensures keyword c.place dep).imp
        fun ks h => hown ?_
      exact .dependents (Json.Members.nodup_of_increasing hv.1) (List.forall₂_map_left_iff.mpr h)
    case h_2 => exact .wrongType _ _ _
  | enum | multipleOf =>
    dsimp only
    split
    · exact .pure (hown (.test _ _))
    · exact .wrongType _ _ _
  | format =>
    dsimp only
    split
    · split
      · exact .pure (hown (.test _ _))
      · exact .pure .nil
    · exact .wrongType _ _ _
  | pattern =>
    dsimp only
    split
    · split
      · exact .pure (hown (.test _ _))
      · exact .badPattern _ _
    · exact .wrongType _ _ _
  | required => exact (readNames_ensures _ v).bind_pure fun names _ => hown (.required _ names)
  | type =>
    cases Word.name_eq hw "type" (by decide)
    exact (readKinds_ensures _ _ v).imp fun ks h => hown h
  | uniqueItems =>
    dsimp only
    split
    · exact .pure (hown (.test _ _))
    · exact .pure .nil
    · exact .wrongType _ _ _
  | _ => exact .pure .nil

end

end AgentManifest.Schema
