import AgentManifest.Proofs.Lint.Checks
import AgentManifest.Proofs.Manifest.Conformance
import AgentManifest.Validator

/-!
# Further sections

A manifest may hold anything under a name that starts with `x-`. Such a section says nothing of the
rest: neither the schema of manifests nor the checks that follow it tell a manifest with the section
from one without, as long as the section is none of those that are recommended.
-/

namespace AgentManifest.Schema

open Json (Value Members Location)

/-! ## Members that no schema is about -/

section

variable {l : Links} {r : Complaints} {named : List (String × Form)}
variable {matching : List (NamePattern × Form)} {key : String}

lemma memberFailures_eq_nil (hkey : isNamed named key = false) (v : Value) :
    memberFailures l r named key v = [] := by
  induction named with
  | nil => rfl
  | cons p named ih =>
    obtain ⟨name, s⟩ := p
    rw [isNamed, Bool.or_eq_false_iff, beq_eq_false_iff_ne] at hkey
    rw [memberFailures, if_neg hkey.1, ih hkey.2, List.append_nil]

/-- What is left over is not changed by what a schema or a pattern is about. -/
lemma unexpectedNames_without (hkey : (!isNamed named key && !isMatched matching key) = false)
    (ms : Members) :
    unexpectedNames named matching (Members.without ms key) =
      unexpectedNames named matching ms := by
  induction ms with
  | nil => rfl
  | cons m ms ih =>
    obtain ⟨k, v⟩ := m
    rw [Members.without_cons]
    by_cases hk : k = key
    · subst hk
      rw [if_pos rfl, ih, unexpectedNames, unexpectedNames, List.map_cons, List.filter_cons, hkey,
        if_neg Bool.false_ne_true]
    · rw [if_neg hk]
      simp only [unexpectedNames, List.map_cons, List.filter_cons] at ih ⊢
      rw [ih]

/-- An object whose names are closed fails without the members that may hold anything as it does
with them. -/
lemma closed_failures_without (hnamed : isNamed named key = false)
    (hmatched : isMatched matching key = true)
    (hfree : ∀ v, matchingFailures l r matching key v = []) (ms : Members) :
    Keyword.failures l r (.closed named matching) (.object (Members.without ms key)) =
      Keyword.failures l r (.closed named matching) (.object ms) := by
  have hmembers (v : Value) :
      memberFailures l r named key v ++ matchingFailures l r matching key v = [] := by
    rw [memberFailures_eq_nil hnamed, hfree, List.append_nil]
  have hexpected : (!isNamed named key && !isMatched matching key) = false := by
    rw [hmatched, Bool.not_true, Bool.and_false]
  simp only [Keyword.failures]
  rw [unexpectedNames_without hexpected]
  exact congrArg (· ++ _) (Members.flatMap_without hmembers ms)

/-- What is required is missed alike in objects that have the same of it. -/
lemma required_failures_congr {names : List String} {ms ns : Members}
    (h : ∀ name ∈ names, Members.contains ms name = Members.contains ns name)
    (place : Location) :
    Keyword.failures l r (.required place names) (.object ms) =
      Keyword.failures l r (.required place names) (.object ns) := by
  have hmissed : names.filter (fun name => !Members.contains ms name) =
      names.filter fun name => !Members.contains ns name :=
    List.filter_congr fun name hname => congrArg not (h name hname)
  simp only [Keyword.failures, hmissed]

/-- What is required is missed without a member that is not required as it is with it. -/
lemma required_failures_without {names : List String} (hkey : key ∉ names) (place : Location)
    (ms : Members) :
    Keyword.failures l r (.required place names) (.object (Members.without ms key)) =
      Keyword.failures l r (.required place names) (.object ms) := by
  apply required_failures_congr
  intro name hname
  have hne : name ≠ key := fun h => hkey (h ▸ hname)
  rw [Members.contains, Members.contains, Members.get?_without ms hne]

end

/-! ## Following references -/

/-- The definitions of the schema of manifests refer to nothing. -/
lemma definitions_failures {d : String × Form} (hd : d ∈ Builtin.definitions) (l l' : Links)
    (r r' : Complaints) (v : Value) : d.2.failures l r v = d.2.failures l' r' v := by
  revert d
  simp only [Builtin.definitions, List.forall_mem_cons, List.not_mem_nil, false_implies,
    implies_true, and_true]
  exact ⟨rfl, rfl, rfl⟩

/-- What references of the schema of manifests lead to is a definition of it. -/
lemma exists_definition {t : Target} {s : Form} (h : builtin.table.forms.lookup t = some s) :
    ∃ d ∈ Builtin.definitions, d.2 = s := by
  have hmem : (t, s) ∈ builtin.table.forms := by
    obtain ⟨front, back, heq, -⟩ := List.lookup_eq_some_iff.mp h
    rw [heq]
    exact List.mem_append_right front List.mem_cons_self
  obtain ⟨d, hd, heq⟩ := List.mem_map.mp hmem
  exact ⟨d, hd, congrArg Prod.snd heq⟩

/-- References to definitions are followed once. -/
lemma builtin_complaints_succ (n : Nat) :
    builtin.table.complaints (n + 1) = builtin.table.complaints 1 := by
  funext t v
  simp only [Table.complaints]
  cases hlookup : builtin.table.forms.lookup t with
  | none => rfl
  | some s =>
    obtain ⟨d, hd, rfl⟩ := exists_definition hlookup
    exact definitions_failures hd _ _ _ _ v

/-- How deep a document is has no part in what fails in it. -/
lemma builtin_failures (v : Value) :
    builtin.failures v =
      builtin.root.failures (builtin.table.links 1) (builtin.table.complaints 1) v := by
  obtain ⟨n, hreach⟩ := Manifest.exists_reach_eq v
  rw [Compiled.failures, hreach, builtin_complaints_succ]
  -- the root refers to definitions, and counts nothing
  rfl

/-- What fails in an object is in its sections, or is a section that it should not have or misses. -/
lemma builtin_failures_object (ms : Members) :
    builtin.failures (.object ms) =
      Keyword.failures (builtin.table.links 1) (builtin.table.complaints 1)
          (.closed Builtin.sections [(Builtin.extensionName, .all [])]) (.object ms) ++
        Keyword.failures (builtin.table.links 1) (builtin.table.complaints 1)
          (.required [.key "required"] Builtin.requiredSections) (.object ms) := by
  rw [builtin_failures]
  exact congrArg (_ ++ ·) (List.append_nil _)

end AgentManifest.Schema

namespace AgentManifest.Manifest

open Json (Value Members)
open Schema

/-! ## Without a further section -/

variable {key : String}

/-- The sections of the schema have names of their own. -/
lemma isNamed_sections_eq_false (hkey : IsExtension key.toList) :
    isNamed Builtin.sections key = false := by
  have hnames : ∀ p ∈ Builtin.sections, ¬['x', '-'] <+: p.1.toList := by decide
  rw [← Bool.not_eq_true, isNamed_iff]
  rintro ⟨s, hs⟩
  exact hnames _ hs hkey

lemma not_mem_requiredSections (hkey : IsExtension key.toList) :
    key ∉ Builtin.requiredSections := by
  have hnames : ∀ name ∈ Builtin.requiredSections, ¬['x', '-'] <+: name.toList := by decide
  exact fun h => hnames key h hkey

/-- A further section may hold anything. -/
lemma matchingFailures_extension (l : Links) (r : Complaints) (key : String) (v : Value) :
    matchingFailures l r [(Builtin.extensionName, .all [])] key v = [] := by
  rw [matchingFailures, matchingFailures, List.append_nil]
  split <;> rfl

/-- The schema of manifests reports the same without a further section. -/
lemma evaluate_without (hkey : IsExtension key.toList) (ms : Members) :
    builtin.evaluate (.object (Members.without ms key)) = builtin.evaluate (.object ms) := by
  have hmatched : isMatched [(Builtin.extensionName, .all [])] key = true := by
    rw [isMatched, (extensionName_occursIn_iff key).mpr hkey, Bool.true_or]
  rw [Compiled.evaluate, Compiled.evaluate, builtin_failures_object, builtin_failures_object,
    closed_failures_without (isNamed_sections_eq_false hkey) hmatched
      (matchingFailures_extension _ _ key),
    required_failures_without (not_mem_requiredSections hkey)]

/-- The checks give the same advice without a further section that is not recommended. -/
lemma check_without {config : Lint.Config} (hkey : IsExtension key.toList)
    (hconfig : key ∉ config.recommendedSections) (ms : Members) :
    Lint.check config (.object (Members.without ms key)) = Lint.check config (.object ms) := by
  refine Lint.check_congr fun name hname => Members.get?_without ms ?_
  rintro rfl
  have hnames : ∀ name ∈ ["quick_usage", "common_patterns", "error_handling", "decision_tree"],
      ¬['x', '-'] <+: name.toList := by decide
  exact (List.mem_append.mp hname).elim (fun h => hnames name h hkey) hconfig

lemma validate_without {config : Lint.Config} (hkey : IsExtension key.toList)
    (hconfig : key ∉ config.recommendedSections) (bestPractices : Bool) (ms : Members)
    (size? : Option Nat) :
    ({ schema := builtin, config } : Validator).validate bestPractices
        (.object (Members.without ms key)) size? =
      ({ schema := builtin, config } : Validator).validate bestPractices (.object ms) size? := by
  simp only [Validator.validate, Validator.advice, evaluate_without hkey,
    check_without hkey hconfig]

/-- A further section that is not recommended has no part in the verdict on a manifest: the verdict
with any value for it is the verdict without it. -/
theorem validate_extension {config : Lint.Config} (hkey : IsExtension key.toList)
    (hconfig : key ∉ config.recommendedSections) (ms : Members) (w : Value) (bestPractices : Bool)
    (size? : Option Nat) :
    ({ schema := builtin, config } : Validator).validate bestPractices
        (.object (Members.insert ms key w)) size? =
      ({ schema := builtin, config } : Validator).validate bestPractices
        (.object (Members.erase ms key)) size? := by
  rw [← validate_without hkey hconfig, Members.without_insert, ← Members.without_erase,
    validate_without hkey hconfig]

/-- Notes beside a name and a section that should not be there. -/
theorem validate_extension_notes :
    let ms : Members := [("name", .string "demo"), ("zone", .null)]
    let w : Value := .array [.object [("x", .null)]]
    let v : Validator := {}
    IsExtension "x-notes".toList ∧ "x-notes" ∉ v.config.recommendedSections ∧
      Members.insert ms "x-notes" w = [("name", .string "demo"), ("x-notes", w), ("zone", .null)] ∧
      v.validate true (.object (Members.insert ms "x-notes" w)) (some 64) =
        v.validate true (.object (Members.erase ms "x-notes")) (some 64) := by
  intro ms w v
  have hkey : IsExtension "x-notes".toList := ⟨"notes".toList, rfl⟩
  have hconfig : "x-notes" ∉ v.config.recommendedSections := by decide
  exact ⟨hkey, hconfig, rfl, validate_extension hkey hconfig ms w true (some 64)⟩

end AgentManifest.Manifest
