import AgentManifest.Proofs.Json.Nesting
import AgentManifest.Proofs.Yaml.Conversion
import AgentManifest.Yaml.Reader

/-!
# How deep YAML values are nested

Each collection that is entered takes one off the depth that is left, also behind an alias, where
the node that the alias names takes its place. Local tags are laid around single nodes, so that they
at most double the number of values on the way down.
-/

namespace AgentManifest.Yaml

open Json (Members)

/-! ## Depths -/

namespace Value

mutual

/-- How many values lie on the longest way down, those in keys and under tags included. -/
def height : Value → Nat
  | .sequence items => heightOfItems items + 1
  | .mapping entries => heightOfEntries entries + 1
  | .tagged _ v => height v + 1
  | _ => 1

/-- The greatest height among items. -/
def heightOfItems : List Value → Nat
  | [] => 0
  | v :: vs => max (height v) (heightOfItems vs)

/-- The greatest height among keys and values. -/
def heightOfEntries : List (Value × Value) → Nat
  | [] => 0
  | (k, v) :: es => max (max (height k) (height v)) (heightOfEntries es)

end

lemma nestingItems_le_iff {vs : List Value} {n : Nat} :
    nestingItems vs ≤ n ↔ ∀ v ∈ vs, v.nesting ≤ n := by
  induction vs with
  | nil => exact iff_of_true (Nat.zero_le n) (List.forall_mem_nil _)
  | cons v vs ih => rw [nestingItems, Nat.max_le, ih, List.forall_mem_cons]

lemma nestingEntries_le_iff {es : List (Value × Value)} {n : Nat} :
    nestingEntries es ≤ n ↔ ∀ e ∈ es, e.1.nesting ≤ n ∧ e.2.nesting ≤ n := by
  induction es with
  | nil => exact iff_of_true (Nat.zero_le n) (List.forall_mem_nil _)
  | cons e es ih => rw [nestingEntries, Nat.max_le, Nat.max_le, ih, List.forall_mem_cons]

lemma heightOfItems_le_iff {vs : List Value} {n : Nat} :
    heightOfItems vs ≤ n ↔ ∀ v ∈ vs, v.height ≤ n := by
  induction vs with
  | nil => exact iff_of_true (Nat.zero_le n) (List.forall_mem_nil _)
  | cons v vs ih => rw [heightOfItems, Nat.max_le, ih, List.forall_mem_cons]

lemma heightOfEntries_le_iff {es : List (Value × Value)} {n : Nat} :
    heightOfEntries es ≤ n ↔ ∀ e ∈ es, e.1.height ≤ n ∧ e.2.height ≤ n := by
  induction es with
  | nil => exact iff_of_true (Nat.zero_le n) (List.forall_mem_nil _)
  | cons e es ih => rw [heightOfEntries, Nat.max_le, Nat.max_le, ih, List.forall_mem_cons]

/-- So many collections lie in one another at most, and each of them and what they end in may have a
tag. -/
structure Within (depth : Nat) (v : Value) : Prop where
  nesting : v.nesting ≤ depth
  height : v.height ≤ 2 * depth + 2

lemma Within.withTag {depth : Nat} {v : Value} (hnesting : v.nesting ≤ depth)
    (hheight : v.height ≤ 2 * depth + 1) (p : Properties) : (withTag p v).Within depth := by
  unfold Yaml.withTag
  split
  · exact ⟨hnesting, Nat.succ_le_succ hheight⟩
  · exact ⟨hnesting, Nat.le_succ_of_le hheight⟩

lemma Within.sequence {depth : Nat} {vs : List Value} (h : ∀ v ∈ vs, v.Within depth)
    (p : Properties) : (Yaml.withTag p (.sequence vs)).Within (depth + 1) := by
  have hnesting := nestingItems_le_iff.mpr fun v hv => (h v hv).nesting
  have hheight := heightOfItems_le_iff.mpr fun v hv => (h v hv).height
  exact .withTag (Nat.succ_le_succ hnesting) (Nat.succ_le_succ hheight) p

lemma Within.mapping {depth : Nat} {es : List (Value × Value)}
    (h : ∀ e ∈ es, e.1.Within depth ∧ e.2.Within depth) (p : Properties) :
    (Yaml.withTag p (.mapping es)).Within (depth + 1) := by
  have hnesting := nestingEntries_le_iff.mpr fun e he => ⟨(h e he).1.nesting, (h e he).2.nesting⟩
  have hheight := heightOfEntries_le_iff.mpr fun e he => ⟨(h e he).1.height, (h e he).2.height⟩
  exact .withTag (Nat.succ_le_succ hnesting) (Nat.succ_le_succ hheight) p

end Value

/-! ## From nodes to values -/

section

variable {α β : Type} {P : α → Prop} {Q : β → Prop} {x : Expand α}

/-- All that a step gives has a property, however many aliases were followed. -/
def Expand.Always (P : α → Prop) (x : Expand α) : Prop :=
  ∀ n, Yields (fun r => P r.1) (x.run n)

namespace Expand.Always

lemma pure {a : α} (h : P a) : Always P (Pure.pure a) := fun _ => .ok h

lemma throw (e : Error) : Always P (MonadExcept.throw e) := fun _ => .error e

lemma bind {f : α → Expand β} (hx : Always P x) (hf : ∀ a, P a → Always Q (f a)) :
    Always Q (x >>= f) := fun n => (hx n).bind fun r hr => hf r.1 hr r.2

lemma andThen {f : α → Expand β} (hf : ∀ a, Always Q (f a)) : Always Q (x >>= f) :=
  fun _ => .andThen fun r => hf r.1 r.2

end Expand.Always

end

open Expand (Always)

variable {depth : Nat} {inner : List Step → Node → Expand Value} {path : List Step}

lemma scalarValue_within (p : Properties) (text : List Char) (style : Style) :
    Yields (Value.Within depth) (scalarValue p text style) := by
  have scalar (m : Meaning) :
      Yields (fun v : Value => v.nesting = 0 ∧ v.height = 1) (m.value text) := by
    cases m with
    | wide n => exact .error _
    | _ => exact .ok ⟨rfl, rfl⟩
  unfold scalarValue
  refine .andThen fun m => (scalar m).bind fun v hv => .ok ?_
  exact .withTag (hv.1.trans_le (Nat.zero_le _)) (hv.2.trans_le (Nat.le_add_left 1 _)) p

lemma itemValues_within (h : ∀ path n, Always (Value.Within depth) (inner path n)) (i : Nat)
    (ns : List Node) :
    Always (fun vs => ∀ v ∈ vs, v.Within depth) (itemValues inner path i ns) := by
  induction ns generalizing i with
  | nil => exact .pure (List.forall_mem_nil _)
  | cons n ns ih =>
    rw [itemValues]
    exact (h _ n).bind fun v hv => (ih (i + 1)).bind fun vs hvs =>
      .pure (List.forall_mem_cons.mpr ⟨hv, hvs⟩)

lemma entryValues_within (h : ∀ path n, Always (Value.Within depth) (inner path n)) (mark : Mark)
    {seen : List (Value × Value)} (hseen : ∀ e ∈ seen, e.1.Within depth ∧ e.2.Within depth)
    (ns : List (Node × Node)) :
    Always (fun es => ∀ e ∈ es, e.1.Within depth ∧ e.2.Within depth)
      (entryValues inner path mark seen ns) := by
  induction ns generalizing seen with
  | nil => exact .pure fun e he => hseen e (List.mem_reverse.mp he)
  | cons n ns ih =>
    rw [entryValues]
    refine (h _ n.1).bind fun key hkey => ?_
    split
    · exact .throw _
    · exact (h _ n.2).bind fun v hv => ih (List.forall_mem_cons.mpr ⟨⟨hkey, hv⟩, hseen⟩)

lemma contentValue_none_within (n : Node) :
    Always (Value.Within depth) (contentValue none path n) := by
  cases n with
  | scalar p text style =>
    rw [contentValue]
    split
    case h_1 v hv => exact .pure (scalarValue_within p text style v hv)
    case h_2 => exact .throw _
  | _ => exact .throw _

lemma contentValue_some_within (h : ∀ path n, Always (Value.Within depth) (inner path n))
    (n : Node) : Always (Value.Within (depth + 1)) (contentValue (some inner) path n) := by
  cases n with
  | scalar p text style =>
    rw [contentValue]
    split
    case h_1 v hv => exact .pure (scalarValue_within p text style v hv)
    case h_2 => exact .throw _
  | sequence p ns =>
    exact (itemValues_within h 0 ns).bind fun vs hvs => .pure (.sequence hvs p)
  | mapping p ns =>
    exact (entryValues_within h p.mark (List.forall_mem_nil _) ns).bind fun es hes =>
      .pure (.mapping hes p)
  | _ => exact .throw _

/-- The value of a node has no more collections in one another than depth is left, also where the
node is an alias. -/
lemma nodeValue_within (anchors : Anchors) (depth : Nat) (path : List Step) (n : Node) :
    Always (Value.Within depth) (nodeValue anchors depth path n) := by
  induction depth generalizing path n with
  | zero => exact .andThen contentValue_none_within
  | succ depth ih => exact .andThen (contentValue_some_within ih)

lemma Document.finish_within (d : Document) {v : Value} (h : v.Within depth) :
    Yields (Value.Within depth) (d.finish v) := by
  unfold Document.finish
  split
  · exact .error _
  · split
    · exact .error _
    · exact .ok h

/-- The value of a text has at most `maxDepth` collections in one another. -/
theorem readChars_within (text : List Char) :
    Yields (Value.Within maxDepth) (readChars text) := by
  unfold readChars Document.value
  split
  · exact Document.finish_within _ ⟨Nat.zero_le _, by decide⟩
  · exact (nodeValue_within _ maxDepth [] _ 0).bind fun r hr => Document.finish_within _ hr

/-! ## From values to JSON -/

/-- The JSON form of a value is nested no deeper than the value. -/
lemma Value.nesting_le_of_toJson {v : Value} {j : Json.Value} (h : v.toJson = .ok j) :
    j.nesting ≤ v.nesting := by
  induction v using Value.induction generalizing j with
  | null | bool _ | string _ =>
    cases h
    exact Nat.zero_le _
  | number n =>
    cases n with
    | int n =>
      cases h
      exact Nat.zero_le _
    | float x =>
      rw [toJson] at h
      split at h <;> cases h
      exact Nat.zero_le _
  | sequence vs ih =>
    obtain ⟨ws, hws, rfl⟩ := toJson_sequence_eq_ok_iff.mp h
    have hitems : Json.Value.nestingItems ws ≤ nestingItems vs := by
      clear h
      induction hws with
      | nil => exact Nat.le_refl 0
      | cons hw _ ihs =>
        obtain ⟨hv, hvs⟩ := List.forall_mem_cons.mp ih
        exact max_le_max (hv hw) (ihs hvs)
    exact Nat.succ_le_succ hitems
  | mapping es ih =>
    obtain ⟨pairs, hpairs, rfl⟩ := toJson_mapping_eq_ok_iff.mp h
    have hentries : Json.Value.nestingMembers pairs ≤ nestingEntries es := by
      clear h
      induction hpairs with
      | nil => exact Nat.le_refl 0
      | cons hp _ ihs =>
        obtain ⟨he, hes⟩ := List.forall_mem_cons.mp ih
        exact max_le_max ((he hp.2).trans (Nat.le_max_right _ _)) (ihs hes)
    exact Nat.succ_le_succ ((Json.Value.nestingMembers_ofList_le pairs).trans hentries)
  | tagged t v ih => exact ih h

end AgentManifest.Yaml
