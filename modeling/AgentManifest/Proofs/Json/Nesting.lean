import AgentManifest.Json.Reader
import AgentManifest.Proofs.Json.Pointer

/-!
# How deep values that are read are nested

Each bracket that opens takes one off the depth that is left, and none opens without any left. So
fewer than `maxNesting` arrays and objects lie around any value of a text.
-/

namespace AgentManifest

variable {ε α β : Type} {P : α → Prop} {Q : β → Prop} {x : Except ε α}

/-- All that a computation gives has a property. -/
def Yields (P : α → Prop) (x : Except ε α) : Prop := ∀ a, x = .ok a → P a

namespace Yields

lemma ok {a : α} (h : P a) : Yields P (.ok a : Except ε α) := by
  rintro _ ⟨⟩
  exact h

lemma error (e : ε) : Yields P (.error e) := nofun

lemma bind {f : α → Except ε β} (hx : Yields P x) (hf : ∀ a, P a → Yields Q (f a)) :
    Yields Q (x >>= f) := by
  intro b hb
  cases x with
  | error e => cases hb
  | ok a => exact hf a (hx a rfl) b hb

/-- A first step of which nothing is known. -/
lemma andThen {f : α → Except ε β} (hf : ∀ a, Yields Q (f a)) : Yields Q (x >>= f) :=
  bind (P := fun _ => True) (fun _ _ => trivial) fun a _ => hf a

end Yields

namespace Json

/-! ## Depths -/

namespace Value

lemma nestingItems_le_iff {vs : List Value} {n : Nat} :
    nestingItems vs ≤ n ↔ ∀ v ∈ vs, v.nesting ≤ n := by
  induction vs with
  | nil => exact iff_of_true (Nat.zero_le n) (List.forall_mem_nil _)
  | cons v vs ih => rw [nestingItems, Nat.max_le, ih, List.forall_mem_cons]

lemma nestingMembers_le_iff {ms : Members} {n : Nat} :
    nestingMembers ms ≤ n ↔ ∀ m ∈ ms, m.2.nesting ≤ n := by
  induction ms with
  | nil => exact iff_of_true (Nat.zero_le n) (List.forall_mem_nil _)
  | cons m ms ih => rw [nestingMembers, Nat.max_le, ih, List.forall_mem_cons]

/-- A way into a value is no longer than the value is nested. -/
lemma Leads.length_le {v : Value} {l : Location} (h : v.Leads l) : l.length ≤ v.nesting := by
  induction h with
  | here => exact Nat.zero_le _
  | member hm _ ih => exact Nat.succ_le_succ (ih.trans (nestingMembers_le_iff.mp le_rfl _ hm))
  | item hv _ ih =>
    exact Nat.succ_le_succ (ih.trans (nestingItems_le_iff.mp le_rfl _ (List.mem_of_getElem? hv)))

end Value

/-- An object has members of the list that it is made from. -/
lemma Members.mem_ofList {pairs : List (String × Value)} {m : String × Value}
    (h : m ∈ ofList pairs) : m ∈ pairs := by
  have hfrom (ms : Members) (pairs : List (String × Value))
      (h : m ∈ pairs.foldl (fun ms p => insert ms p.1 p.2) ms) : m ∈ ms ∨ m ∈ pairs := by
    induction pairs generalizing ms with
    | nil => exact .inl h
    | cons p pairs ih =>
      obtain h | h := ih _ h
      · obtain rfl | h := mem_insert h
        · exact .inr List.mem_cons_self
        · exact .inl h
      · exact .inr (List.mem_cons_of_mem _ h)
  exact (hfrom [] pairs h).resolve_left List.not_mem_nil

lemma Value.nestingMembers_ofList_le (pairs : List (String × Value)) :
    nestingMembers (Members.ofList pairs) ≤ nestingMembers pairs :=
  nestingMembers_le_iff.mpr fun _ hm => nestingMembers_le_iff.mp le_rfl _ (Members.mem_ofList hm)

/-! ## Reading -/

mutual

/-- A value that is read is nested less deep than the depth that is left. -/
theorem value_nesting : ∀ (fuel depth : Nat) (s : List Char),
    Yields (fun p => p.1.nesting ≤ depth - 1) (value fuel depth s)
  | 0, _, _ => .error _
  | fuel + 1, depth, s => by
    rw [value]
    split
    case h_1 => exact .error _
    case h_2 | h_3 | h_4 | h_5 | h_6 => exact .andThen fun _ => .ok (Nat.zero_le _)
    case h_7 rest _ =>
      split
      case isTrue => exact .error _
      case isFalse hdepth =>
        refine (items_nesting fuel (depth - 1) true rest).bind fun p hp => .ok ?_
        change Value.nestingItems p.1 + 1 ≤ depth - 1
        omega
    case h_8 rest _ =>
      split
      case isTrue => exact .error _
      case isFalse hdepth =>
        refine (members_nesting fuel (depth - 1) true rest).bind fun p hp => .ok ?_
        have hobject := Value.nestingMembers_ofList_le p.1
        change Value.nestingMembers (Members.ofList p.1) + 1 ≤ depth - 1
        omega
    case h_9 =>
      split
      · exact .andThen fun _ => .ok (Nat.zero_le _)
      · exact .error _

theorem items_nesting : ∀ (fuel depth : Nat) (first : Bool) (s : List Char),
    Yields (fun p => Value.nestingItems p.1 ≤ depth - 1) (items fuel depth first s)
  | 0, _, _, _ => .error _
  | fuel + 1, depth, first, s => by
    rw [items]
    refine .andThen fun ⟨more, rest⟩ => ?_
    cases more with
    | false => exact .ok (Nat.zero_le _)
    | true =>
      refine (value_nesting fuel depth rest).bind fun ⟨v, rest⟩ hv => ?_
      refine (items_nesting fuel depth false rest).bind fun ⟨vs, rest⟩ hvs => .ok ?_
      exact Nat.max_le.mpr ⟨hv, hvs⟩

theorem members_nesting : ∀ (fuel depth : Nat) (first : Bool) (s : List Char),
    Yields (fun p => Value.nestingMembers p.1 ≤ depth - 1) (members fuel depth first s)
  | 0, _, _, _ => .error _
  | fuel + 1, depth, first, s => by
    rw [members]
    refine .andThen fun ⟨more, rest⟩ => ?_
    cases more with
    | false => exact .ok (Nat.zero_le _)
    | true =>
      refine .andThen fun ⟨k, rest⟩ => .andThen fun rest => ?_
      refine (value_nesting fuel depth rest).bind fun ⟨v, rest⟩ hv => ?_
      refine (members_nesting fuel depth false rest).bind fun ⟨ms, rest⟩ hms => .ok ?_
      exact Nat.max_le.mpr ⟨hv, hms⟩

end

/-- The value of a text is nested less deep than `maxNesting`. -/
theorem readChars_nesting {text : List Char} {v : Value} (h : readChars text = .ok v) :
    v.nesting < maxNesting := by
  unfold readChars at h
  split at h
  case h_2 => cases h
  case h_1 hread =>
    cases h
    have hfinish (p : Parsed Value) (hp : p.1.nesting ≤ maxNesting - 1) :
        Yields (fun v : Value => v.nesting ≤ maxNesting - 1) (finish p.1 p.2) := by
      unfold finish
      split
      · exact .ok hp
      · exact .error _
    exact Nat.lt_of_le_pred (by decide) ((value_nesting _ _ text).bind hfinish v hread)

end Json

end AgentManifest
