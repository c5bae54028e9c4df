import Mathlib.Tactic.Lemma
import AgentManifest.Json.Printer

/-!
# Layouts

The compact and the indented form of a value differ only in the blanks between its tokens. A layout
says which blanks stand where, and both forms are one form under two layouts.
-/

namespace AgentManifest.Json

/-- The characters that may stand between tokens. -/
def IsBlankText (s : List Char) : Prop := ∀ c ∈ s, c = ' ' ∨ c = '\n'

/-- The blanks in the written form of a value. -/
structure Layout where
  /-- What stands in front of an item, or of a closing bracket, at a depth. -/
  lineBreak : Nat → List Char
  /-- What stands between a colon and the value behind it. -/
  gap : List Char
  lineBreak_blank : ∀ depth, IsBlankText (lineBreak depth)
  gap_blank : IsBlankText gap

namespace Layout

/-- No blanks at all. -/
def compact : Layout where
  lineBreak := fun _ => []
  gap := []
  lineBreak_blank := by simp [IsBlankText]
  gap_blank := by simp [IsBlankText]

/-- Every item on a line of its own. -/
def indented : Layout where
  lineBreak := Value.newline
  gap := [' ']
  lineBreak_blank := by
    intro depth c hc
    rw [Value.newline, List.mem_cons] at hc
    rcases hc with rfl | hc
    · exact .inr rfl
    · exact .inl (List.eq_of_mem_replicate hc)
  gap_blank := by simp [IsBlankText]

mutual

/-- The written form of a value that stands at a depth. -/
def write (l : Layout) (depth : Nat) : Value → List Char
  | .array [] => ['[', ']']
  | .array (v :: vs) =>
    '[' :: (l.lineBreak (depth + 1) ++ (write l (depth + 1) v ++ writeItems l depth vs))
  | .object [] => ['{', '}']
  | .object ((k, v) :: ms) =>
    '{' :: (l.lineBreak (depth + 1) ++ (quote k ++ ':' :: (l.gap ++
      (write l (depth + 1) v ++ writeMembers l depth ms))))
  | v => v.write

/-- The items after the first, and the closing bracket. -/
def writeItems (l : Layout) (depth : Nat) : List Value → List Char
  | [] => l.lineBreak depth ++ [']']
  | v :: vs =>
    ',' :: (l.lineBreak (depth + 1) ++ (write l (depth + 1) v ++ writeItems l depth vs))

/-- The members after the first, and the closing brace. -/
def writeMembers (l : Layout) (depth : Nat) : List (String × Value) → List Char
  | [] => l.lineBreak depth ++ ['}']
  | (k, v) :: ms =>
    ',' :: (l.lineBreak (depth + 1) ++ (quote k ++ ':' :: (l.gap ++
      (write l (depth + 1) v ++ writeMembers l depth ms))))

end

mutual

/-- The compact form has no blanks. -/
theorem write_compact : ∀ (depth : Nat) (v : Value), compact.write depth v = v.write
  | _, .null => rfl
  | _, .bool _ => rfl
  | _, .number _ => rfl
  | _, .string _ => rfl
  | _, .array [] => rfl
  | depth, .array (v :: vs) => by
    rw [write, Value.write, write_compact (depth + 1) v, writeItems_compact depth vs]
    rfl
  | _, .object [] => rfl
  | depth, .object ((k, v) :: ms) => by
    rw [write, Value.write, write_compact (depth + 1) v, writeMembers_compact depth ms]
    rfl

theorem writeItems_compact :
    ∀ (depth : Nat) (vs : List Value), compact.writeItems depth vs = Value.writeItems vs
  | _, [] => rfl
  | depth, v :: vs => by
    rw [writeItems, Value.writeItems, write_compact (depth + 1) v, writeItems_compact depth vs]
    rfl

theorem writeMembers_compact :
    ∀ (depth : Nat) (ms : List (String × Value)),
      compact.writeMembers depth ms = Value.writeMembers ms
  | _, [] => rfl
  | depth, (k, v) :: ms => by
    rw [writeMembers, Value.writeMembers, write_compact (depth + 1) v,
      writeMembers_compact depth ms]
    rfl

end

mutual

/-- The indented form has every item on a line of its own. -/
theorem write_indented :
    ∀ (depth : Nat) (v : Value), indented.write depth v = v.writeIndented depth
  | _, .null => rfl
  | _, .bool _ => rfl
  | _, .number _ => rfl
  | _, .string _ => rfl
  | _, .array [] => rfl
  | depth, .array (v :: vs) => by
    rw [write, Value.writeIndented, write_indented (depth + 1) v, writeItems_indented depth vs]
    rfl
  | _, .object [] => rfl
  | depth, .object ((k, v) :: ms) => by
    rw [write, Value.writeIndented, write_indented (depth + 1) v, writeMembers_indented depth ms]
    rfl

theorem writeItems_indented :
    ∀ (depth : Nat) (vs : List Value),
      indented.writeItems depth vs = Value.writeIndentedItems depth vs
  | _, [] => rfl
  | depth, v :: vs => by
    rw [writeItems, Value.writeIndentedItems, write_indented (depth + 1) v,
      writeItems_indented depth vs]
    rfl

theorem writeMembers_indented :
    ∀ (depth : Nat) (ms : List (String × Value)),
      indented.writeMembers depth ms = Value.writeIndentedMembers depth ms
  | _, [] => rfl
  | depth, (k, v) :: ms => by
    rw [writeMembers, Value.writeIndentedMembers, write_indented (depth + 1) v,
      writeMembers_indented depth ms]
    rfl

end

end Layout
end AgentManifest.Json
