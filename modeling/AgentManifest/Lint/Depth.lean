import AgentManifest.Json.Value

/-!
# Nesting depth of objects

The root lies at depth zero and every member one level below its object; arrays are not entered.
The walk keeps the objects that are still to be visited on a stack, with their depths, and ends
because every visit takes an object off the stack for good.
-/

namespace AgentManifest.Lint

open Json (Value Members)

mutual

/-- The number of objects on ways down from a value that enter no array. -/
def objectCount : Value → Nat
  | .object ms => memberObjectCount ms + 1
  | _ => 0

/-- The number of such objects below the members. -/
def memberObjectCount : List (String × Value) → Nat
  | [] => 0
  | (_, v) :: ms => objectCount v + memberObjectCount ms

end

/-- The objects that are still to be visited, each with its depth. -/
abbrev Pending := List (Members × Nat)

/-- The number of visits that are left to make. -/
def Pending.weight : Pending → Nat
  | [] => 0
  | (ms, _) :: rest => memberObjectCount ms + 1 + Pending.weight rest

/-- Adds the objects among some members, which lie at a given depth. -/
def Pending.pushObjects (depth : Nat) : Members → Pending → Pending
  | [], stack => stack
  | (_, .object inner) :: ms, stack => pushObjects depth ms ((inner, depth) :: stack)
  | (_, _) :: ms, stack => pushObjects depth ms stack

theorem Pending.weight_pushObjects (depth : Nat) (ms : Members) (stack : Pending) :
    (Pending.pushObjects depth ms stack).weight = memberObjectCount ms + stack.weight := by
  induction ms generalizing stack with
  | nil => simp [Pending.pushObjects, memberObjectCount]
  | cons m ms ih =>
    obtain ⟨name, v⟩ := m
    cases v <;> simp [Pending.pushObjects, memberObjectCount, objectCount, Pending.weight, ih]
    omega

/-- The greatest depth of a member of the pending objects, or `deepest` if that is greater. -/
def deepestFrom (deepest : Nat) : Pending → Nat
  | [] => deepest
  | (ms, depth) :: rest =>
    deepestFrom (if ms.isEmpty then deepest else max deepest (depth + 1))
      (Pending.pushObjects (depth + 1) ms rest)
termination_by stack => Pending.weight stack
decreasing_by
  rw [Pending.weight_pushObjects]
  simp only [Pending.weight]
  omega

/-- The nesting depth of a value; zero for anything but an object. -/
def objectDepth : Value → Nat
  | .object root => deepestFrom 0 [(root, 0)]
  | _ => 0

end AgentManifest.Lint
