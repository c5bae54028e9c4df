import AgentManifest.Schema.Collecting

/-!
# Compiled schemas

A schema in evaluable form, with the schemas that references lead to. A reference that comes back
to itself on the same value would be followed forever; references are followed as often as there
are ways to do so without coming back, and say nothing from there on.
-/

namespace AgentManifest.Schema

open Json (Value)
open Report (Violation)

/-- What references lead to that is read on its own: schemas, and what they look at. -/
structure Table where
  forms : List (Target × Form) := []
  coverages : List ((Focus × Target) × Coverage) := []
  deriving Inhabited

/-- A schema ready to be evaluated. -/
structure Compiled where
  /-- The identifier that the schema gives itself. -/
  id? : Option String
  root : Form
  table : Table
  deriving Inhabited

namespace Table

/-- The number of entries. -/
def size (table : Table) : Nat := table.forms.length + table.coverages.length

/-- The links to a table, followed at most so many times in a row. -/
def links (table : Table) : Nat → Links
  | 0 => { holds := fun _ _ => true, covered := fun _ _ _ => [] }
  | n + 1 =>
    { holds := fun t v =>
        match table.forms.lookup t with
        | some s => s.holds (links table n) v
        | none => true
      covered := fun focus t v =>
        match table.coverages.lookup (focus, t) with
        | some c => c.covered (links table n) v
        | none => [] }

/-- What the references to a table fail with, followed at most so many times in a row. -/
def complaints (table : Table) : Nat → Complaints
  | 0 => fun _ _ => []
  | n + 1 => fun t v =>
    match table.forms.lookup t with
    | some s => s.failures (table.links n) (complaints table n) v
    | none => []

end Table

namespace Compiled

/-- How many references can be followed in a row: all of them at each level of the value. -/
def reach (s : Compiled) (v : Value) : Nat := (s.table.size + 1) * (v.nesting + 2)

/-- Whether a value satisfies a schema. -/
def isValid (s : Compiled) (v : Value) : Bool := s.root.holds (s.table.links (s.reach v)) v

/-- The failures of a value. -/
def failures (s : Compiled) (v : Value) : List Failure :=
  s.root.failures (s.table.links (s.reach v)) (s.table.complaints (s.reach v)) v

/-- The violations of a value, in the order of evaluation. -/
def evaluate (s : Compiled) (v : Value) : List Violation :=
  (s.failures v).map Failure.violation

end Compiled
end AgentManifest.Schema
