import Mathlib.Data.List.Forall2
import Mathlib.Tactic.Lemma
import AgentManifest.Proofs.Schema.Steps

/-!
# What steps of compiling ensure

A step ensures a property if all that it gives has it. On the way it may put schemas off, to be
compiled on their own; these have a property, too, that is the same for all steps.
-/

namespace AgentManifest.Schema

open Json (Value Members Location)

variable {α β : Type} {D : Deferred → Prop}

/-- What a step gives has a property, and what is put off keeps one. -/
def Compiling.Ensures (D : Deferred → Prop) (x : Compiling α) (P : α → Prop) : Prop :=
  ∀ ⦃p q a⦄, (∀ d ∈ p.deferred, D d) → x.run p = .ok (a, q) → P a ∧ ∀ d ∈ q.deferred, D d

namespace Compiling.Ensures

variable {x : Compiling α} {P : α → Prop} {Q : β → Prop}

lemma pure {a : α} (h : P a) : Ensures D (Pure.pure a) P := by
  intro p q b hp hrun
  cases hrun
  exact ⟨h, hp⟩

lemma fail (place : Location) (f : Fault) : Ensures D (Compiling.fail place f) P := nofun

lemma wrongType (place : Location) (v : Value) (kinds : List Kind) :
    Ensures D (Compiling.wrongType place v kinds) P := nofun

lemma badPattern (place : Location) (v : Value) : Ensures D (Compiling.badPattern place v) P :=
  nofun

lemma bind {f : α → Compiling β} (hx : Ensures D x P) (hf : ∀ a, P a → Ensures D (f a) Q) :
    Ensures D (x >>= f) Q := by
  intro p q b hp hrun
  obtain ⟨a, p', hrun, hrun'⟩ := run_bind_eq_ok hrun
  obtain ⟨ha, hp'⟩ := hx hp hrun
  exact hf a ha hp' hrun'

/-- A last step that only puts the result together. -/
lemma bind_pure {f : α → β} (hx : Ensures D x P) (hf : ∀ a, P a → Q (f a)) :
    Ensures D (x >>= fun a => Pure.pure (f a)) Q :=
  hx.bind fun a ha => pure (hf a ha)

lemma imp {P' : α → Prop} (h : Ensures D x P) (hP : ∀ a, P a → P' a) : Ensures D x P' := by
  intro p q a hp hrun
  exact (h hp hrun).imp_left (hP a)

lemma lift {r : Except Fault α} (h : ∀ a, r = .ok a → P a) : Ensures D (Compiling.lift r) P := by
  cases r with
  | error f => exact nofun
  | ok a => exact pure (h a rfl)

lemma land {place : Location} {r : Except Fault Landing} {P : Landing → Prop}
    (h : ∀ l, r = .ok l → P l) : Ensures D (Compiling.land place r) P := by
  unfold Compiling.land
  split
  · exact fail _ _
  · exact lift h

lemma mapM {as : List α} {f : α → Compiling β} {R : α → β → Prop}
    (h : ∀ a ∈ as, Ensures D (f a) (R a)) : Ensures D (as.mapM f) (List.Forall₂ R as) := by
  induction as with
  | nil => exact pure .nil
  | cons a as ih =>
    obtain ⟨ha, has⟩ := List.forall_mem_cons.mp h
    rw [List.mapM_cons]
    exact ha.bind fun b hb => (ih has).bind fun bs hbs => pure (.cons hb hbs)

/-- All that some steps give has a property. -/
lemma mapM_all {as : List α} {f : α → Compiling β} (h : ∀ a ∈ as, Ensures D (f a) Q) :
    Ensures D (as.mapM f) fun bs => ∀ b ∈ bs, Q b := by
  induction as with
  | nil => exact pure nofun
  | cons a as ih =>
    obtain ⟨ha, has⟩ := List.forall_mem_cons.mp h
    rw [List.mapM_cons]
    exact ha.bind fun b hb => (ih has).bind fun bs hbs => pure (List.forall_mem_cons.mpr ⟨hb, hbs⟩)

lemma visit (id : String) : Ensures D (Compiling.visit id) fun _ => True := by
  intro p q known hp hrun
  obtain ⟨p', p'', hget, hrun⟩ := run_bind_eq_ok hrun
  cases hget
  split at hrun
  case isTrue =>
    cases hrun
    exact ⟨trivial, hp⟩
  case isFalse =>
    obtain ⟨u, p', hset, hrun⟩ := run_bind_eq_ok hrun
    cases hset
    cases hrun
    exact ⟨trivial, hp⟩

/-- Putting off what a reference leads to. -/
lemma defer {c : Context} {focus? : Option Focus} {l : Landing} {scopes : List String}
    (h : ∀ context, c.detached { l with scopes } = .ok context →
      D { focus?, target := context.target l, contents := l.contents, context }) :
    Ensures D (Compiling.defer c focus? l scopes) fun _ => True := by
  refine bind (lift h) fun context hcontext => ?_
  intro p q t hp hrun
  cases hrun
  exact ⟨trivial, List.forall_mem_cons.mpr ⟨hcontext, hp⟩⟩

end Compiling.Ensures

end AgentManifest.Schema
