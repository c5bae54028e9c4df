import Mathlib.Tactic.Lemma
import AgentManifest.Schema.Condition

/-!
# Steps in relation

A step of compiling that puts nothing off leaves the progress as it is. Two such steps are alike if
they give one result wherever both give any. This is one of the relations that steps keep when they
go on in a related way; the conditions of a schema are read in related ways wherever it stands, as a
place matters for errors only.
-/

namespace AgentManifest.Schema

open Json (Value Members Location)

variable {α β : Type}

/-- A step that gives a result gives this one, and leaves the progress as it is. -/
def Compiling.Settles (x : Compiling α) (a : α) : Prop :=
  ∀ ⦃p q b⦄, x.run p = .ok (b, q) → b = a ∧ q = p

/-- Two steps that both give a result give the same, and leave the progress as it is. -/
def Compiling.Alike (x y : Compiling α) : Prop :=
  ∀ ⦃p p' q q' a b⦄, x.run p = .ok (a, q) → y.run p' = .ok (b, q') → a = b ∧ q = p ∧ q' = p'

/-- A relation between steps that steps keep which go on in a related way. It does not tell why a
step fails. -/
structure Compiling.Congruence where
  rel : ∀ {α : Type}, Compiling α → Compiling α → Prop
  pure : ∀ {α : Type} (a : α), rel (Pure.pure a) (Pure.pure a)
  fail : ∀ {α : Type} (place place' : Location) (f f' : Fault),
    rel (Compiling.fail place f : Compiling α) (Compiling.fail place' f')
  bind : ∀ {α β : Type} {x y : Compiling α} {f g : α → Compiling β}, rel x y →
    (∀ a, rel (f a) (g a)) → rel (x >>= f) (y >>= g)

namespace Compiling

/-- A step that goes on after another gives a result only if both do. -/
lemma run_bind_eq_ok {x : Compiling α} {f : α → Compiling β} {p q : Progress} {b : β}
    (h : (x >>= f).run p = .ok (b, q)) :
    ∃ a p', x.run p = .ok (a, p') ∧ (f a).run p' = .ok (b, q) := by
  have hrun : (x >>= f).run p = (x.run p).bind fun r => (f r.1).run r.2 := rfl
  rw [hrun] at h
  cases hx : x.run p with
  | error flaw =>
    rw [hx] at h
    cases h
  | ok r =>
    rw [hx] at h
    exact ⟨r.1, r.2, rfl, h⟩

lemma run_visit (id : String) (p : Progress) :
    (visit id).run p =
      if p.seen.contains id then .ok (true, p)
      else .ok (false, { p with seen := id :: p.seen }) := by
  unfold visit
  simp only [StateT.run_bind, StateT.run_get, pure_bind]
  split
  · rfl
  · rfl

namespace Settles

lemma pure (a : α) : Settles (Pure.pure a) a := by
  intro p q b h
  cases h
  exact ⟨rfl, rfl⟩

lemma bind {x : Compiling α} {f : α → Compiling β} {a : α} {b : β} (hx : x.Settles a)
    (hf : (f a).Settles b) : (x >>= f).Settles b := by
  intro p q b' h
  obtain ⟨a', p', hrun, hrun'⟩ := run_bind_eq_ok h
  obtain ⟨rfl, rfl⟩ := hx hrun
  exact hf hrun'

lemma lift_bind {r : Except Fault α} {f : α → Compiling β} {b : β}
    (h : ∀ a, r = .ok a → (f a).Settles b) : (lift r >>= f).Settles b := by
  cases r with
  | error fault => exact nofun
  | ok a => exact h a rfl

lemma mapM {as : List α} {f : α → β} {x : α → Compiling β}
    (h : ∀ a ∈ as, (x a).Settles (f a)) : (as.mapM x).Settles (as.map f) := by
  induction as with
  | nil => exact pure []
  | cons a as ih =>
    obtain ⟨ha, has⟩ := List.forall_mem_cons.mp h
    rw [List.mapM_cons]
    exact ha.bind ((ih has).bind (pure _))

end Settles

namespace Alike

lemma pure (a : α) : Alike (Pure.pure a) (Pure.pure a) := by
  intro p p' q q' b b' h h'
  cases h
  cases h'
  exact ⟨rfl, rfl, rfl⟩

lemma fail (place place' : Location) (f f' : Fault) :
    Alike (Compiling.fail place f : Compiling α) (Compiling.fail place' f') := nofun

lemma bind {x y : Compiling α} {f g : α → Compiling β} (h : Alike x y)
    (hf : ∀ a, Alike (f a) (g a)) : Alike (x >>= f) (y >>= g) := by
  intro p p' q q' b b' hrun hrun'
  obtain ⟨a, p₁, hx, hfa⟩ := run_bind_eq_ok hrun
  obtain ⟨a', p₁', hy, hga⟩ := run_bind_eq_ok hrun'
  obtain ⟨rfl, rfl, rfl⟩ := h hx hy
  exact hf a hfa hga

/-- Steps that need something first are alike if they are alike with what both need there. -/
lemma lift_bind {r r' : Except Fault α} {f g : α → Compiling β}
    (h : ∀ a a', r = .ok a → r' = .ok a' → Alike (f a) (g a')) :
    Alike (lift r >>= f) (lift r' >>= g) := by
  cases r with
  | error fault => exact nofun
  | ok a =>
    cases r' with
    | error fault => exact fun _ _ _ _ _ _ _ hrun' => nomatch hrun'
    | ok a' => exact h a a' rfl rfl

/-- What a step gives is settled by a step that gives a result and is alike. -/
lemma settles {x y : Compiling α} (h : Alike x y) {p q : Progress} {a : α}
    (hrun : x.run p = .ok (a, q)) : y.Settles a := by
  intro p' q' b hrun'
  obtain ⟨rfl, -, hq'⟩ := h hrun hrun'
  exact ⟨rfl, hq'⟩

end Alike

/-- Being alike. -/
def alike : Congruence where
  rel := Alike
  pure := Alike.pure
  fail := Alike.fail
  bind := Alike.bind

namespace Congruence

variable (L : Congruence)

lemma wrongType (place place' : Location) (v v' : Value) (kinds : List Kind) :
    L.rel (Compiling.wrongType place v kinds : Compiling α)
      (Compiling.wrongType place' v' kinds) := L.fail _ _ _ _

lemma badPattern (place place' : Location) (v v' : Value) :
    L.rel (Compiling.badPattern place v : Compiling α) (Compiling.badPattern place' v') :=
  L.fail _ _ _ _

lemma test (keyword : String) (a : Assertion) :
    L.rel (Compiling.test keyword a) (Compiling.test keyword a) := L.pure _

/-- A last step that only puts the result together. -/
lemma bind_pure {x y : Compiling α} (h : L.rel x y) (f : α → β) :
    L.rel (x >>= fun a => Pure.pure (f a)) (y >>= fun a => Pure.pure (f a)) :=
  L.bind h fun a => L.pure (f a)

lemma mapM {as : List α} {f g : α → Compiling β} (h : ∀ a ∈ as, L.rel (f a) (g a)) :
    L.rel (as.mapM f) (as.mapM g) := by
  induction as with
  | nil => exact L.pure []
  | cons a as ih =>
    obtain ⟨ha, has⟩ := List.forall_mem_cons.mp h
    rw [List.mapM_cons, List.mapM_cons]
    exact L.bind ha fun _ => L.bind_pure (ih has) _

end Congruence

end Compiling

open Compiling (Congruence)

/-! ## Conditions -/

section

variable (L : Congruence)

lemma badCount_related (place place' : Location) (v : Value) :
    L.rel (badCount place v : Compiling α) (badCount place' v) := by
  unfold badCount
  split
  · split
    · exact L.fail _ _ _ _
    · exact L.wrongType _ _ _ _ _
  · exact L.wrongType _ _ _ _ _

lemma containsLimit_related (place place' : Location) (ms : Members) (keyword : String) :
    L.rel (containsLimit place ms keyword) (containsLimit place' ms keyword) := by
  unfold containsLimit
  split
  · exact L.pure _
  · split
    · exact L.pure _
    · exact badCount_related L _ _ _
  · split
    · exact L.pure _
    · exact badCount_related L _ _ _
  · exact badCount_related L _ _ _

lemma readNames_related (place place' : Location) (v : Value) :
    L.rel (readNames place v) (readNames place' v) := by
  unfold readNames
  split
  · split
    · exact L.wrongType _ _ _ _ _
    · exact L.pure _
  · exact L.wrongType _ _ _ _ _

lemma readKinds_related (place place' : Location) (strict : Bool) (v : Value) :
    L.rel (readKinds place strict v) (readKinds place' strict v) := by
  unfold readKinds
  split
  · split
    · exact L.test _ _
    · exact L.fail _ _ _ _
  · split
    · exact L.test _ _
    · exact L.fail _ _ _ _
  · exact L.wrongType _ _ _ _ _
  · split
    · exact L.fail _ _ _ _
    · exact L.wrongType _ _ _ _ _
    · exact L.test _ _
  · exact L.wrongType _ _ _ _ _

lemma readTriggered_related (keyword : String) (place place' : Location) (dep : String × Value) :
    L.rel (readTriggered keyword place dep) (readTriggered keyword place' dep) := by
  unfold readTriggered
  split
  · split
    · exact L.bind_pure (readNames_related L _ _ _) _
    · exact L.fail _ _ _ _
  · exact L.wrongType _ _ _ _ _

lemma readMediaType_related (place place' : Location) (ms : Members) (v : Value) :
    L.rel (readMediaType place ms v) (readMediaType place' ms v) := by
  unfold readMediaType
  split
  · split
    · exact L.test _ _
    · exact L.test _ _
    · exact L.pure _
    · exact L.wrongType _ _ _ _ _
  · exact L.pure _
  · exact L.wrongType _ _ _ _ _

lemma readEncoding_related (place place' : Location) (ms : Members) (v : Value) :
    L.rel (readEncoding place ms v) (readEncoding place' ms v) := by
  unfold readEncoding
  split
  · exact L.pure _
  · split
    · exact L.test _ _
    · exact L.pure _
    · exact L.wrongType _ _ _ _ _

variable {c c' : Context} {ms : Members}

lemma readBound_related (h : c.draft = c'.draft) (keyword : String) (o : Comparison) (v : Value) :
    L.rel (readBound c ms keyword o v) (readBound c' ms keyword o v) := by
  unfold readBound
  rw [h]
  split
  · dsimp only
    split
    · split
      · exact L.test _ _
      · exact L.test _ _
    · exact L.test _ _
  · exact L.wrongType _ _ _ _ _

/-- Conditions are read by the draft alone. -/
lemma readCondition_related (h : c.draft = c'.draft) (keyword : String) (v : Value) (w : Word) :
    L.rel (readCondition c ms keyword v w) (readCondition c' ms keyword v w) := by
  unfold readCondition
  rw [h]
  cases w with
  | bound o => exact readBound_related L h keyword o v
  | const => exact L.test _ _
  | contentEncoding => exact readEncoding_related L _ _ ms v
  | contentMediaType => exact readMediaType_related L _ _ ms v
  | count m atLeast =>
    dsimp only
    split
    · exact L.test _ _
    · exact badCount_related L _ _ v
  | dependentRequired =>
    dsimp only
    split
    · exact L.mapM fun dep _ => readTriggered_related L keyword _ _ dep
    · exact L.wrongType _ _ _ _ _
  | enum | multipleOf =>
    dsimp only
    split
    · exact L.test _ _
    · exact L.wrongType _ _ _ _ _
  | format =>
    dsimp only
    split
    · split
      · exact L.test _ _
      · exact L.pure _
    · exact L.wrongType _ _ _ _ _
  | pattern =>
    dsimp only
    split
    · split
      · exact L.test _ _
      · exact L.badPattern _ _ _ _
    · exact L.wrongType _ _ _ _ _
  | required => exact L.bind_pure (readNames_related L _ _ v) _
  | type => exact readKinds_related L _ _ _ v
  | uniqueItems =>
    dsimp only
    split
    · exact L.test _ _
    · exact L.pure _
    · exact L.wrongType _ _ _ _ _
  | _ => exact L.pure _

end

end AgentManifest.Schema
