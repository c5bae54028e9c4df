import Mathlib.Data.List.Nodup
import Mathlib.Data.List.Perm.Basic
import Mathlib.Tactic.Lemma
import AgentManifest.CommandLine.Reading

/-!
# What was read so far

Reading keeps account of the arguments that were mentioned and of their values, the last of which
may still be pending. As long as none but the demand for a more detailed log is mentioned twice, what
is on record does not depend on the order.
-/

namespace AgentManifest.CommandLine

/-- An argument that was mentioned, and its value; that of a flag is empty. -/
abbrev Mention := Argument × String

/-- The arguments that were mentioned and may not be mentioned again. -/
def spent (ms : List Mention) : List Argument := (ms.map Prod.fst).filter (· ≠ .verbose)

/-- Mentions that make a request together: of no argument twice that may be mentioned once, of values
that suit the arguments, and none of arguments that ask for something else. -/
structure Admissible (ms : List Mention) : Prop where
  once : (spent ms).Nodup
  suits : ∀ m ∈ ms, m.1.takesValue = true → Progress.suits m.1 m.2 = true
  asks : ∀ m ∈ ms, m.1 ≠ .help ∧ m.1 ≠ .version

namespace Admissible

variable {ms ms' : List Mention} {m : Mention}

lemma perm (h : Admissible ms) (hperm : ms.Perm ms') : Admissible ms' where
  once := ((hperm.map Prod.fst).filter _).nodup_iff.mp h.once
  suits m hm := h.suits m (hperm.mem_iff.mpr hm)
  asks m hm := h.asks m (hperm.mem_iff.mpr hm)

/-- The mentions at the start. -/
lemma left (h : Admissible (ms ++ ms')) : Admissible ms where
  once := by
    have once := h.once
    rw [spent, List.map_append, List.filter_append] at once
    exact once.of_append_left
  suits m hm := h.suits m (List.mem_append_left _ hm)
  asks m hm := h.asks m (List.mem_append_left _ hm)

/-- An argument is not mentioned again. -/
lemma not_mem_of_concat (h : Admissible (ms ++ [m])) (hverbose : m.1 ≠ .verbose) :
    m.1 ∉ ms.map Prod.fst := by
  have once := h.once
  rw [spent, List.map_append, List.filter_append, List.nodup_append] at once
  intro hmem
  refine once.2.2 m.1 (List.mem_filter.mpr ⟨hmem, by simpa using hverbose⟩) m.1 ?_ rfl
  exact List.mem_filter.mpr ⟨List.mem_singleton.mpr rfl, by simpa using hverbose⟩

/-- An argument that may be mentioned once has one value. -/
lemma eq_of_fst_eq (h : Admissible ms) {x y : Mention} (hx : x ∈ ms) (hy : y ∈ ms)
    (heq : x.1 = y.1) (hverbose : x.1 ≠ .verbose) : x = y := by
  have once : ((ms.filter (fun m => m.1 ≠ .verbose)).map Prod.fst).Nodup := by
    have once := h.once
    rwa [spent, List.filter_map] at once
  refine List.inj_on_of_nodup_map once ?_ ?_ heq
  · exact List.mem_filter.mpr ⟨hx, by simpa using hverbose⟩
  · exact List.mem_filter.mpr ⟨hy, by simpa [← heq] using hverbose⟩

end Admissible

namespace Progress

variable {p q : Progress} {a b : Argument} {v w : String} {ms ms' : List Mention}

/-! ## Values on record -/

/-- What was read, without how it was read. -/
def values (p : Progress) : Progress :=
  { p with given := [], pending := none, targetMet := false, onlyTargets := false }

/-- What is on record after some mentions. -/
def after (ms : List Mention) : Progress := ms.foldl (fun p m => p.record m.1 m.2) {}

lemma after_concat (ms : List Mention) (m : Mention) :
    after (ms ++ [m]) = (after ms).record m.1 m.2 := by
  rw [after, List.foldl_append]
  rfl

lemma values_record (p : Progress) (a : Argument) (v : String) :
    (p.record a v).values = p.values.record a v := by
  cases a <;> rfl

/-- Values of two arguments are recorded in either order. -/
lemma record_comm (p : Progress) (h : a ≠ b) (v w : String) :
    (p.record a v).record b w = (p.record b w).record a v := by
  cases a <;> cases b <;> first | rfl | exact absurd rfl h

/-- The order of the mentions is not on record. -/
lemma after_perm (h : Admissible ms) (hperm : ms.Perm ms') : after ms = after ms' := by
  refine hperm.foldl_eq' (fun x hx y hy p => ?_) ({} : Progress)
  by_cases heq : x.1 = y.1
  · by_cases hverbose : x.1 = .verbose
    · rw [← heq, hverbose]
      rfl
    · rw [h.eq_of_fst_eq hx hy heq hverbose]
  · exact record_comm p heq x.2 y.2

/-! ## Mentions on record -/

/-- What some mentions leave on record, none of them pending. -/
structure Recorded (p : Progress) (ms : List Mention) : Prop where
  values : p.values = after ms
  given : ∀ a, a ≠ .verbose → (a ∈ p.given ↔ a ∈ ms.map Prod.fst)
  pending : p.pending = none
  onlyTargets : p.onlyTargets = false

/-- One more mention is recorded, and nothing is wrong with it. -/
lemma Recorded.occur (h : p.Recorded ms) (value? : Option String)
    (htakes : a.takesValue = true → value?.isSome = true)
    (hms : Admissible (ms ++ [(a, value?.getD "")])) :
    ∃ q, p.occur a value? = (q, none) ∧ q.Recorded (ms ++ [(a, value?.getD "")]) ∧
      q.targetMet = p.targetMet := by
  have present : ¬(a.takesValue && value?.isNone) = true := by
    rw [Bool.and_eq_true, Option.isNone_iff_eq_none]
    rintro ⟨htrue, rfl⟩
    exact absurd (htakes htrue) Bool.false_ne_true
  have fresh : ¬(a != .verbose && p.given.contains a) = true := by
    rw [Bool.and_eq_true, bne_iff_ne, List.contains_iff_mem]
    rintro ⟨hverbose, hgiven⟩
    exact hms.not_mem_of_concat hverbose ((h.given a hverbose).mp hgiven)
  have suited : ¬(a.takesValue && !suits a (value?.getD "")) = true := by
    rw [Bool.and_eq_true, Bool.not_eq_true']
    rintro ⟨htrue, hfalse⟩
    have hsuits := hms.suits (a, value?.getD "") (by simp) htrue
    rw [hfalse] at hsuits
    exact absurd hsuits Bool.false_ne_true
  refine ⟨{ p with given := p.given.erase a ++ [a] }.record a (value?.getD ""), ?_,
    ⟨?_, ?_, ?_, ?_⟩, ?_⟩
  · rw [Progress.occur, if_neg present, if_neg fresh]
    exact if_neg suited
  · rw [values_record, after_concat, ← h.values]
    rfl
  · intro b hb
    have given : ({ p with given := p.given.erase a ++ [a] }.record a (value?.getD "")).given =
        p.given.erase a ++ [a] := by
      cases a <;> rfl
    rw [given, List.map_append, List.mem_append, List.mem_append, ← h.given b hb]
    by_cases heq : b = a
    · simp [heq]
    · rw [List.mem_erase_of_ne heq]
      rfl
  · cases a <;> exact h.pending
  · cases a <;> exact h.onlyTargets
  · cases a <;> rfl

/-- Words that were read as some mentions, the last of which may be pending with its value. -/
structure Tells (p : Progress) (ms : List Mention) : Prop where
  settles : ∃ q, p.settled = .ok q ∧ q.Recorded ms ∧ q.targetMet = p.targetMet
  whole : ∀ a, p.pending ≠ some (a, none)
  targetMet : p.targetMet = true ↔ .target ∈ ms.map Prod.fst
  onlyTargets : p.onlyTargets = false

lemma settled_of_pending_eq_none (h : p.pending = none) : p.settled = .ok p := by
  rw [settled, settle, h]

/-- Where nothing is pending, the words tell what is on record. -/
lemma Recorded.tells (h : p.Recorded ms)
    (htarget : p.targetMet = true ↔ .target ∈ ms.map Prod.fst) : p.Tells ms where
  settles := ⟨p, settled_of_pending_eq_none h.pending, h, rfl⟩
  whole a := by
    rw [h.pending]
    exact nofun
  targetMet := htarget
  onlyTargets := h.onlyTargets

/-- No words tell nothing. -/
lemma tells_nil : ({} : Progress).Tells [] :=
  Recorded.tells ⟨rfl, fun _ _ => Iff.rfl, rfl, rfl⟩ (by simp)

/-- A mention with its value is told while it is pending. -/
lemma Recorded.tells_pending (h : p.Recorded ms) (hms : Admissible (ms ++ [(a, v)])) {met : Bool}
    (htarget : met = true ↔ .target ∈ (ms ++ [(a, v)]).map Prod.fst) :
    { p with pending := some (a, some v), targetMet := met }.Tells (ms ++ [(a, v)]) where
  settles := by
    have before : { p with pending := none, targetMet := met }.Recorded ms :=
      ⟨h.values, h.given, rfl, h.onlyTargets⟩
    obtain ⟨q, hoccur, hq, hmet⟩ := 
      before.occur (some v) (fun _ => rfl) hms
    refine ⟨q, ?_, hq, hmet⟩
    simp only [settled, settle, hoccur]
  whole _ := by simp
  targetMet := htarget
  onlyTargets := h.onlyTargets

/-- A flag, or an option with its value, is taken in. -/
lemma Tells.accept (h : p.Tells ms) (isLong : Bool) (value? : Option String)
    (htakes : a.takesValue = true → value?.isSome = true) (htarget : a ≠ .target)
    (hms : Admissible (ms ++ [(a, value?.getD "")])) :
    ∃ q, p.accept a isLong value? = .ok q ∧ q.Tells (ms ++ [(a, value?.getD "")]) := by
  obtain ⟨q, hsettled, hq, hmet⟩ := h.settles
  obtain ⟨r, hoccur, hr, hmet'⟩ := hq.occur value? htakes hms
  have asks := hms.asks (a, value?.getD "") (by simp)
  refine ⟨r, ?_, hr.tells ?_⟩
  · rw [Progress.accept, hsettled]
    cases a <;> simp_all
  · rw [hmet', hmet, h.targetMet, List.map_append, List.mem_append]
    simp [Ne.symm htarget]

end Progress
end AgentManifest.CommandLine
