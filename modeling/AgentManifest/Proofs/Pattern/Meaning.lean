import AgentManifest.Proofs.Pattern.Places

/-!
# The meaning of simple patterns

`Simple.Leads` says what a simple pattern means, without sets of places and marks: from which place
of a text it leads to which. The search by sets finds exactly these places (`mem_reach`), so a
pattern occurs in a text if it leads from some place of the text to another (`occursIn_iff`).

A repetition is searched breadth first, and a place that was met is not gone on from again. So the
search ends where no new place is met; `Iterated.shorten` shows that nothing is lost by then, since
a body that leads to a new place takes at least one character.
-/

namespace AgentManifest.Pattern

/-- So many steps in a row. -/
inductive Iterated {α : Type} (step : α → α → Prop) : Nat → α → α → Prop where
  | zero {a} :
    Iterated step 0 a a
  | succ {n a b c} :
    step a b →
    Iterated step n b c →
    Iterated step (n + 1) a c

/-- Where a pattern leads from a place. A repetition goes through its body at least so many times,
and then as many times more as its bounds leave. -/
def Simple.Leads : Simple → Place → Place → Prop
  | .empty, p, q => p = q
  | .char a, p, q => p.Passes a q
  | .set members, p, q => ∃ c, members.has c = true ∧ p.Passes c q
  | .anchor a, p, q => a.holds p = true ∧ p = q
  | .seq a b, p, q => ∃ m, Leads a p m ∧ Leads b m q
  | .either a b, p, q => Leads a p q ∨ Leads b p q
  | .repeated body least most _, p, q =>
    ∃ more, (∀ bound ∈ most, more ≤ bound - least) ∧ Iterated (Leads body) (least + more) p q
  | .group _ body, p, q => Leads body p q

namespace Iterated

variable {α : Type} {step : α → α → Prop}

lemma trans {m n a b c} (first : Iterated step m a b) (second : Iterated step n b c) :
    Iterated step (m + n) a c := by
  induction first with
  | zero => rwa [Nat.zero_add]
  | @succ m a b' b st _ ih =>
    rw [Nat.add_right_comm]
    exact .succ st (ih second)

lemma split {m n a c} (h : Iterated step (m + n) a c) :
    ∃ b, Iterated step m a b ∧ Iterated step n b c := by
  induction m generalizing a with
  | zero => exact ⟨a, .zero, by rwa [Nat.zero_add] at h⟩
  | succ m ih =>
    rw [Nat.add_right_comm] at h
    cases h with
    | succ st rest =>
      obtain ⟨b, first, second⟩ := ih rest
      exact ⟨b, .succ st first, second⟩

/-- What each step keeps is kept by all of them. -/
lemma keeps {P : α → Prop} (h : ∀ a b, P a → step a b → P b) {n a b}
    (run : Iterated step n a b) (ha : P a) : P b := by
  induction run with
  | zero => exact ha
  | succ st _ ih => exact ih (h _ _ ha st)

end Iterated

/-- Steps between the places of a text that do not go backwards. -/
structure Forward (text : List Char) (step : Place → Place → Prop) : Prop where
  stays : ∀ {p q}, p.In text → step p q → q.In text
  mono : ∀ {p q}, step p q → p.index ≤ q.index

namespace Forward

variable {text : List Char} {step : Place → Place → Prop}

lemma iterated (h : Forward text step) (n : Nat) : Forward text (Iterated step n) where
  stays hp run := by
    apply run.keeps (P := fun p => p.In text) _ hp
    exact fun _ _ hp st => h.stays hp st
  mono run := by
    induction run with
    | zero => exact Nat.le_refl _
    | succ st _ ih => exact Nat.le_trans (h.mono st) ih

/-- A place that some steps lead to is met within as many steps as there are characters between,
since the steps that stay in place can be left out. -/
lemma shorten (h : Forward text step) {n p q} (hp : p.In text) (run : Iterated step n p q) :
    ∃ m ≤ q.index - p.index, Iterated step m p q := by
  induction run with
  | zero => exact ⟨0, Nat.zero_le _, .zero⟩
  | @succ n p m q st rest ih =>
    have hm := h.stays hp st
    obtain ⟨k, bound, run⟩ := ih hm
    have forth := h.mono st
    have onward := (h.iterated n).mono rest
    by_cases e : p.index = m.index
    · cases hp.ext hm e
      exact ⟨k, bound, run⟩
    · exact ⟨k + 1, by omega, .succ st run⟩

end Forward

/-- Patterns lead forward. -/
lemma Simple.forward (text : List Char) (r : Simple) : Forward text r.Leads := by
  induction r with
  | empty =>
    exact ⟨fun hp e => e ▸ hp, fun e => Nat.le_of_eq (congrArg Place.index e)⟩
  | char a =>
    exact ⟨fun hp pass => hp.passes pass, fun pass => by rw [pass.2.2]; omega⟩
  | set members =>
    refine ⟨?_, ?_⟩
    · rintro p q hp ⟨c, -, pass⟩
      exact hp.passes pass
    · rintro p q ⟨c, -, pass⟩
      rw [pass.2.2]; omega
  | anchor a =>
    exact ⟨fun hp e => e.2 ▸ hp, fun e => Nat.le_of_eq (congrArg Place.index e.2)⟩
  | seq a b iha ihb =>
    refine ⟨?_, ?_⟩
    · rintro p q hp ⟨m, first, second⟩
      exact ihb.stays (iha.stays hp first) second
    · rintro p q ⟨m, first, second⟩
      exact Nat.le_trans (iha.mono first) (ihb.mono second)
  | either a b iha ihb =>
    refine ⟨?_, ?_⟩
    · rintro p q hp (h | h)
      · exact iha.stays hp h
      · exact ihb.stays hp h
    · rintro p q (h | h)
      · exact iha.mono h
      · exact ihb.mono h
  | repeated body least most greedy ih =>
    refine ⟨?_, ?_⟩
    · rintro p q hp ⟨more, -, run⟩
      exact (ih.iterated _).stays hp run
    · rintro p q ⟨more, -, run⟩
      exact (ih.iterated _).mono run
  | group index body ih => exact ih

/-! ## Searching by sets of places -/

namespace Simple

/-- A step of sets of places finds what a relation of places leads to. -/
def Finds (text : List Char) (find : List Place → List Place) (step : Place → Place → Prop) :
    Prop :=
  ∀ ps, (∀ p ∈ ps, p.In text) → ∀ q, q ∈ find ps ↔ ∃ p ∈ ps, step p q

variable {text : List Char} {find : List Place → List Place} {step : Place → Place → Prop}
variable {ps : List Place} {q : Place}

/-- The places that are found belong to the text. -/
lemma Finds.stays (h : Finds text find step) (hs : Forward text step)
    (hps : ∀ p ∈ ps, p.In text) : ∀ q ∈ find ps, q.In text := by
  intro q hq
  obtain ⟨p, hp, st⟩ := (h ps hps q).mp hq
  exact hs.stays (hps p hp) st

/-- A number of steps finds what so many steps in a row lead to. -/
lemma mem_times (h : Finds text find step) (hs : Forward text step) (n : Nat)
    (hps : ∀ p ∈ ps, p.In text) :
    q ∈ times find n ps ↔ ∃ p ∈ ps, Iterated step n p q := by
  induction n generalizing ps with
  | zero =>
    rw [times]
    constructor
    · intro hq
      exact ⟨q, hq, .zero⟩
    · rintro ⟨p, hp, run⟩
      cases run
      exact hp
  | succ n ih =>
    cases ps with
    | nil => simp [times]
    | cons p ps =>
      rw [times, ih (h.stays hs hps)]
      constructor
      · rintro ⟨m, hm, run⟩
        obtain ⟨p, hp, st⟩ := (h _ hps m).mp hm
        exact ⟨p, hp, .succ st run⟩
      · rintro ⟨p, hp, run⟩
        cases run with
        | succ st run => exact ⟨_, (h _ hps _).mpr ⟨p, hp, st⟩, run⟩
      · nofun

/-- What a breadth-first search keeps: the marks are those of the places met, and whatever was met
before the last round has been gone on from. -/
structure Searched (text : List Char) (step : Place → Place → Prop) (last : List Place)
    (marks : Marks) (met : List Place) : Prop where
  within : ∀ p ∈ met, p.In text
  marked : ∀ i, marks.testBit i = true ↔ ∃ p ∈ met, p.index = i
  recent : ∀ p ∈ last, p ∈ met
  done : ∀ p ∈ met, p ∉ last → ∀ q, step p q → q ∈ met

namespace Searched

variable {last met : List Place} {marks : Marks}

/-- A place of the text is marked exactly if it was met. -/
lemma testBit_iff (inv : Searched text step last marks met) (hq : q.In text) :
    marks.testBit q.index = true ↔ q ∈ met := by
  rw [inv.marked]
  constructor
  · rintro ⟨p, hp, e⟩
    exact (inv.within p hp).ext hq e ▸ hp
  · intro hq
    exact ⟨q, hq, rfl⟩

/-- The places that a further round meets for the first time. -/
lemma mem_fresh (inv : Searched text step last marks met) (h : Finds text find step)
    (hs : Forward text step) :
    q ∈ (unmarked marks (find last)).1 ↔ (∃ p ∈ last, step p q) ∧ q ∉ met := by
  have hlast : ∀ p ∈ last, p.In text := fun p hp => inv.within p (inv.recent p hp)
  rw [mem_unmarked marks (h.stays hs hlast), h last hlast q]
  apply and_congr_right
  rintro ⟨p, hp, st⟩
  rw [← inv.testBit_iff (hs.stays (hlast p hp) st), Bool.not_eq_true]

/-- A further round keeps the invariant. -/
lemma round (inv : Searched text step last marks met) (h : Finds text find step)
    (hs : Forward text step) :
    Searched text step (unmarked marks (find last)).1 (unmarked marks (find last)).2
      ((unmarked marks (find last)).1 ++ met) := by
  have hlast : ∀ p ∈ last, p.In text := fun p hp => inv.within p (inv.recent p hp)
  refine ⟨?_, ?_, ?_, ?_⟩
  · intro p hp
    rcases List.mem_append.mp hp with hp | hp
    · obtain ⟨⟨p', hp', st⟩, -⟩ := (inv.mem_fresh h hs).mp hp
      exact hs.stays (hlast p' hp') st
    · exact inv.within p hp
  · intro i
    rw [testBit_unmarked, inv.marked]
    constructor
    · rintro (⟨p, hp, e⟩ | ⟨p, hp, e⟩)
      · exact ⟨p, List.mem_append_right _ hp, e⟩
      · by_cases hm : p ∈ met
        · exact ⟨p, List.mem_append_right _ hm, e⟩
        · have fresh := (inv.mem_fresh h hs).mpr ⟨(h last hlast p).mp hp, hm⟩
          exact ⟨p, List.mem_append_left _ fresh, e⟩
    · rintro ⟨p, hp, e⟩
      rcases List.mem_append.mp hp with hp | hp
      · obtain ⟨st, -⟩ := (inv.mem_fresh h hs).mp hp
        exact .inr ⟨p, (h last hlast p).mpr st, e⟩
      · exact .inl ⟨p, hp, e⟩
  · exact fun p hp => List.mem_append_left _ hp
  · intro p hp hnew q st
    rcases List.mem_append.mp hp with hp | hp
    · exact absurd hp hnew
    · by_cases hq : q ∈ met
      · exact List.mem_append_right _ hq
      · by_cases hl : p ∈ last
        · exact List.mem_append_left _ ((inv.mem_fresh h hs).mpr ⟨⟨p, hl, st⟩, hq⟩)
        · exact absurd (inv.done p hp hl q st) hq

/-- Steps from a place that was met stay among such places, or leave them through a place that the
next round meets, with a step less to go. -/
lemma leaves (inv : Searched text step last marks met) (h : Finds text find step)
    (hs : Forward text step) {n p} (run : Iterated step n p q) (hp : p ∈ met) :
    q ∈ met ∨ ∃ m ∈ (unmarked marks (find last)).1, ∃ k < n, Iterated step k m q := by
  induction run with
  | zero => exact .inl hp
  | @succ n p m q st rest ih =>
    -- the run leaves the places that were met by a step from the last round
    by_cases hm : m ∈ met
    · rcases ih hm with hq | ⟨m', fresh, k, less, run⟩
      · exact .inl hq
      · exact .inr ⟨m', fresh, k, by omega, run⟩
    · by_cases hl : p ∈ last
      · exact .inr ⟨m, (inv.mem_fresh h hs).mpr ⟨⟨p, hl, st⟩, hm⟩, n, by omega, rest⟩
      · exact absurd (inv.done p hp hl m st) hm

end Searched

/-- A search finds what was met, and what so many more steps lead to. -/
lemma mem_further (h : Finds text find step) (hs : Forward text step) {n : Nat}
    {last met : List Place} {marks : Marks} (inv : Searched text step last marks met) :
    q ∈ further find n last marks met ↔ q ∈ met ∨ ∃ p ∈ last, ∃ k ≤ n, Iterated step k p q := by
  induction n generalizing last marks met with
  | zero =>
    rw [further]
    constructor
    · exact .inl
    · rintro (hq | ⟨p, hp, k, bound, run⟩)
      · exact hq
      · obtain rfl : k = 0 := by omega
        cases run
        exact inv.recent _ hp
  | succ n ih =>
    cases last with
    | nil => simp [further]
    | cons p₀ last =>
      rw [further, ih (inv.round h hs)]
      constructor
      · rintro (hq | ⟨m, fresh, k, bound, run⟩)
        · rcases List.mem_append.mp hq with fresh | hq
          · obtain ⟨⟨p, hp, st⟩, -⟩ := (inv.mem_fresh h hs).mp fresh
            exact .inr ⟨p, hp, 1, by omega, .succ st .zero⟩
          · exact .inl hq
        · obtain ⟨⟨p, hp, st⟩, -⟩ := (inv.mem_fresh h hs).mp fresh
          exact .inr ⟨p, hp, k + 1, by omega, .succ st run⟩
      · rintro (hq | ⟨p, hp, k, bound, run⟩)
        · exact .inl (List.mem_append_right _ hq)
        · rcases inv.leaves h hs run (inv.recent p hp) with hq | ⟨m, fresh, k', less, run'⟩
          · exact .inl (List.mem_append_right _ hq)
          · exact .inr ⟨m, fresh, k', by omega, run'⟩
      · nofun

/-- The places of a text before the end lie within the number of steps that a repetition without
upper bound is given. -/
lemma length_le_manySteps {p : Place} (hp : p ∈ ps) : p.rest.length ≤ manySteps ps := by
  suffices h : ∀ (ns : List Nat) (n m : Nat), n ∈ ns ∨ n ≤ m → n ≤ ns.foldl max m by
    have := h (ps.map fun p => p.rest.length + 1) (p.rest.length + 1) 0
      (.inl (List.mem_map.mpr ⟨p, hp, rfl⟩))
    exact Nat.le_of_succ_le this
  intro ns
  induction ns with
  | nil =>
    rintro n m (h | h)
    · cases h
    · exact h
  | cons k ns ih =>
    rintro n m h
    rw [List.foldl_cons]
    apply ih
    rcases h with h | h
    · rcases List.mem_cons.mp h with rfl | h
      · exact .inr (Nat.le_max_right _ _)
      · exact .inl h
    · exact .inr (Nat.le_trans h (Nat.le_max_left _ _))

/-- A repetition finds what a number of steps between its bounds leads to. -/
lemma finds_repeatedly (h : Finds text find step) (hs : Forward text step) (least : Nat)
    (most : Option Nat) :
    Finds text (repeatedly find least most) fun p q =>
      ∃ more, (∀ bound ∈ most, more ≤ bound - least) ∧ Iterated step (least + more) p q := by
  intro ps hps q
  have reached : ∀ p ∈ times find least ps, p.In text := by
    intro p hp
    obtain ⟨p₀, hp₀, run⟩ := (mem_times h hs least hps).mp hp
    exact (hs.iterated least).stays (hps p₀ hp₀) run
  have first : ∀ p, p ∈ (unmarked 0 (times find least ps)).1 ↔
      ∃ p₀ ∈ ps, Iterated step least p₀ p := by
    intro p
    rw [mem_unmarked 0 reached, mem_times h hs least hps]
    simp
  -- the search starts where the least number of steps leads, with all of that in its last round
  have inv : Searched text step (unmarked 0 (times find least ps)).1
      (unmarked 0 (times find least ps)).2 (unmarked 0 (times find least ps)).1 := by
    refine ⟨?_, ?_, fun p hp => hp, fun p hp hn => absurd hp hn⟩
    · intro p hp
      exact reached p ((mem_unmarked 0 reached).mp hp).1
    · intro i
      rw [testBit_unmarked]
      simp [mem_unmarked 0 reached]
  rw [repeatedly, mem_further h hs inv]
  constructor
  · rintro (hq | ⟨p, hp, k, bound, run⟩)
    · obtain ⟨p₀, hp₀, run⟩ := (first q).mp hq
      exact ⟨p₀, hp₀, 0, fun _ _ => Nat.zero_le _, run⟩
    · obtain ⟨p₀, hp₀, run₀⟩ := (first p).mp hp
      refine ⟨p₀, hp₀, k, ?_, run₀.trans run⟩
      intro n hn
      rw [Option.mem_def] at hn
      subst hn
      exact bound
  · rintro ⟨p₀, hp₀, more, bound, run⟩
    obtain ⟨p, run₀, run⟩ := run.split
    have hp := (first p).mpr ⟨p₀, hp₀, run₀⟩
    right
    cases most with
    | some n => exact ⟨p, hp, more, bound n rfl, run⟩
    | none =>
      have inText := inv.within p hp
      -- a run may be longer than the search, but a shorter one leads to the same place
      obtain ⟨k, short, run'⟩ := hs.shorten inText run
      have ends := ((hs.iterated more).stays inText run).index_add_length
      have starts := inText.index_add_length
      have enough := length_le_manySteps hp
      exact ⟨p, hp, k, by dsimp only; omega, run'⟩

/-- The next character is passed if it is admitted. -/
lemma pass?_eq_some_iff {admits : Char → Bool} {p : Place} :
    pass? admits p = some q ↔ ∃ c, admits c = true ∧ p.Passes c q := by
  obtain ⟨before, rest, index⟩ := p
  cases rest with
  | nil => simp [pass?, Place.Passes]
  | cons c rest =>
    simp only [pass?, Place.Passes]
    by_cases ok : admits c = true
    · simp only [ok, if_true, Option.some.injEq]
      constructor
      · rintro rfl
        exact ⟨c, ok, rfl, rfl, rfl⟩
      · rintro ⟨d, -, split, before', index'⟩
        obtain ⟨rfl, rest'⟩ := List.cons.inj split
        cases q; cases rest'; cases before'; cases index'
        rfl
    · simp only [ok, if_false, Bool.false_eq_true]
      constructor
      · rintro ⟨⟩
      · rintro ⟨d, ok', split, -⟩
        obtain ⟨rfl, -⟩ := List.cons.inj split
        exact absurd ok' ok

/-- The search of a pattern finds the places that the pattern leads to. -/
theorem mem_reach (text : List Char) (r : Simple) : Finds text r.reach r.Leads := by
  induction r with
  | empty => intro ps hps q; simp [reach, Leads]
  | char a =>
    intro ps hps q
    simp only [reach, List.mem_filterMap, pass?_eq_some_iff, beq_iff_eq, Leads, exists_eq_left]
  | set members =>
    intro ps hps q
    simp only [reach, List.mem_filterMap, pass?_eq_some_iff, Leads]
  | anchor a =>
    intro ps hps q
    simp only [reach, List.mem_filter, Leads]
    constructor
    · rintro ⟨hq, holds⟩
      exact ⟨q, hq, holds, rfl⟩
    · rintro ⟨p, hp, holds, rfl⟩
      exact ⟨hp, holds⟩
  | seq a b iha ihb =>
    intro ps hps q
    rw [reach, ihb _ (iha.stays (a.forward text) hps)]
    simp only [iha ps hps, Leads]
    constructor
    · rintro ⟨m, ⟨p, hp, first⟩, second⟩
      exact ⟨p, hp, m, first, second⟩
    · rintro ⟨p, hp, m, first, second⟩
      exact ⟨m, ⟨p, hp, first⟩, second⟩
  | either a b iha ihb =>
    intro ps hps q
    have within : ∀ p ∈ reach a ps ++ reach b ps, p.In text := by
      intro p hp
      rcases List.mem_append.mp hp with hp | hp
      · exact iha.stays (a.forward text) hps p hp
      · exact ihb.stays (b.forward text) hps p hp
    rw [reach, distinct, mem_unmarked 0 within, List.mem_append, iha ps hps, ihb ps hps]
    simp only [Nat.zero_testBit, and_true, Leads, ← exists_or, ← and_or_left]
  | repeated body least most greedy ih =>
    exact finds_repeatedly ih (body.forward text) least most
  | group index body ih => exact ih

/-- A pattern occurs in a text if it leads from a place of the text anywhere. -/
theorem occursIn_iff (r : Simple) (text : List Char) :
    r.occursIn text = true ↔ ∃ p q, p.In text ∧ r.Leads p q := by
  have places : ∀ p ∈ (placesOf text).toList, p.In text := fun p => (mem_placesOf text p).mp
  rw [occursIn, Bool.not_eq_true', List.isEmpty_eq_false_iff_exists_mem]
  simp only [mem_reach text r _ places, mem_placesOf]
  rw [exists_comm]

end Simple
end AgentManifest.Pattern
