import Mathlib.Tactic.Lemma
import AgentManifest.Pattern.Simple

/-!
# Places of a text

A place belongs to a text if the text falls into what stands before the place and what stands
behind it. The places of one text are told apart by their numbers (`Place.In.ext`), so sets of them
can be kept as marks. `mem_unmarked` and `testBit_unmarked` say what marking does to such a set.
-/

namespace AgentManifest.Pattern

/-- A place of a text: the text is cut in two there. -/
def Place.In (text : List Char) (p : Place) : Prop :=
  ∃ done, text = done ++ p.rest ∧ p.before = done.getLast? ∧ p.index = done.length

/-- The next place, behind a given character. -/
def Place.Passes (c : Char) (p q : Place) : Prop :=
  p.rest = c :: q.rest ∧ q.before = some c ∧ q.index = p.index + 1

namespace Place

variable {text : List Char} {p q : Place}

/-- Places of one text with one number are one place. -/
lemma In.ext (hp : p.In text) (hq : q.In text) (e : p.index = q.index) : p = q := by
  obtain ⟨done, split, before, index⟩ := hp
  obtain ⟨done', split', before', index'⟩ := hq
  have parts := List.append_inj (split.symm.trans split') (by omega)
  obtain ⟨rfl, rest⟩ := parts
  cases p; cases q; cases rest; cases before; cases before'; cases e
  rfl

/-- The number of a place and of the characters behind it add up to the length of the text. -/
lemma In.index_add_length (hp : p.In text) : p.index + p.rest.length = text.length := by
  obtain ⟨done, split, -, index⟩ := hp
  rw [split, index, List.length_append]

/-- The next place belongs to the same text. -/
lemma In.passes {c : Char} (hp : p.In text) (pass : p.Passes c q) : q.In text := by
  obtain ⟨done, split, -, index⟩ := hp
  obtain ⟨rest, before, next⟩ := pass
  refine ⟨done ++ [c], ?_, ?_, ?_⟩
  · rw [split, rest, List.append_assoc]; rfl
  · rw [before, List.getLast?_concat]
  · rw [next, index, List.length_append]; rfl

/-- The place at the beginning of a text. -/
def start (text : List Char) : Place := { before := none, rest := text, index := 0 }

lemma start_in (text : List Char) : (start text).In text := ⟨[], rfl, rfl, rfl⟩

/-- A place with nothing before it is the beginning. -/
lemma In.eq_start (hp : p.In text) (h : p.before = none) : p = start text := by
  apply hp.ext (start_in text)
  obtain ⟨done, -, before, index⟩ := hp
  rw [before, List.getLast?_eq_none_iff] at h
  rw [index, h]; rfl

end Place

/-- Listing places goes on behind those that are given. -/
lemma placesFrom_toList (before : Option Char) (index : Nat) (found : Array Place)
    (rest : List Char) :
    (placesFrom before index found rest).toList =
      found.toList ++ (placesFrom before index #[] rest).toList := by
  induction rest generalizing before index found with
  | nil => simp [placesFrom]
  | cons c rest ih =>
    rw [placesFrom, placesFrom, ih, ih (some c) (index + 1) (#[].push _)]
    simp

/-- The places that are listed are those of the text. -/
lemma mem_placesOf (text : List Char) (p : Place) : p ∈ (placesOf text).toList ↔ p.In text := by
  suffices h : ∀ done rest,
      p ∈ (placesFrom done.getLast? done.length #[] rest).toList ↔
        ∃ more, rest = more ++ p.rest ∧ p.before = (done ++ more).getLast? ∧
          p.index = (done ++ more).length by
    exact h [] text
  intro done rest
  induction rest generalizing done with
  | nil =>
    simp only [placesFrom, List.push_toArray, List.nil_append, List.mem_singleton]
    constructor
    · rintro rfl
      exact ⟨[], rfl, by simp, by simp⟩
    · rintro ⟨more, split, before, index⟩
      obtain ⟨rfl, rest⟩ := List.append_eq_nil_iff.mp split.symm
      rw [List.append_nil] at before index
      cases p; cases rest; cases before; cases index
      rfl
  | cons c rest ih =>
    rw [placesFrom, placesFrom_toList, List.mem_append]
    have next := ih (done ++ [c])
    rw [List.getLast?_concat, List.length_append] at next
    rw [show done.length + 1 = done.length + [c].length from rfl, next]
    simp only [List.push_toArray, List.nil_append, List.mem_singleton]
    constructor
    · rintro (rfl | ⟨more, split, before, index⟩)
      · exact ⟨[], rfl, by simp, by simp⟩
      · refine ⟨c :: more, by rw [split]; rfl, ?_, ?_⟩
        · rw [before, List.append_assoc]; rfl
        · rw [index, List.append_assoc]; rfl
    · rintro ⟨more, split, before, index⟩
      cases more with
      | nil =>
        left
        rw [List.append_nil] at before index
        cases p; cases split; cases before; cases index
        rfl
      | cons d more =>
        right
        rw [List.cons_append] at split
        obtain ⟨rfl, behind⟩ := List.cons.inj split
        refine ⟨more, behind, ?_, ?_⟩
        · rw [before, List.append_assoc]; rfl
        · rw [index, List.append_assoc]; rfl

/-! ## Marks -/

/-- Adds a place to those that are found, unless it is marked. -/
def mark (found : List Place × Marks) (p : Place) : List Place × Marks :=
  if found.2.testBit p.index then found else (p :: found.1, found.2 ||| 1 <<< p.index)

lemma unmarked_eq (marks : Marks) (ps : List Place) :
    unmarked marks ps = ps.foldl mark ([], marks) := rfl

/-- One more place marks its own number. -/
lemma testBit_mark (found : List Place × Marks) (p : Place) (i : Nat) :
    (mark found p).2.testBit i = true ↔ found.2.testBit i = true ∨ p.index = i := by
  unfold mark
  by_cases marked : found.2.testBit p.index = true
  · rw [if_pos marked]
    exact (or_iff_left_of_imp fun e => e ▸ marked).symm
  · rw [if_neg marked, Nat.testBit_or, Nat.one_shiftLeft, Nat.testBit_two_pow, Bool.or_eq_true,
      decide_eq_true_eq]

/-- What is marked after some places were. -/
lemma testBit_foldl_mark (found : List Place × Marks) (ps : List Place) (i : Nat) :
    (ps.foldl mark found).2.testBit i = true ↔
      found.2.testBit i = true ∨ ∃ p ∈ ps, p.index = i := by
  induction ps generalizing found with
  | nil => simp
  | cons p ps ih =>
    rw [List.foldl_cons, ih, testBit_mark]
    simp only [List.mem_cons, exists_eq_or_imp]
    exact or_assoc

/-- What is marked after some places of a text were. -/
lemma testBit_unmarked (marks : Marks) (ps : List Place) (i : Nat) :
    (unmarked marks ps).2.testBit i = true ↔ marks.testBit i = true ∨ ∃ p ∈ ps, p.index = i :=
  testBit_foldl_mark ([], marks) ps i

/-- The places of a text that are found after some of its places were marked. -/
lemma mem_foldl_mark {text : List Char} (found : List Place × Marks) {ps : List Place}
    (hps : ∀ p ∈ ps, p.In text) {q : Place} :
    q ∈ (ps.foldl mark found).1 ↔ q ∈ found.1 ∨ q ∈ ps ∧ found.2.testBit q.index = false := by
  induction ps generalizing found with
  | nil => simp
  | cons p ps ih =>
    have hps' : ∀ p ∈ ps, p.In text := fun p hp => hps p (List.mem_cons_of_mem _ hp)
    rw [List.foldl_cons, ih _ hps', mark]
    by_cases marked : found.2.testBit p.index = true
    · rw [if_pos marked, List.mem_cons]
      constructor
      · rintro (h | ⟨hq, clear⟩)
        · exact .inl h
        · exact .inr ⟨.inr hq, clear⟩
      · rintro (h | ⟨rfl | hq, clear⟩)
        · exact .inl h
        · rw [marked] at clear; cases clear
        · exact .inr ⟨hq, clear⟩
    · rw [if_neg marked, Nat.testBit_or, Nat.one_shiftLeft, Nat.testBit_two_pow]
      simp only [Bool.or_eq_false_iff, decide_eq_false_iff_not, List.mem_cons]
      constructor
      · rintro ((rfl | h) | ⟨hq, clear, -⟩)
        · exact .inr ⟨.inl rfl, by simpa using marked⟩
        · exact .inl h
        · exact .inr ⟨.inr hq, clear⟩
      · rintro (h | ⟨rfl | hq, clear⟩)
        · exact .inl (.inr h)
        · exact .inl (.inl rfl)
        · by_cases e : p.index = q.index
          · have same := (hps p List.mem_cons_self).ext (hps' q hq) e
            exact .inl (.inl same.symm)
          · exact .inr ⟨hq, clear, e⟩

/-- The places of a text that were not marked before. -/
lemma mem_unmarked {text : List Char} (marks : Marks) {ps : List Place}
    (hps : ∀ p ∈ ps, p.In text) {q : Place} :
    q ∈ (unmarked marks ps).1 ↔ q ∈ ps ∧ marks.testBit q.index = false := by
  rw [unmarked_eq, mem_foldl_mark ([], marks) hps]
  simp

end AgentManifest.Pattern
