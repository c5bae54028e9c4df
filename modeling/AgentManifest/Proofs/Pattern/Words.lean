import AgentManifest.Proofs.Pattern.Meaning

/-!
# Patterns of words

A pattern that does not ask what stands around it takes words: from any place it leads behind the
words of a set that stand there. `Simple.Takes` states this, with a lemma for each way to build such
a pattern. A pattern between two anchors occurs in a text if it takes the whole of it
(`occursIn_whole_iff`), and one behind an anchor if it takes a part that the text begins with
(`occursIn_begins_iff`).
-/

namespace AgentManifest.Pattern.Simple

/-- Wherever it starts, a pattern leads behind the words of a set. -/
def Takes (r : Simple) (words : List Char → Prop) : Prop :=
  ∀ p rest, (∃ q, r.Leads p q ∧ q.rest = rest) ↔ ∃ w, words w ∧ p.rest = w ++ rest

variable {a b r : Simple} {first second words : List Char → Prop}

/-- The same words in other terms. -/
lemma Takes.congr (h : r.Takes first) (same : ∀ w, first w ↔ second w) : r.Takes second := by
  intro p rest
  rw [h p rest]
  simp only [same]

lemma takes_set (members : CharSet) :
    Takes (.set members) fun w => ∃ c, members.has c = true ∧ w = [c] := by
  intro p rest
  constructor
  · rintro ⟨q, ⟨c, ok, split, -, -⟩, rfl⟩
    exact ⟨[c], ⟨c, ok, rfl⟩, split⟩
  · rintro ⟨w, ⟨c, ok, rfl⟩, split⟩
    exact ⟨⟨some c, rest, p.index + 1⟩, ⟨c, ok, split, rfl, rfl⟩, rfl⟩

lemma takes_char (c : Char) : Takes (.char c) fun w => w = [c] := by
  intro p rest
  constructor
  · rintro ⟨q, ⟨split, -, -⟩, rfl⟩
    exact ⟨[c], rfl, split⟩
  · rintro ⟨w, rfl, split⟩
    exact ⟨⟨some c, rest, p.index + 1⟩, ⟨split, rfl, rfl⟩, rfl⟩

lemma Takes.seq (ha : a.Takes first) (hb : b.Takes second) :
    Takes (.seq a b) fun w => ∃ u v, first u ∧ second v ∧ w = u ++ v := by
  intro p rest
  constructor
  · rintro ⟨q, ⟨m, fst, snd⟩, e⟩
    obtain ⟨v, hv, split⟩ := (hb m rest).mp ⟨q, snd, e⟩
    obtain ⟨u, hu, split'⟩ := (ha p (v ++ rest)).mp ⟨m, fst, split⟩
    exact ⟨u ++ v, ⟨u, v, hu, hv, rfl⟩, by rw [split', List.append_assoc]⟩
  · rintro ⟨w, ⟨u, v, hu, hv, rfl⟩, split⟩
    rw [List.append_assoc] at split
    obtain ⟨m, fst, split'⟩ := (ha p (v ++ rest)).mpr ⟨u, hu, split⟩
    obtain ⟨q, snd, e⟩ := (hb m rest).mpr ⟨v, hv, split'⟩
    exact ⟨q, ⟨m, fst, snd⟩, e⟩

lemma Takes.group {index : Option Nat} (h : r.Takes words) : Takes (.group index r) words := h

/-- A pattern that may be left out. -/
lemma Takes.optional {greedy : Bool} (h : r.Takes words) :
    Takes (.repeated r 0 (some 1) greedy) fun w => w = [] ∨ words w := by
  intro p rest
  constructor
  · rintro ⟨q, ⟨more, bound, run⟩, e⟩
    rw [Nat.zero_add] at run
    have bound : more ≤ 1 := bound 1 rfl
    cases run with
    | zero => exact ⟨[], .inl rfl, e⟩
    | @succ n _ m _ st run =>
      obtain rfl : n = 0 := by omega
      cases run
      obtain ⟨w, hw, split⟩ := (h p rest).mp ⟨q, st, e⟩
      exact ⟨w, .inr hw, split⟩
  · rintro ⟨w, rfl | hw, split⟩
    · exact ⟨p, ⟨0, fun _ _ => Nat.zero_le _, .zero⟩, split⟩
    · obtain ⟨q, st, e⟩ := (h p rest).mpr ⟨w, hw, split⟩
      refine ⟨q, ⟨1, ?_, .succ st .zero⟩, e⟩
      rintro n ⟨⟩
      exact Nat.le_refl 1

/-- So many characters of a set in a row. -/
lemma iterated_set_iff (members : CharSet) (n : Nat) (p : Place) (rest : List Char) :
    (∃ q, Iterated (Leads (.set members)) n p q ∧ q.rest = rest) ↔
      ∃ w : List Char, w.length = n ∧ (∀ c ∈ w, members.has c = true) ∧ p.rest = w ++ rest := by
  induction n generalizing p with
  | zero =>
    constructor
    · rintro ⟨q, run, rfl⟩
      cases run
      exact ⟨[], rfl, by simp, rfl⟩
    · rintro ⟨w, len, -, split⟩
      rw [List.length_eq_zero_iff] at len
      subst len
      exact ⟨p, .zero, split⟩
  | succ n ih =>
    constructor
    · rintro ⟨q, run, e⟩
      cases run with
      | @succ _ _ m _ st run =>
        obtain ⟨c, ok, split, -, -⟩ := st
        obtain ⟨w, len, all, split'⟩ := (ih m).mp ⟨q, run, e⟩
        refine ⟨c :: w, by rw [List.length_cons, len], ?_, by rw [split, split']; rfl⟩
        exact List.forall_mem_cons.mpr ⟨ok, all⟩
    · rintro ⟨w, len, all, split⟩
      cases w with
      | nil => cases len
      | cons c w =>
        obtain ⟨ok, all⟩ := List.forall_mem_cons.mp all
        have len : w.length = n := Nat.succ.inj len
        let m : Place := ⟨some c, w ++ rest, p.index + 1⟩
        have st : Leads (.set members) p m := ⟨c, ok, split, rfl, rfl⟩
        obtain ⟨q, run, e⟩ := (ih m).mpr ⟨w, len, all, rfl⟩
        exact ⟨q, .succ st run, e⟩

/-- One or more characters of a set. -/
lemma takes_some (members : CharSet) (greedy : Bool) :
    Takes (.repeated (.set members) 1 none greedy) fun w =>
      w ≠ [] ∧ ∀ c ∈ w, members.has c = true := by
  intro p rest
  constructor
  · rintro ⟨q, ⟨more, -, run⟩, e⟩
    obtain ⟨w, len, all, split⟩ := (iterated_set_iff members _ p rest).mp ⟨q, run, e⟩
    refine ⟨w, ⟨?_, all⟩, split⟩
    rintro rfl
    rw [List.length_nil] at len
    omega
  · rintro ⟨w, ⟨ne, all⟩, split⟩
    have pos := List.length_pos_iff.mpr ne
    obtain ⟨q, run, e⟩ := (iterated_set_iff members w.length p rest).mpr ⟨w, rfl, all, split⟩
    refine ⟨q, ⟨w.length - 1, nofun, ?_⟩, e⟩
    rwa [show 1 + (w.length - 1) = w.length from by omega]

/-- From any place, a pattern leads on exactly if it takes all that stands behind. -/
def TakesAll (r : Simple) (words : List Char → Prop) : Prop :=
  ∀ p, (∃ q, r.Leads p q) ↔ words p.rest

lemma takesAll_finish : TakesAll (.anchor .finish) fun w => w = [] := by
  intro p
  constructor
  · rintro ⟨q, holds, -⟩
    exact List.isEmpty_iff.mp holds
  · intro e
    exact ⟨p, List.isEmpty_iff.mpr e, rfl⟩

lemma Takes.seqAll (ha : a.Takes first) (hb : b.TakesAll second) :
    TakesAll (.seq a b) fun w => ∃ u v, first u ∧ second v ∧ w = u ++ v := by
  intro p
  constructor
  · rintro ⟨q, m, fst, snd⟩
    obtain ⟨u, hu, split⟩ := (ha p m.rest).mp ⟨m, fst, rfl⟩
    exact ⟨u, m.rest, hu, (hb m).mp ⟨q, snd⟩, split⟩
  · rintro ⟨u, v, hu, hv, split⟩
    obtain ⟨m, fst, rfl⟩ := (ha p v).mpr ⟨u, hu, split⟩
    obtain ⟨q, snd⟩ := (hb m).mpr hv
    exact ⟨q, m, fst, snd⟩

/-- Behind an anchor at the beginning, a pattern occurs in a text if it leads on from there. -/
lemma occursIn_start_iff (r : Simple) (text : List Char) :
    occursIn (.seq (.anchor .start) r) text = true ↔ ∃ q, r.Leads (Place.start text) q := by
  rw [occursIn_iff]
  constructor
  · rintro ⟨p, q, hp, m, ⟨holds, rfl⟩, lead⟩
    have e := hp.eq_start (Option.isNone_iff_eq_none.mp holds)
    exact ⟨q, e ▸ lead⟩
  · rintro ⟨q, lead⟩
    exact ⟨Place.start text, q, Place.start_in text, _, ⟨rfl, rfl⟩, lead⟩

/-- A pattern of words behind an anchor at the beginning occurs in the texts that begin with one of
its words. -/
theorem occursIn_begins_iff (h : r.Takes words) (text : List Char) :
    occursIn (.seq (.anchor .start) r) text = true ↔ ∃ w, words w ∧ w <+: text := by
  rw [occursIn_start_iff]
  constructor
  · rintro ⟨q, lead⟩
    obtain ⟨w, hw, split⟩ := (h _ q.rest).mp ⟨q, lead, rfl⟩
    exact ⟨w, hw, q.rest, split.symm⟩
  · rintro ⟨w, hw, rest, split⟩
    obtain ⟨q, lead, -⟩ := (h (Place.start text) rest).mpr ⟨w, hw, split.symm⟩
    exact ⟨q, lead⟩

/-- A pattern of words between anchors at the beginning and at the end occurs in its words alone. -/
theorem occursIn_whole_iff (h : r.TakesAll words) (text : List Char) :
    occursIn (.seq (.anchor .start) r) text = true ↔ words text := by
  rw [occursIn_start_iff]
  exact h (Place.start text)

end AgentManifest.Pattern.Simple
