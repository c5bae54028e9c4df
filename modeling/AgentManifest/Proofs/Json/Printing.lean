import AgentManifest.Proofs.Decimal.Digits
import AgentManifest.Proofs.Json.Layout

/-!
# What JSON is written in

Both written forms of a value are free of control characters, except for the line breaks of the
indented one: in a string they are escaped, and nowhere else is there any. So the compact form
stands on one line.
-/

namespace AgentManifest.Json

/-- A text without control characters, except for some that lay it out. -/
def IsPrinted (layout s : List Char) : Prop := ∀ c ∈ s, c ∈ layout ∨ 0x20 ≤ c.toNat

namespace IsPrinted

variable {c : Char} {layout s t : List Char}

@[simp] lemma nil : IsPrinted layout [] := List.forall_mem_nil _

@[simp] lemma cons_iff :
    IsPrinted layout (c :: s) ↔ (c ∈ layout ∨ 0x20 ≤ c.toNat) ∧ IsPrinted layout s :=
  List.forall_mem_cons

@[simp] lemma append_iff :
    IsPrinted layout (s ++ t) ↔ IsPrinted layout s ∧ IsPrinted layout t :=
  List.forall_mem_append

/-- Blanks between tokens. -/
lemma of_isBlankText (h : IsBlankText s) : IsPrinted ['\n'] s := by
  intro c hc
  rcases h c hc with rfl | rfl
  · exact .inr (by decide)
  · exact .inl (List.mem_singleton_self _)

/-- Decimal digits. -/
lemma of_isDigit (h : ∀ c ∈ s, c.isDigit = true) : IsPrinted layout s := by
  intro c hc
  have digit := h c hc
  rw [Char.isDigit, Bool.and_eq_true, decide_eq_true_eq] at digit
  have low : '0'.toNat ≤ c.toNat := digit.1
  exact .inr (Nat.le_trans (by decide) low)

lemma of_subset (h : IsPrinted layout t) (hs : s ⊆ t) : IsPrinted layout s :=
  fun c hc => h c (hs hc)

/-- A control character that is not for the layout does not occur. -/
lemma not_mem (h : IsPrinted layout s) (hlayout : c ∉ layout) (hc : c.toNat < 0x20) : c ∉ s := by
  intro hmem
  rcases h c hmem with hin | hle
  · exact hlayout hin
  · exact absurd hc (Nat.not_lt_of_le hle)

end IsPrinted

/-! ## Numbers -/

open Decimal (Binary64 Digits digitChar natText intText shortest)

variable {layout : List Char}

@[simp] lemma isPrinted_natText (n : Nat) : IsPrinted layout (natText n) :=
  .of_isDigit fun _ hc => Decimal.isDigit_of_mem_natText hc

@[simp] lemma isPrinted_intText (n : Int) : IsPrinted layout (intText n) := by
  rw [intText]
  split <;> simp

/-- The digits of a double are decimal digits. -/
lemma digit_shortest_lt {m : Nat} {q : Int} : ∀ d ∈ (shortest m q).digits, d < 10 := by
  have search (i : Decimal.RoundingInterval) (num den : Nat) (p : Int) (fuel n : Nat) :
      ∀ d ∈ (shortest.go i num den p fuel n).digits, d < 10 := by
    induction fuel generalizing n with
    | zero => exact List.forall_mem_nil _
    | succ fuel ih =>
      rw [shortest.go]
      split
      case h_1 c _ =>
        intro d hd
        have reversed := (List.dropWhile_sublist _).subset (List.mem_reverse.mp hd)
        exact Decimal.digit_lt_ten (List.mem_reverse.mp reversed)
      case h_2 => exact ih (n + 1)
  exact search _ _ _ _ _ _

/-- A decimal is written in digits, with a point, an exponent and signs. -/
lemma isPrinted_digits {ds : Digits} (h : ∀ d ∈ ds.digits, d < 10) (style : Decimal.Style) :
    IsPrinted layout (ds.write style) := by
  have digits : IsPrinted layout (ds.digits.map digitChar) := by
    refine .of_isDigit ?_
    rw [List.forall_mem_map]
    exact fun d hd => Decimal.isDigit_digitChar (h d hd)
  have zeros (n : Nat) : IsPrinted layout (List.replicate n '0') := by
    refine .of_isDigit fun c hc => ?_
    rw [List.eq_of_mem_replicate hc]
    rfl
  have positional (keepsPoint : Bool) : IsPrinted layout (ds.positional keepsPoint) := by
    have low := digits.of_subset (List.take_subset ds.point.toNat _)
    have high := digits.of_subset (List.drop_subset ds.point.toNat _)
    unfold Digits.positional
    dsimp only
    split_ifs <;> simp [digits, zeros, low, high]
  have scientific (plusSign : Bool) : IsPrinted layout (ds.scientific plusSign) := by
    have sign : IsPrinted layout (if plusSign && decide (0 ≤ ds.point - 1) then ['+'] else []) := by
      split <;> simp
    unfold Digits.scientific
    generalize ds.digits.map digitChar = cs at digits
    dsimp only
    rw [IsPrinted.append_iff, IsPrinted.append_iff, IsPrinted.cons_iff]
    refine ⟨⟨?_, .inr (by decide), sign⟩, isPrinted_intText _⟩
    split <;> simp_all
  rw [Digits.write]
  split
  case h_1 => exact positional _
  case h_2 =>
    split
    case isTrue => exact positional _
    case isFalse => exact scientific _

/-- A double, in a style that spells out what is no number. -/
lemma isPrinted_double {style : Decimal.Style} (hnan : IsPrinted layout style.notANumber.toList)
    (hinfinity : IsPrinted layout style.infinity.toList) (x : Binary64) :
    IsPrinted layout (x.write style) := by
  cases x with
  | nan => exact hnan
  | infinite s => cases s <;> simp [Binary64.write, hinfinity]
  | finite s m q =>
    have digits : IsPrinted layout ((shortest m q).write style) :=
      isPrinted_digits digit_shortest_lt style
    rw [Binary64.write]
    by_cases hm : m = 0
    · cases s <;> cases style.keepsPoint <;> simp [hm]
    · cases s <;> simp [hm, digits]

lemma isPrinted_number (n : Number) : IsPrinted layout n.write := by
  cases n with
  | int n => exact isPrinted_intText n
  | float x =>
    exact isPrinted_double (by simp [Decimal.Style.json]) (by simp [Decimal.Style.json]) x

/-! ## Strings -/

lemma le_toNat_hexDigit {n : Nat} (h : n < 16) : 0x20 ≤ (hexDigit n).toNat := by
  revert n
  decide

/-- A control character is escaped. -/
lemma isPrinted_escape (c : Char) : IsPrinted layout (escape c) := by
  have digits (h : c.toNat < 0x20) :
      0x20 ≤ (hexDigit (c.toNat / 16)).toNat ∧ 0x20 ≤ (hexDigit (c.toNat % 16)).toNat :=
    ⟨le_toNat_hexDigit (Nat.div_lt_of_lt_mul (h.trans (by decide))),
      le_toNat_hexDigit (Nat.mod_lt _ (by decide))⟩
  unfold escape
  split_ifs <;> simp_all

@[simp] lemma isPrinted_quote (s : String) : IsPrinted layout (quote s) := by
  have body : IsPrinted layout (s.toList.flatMap escape) := by
    intro c hc
    obtain ⟨ch, -, hch⟩ := List.mem_flatMap.mp hc
    exact isPrinted_escape ch c hch
  simp [quote, body]

/-! ## Values -/

namespace Layout

mutual

/-- The written form of a value, in any layout. -/
theorem isPrinted_write {l : Layout} (hbreak : ∀ depth, IsPrinted layout (l.lineBreak depth))
    (hgap : IsPrinted layout l.gap) :
    ∀ (depth : Nat) (v : Value), IsPrinted layout (l.write depth v)
  | _, .null => by simp [write, Value.write]
  | _, .bool true => by simp [write, Value.write]
  | _, .bool false => by simp [write, Value.write]
  | _, .number n => isPrinted_number n
  | _, .string s => isPrinted_quote s
  | _, .array [] => by simp [write]
  | depth, .array (v :: vs) => by
    simp [write, hbreak, isPrinted_write hbreak hgap (depth + 1) v,
      isPrinted_writeItems hbreak hgap depth vs]
  | _, .object [] => by simp [write]
  | depth, .object ((k, v) :: ms) => by
    simp [write, hbreak, hgap, isPrinted_write hbreak hgap (depth + 1) v,
      isPrinted_writeMembers hbreak hgap depth ms]

theorem isPrinted_writeItems {l : Layout} (hbreak : ∀ depth, IsPrinted layout (l.lineBreak depth))
    (hgap : IsPrinted layout l.gap) :
    ∀ (depth : Nat) (vs : List Value), IsPrinted layout (l.writeItems depth vs)
  | depth, [] => by simp [writeItems, hbreak]
  | depth, v :: vs => by
    simp [writeItems, hbreak, isPrinted_write hbreak hgap (depth + 1) v,
      isPrinted_writeItems hbreak hgap depth vs]

theorem isPrinted_writeMembers {l : Layout}
    (hbreak : ∀ depth, IsPrinted layout (l.lineBreak depth)) (hgap : IsPrinted layout l.gap) :
    ∀ (depth : Nat) (ms : List (String × Value)), IsPrinted layout (l.writeMembers depth ms)
  | depth, [] => by simp [writeMembers, hbreak]
  | depth, (k, v) :: ms => by
    simp [writeMembers, hbreak, hgap, isPrinted_write hbreak hgap (depth + 1) v,
      isPrinted_writeMembers hbreak hgap depth ms]

end

end Layout

/-- There are no line breaks in the compact form. -/
lemma isPrinted_compact (v : Value) : IsPrinted [] v.compact.toList := by
  rw [Value.compact, String.toList_ofList, ← Layout.write_compact 0]
  exact Layout.isPrinted_write (fun _ => .nil) .nil 0 v

lemma isPrinted_pretty (v : Value) : IsPrinted ['\n'] v.pretty.toList := by
  rw [Value.pretty, String.toList_ofList, ← Layout.write_indented 0]
  have hbreak (depth : Nat) : IsPrinted ['\n'] (Layout.indented.lineBreak depth) :=
    .of_isBlankText (Layout.indented.lineBreak_blank depth)
  exact Layout.isPrinted_write hbreak (.of_isBlankText Layout.indented.gap_blank) 0 v

end AgentManifest.Json
