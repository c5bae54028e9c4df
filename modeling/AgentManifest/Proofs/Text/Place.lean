import Mathlib.Data.List.DropRight
import Mathlib.Tactic.Lemma
import AgentManifest.Proofs.Text.Utf8
import AgentManifest.Text.Character

/-!
# Places by bytes

A place in a text is known by the bytes in front of it: its line counts the line feeds among them,
and its column the bytes behind the last of these. So it lies on a line of the text, and not behind
the end of that line.
-/

namespace AgentManifest.Text

/-! ## Numbers of bytes -/

lemma byteLength_append (s t : List Char) : byteLength (s ++ t) = byteLength s + byteLength t := by
  have hfrom (n : Nat) : t.foldl (fun n c => n + c.utf8Size) n = n + byteLength t := by
    induction t generalizing n with
    | nil => rfl
    | cons c t ih =>
      simp only [byteLength, List.foldl_cons] at ih ⊢
      rw [ih (n + c.utf8Size), ih (0 + c.utf8Size)]
      omega
  rw [byteLength, List.foldl_append, hfrom]
  rfl

lemma byteLength_cons (c : Char) (s : List Char) :
    byteLength (c :: s) = c.utf8Size + byteLength s := by
  have hsingle : byteLength [c] = c.utf8Size := Nat.zero_add _
  rw [← List.singleton_append, byteLength_append, hsingle]

lemma length_encodeChar (c : Char) : (encodeChar c).length = c.utf8Size := by
  have hval : c.val.toNat = c.toNat := rfl
  simp only [encodeChar, Char.utf8Size, UInt32.le_iff_toNat_le, UInt32.toNat_ofNatLT, hval]
  split_ifs <;> first | rfl | omega

lemma length_encode (s : List Char) : (encode s).length = byteLength s := by
  induction s with
  | nil => rfl
  | cons c s ih =>
    rw [encode, List.flatMap_cons, List.length_append, length_encodeChar, ← encode, ih,
      byteLength_cons]

/-! ## From byte to byte -/

/-- The byte that ends a line. -/
def lineFeed : UInt8 := 0x0A

lemma lineFeed_not_mem_encodeChar {c : Char} (hc : c ≠ '\n') : lineFeed ∉ encodeChar c :=
  fun h => hc (eq_of_mem_encodeChar (c := '\n') (by decide) h).symm

/-- The bytes behind the last line feed. -/
def lastLine (bytes : Bytes) : Bytes := bytes.rtakeWhile (· ≠ lineFeed)

lemma lastLine_concat (bytes : Bytes) (b : UInt8) :
    lastLine (bytes ++ [b]) = if b = lineFeed then [] else lastLine bytes ++ [b] := by
  rw [lastLine, List.rtakeWhile_concat, ← lastLine]
  by_cases hb : b = lineFeed <;> simp [hb]

namespace Place

/-- The place behind one more byte. -/
def step (p : Place) (b : UInt8) : Place :=
  if b = lineFeed then { line := p.line + 1, column := 0 } else { p with column := p.column + 1 }

lemma foldl_step_of_not_mem {bytes : Bytes} (h : lineFeed ∉ bytes) (p : Place) :
    bytes.foldl step p = { p with column := p.column + bytes.length } := by
  induction bytes generalizing p with
  | nil => rfl
  | cons b bytes ih =>
    obtain ⟨hb, hbytes⟩ := not_or.mp (List.mem_cons.not.mp h)
    rw [List.foldl_cons, step, if_neg (Ne.symm hb), ih hbytes, List.length_cons, Nat.add_right_comm,
      Nat.add_assoc]

/-- A number of bytes leads to the same place as the bytes one by one. -/
lemma advance_eq (p : Place) (s : List Char) (n : Nat) :
    p.advance s n = ((encode s).take n).foldl step p := by
  induction s generalizing p n with
  | nil => rw [encode, List.flatMap_nil, List.take_nil, List.foldl_nil, advance]
  | cons c s ih =>
    have hencode : encode (c :: s) = encodeChar c ++ encode s := List.flatMap_cons
    rw [advance, hencode]
    split
    case isTrue hn => rw [hn, List.take_zero, List.foldl_nil]
    case isFalse hn =>
      split
      case isTrue hc =>
        obtain ⟨n, rfl⟩ := Nat.exists_eq_succ_of_ne_zero hn
        rw [hc, ih]
        rfl
      case isFalse hc =>
        have hbytes := lineFeed_not_mem_encodeChar hc
        -- the number may end inside the character, where the bytes in front of the end count
        split
        case isTrue hle =>
          rw [← length_encodeChar] at hle
          have hpart : lineFeed ∉ (encodeChar c).take n := fun h => hbytes (List.mem_of_mem_take h)
          rw [List.take_append_of_le_length hle, foldl_step_of_not_mem hpart, List.length_take,
            Nat.min_eq_left hle]
        case isFalse hgt =>
          rw [← length_encodeChar] at hgt ⊢
          rw [ih, List.take_append, List.take_of_length_le (Nat.le_of_not_le hgt),
            List.foldl_append, foldl_step_of_not_mem hbytes]

lemma foldl_step_start (bytes : Bytes) : bytes.foldl step start =
    { line := 1 + bytes.count lineFeed, column := (lastLine bytes).length } := by
  induction bytes using List.reverseRecOn with
  | nil => rfl
  | append_singleton bytes b ih =>
    rw [List.foldl_append, ih, List.foldl_cons, List.foldl_nil, step, List.count_append,
      lastLine_concat]
    by_cases hb : b = lineFeed
    · simp [hb, Nat.add_assoc]
    · simp [hb]

/-- The place after some bytes of a text, by what the bytes are. -/
lemma start_advance (s : List Char) (n : Nat) : start.advance s n =
    { line := 1 + ((encode s).take n).count lineFeed,
      column := (lastLine ((encode s).take n)).length } := by
  rw [advance_eq, foldl_step_start]

end Place

/-! ## Lines -/

lemma lastLine_cons {b : UInt8} {bytes : Bytes} (h : lineFeed ∈ bytes) :
    lastLine (b :: bytes) = lastLine bytes := by
  have hshort : (bytes.reverse.takeWhile (· ≠ lineFeed)).length ≠ bytes.reverse.length := by
    intro hlength
    have hall := List.takeWhile_eq_self_iff.mp
      ((List.takeWhile_prefix (· ≠ lineFeed)).eq_of_length hlength)
    simpa using hall lineFeed (List.mem_reverse.mpr h)
  rw [lastLine, List.rtakeWhile, List.reverse_cons, List.takeWhile_append, if_neg hshort]
  rfl

lemma lastLine_cons_lineFeed (bytes : Bytes) : lastLine (lineFeed :: bytes) = lastLine bytes := by
  rw [lastLine, lastLine, List.rtakeWhile, List.rtakeWhile, List.reverse_cons,
    List.takeWhile_append]
  split
  case isTrue hlength =>
    rw [(List.takeWhile_prefix _).eq_of_length hlength]
    simp
  case isFalse => rfl

lemma lastLine_eq_self {bytes : Bytes} (h : lineFeed ∉ bytes) : lastLine bytes = bytes := by
  rw [lastLine, List.rtakeWhile_eq_self_iff]
  intro b hb
  simpa using fun heq : b = lineFeed => h (heq ▸ hb)

/-- What stands behind the last line feed of some bytes starts the line on which they end. -/
lemma exists_line (front behind : Bytes) :
    ∃ line, ((front ++ behind).splitOn lineFeed)[front.count lineFeed]? = some line ∧
      lastLine front <+: line := by
  rw [List.splitOn_eq_splitOnP]
  induction front with
  | nil =>
    obtain ⟨line, lines, hlines⟩ := List.exists_cons_of_ne_nil
      (List.splitOnP_ne_nil (· == lineFeed) behind)
    exact ⟨line, by rw [List.nil_append, hlines]; rfl, List.nil_prefix⟩
  | cons b front ih =>
    obtain ⟨line, hline, hprefix⟩ := ih
    rw [List.cons_append, List.splitOnP_cons_eq_if_modifyHead]
    by_cases hb : b = lineFeed
    · subst hb
      rw [if_pos (beq_self_eq_true _), List.count_cons_self, List.getElem?_cons_succ,
        lastLine_cons_lineFeed]
      exact ⟨line, hline, hprefix⟩
    · rw [if_neg (by simpa using hb), List.count_cons_of_ne hb, List.getElem?_modifyHead, hline]
      by_cases hfront : lineFeed ∈ front
      · have hpos : front.count lineFeed ≠ 0 := (List.count_pos_iff.mpr hfront).ne'
        rw [if_neg hpos, lastLine_cons hfront]
        exact ⟨line, rfl, hprefix⟩
      · have hzero : front.count lineFeed = 0 := List.count_eq_zero_of_not_mem hfront
        have hwhole : lineFeed ∉ b :: front := 
          List.not_mem_cons_of_ne_of_not_mem (Ne.symm hb) hfront
        rw [lastLine_eq_self hfront] at hprefix
        rw [if_pos hzero, lastLine_eq_self hwhole]
        exact ⟨b :: line, rfl, List.cons_prefix_cons.mpr ⟨rfl, hprefix⟩⟩

/-- A line and a column of a text, as they are reached after some of its bytes: the line counts the
line feeds among these, and the column the bytes behind the last of them. -/
structure PointsInto (s : List Char) (line column : Nat) : Prop where
  reached : ∃ n ≤ (encode s).length, line = 1 + ((encode s).take n).count lineFeed ∧
    column = (lastLine ((encode s).take n)).length
  positive : 1 ≤ line
  /-- The line is one of the text, and the column is not behind its end. -/
  onLine : ∃ l, ((encode s).splitOn lineFeed)[line - 1]? = some l ∧ column ≤ l.length

/-- After no more bytes than it has, a place in the text is reached. -/
lemma Place.pointsInto_advance {s : List Char} {n : Nat} (hn : n ≤ (encode s).length) :
    PointsInto s (start.advance s n).line (start.advance s n).column := by
  rw [start_advance]
  refine ⟨⟨n, hn, rfl, rfl⟩, Nat.le_add_right 1 _, ?_⟩
  obtain ⟨l, hl, hprefix⟩ := exists_line ((encode s).take n) ((encode s).drop n)
  rw [List.take_append_drop] at hl
  refine ⟨l, ?_, hprefix.length_le⟩
  rwa [Nat.add_sub_cancel_left]

end AgentManifest.Text
