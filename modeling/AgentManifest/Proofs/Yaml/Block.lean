import AgentManifest.Proofs.Yaml.Flow
import AgentManifest.Yaml.Token.Block

/-!
# Scalars in block collections

The lines of a literal scalar are read as they stand, whatever they would mean elsewhere: all that
is looked for in them is where they end, and how far the first of them is indented. A word at the
end of a line is a plain scalar up to there if the next line is not indented further.
-/

namespace AgentManifest.Yaml

variable {c : Cursor} {start : Mark} {ch : Char} {rest seen breaks : List Char}
variable {fuel n widest : Nat}

/-! ## Line breaks -/

/-- A line feed ends a line. -/
lemma Cursor.readBreak?_lineFeed (h : c.rest = '\n' :: rest) :
    c.readBreak? = some ('\n', { rest, mark := nextLine c.mark 1 }) := by
  unfold readBreak?
  rw [h]
  rfl

lemma Cursor.skipBreak_lineFeed (h : c.rest = '\n' :: rest) :
    c.skipBreak = { rest, mark := nextLine c.mark 1 } := by
  rw [skipBreak, readBreak?_lineFeed h]

/-! ## Lines -/

/-- A line of printable characters of ASCII that does not start with a space. -/
def IsPrintedLine (line : List Char) : Prop :=
  line ≠ [] ∧ line.head? ≠ some ' ' ∧ ∀ ch ∈ line, 0x20 ≤ ch.toNat ∧ ch.toNat ≤ 0x7E

instance (line : List Char) : Decidable (IsPrintedLine line) :=
  decidable_of_iff (line ≠ [] ∧ line.head? ≠ some ' ' ∧
      line.all (fun ch => 0x20 ≤ ch.toNat ∧ ch.toNat ≤ 0x7E) = true) <| by
    simp only [IsPrintedLine, List.all_eq_true, decide_eq_true_eq]

/-- Lines that are indented by some spaces, with a line feed at the end of each. -/
def indented (n : Nat) (lines : List (List Char)) : List Char :=
  lines.flatMap fun line => List.replicate n ' ' ++ (line ++ ['\n'])

lemma indented_cons (n : Nat) (line : List Char) (lines : List (List Char)) :
    indented n (line :: lines) =
      List.replicate n ' ' ++ (line ++ '\n' :: indented n lines) := by
  simp [indented]

lemma length_le_indented (n : Nat) (lines : List (List Char)) :
    lines.length ≤ (indented n lines).length := by
  induction lines with
  | nil => exact Nat.zero_le _
  | cons line lines ih =>
    rw [indented_cons, List.length_append, List.length_append, List.length_cons, List.length_cons]
    omega

/-- Each line has one line feed, at its end. -/
lemma count_indented (n : Nat) {lines : List (List Char)}
    (hlines : ∀ line ∈ lines, IsPrintedLine line) :
    (indented n lines).count '\n' = lines.length := by
  induction lines with
  | nil => rfl
  | cons line lines ih =>
    obtain ⟨hline, hlines⟩ := List.forall_mem_cons.mp hlines
    have hnone : line.count '\n' = 0 :=
      List.count_eq_zero.mpr fun hmem => absurd (hline.2.2 '\n' hmem).1 (by decide)
    have hspaces : (List.replicate n ' ').count '\n' = 0 :=
      List.count_eq_zero.mpr fun hmem => absurd (List.eq_of_mem_replicate hmem) (by decide)
    rw [indented_cons, List.count_append, List.count_append, List.count_cons_self, hspaces, hnone,
      ih hlines, List.length_cons, Nat.zero_add, Nat.zero_add]

namespace IsPrintedLine

variable {line : List Char}

lemma isBreak_eq_false (h : IsPrintedLine line) : ∀ c ∈ line, isBreak c = false := by
  intro c hc
  rw [← Bool.not_eq_true]
  intro hbreak
  have hrange := h.2.2 c hc
  simp only [isBreak, Bool.or_eq_true, beq_iff_eq] at hbreak
  rcases hbreak with (((rfl | rfl) | rfl) | rfl) | rfl <;> revert hrange <;> decide

/-- A line starts with a character that is neither a blank nor a line break. -/
lemma exists_eq_cons (h : IsPrintedLine line) :
    ∃ ch cs, line = ch :: cs ∧ isBlank ch = false ∧ isBreak ch = false := by
  cases line with
  | nil => exact absurd rfl h.1
  | cons ch cs =>
    refine ⟨ch, cs, rfl, ?_, h.isBreak_eq_false ch List.mem_cons_self⟩
    have hspace : ch ≠ ' ' := fun heq => h.2.1 (congrArg some heq)
    have htab : ch ≠ '\t' := fun heq =>
      absurd (heq ▸ (h.2.2 ch List.mem_cons_self).1) (by decide)
    simp [isBlank, hspace, htab]

lemma takeWhile_eq (h : IsPrintedLine line) (rest : List Char) :
    (line ++ '\n' :: rest).takeWhile (fun ch => !isBreak ch) = line := by
  have hline : ∀ ch ∈ line, (!isBreak ch) = true := by
    intro ch hch
    rw [h.isBreak_eq_false ch hch]
    rfl
  rw [List.takeWhile_append_of_pos hline]
  exact List.append_nil line

end IsPrintedLine

/-! ## Indentation -/

lemma takeWhile_replicate (n : Nat) (hch : ch ≠ ' ') :
    (List.replicate n ' ' ++ ch :: rest).takeWhile (· == ' ') = List.replicate n ' ' := by
  have hspaces : ∀ c ∈ List.replicate n ' ', (c == ' ') = true := by
    intro c hc
    rw [List.eq_of_mem_replicate hc]
    rfl
  rw [List.takeWhile_append_of_pos hspaces, List.takeWhile_cons_of_neg (by simp [hch]),
    List.append_nil]

/-- As long as the indentation is not known, all spaces belong to it. -/
lemma skipIndentation_none (hch : ch ≠ ' ')
    (h : c.rest = List.replicate n ' ' ++ ch :: rest) : skipIndentation none c = c.skip n := by
  rw [skipIndentation, Cursor.skipWhile, h, takeWhile_replicate n hch, List.length_replicate]

/-- An indentation that is known is skipped at the start of a line. -/
lemma skipIndentation_some (hcolumn : c.mark.column = 0)
    (h : c.rest = List.replicate n ' ' ++ rest) : skipIndentation (some n) c = c.skip n := by
  have htake : c.rest.take (n - c.mark.column) = List.replicate n ' ' := by
    rw [h, hcolumn, Nat.sub_zero, List.take_append_of_le_length (by simp), List.take_of_length_le]
    simp
  have hall : (List.replicate n ' ').takeWhile (· == ' ') = List.replicate n ' ' := by
    simp
  rw [skipIndentation, htake, hall, List.length_replicate]

/-- There is no empty line in front of a line with content. -/
lemma readEmptyLines_content {indent : Option Nat} {c' : Cursor}
    (hskip : skipIndentation indent c = c') (hrest : c'.rest = ch :: rest)
    (hblank : isBlank ch = false) (hbreak : isBreak ch = false) :
    readEmptyLines indent start (fuel + 1) breaks widest c =
      .ok (breaks, max widest c'.mark.column, c') := by
  have htab : c'.isAt 0 '\t' = false := by
    rw [Cursor.isAt, Cursor.ahead?, hrest, List.getElem?_cons_zero, beq_eq_false_iff_ne]
    intro heq
    rw [Option.some.inj heq] at hblank
    cases hblank
  rw [readEmptyLines, hskip]
  simp only [htab, Bool.and_false, Bool.false_eq_true, if_false,
    Cursor.readBreak?_eq_none hrest hbreak]

/-- There is no empty line at the end of the text. -/
lemma readEmptyLines_end (h : c.rest = []) :
    readEmptyLines (some n) start (fuel + 1) breaks widest c =
      .ok (breaks, max widest c.mark.column, c) := by
  have hskip : skipIndentation (some n) c = c := by
    rw [skipIndentation, h, List.take_nil]
    exact Cursor.skip_zero c
  have htab : c.isAt 0 '\t' = false := by
    rw [Cursor.isAt, Cursor.ahead?, h]
    rfl
  have hbreak : c.readBreak? = none := by
    unfold Cursor.readBreak?
    rw [h]
  rw [readEmptyLines, hskip]
  simp only [htab, Bool.and_false, Bool.false_eq_true, if_false, hbreak]

/-! ## Literal scalars -/

/-- A line of a literal scalar is read to its end, behind the break of the line before. -/
lemma readLines_line {line breaks' : List Char} {leading : Option Char} {before : Bool} {c' : Cursor}
    (hline : IsPrintedLine line) (hcolumn : c.mark.column = n)
    (h : c.rest = line ++ '\n' :: rest)
    (hbelow : readEmptyLines (some n) start (rest.length + 1) [] 0
      { rest, mark := Cursor.nextLine (c.skip line.length).mark 1 } = .ok (breaks', widest, c')) :
    readLines false n start (fuel + 1) seen leading [] before c =
      readLines false n start fuel (line.reverse ++ (leading.toList ++ seen)) (some '\n') breaks'
        false c' := by
  obtain ⟨ch, cs, rfl, hblank, -⟩ := hline.exists_eq_cons
  have hempty : ¬(c.mark.column ≠ n ∨ c.rest.isEmpty = true) := by
    rw [h, hcolumn]
    simp
  have hhere : c.check 0 isBlank = false := by
    rw [Cursor.check, Cursor.ahead?, h]
    exact hblank
  have hjoin : (joinLines false leading [] before false).reverse = leading.toList := by
    cases leading <;> rfl
  have hbreak := Cursor.readBreak?_lineFeed (Cursor.rest_skip (ch :: cs) h)
  rw [readLines, if_neg hempty]
  simp only [hhere, hjoin, h, hline.takeWhile_eq, hbreak, hbelow]

/-- The lines of a literal scalar are read up to the end of the text. -/
lemma readLines_lines {line : List Char} {lines : List (List Char)} {leading : Option Char}
    {before : Bool} (hline : IsPrintedLine line)
    (hlines : ∀ line ∈ lines, IsPrintedLine line) (hcolumn : c.mark.column = n)
    (h : c.rest = line ++ '\n' :: indented n lines) (hfuel : lines.length + 1 < fuel) :
    ∃ text c', readLines false n start fuel seen leading [] before c =
        .ok (text, some '\n', [], c') ∧
      '\n' :: text = (indented 0 (line :: lines)).reverse ++ (leading.toList ++ seen) ∧
      c'.rest = [] ∧ c'.mark.column = 0 := by
  induction lines generalizing line c seen leading before fuel with
  | nil =>
    obtain ⟨fuel, rfl⟩ := Nat.exists_eq_add_of_le' (show 2 ≤ fuel from hfuel)
    let last : Cursor := { rest := [], mark := Cursor.nextLine (c.skip line.length).mark 1 }
    refine ⟨line.reverse ++ (leading.toList ++ seen), last, ?_, ?_, rfl, rfl⟩
    · have hend : readEmptyLines (some n) start (0 + 1) [] 0 last = .ok ([], max 0 0, last) :=
        readEmptyLines_end rfl
      have hstop : last.mark.column ≠ n ∨ last.rest.isEmpty = true := .inr rfl
      rw [readLines_line hline hcolumn h hend]
      simp only [readLines, if_pos hstop]
    · simp [indented]
  | cons next lines ih =>
    obtain ⟨fuel, rfl⟩ := Nat.exists_eq_add_of_le' (Nat.le_trans (Nat.le_add_left 1 _) hfuel)
    obtain ⟨hnext, hlines⟩ := List.forall_mem_cons.mp hlines
    obtain ⟨ch, cs, hcons, hblank, hbreak⟩ := hnext.exists_eq_cons
    let below : Cursor :=
      { rest := indented n (next :: lines), mark := Cursor.nextLine (c.skip line.length).mark 1 }
    have hspaces : below.rest = List.replicate n ' ' ++ (next ++ '\n' :: indented n lines) :=
      indented_cons n next lines
    have hrest : (below.skip n).rest = next ++ '\n' :: indented n lines :=
      Cursor.rest_skip_replicate hspaces
    have hcolumn' : (below.skip n).mark.column = n := Nat.zero_add n
    have hcontent : (below.skip n).rest = ch :: (cs ++ '\n' :: indented n lines) := by
      rw [hrest, hcons]
      rfl
    have hempty : readEmptyLines (some n) start (below.rest.length + 1) [] 0 below =
        .ok ([], max 0 (below.skip n).mark.column, below.skip n) :=
      readEmptyLines_content (skipIndentation_some rfl hspaces) hcontent hblank hbreak
    obtain ⟨text, c', hread, htext, hend⟩ : ∃ text c', readLines false n start fuel
        (line.reverse ++ (leading.toList ++ seen)) (some '\n') [] false (below.skip n) =
          .ok (text, some '\n', [], c') ∧ _ :=
      ih hnext hlines hcolumn' hrest (Nat.lt_of_succ_lt_succ hfuel)
    refine ⟨text, c', ?_, ?_, hend⟩
    · rw [readLines_line hline hcolumn h hempty, ← hread]
    · rw [htext]
      simp [indented]

/-- A literal scalar is read to the end of the text: its lines without their indentation, with one
line feed at the end of each. -/
lemma readBlockScalar_literal {lines : List (List Char)} {parent : Int} (hne : lines ≠ [])
    (hlines : ∀ line ∈ lines, IsPrintedLine line) (hn : 0 < n) (hparent : parent < n)
    (h : c.rest = '|' :: '\n' :: indented n lines) :
    ∃ c', readBlockScalar false parent c = .ok (indented 0 lines, c') ∧ c'.rest = [] ∧
      c'.mark.column = 0 := by
  cases lines with
  | nil => exact absurd rfl hne
  | cons line lines =>
    obtain ⟨hline, hlines⟩ := List.forall_mem_cons.mp hlines
    obtain ⟨ch, cs, hcons, hblank, hbreak⟩ := hline.exists_eq_cons
    -- the header says nothing of the indentation, so that the first line decides it
    have hheader : c.skip.rest = '\n' :: indented n (line :: lines) := Cursor.rest_skip ['|'] h
    let first : Cursor :=
      { rest := indented n (line :: lines), mark := Cursor.nextLine c.skip.mark 1 }
    have hspaces : first.rest = List.replicate n ' ' ++ (line ++ '\n' :: indented n lines) :=
      indented_cons n line lines
    have hrest : (first.skip n).rest = line ++ '\n' :: indented n lines :=
      Cursor.rest_skip_replicate hspaces
    have hcolumn : (first.skip n).mark.column = n := Nat.zero_add n
    have hindicators : readIndicators c.mark c.skip = .ok (.clip, none, c.skip) := by
      simp [readIndicators, readChomping, readIncrement, Cursor.head?, hheader, Chomping.ofChar?]
    have hblanks : c.skip.skipWhile isBlank = c.skip := by
      rw [Cursor.skipWhile, hheader]
      rfl
    have hcomment : c.skip.skipComment = c.skip := by
      apply Cursor.skipComment_eq_self
      rw [hheader, List.head?_cons]
      decide
    have hends : c.skip.lineEnds = true := by
      rw [Cursor.lineEnds, Cursor.head?, hheader]
      rfl
    have hbelow : c.skip.skipBreak = first := Cursor.skipBreak_lineFeed hheader
    have hspace : ch ≠ ' ' := by
      rintro rfl
      cases hblank
    have hcontent : (first.skip n).rest = ch :: (cs ++ '\n' :: indented n lines) := by
      rw [hrest, hcons]
      rfl
    have hempty : readEmptyLines none c.mark (first.rest.length + 1) [] 0 first =
        .ok ([], n, first.skip n) := by
      have hskip : skipIndentation none first = first.skip n := by
        apply skipIndentation_none hspace
        rw [hspaces, hcons]
        rfl
      rw [readEmptyLines_content hskip hcontent hblank hbreak, hcolumn, Nat.zero_max]
    have hindent : max n (max (parent + 1).toNat 1) = n := by omega
    have hfuel : lines.length + 1 < (first.skip n).rest.length + 1 := by
      have hlength := length_le_indented n lines
      rw [hcontent, List.length_cons, List.length_append, List.length_cons]
      omega
    obtain ⟨text, c', hread, htext, hend⟩ : ∃ text c', readLines false n c.mark
        ((first.skip n).rest.length + 1) [] none [] false (first.skip n) =
          .ok (text, some '\n', [], c') ∧ _ :=
      readLines_lines hline hlines hcolumn hrest hfuel
    refine ⟨c', ?_, hend⟩
    rw [readBlockScalar]
    simp only [hindicators, hblanks, hcomment, hends, hbelow, Option.bind_none, Option.map_none,
      Option.getD_none, hempty, hindent, hread, bind, Except.bind, Bool.not_true,
      Bool.false_eq_true, if_false]
    have hreverse := congrArg List.reverse htext
    rw [List.reverse_cons, Option.toList_none, List.nil_append, List.append_nil,
      List.reverse_reverse] at hreverse
    exact congrArg (fun text => Except.ok (text, c')) hreverse

/-! ## Words at the end of a line -/

/-- A word at the end of a line is a plain scalar if the next line is not indented further than the
collection around it. -/
lemma readPlain_line {word : List Char} {indent : Int} (hne : word ≠ [])
    (hword : ∀ ch ∈ word, IsPlainChar ch) (hmarker : c.atDocumentMarker = false)
    (hblank : isBlank ch = false) (hbreak : isBreak ch = false) (hindent : n < indent)
    (h : c.rest = word ++ '\n' :: (List.replicate n ' ' ++ ch :: rest)) :
    ∃ c', readPlain false indent c = .ok (word, true, c') ∧ c'.rest = ch :: rest ∧
      c'.mark.column = n := by
  have hcomment : c.isAt 0 '#' = false := not_startsComment_of_word hne hword h
  have hempty : word.isEmpty = false := by simpa using hne
  have hskip : (c.skip word.length).rest = '\n' :: (List.replicate n ' ' ++ ch :: rest) :=
    Cursor.rest_skip _ h
  have hends : plainWord false ('\n' :: (List.replicate n ' ' ++ ch :: rest)) = ([], false) := rfl
  have hcheck : (c.skip word.length).check 0 (fun ch => isBlank ch || isBreak ch) = true := by
    rw [Cursor.check, Cursor.ahead?, hskip]
    rfl
  let below : Cursor :=
    { rest := List.replicate n ' ' ++ ch :: rest,
      mark := Cursor.nextLine (c.skip word.length).mark 1 }
  -- only a tab in the indentation is refused, and there are spaces
  have hrefuses (gap : Gap) (c' : Cursor) (hhead : c'.rest.head? = some ' ') :
      refusesTab indent c.mark gap c' = none := by
    have htab : c'.isAt 0 '\t' = false := by
      rw [Cursor.isAt, Cursor.ahead?, ← List.head?_eq_getElem?, hhead]
      rfl
    rw [refusesTab, htab, Bool.and_false, if_neg Bool.false_ne_true]
  have hgap : readGap (refusesTab indent c.mark) ((c.skip word.length).rest.length + 1)
      (.inLine []) (c.skip word.length) = .ok (.lines (some '\n') [], below.skip n) := by
    have hfeed : isBlank '\n' = false := rfl
    have hfuel : n < (c.skip word.length).rest.length := by
      rw [hskip, List.length_cons, List.length_append, List.length_replicate]
      omega
    rw [readGap]
    simp only [hskip, hfeed, Bool.false_eq_true, if_false, Cursor.readBreak?_lineFeed hskip,
      Gap.addBreak]
    rw [← hskip, readGap_spaces hrefuses hfuel hblank hbreak _ rfl, foldl_addBlank_lines]
  have hbelow : (!false && decide (((below.skip n).mark.column : Int) < indent)) = true := by
    have hcolumn : (below.skip n).mark.column = n := Nat.zero_add n
    rw [hcolumn, Bool.not_false, Bool.true_and, decide_eq_true_eq]
    exact hindent
  refine ⟨below.skip n, ?_, Cursor.rest_skip_replicate rfl, Nat.zero_add n⟩
  rw [readPlain, plainWords, hmarker, hcomment]
  simp only [h, plainWord_append hword hends, hempty, hcheck, hgap, hbelow, Gap.fold, Gap.isLines,
    Bool.or_self, Bool.false_eq_true, Bool.not_true, if_false, if_true, List.reverse_nil,
    List.append_nil, List.reverse_reverse]

end AgentManifest.Yaml
