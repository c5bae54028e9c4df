import AgentManifest.Proofs.Lint.Checks
import AgentManifest.Proofs.Manifest.Text
import AgentManifest.Proofs.Yaml.BlockNodes
import AgentManifest.Proofs.Yaml.BlockScan

/-!
# Code in block scalars

The code of an example of use may be written as a literal scalar. It is then what is written below
the indicator, with one line feed at the end of each line, whatever the lines look like. As the last
line is ended too, the check of its length counts one line more than were written.
-/

namespace AgentManifest.Manifest

open Decimal (natString)
open Lint (check)
open Report (Warning)
open Yaml (IsPrintedLine Node Properties ReadsNode Scanner Scans TokenKind indented)
open Yaml.Scanner (IsWord)

/-- A manifest with one example of use, whose code is a literal scalar of some lines. -/
def usageText (lines : List String) : String :=
  "quick_usage:\n  - description: d\n    code: |\n" ++
    String.join (lines.map fun line => "      " ++ line ++ "\n")

/-- Lines with a line feed at the end of each. -/
def codeOf (lines : List String) : String := String.join (lines.map fun line => line ++ "\n")

/-- The tree of a manifest with one example of use. -/
def usage (code : String) : Json.Value :=
  .object [("quick_usage", .array [.object [("code", .string code), ("description", .string "d")]])]

variable {lines : List (List Char)} {text : List Char}

/-! ## Characters -/

/-- What stands above the lines of code. -/
def usageHeader : List Char := "quick_usage:\n  - description: d\n    code: |\n".toList

lemma toList_usageText (lines : List String) :
    (usageText lines).toList = usageHeader ++ indented 6 (lines.map String.toList) := by
  have hheader : (usageText lines).toList =
      usageHeader ++ (String.join (lines.map fun line => "      " ++ line ++ "\n")).toList :=
    String.toList_append
  have hspaces : "      ".toList = List.replicate 6 ' ' := rfl
  have hfeed : "\n".toList = ['\n'] := rfl
  rw [hheader]
  simp only [indented, String.toList_append, String.toList_join, List.flatMap_map, hspaces, hfeed,
    List.append_assoc]

lemma toList_codeOf (lines : List String) :
    (codeOf lines).toList = indented 0 (lines.map String.toList) := by
  have hfeed : "\n".toList = ['\n'] := rfl
  simp only [codeOf, indented, String.toList_append, String.toList_join, List.flatMap_map, hfeed,
    List.replicate_zero, List.nil_append]

lemma isAllowed_usage (hlines : ∀ line ∈ lines, IsPrintedLine line) :
    ∀ ch ∈ usageHeader ++ indented 6 lines, Yaml.isAllowed ch = true := by
  rw [List.forall_mem_append]
  exact ⟨List.all_eq_true.mp (by decide), Yaml.isAllowed_indented 6 hlines⟩

/-! ## Tokens -/

/-- The kinds of the tokens of an example of use, behind the first one. -/
def exampleKinds (text : List Char) : List TokenKind :=
  [.key, .scalar "description".toList .plain, .value, .scalar "d".toList .plain, .key,
    .scalar "code".toList .plain, .value, .scalar text .literal, .blockEnd]

/-- The kinds of the tokens of a manifest with one example of use, behind the first one. -/
def usageKinds (text : List Char) : List TokenKind :=
  .key :: .scalar "quick_usage".toList .plain :: .value :: .blockSequenceStart :: .blockEntry ::
    .blockMappingStart :: (exampleKinds text ++ [.blockEnd, .blockEnd])

lemma scans_usage (hne : lines ≠ []) (hlines : ∀ line ∈ lines, IsPrintedLine line) :
    Scans (Scanner.start (usageHeader ++ indented 6 lines)) 10
      (.streamStart :: (.blockMappingStart :: usageKinds (indented 0 lines) ++ [.streamEnd])) := by
  have hquickUsage : IsWord "quick_usage".toList := ⟨List.all_iff_forall_prop.mp (by decide), nofun⟩
  have hdescription : IsWord "description".toList :=
    ⟨List.all_iff_forall_prop.mp (by decide), nofun⟩
  have hd : IsWord "d".toList := ⟨List.all_iff_forall_prop.mp (by decide), nofun⟩
  have hcode : IsWord "code".toList := ⟨List.all_iff_forall_prop.mp (by decide), nofun⟩
  let third : List Char :=
    'c' :: ("ode".toList ++ ':' :: ' ' :: '|' :: '\n' :: indented 6 lines)
  let second : List Char :=
    '-' :: ' ' :: 'd' :: ("escription".toList ++ ':' :: ' ' :: 'd' :: '\n' ::
      (List.replicate 4 ' ' ++ third))
  have hstart : (Scanner.start (usageHeader ++ indented 6 lines)).InBlock
      (List.replicate 0 ' ' ++ 'q' :: ("uick_usage".toList ++ ':' :: '\n' ::
        (List.replicate 2 ' ' ++ second))) 0 [.streamStart] [-1] true :=
    ⟨rfl, rfl, rfl, rfl, rfl, rfl, rfl⟩
  -- a key at the left margin
  obtain ⟨t, hstep, hat⟩ := hstart.step_spaces (by decide) (by decide)
  obtain ⟨s₁, s₂, hmove₁, hmove₂, hat⟩ := hat.key hquickUsage rfl (by decide) (by decide) hstep
  -- a dash, a key and a word on the next line
  obtain ⟨t, hstep, hat⟩ := hat.step_line (by decide) (by decide)
  obtain ⟨s₃, hmove₃, hat⟩ := hat.dash (by decide) hstep
  obtain ⟨t, hstep, hat⟩ := hat.step_spaces (n := 1) (by decide) (by decide)
  obtain ⟨s₄, s₅, hmove₄, hmove₅, hat⟩ := hat.key hdescription rfl (by decide) (by decide) hstep
  obtain ⟨t, hstep, hat⟩ := hat.step_spaces (n := 1) (by decide) (by decide)
  obtain ⟨s₆, hmove₆, hat⟩ := hat.word hd rfl rfl (by decide) hstep
  -- a key, and the lines of the scalar
  obtain ⟨t, hstep, hat⟩ := hat.step_spaces (n := 0) (by decide) (by decide)
  obtain ⟨s₇, s₈, hmove₇, hmove₈, hat⟩ := hat.key hcode rfl (by decide) (by decide) hstep
  obtain ⟨t, hstep, hat⟩ := hat.step_spaces (n := 1) (by decide) (by decide)
  obtain ⟨s₉, hmove₉, hat⟩ := hat.literal hne hlines (by decide) (by decide) hstep
  have hdeep : ∀ i ∈ ([4, 2] : List Int), 0 < i := List.all_iff_forall_prop.mp (by decide)
  have hend := Yaml.scans_blockEnds hdeep hat
  exact ((((((((hend.of_move hmove₉).of_move hmove₈).of_move hmove₇).of_move hmove₆).of_move
    hmove₅).of_move hmove₄).of_move hmove₃).of_move hmove₂).of_move hmove₁

lemma tokensOf_usage (hne : lines ≠ []) (hlines : ∀ line ∈ lines, IsPrintedLine line) :
    ∃ tokens, Yaml.tokensOf (usageHeader ++ indented 6 lines) = { tokens, fault := none } ∧
      tokens.map Yaml.Token.kind =
        .streamStart :: (.blockMappingStart :: usageKinds (indented 0 lines) ++ [.streamEnd]) := by
  have hlength : usageHeader.length = 44 := by decide
  apply Yaml.tokensOf_of_scans (isAllowed_usage hlines) (scans_usage hne hlines)
  rw [List.length_append, hlength]
  omega

/-! ## Nodes -/

/-- A node is one example of use. -/
def DepictsExample (text : List Char) (n : Node) : Prop :=
  ∃ p p₁ p₂ p₃ p₄ : Properties, p.Bare ∧ p₁.Bare ∧ p₂.Bare ∧ p₃.Bare ∧ p₄.Bare ∧
    n = .mapping p [(.scalar p₁ "description".toList .plain, .scalar p₂ "d".toList .plain),
      (.scalar p₃ "code".toList .plain, .scalar p₄ text .literal)]

/-- A node holds one example of use. -/
def DepictsUsage (text : List Char) (root : Node) : Prop :=
  ∃ (p p₁ p₂ : Properties) (n : Node), p.Bare ∧ p₁.Bare ∧ p₂.Bare ∧ DepictsExample text n ∧
    root = .mapping p [(.scalar p₁ "quick_usage".toList .plain, .sequence p₂ [n])]

lemma readsNode_example (fuel : Nat) (text : List Char) :
    ReadsNode .block (fuel + 6) (.blockMappingStart :: exampleKinds text)
      (DepictsExample text) := by
  have hcode := Yaml.readsEntries_entry "code".toList (.inl ⟨_, _, rfl⟩)
    (Yaml.readsNode_scalar .blockEntry fuel text .literal) (Yaml.readsEntries_end (fuel + 2))
  have hentries := Yaml.readsEntries_entry "description".toList (.inl ⟨_, _, rfl⟩)
    (Yaml.readsNode_scalar .blockEntry (fuel + 1) "d".toList .plain) hcode
  have hmapping : ReadsNode .block (fuel + 6) _ _ := Yaml.readsNode_mapping nofun hentries
  intro s more hkinds
  obtain ⟨n, s', hnode, hmore, p, es, hp, rfl, hes⟩ := hmapping s more hkinds
  obtain ⟨p₁, n, es', h₁, rfl, ⟨p₂, h₂, rfl⟩, p₃, n, es', h₃, rfl, ⟨p₄, h₄, rfl⟩, rfl⟩ := hes
  exact ⟨_, s', hnode, hmore, p, p₁, p₂, p₃, p₄, hp, h₁, h₂, h₃, h₄, rfl⟩

lemma readsNode_usage (fuel : Nat) (text : List Char) :
    ReadsNode .block (fuel + 13) (.blockMappingStart :: usageKinds text) (DepictsUsage text) := by
  have hitems := Yaml.readsItems_item (.inr (.inr rfl)) (readsNode_example fuel text)
    (Yaml.readsItems_end (fuel + 6))
  have hentries := Yaml.readsEntries_entry "quick_usage".toList (.inr (.inl rfl))
    (Yaml.readsNode_sequence nofun hitems) (Yaml.readsEntries_end (fuel + 10))
  have hmapping : ReadsNode .block (fuel + 13) _ _ := Yaml.readsNode_mapping nofun hentries
  intro s more hkinds
  obtain ⟨root, s', hnode, hmore, p, es, hp, rfl, p₁, n, es', h₁, rfl, hn, rfl⟩ :=
    hmapping s more hkinds
  obtain ⟨p₂, ns, h₂, rfl, n, ns', rfl, hn, rfl⟩ := hn
  exact ⟨_, s', hnode, hmore, p, p₁, p₂, n, hp, h₁, h₂, hn, rfl⟩

/-! ## Values -/

variable {anchors : Yaml.Anchors} {depth : Nat} {path : List Yaml.Step}

/-- The value of one example of use. -/
def exampleValue (text : List Char) : Yaml.Value :=
  .mapping [(.string "description", .string "d"), (.string "code", .string (String.ofList text))]

lemma nodeValue_example {n : Node} (h : DepictsExample text n) :
    Yaml.nodeValue anchors (depth + 1) path n = pure (exampleValue text) := by
  obtain ⟨p, p₁, p₂, p₃, p₄, hp, h₁, h₂, h₃, h₄, rfl⟩ := h
  have hdescription : Yaml.plainMeaning "description".toList = .text := rfl
  have hd : Yaml.plainMeaning "d".toList = .text := rfl
  have hcode : Yaml.plainMeaning "code".toList = .text := rfl
  apply Yaml.nodeValue_mapping hp
  simp only [Yaml.entryValues, pure_bind, Yaml.nodeValue_plain h₁ hdescription,
    Yaml.nodeValue_plain h₂ hd, Yaml.nodeValue_plain h₃ hcode, Yaml.nodeValue_literal h₄]
  rfl

lemma nodeValue_usage {root : Node} (h : DepictsUsage text root) :
    Yaml.nodeValue anchors (depth + 3) path root =
      pure (.mapping [(.string "quick_usage", .sequence [exampleValue text])]) := by
  obtain ⟨p, p₁, p₂, n, hp, h₁, h₂, hn, rfl⟩ := h
  have hname : Yaml.plainMeaning "quick_usage".toList = .text := rfl
  have hitems (path : List Yaml.Step) :
      Yaml.nodeValue anchors (depth + 2) path (.sequence p₂ [n]) =
        pure (.sequence [exampleValue text]) := by
    apply Yaml.nodeValue_sequence h₂
    simp only [Yaml.itemValues, pure_bind, nodeValue_example hn]
  apply Yaml.nodeValue_mapping hp
  simp only [Yaml.entryValues, pure_bind, Yaml.nodeValue_plain h₁ hname, hitems]
  rfl

/-- What is read from the text is the tree with the lines for its code. -/
lemma parse_usageText {lines : List String} (hne : lines ≠ [])
    (hlines : ∀ line ∈ lines, IsPrintedLine line.toList) :
    parse .yaml (usageText lines) = .ok (usage (codeOf lines)) := by
  let text : List Char := indented 0 (lines.map String.toList)
  have hcode : String.ofList text = codeOf lines := by
    rw [← String.ofList_toList (s := codeOf lines), toList_codeOf]
  have hchars : ∀ line ∈ lines.map String.toList, IsPrintedLine line := by
    simpa only [List.forall_mem_map] using hlines
  have hsome : lines.map String.toList ≠ [] := by simpa using hne
  obtain ⟨tokens, htokens, hkinds⟩ := tokensOf_usage hsome hchars
  obtain ⟨root, hdocument, hroot⟩ : ∃ root, Yaml.Document.ofText (usageText lines).toList =
      { root := some root, fault := none, followed := false } ∧ DepictsUsage text root := by
    rw [toList_usageText]
    exact Yaml.document_of_readsNode htokens hkinds trivial (readsNode_usage 29 text)
  have hvalue : Yaml.nodeValue (Yaml.Anchors.ofRoot root) Yaml.maxDepth [] root =
      pure (.mapping [(.string "quick_usage", .sequence [exampleValue text])]) :=
    nodeValue_usage hroot
  have hread : Yaml.readChars (usageText lines).toList =
      .ok (.mapping [(.string "quick_usage", .sequence [exampleValue text])]) := by
    rw [Yaml.readChars, hdocument, Yaml.Document.value]
    simp only [hvalue]
    rfl
  have hblank : Text.allBlank (usageText lines).toList = false := by
    rw [toList_usageText]
    rfl
  have hjson : (Yaml.Value.mapping
      [(.string "quick_usage", .sequence [exampleValue text])]).toJson =
        .ok (usage (String.ofList text)) := rfl
  simp only [parse, hblank, Bool.false_eq_true, if_false, parseYaml, hread, hjson, hcode]

/-! ## Warnings -/

/-- The warning of so many lines of code in the first example of use. -/
def longUsage (c : Lint.Config) (count : Nat) : Warning :=
  { kind := .codeLength, path := "quick_usage[0]",
    message := "Code example has " ++ natString count ++ " lines (recommended: at most " ++
      natString c.maxCodeLines ++ ")",
    severity := .minor }

lemma checkCodeLength_usage (c : Lint.Config) (code : String) :
    Lint.checkCodeLength c (usage code) =
      if c.maxCodeLines < Lint.lineCount code then [longUsage c (Lint.lineCount code)] else [] := by
  have hpath : Lint.entryPath "quick_usage" 0 = "quick_usage[0]" := by decide
  rw [Lint.checkCodeLength, Lint.codeSections, List.flatMap_cons, List.flatMap_singleton]
  show (Option.toList (if Lint.lineCount code ≤ c.maxCodeLines then none else some _) ++ []) ++
    [] = _
  rw [List.append_nil, List.append_nil]
  by_cases hlong : c.maxCodeLines < Lint.lineCount code
  · rw [if_pos hlong, if_neg (Nat.not_le.mpr hlong), longUsage, ← hpath]
    rfl
  · rw [if_neg hlong, if_pos (Nat.not_lt.mp hlong)]
    rfl

/-- The warnings of other checks are of other kinds. -/
lemma filter_check_usage (c : Lint.Config) (code : String) :
    (check c (usage code)).filter (fun w => w.kind = .codeLength) =
      if c.maxCodeLines < Lint.lineCount code then [longUsage c (Lint.lineCount code)] else [] := by
  have hcode : (Lint.checkCodeLength c (usage code)).filter (fun w => w.kind = .codeLength) =
      if c.maxCodeLines < Lint.lineCount code then [longUsage c (Lint.lineCount code)] else [] := by
    rw [checkCodeLength_usage]
    split <;> rfl
  have hsections : (Lint.checkSections c (usage code)).filter (fun w => w.kind = .codeLength) =
      [] := by
    rw [List.filter_eq_nil_iff]
    intro w hw
    obtain ⟨field, -, rfl⟩ := List.mem_map.mp hw
    exact of_decide_eq_false rfl
  have hexamples :
      (Lint.checkUsageExamples c (usage code)).filter (fun w => w.kind = .codeLength) = [] := by
    show (if c.minUsageExamples ≤ 1 then [] else [_]).filter _ = []
    split <;> rfl
  have herrors : Lint.checkErrorExamples (usage code) = [] := rfl
  have htree : Lint.checkDecisionTree c (usage code) = [] := rfl
  rw [check, herrors, htree, List.append_nil, List.append_nil, List.filter_append,
    List.filter_append, hcode, hsections, hexamples, List.append_nil, List.append_nil]

/-! ## Literal code -/

/-- Written as a literal scalar, lines of printed characters are the code of the example, whatever
they look like, and a warning tells that there is one line more than that if these are too many. -/
theorem parse_literal_code {lines : List String} (hne : lines ≠ [])
    (hlines : ∀ line ∈ lines, IsPrintedLine line.toList) (c : Lint.Config) :
    parse .yaml (usageText lines) = .ok (usage (codeOf lines)) ∧
      (check c (usage (codeOf lines))).filter (fun w => w.kind = .codeLength) =
        if c.maxCodeLines < lines.length + 1 then [longUsage c (lines.length + 1)] else [] := by
  have hcount : Lint.lineCount (codeOf lines) = lines.length + 1 := by
    have hchars : ∀ line ∈ lines.map String.toList, IsPrintedLine line := by
      simpa only [List.forall_mem_map] using hlines
    rw [Lint.lineCount, toList_codeOf, Yaml.count_indented 0 hchars, List.length_map]
  constructor
  · exact parse_usageText hne hlines
  · rw [filter_check_usage, hcount]

/-- Lines that would be other things in YAML if they did not stand in a literal scalar. -/
def markup : List String := ["# a", "- b: c", "---", "\"d' \\", "| ", "..."]

theorem parse_literal_code_markup :
    markup ≠ [] ∧ (∀ line ∈ markup, IsPrintedLine line.toList) ∧
      codeOf markup = "# a\n- b: c\n---\n\"d' \\\n| \n...\n" ∧
      parse .yaml (usageText markup) = .ok (usage (codeOf markup)) ∧
      (check { maxCodeLines := 6 } (usage (codeOf markup))).filter (fun w => w.kind = .codeLength) =
        [{ kind := .codeLength, path := "quick_usage[0]",
           message := "Code example has 7 lines (recommended: at most 6)",
           severity := .minor }] := by
  have hlines : ∀ line ∈ markup, IsPrintedLine line.toList :=
    List.all_iff_forall_prop.mp (by decide)
  have hne : markup ≠ [] := nofun
  exact ⟨hne, hlines, rfl, parse_literal_code hne hlines { maxCodeLines := 6 }⟩

end AgentManifest.Manifest
