import Mathlib.Data.List.TakeWhile
import AgentManifest.CommandLine.Invocation
import AgentManifest.Proofs.CommandLine.Mentions

/-!
# Ways to spell a request

A request can be spelled in many ways: its options and its target in any order, a value behind an
equals sign or in a word of its own, a flag by name or by letter, and letters alone or together. All
of them are read as the same request, and how much is to be logged does not show in what is written.
-/

namespace AgentManifest.CommandLine

open Files (Path Tree)

/-! ## Demands -/

/-- A word that is taken for a target or a value: not empty, and without a dash in front. -/
structure Operand where
  word : String
  proper : ∃ c cs, word.toList = c :: cs ∧ c ≠ '-'

/-- What a request is made of, as it is given on the command line. -/
structure Demand where
  target : Operand
  recursive : Bool := false
  quiet : Bool := false
  noBestPractices : Bool := false
  format? : Option OutputFormat := none
  config? : Option Operand := none
  schema? : Option Operand := none
  /-- How often it is demanded that more is logged. -/
  verbose : Nat := 0

namespace Demand

/-- The mention of a flag, if it is set. -/
def flag (a : Argument) (isSet : Bool) : List Mention := if isSet then [(a, "")] else []

/-- The mention of an option, if it has a value. -/
def option (a : Argument) (value? : Option String) : List Mention := (value?.map (a, ·)).toList

/-- What has to be mentioned once. -/
def settings (d : Demand) : List Mention :=
  [(.target, d.target.word)] ++ flag .recursive d.recursive ++ flag .quiet d.quiet ++
    flag .noBestPractices d.noBestPractices ++ option .format (d.format?.map OutputFormat.name) ++
    option .config (d.config?.map Operand.word) ++ option .schema (d.schema?.map Operand.word)

/-- What has to be mentioned, in some order. -/
def mentions (d : Demand) : List Mention :=
  d.settings ++ List.replicate d.verbose (.verbose, "")

/-- The request that is made. -/
def request (d : Demand) : Request where
  target := Path.ofString d.target.word
  recursive := d.recursive
  quiet := d.quiet
  bestPractices := !d.noBestPractices
  format := d.format?.getD .human
  config? := d.config?.map fun path => Path.ofString path.word
  schema? := d.schema?.map fun path => Path.ofString path.word
  verbosity := min d.verbose Progress.maxVerbosity

end Demand

/-! ## Spellings -/

/-- Words that belong together, and what they mention. -/
inductive Phrase : List String → List Mention → Prop where
  | target (t : Operand) : Phrase [t.word] [(.target, t.word)]
  /-- The name of a flag. -/
  | flag {a : Argument} (hnamed : a ∈ Argument.named) (hflag : a.takesValue = false) :
    Phrase ["--" ++ a.long] [(a, "")]
  /-- The letters of flags behind one dash. -/
  | letters {as : List Argument} {cs : List Char} (hne : as ≠ [])
    (hletters : List.Forall₂ (fun a c => a.short? = some c) as cs) :
    Phrase [String.ofList ('-' :: cs)] (as.map (·, ""))
  /-- The name of an option, and its value in the next word. -/
  | separate {a : Argument} (hnamed : a ∈ Argument.named) (hoption : a.takesValue = true)
    (value : Operand) : Phrase ["--" ++ a.long, value.word] [(a, value.word)]
  /-- The name of an option, and its value behind an equals sign. -/
  | joined {a : Argument} (hnamed : a ∈ Argument.named) (hoption : a.takesValue = true)
    (value : Operand) : Phrase ["--" ++ a.long ++ "=" ++ value.word] [(a, value.word)]

/-- Words that consist of phrases, and what these mention in turn. -/
inductive Spells : List String → List Mention → Prop where
  | nil : Spells [] []
  | append {ws words : List String} {ms ms' : List Mention} :
    Phrase ws ms → Spells words ms' → Spells (ws ++ words) (ms ++ ms')

/-- Words that mention what a demand is made of, in any order. -/
def Demand.SpelledBy (d : Demand) (words : List String) : Prop :=
  ∃ ms, Spells words ms ∧ ms.Perm d.mentions

/-! ## Reading a phrase -/

namespace Progress

variable {p q : Progress} {ms ms' : List Mention} {words : List String} {a : Argument}

lemma readAll_append (ws : List String) (h : p.readAll ws = .ok q) :
    p.readAll (ws ++ words) = q.readAll words := by
  induction ws generalizing p with
  | nil =>
    cases h
    rfl
  | cons w ws ih =>
    rw [readAll] at h
    rw [List.cons_append, readAll]
    cases hread : p.read w with
    | error e =>
      rw [hread] at h
      cases h
    | ok r =>
      rw [hread] at h
      exact ih h

lemma readAll_singleton (p : Progress) (word : String) : p.readAll [word] = p.read word := by
  rw [readAll]
  cases p.read word <;> rfl

/-- An operand is a value of what is pending, or the target. -/
lemma read_operand (hp : p.onlyTargets = false) (t : Operand) :
    p.read t.word = p.readValue t.word := by
  obtain ⟨c, cs, htext, hc⟩ := t.proper
  rw [read, hp, if_neg Bool.false_ne_true, htext]
  split
  case h_4 => rfl
  all_goals simp_all

/-- A word behind two dashes, if there is something behind them. -/
lemma read_long (hp : p.onlyTargets = false) {word : String} {c : Char} {cs : List Char}
    (h : word.toList = '-' :: '-' :: c :: cs) : p.read word = p.readLong (c :: cs) := by
  rw [read, hp, if_neg Bool.false_ne_true, h]
  rfl

/-- Letters behind one dash. -/
lemma read_letters (hp : p.onlyTargets = false) {c : Char} {cs : List Char} (hc : c ≠ '-') :
    p.read (String.ofList ('-' :: c :: cs)) = p.readShorts (c :: cs) := by
  rw [read, hp, if_neg Bool.false_ne_true, String.toList_ofList]
  split
  case h_3 heq =>
    cases heq
    rfl
  all_goals simp_all

/-- The name of an argument is found. -/
lemma ofLong?_long (h : a ∈ Argument.named) : Argument.ofLong? a.long = some a := by
  revert a
  decide

/-- A name has characters, none of which is an equals sign. -/
lemma long_spec (h : a ∈ Argument.named) :
    a.long.toList ≠ [] ∧ ∀ c ∈ a.long.toList, (c != '=') = true := by
  have hnamed : (Argument.named.all fun a =>
      !a.long.toList.isEmpty && a.long.toList.all (· != '=')) = true := by decide
  have ha := List.all_eq_true.mp hnamed a h
  rw [Bool.and_eq_true, List.all_eq_true] at ha
  exact ⟨by simpa using ha.1, ha.2⟩

/-- An argument with a letter is a flag, and the letter is no dash. -/
lemma short_spec {c : Char} (h : a.short? = some c) :
    Argument.ofShort? c = some a ∧ a.takesValue = false ∧ a ≠ .target ∧ c ≠ '-' := by
  cases a <;> cases h <;> decide

/-- A word behind two dashes that starts with the name of an argument. -/
lemma read_name (hp : p.onlyTargets = false) (h : a ∈ Argument.named) {word : String}
    {rest : List Char} (hword : word.toList = '-' :: '-' :: (a.long.toList ++ rest)) :
    p.read word = p.readLong (a.long.toList ++ rest) := by
  obtain ⟨c, cs, hname⟩ := List.exists_cons_of_ne_nil (long_spec h).1
  rw [hname] at hword ⊢
  exact read_long hp hword

/-- A word that is the name of an argument. -/
lemma read_flag (hp : p.onlyTargets = false) (h : a ∈ Argument.named) :
    p.read ("--" ++ a.long) = p.readLong a.long.toList := by
  have word : ("--" ++ a.long).toList = '-' :: '-' :: (a.long.toList ++ []) := by simp
  rw [read_name hp h word, List.append_nil]

/-- The name of a flag. -/
lemma readLong_flag (h : a ∈ Argument.named) (hflag : a.takesValue = false) :
    p.readLong a.long.toList = p.accept a true none := by
  have front : a.long.toList.takeWhile (· != '=') = a.long.toList :=
    List.takeWhile_eq_self_iff.mpr (long_spec h).2
  simp only [readLong, front, List.drop_length, String.ofList_toList, ofLong?_long h, hflag,
    Bool.false_eq_true, if_false]

/-- The name of an option with nothing behind it. -/
lemma readLong_option (h : a ∈ Argument.named) (hoption : a.takesValue = true)
    (hsettled : p.settled = .ok q) :
    p.readLong a.long.toList = .ok { q with pending := some (a, none) } := by
  have front : a.long.toList.takeWhile (· != '=') = a.long.toList :=
    List.takeWhile_eq_self_iff.mpr (long_spec h).2
  simp only [readLong, front, List.drop_length, String.ofList_toList, ofLong?_long h, hoption,
    if_true, hsettled]

/-- A name, and a value behind an equals sign. -/
lemma readLong_joined (h : a ∈ Argument.named) (hoption : a.takesValue = true)
    (value : List Char) :
    p.readLong (a.long.toList ++ '=' :: value) = p.accept a true (some (String.ofList value)) := by
  have front : (a.long.toList ++ '=' :: value).takeWhile (· != '=') = a.long.toList := by
    rw [List.takeWhile_append_of_pos (long_spec h).2, List.takeWhile_cons_of_neg (by decide),
      List.append_nil]
  simp only [readLong, front, List.drop_left, String.ofList_toList, ofLong?_long h, hoption,
    if_true]

/-- Letters are read one after another. -/
lemma Tells.letters {as : List Argument} {cs : List Char} (h : p.Tells ms)
    (hletters : List.Forall₂ (fun a c => a.short? = some c) as cs)
    (hms : Admissible (ms ++ as.map (·, ""))) :
    ∃ q, p.readShorts cs = .ok q ∧ q.Tells (ms ++ as.map (·, "")) := by
  induction hletters generalizing p ms with
  | nil => exact ⟨p, rfl, by simpa using h⟩
  | @cons a c as cs hletter _ ih =>
    obtain ⟨hshort, hflag, htarget, -⟩ := short_spec hletter
    rw [List.map_cons, List.append_cons] at hms ⊢
    obtain ⟨q, haccept, hq⟩ := h.accept false none (by simp [hflag]) htarget hms.left
    obtain ⟨r, hread, hr⟩ := ih hq hms
    refine ⟨r, ?_, hr⟩
    simp only [readShorts, hshort, haccept, hread]

/-- Operands that follow what is complete are the target. -/
lemma Tells.target (h : p.Tells ms) (t : Operand) (hms : Admissible (ms ++ [(.target, t.word)])) :
    ∃ q, p.read t.word = .ok q ∧ q.Tells (ms ++ [(.target, t.word)]) := by
  obtain ⟨q, hsettled, hq, -⟩ := h.settles
  have unmet : ¬p.targetMet = true := mt h.targetMet.mp (hms.not_mem_of_concat nofun)
  refine ⟨_, ?_, hq.tells_pending hms (show true = true ↔ _ by simp)⟩
  rw [read_operand h.onlyTargets, readValue]
  split
  case h_1 a hpending => exact absurd hpending (h.whole a)
  case h_2 => rw [readTarget, if_neg unmet, hsettled]

/-- The name of an option waits for the value in the next word. -/
lemma Tells.separate (h : p.Tells ms) (hnamed : a ∈ Argument.named) (hoption : a.takesValue = true)
    (value : Operand) (hms : Admissible (ms ++ [(a, value.word)])) :
    ∃ q, p.readAll ["--" ++ a.long, value.word] = .ok q ∧ q.Tells (ms ++ [(a, value.word)]) := by
  obtain ⟨q, hsettled, hq, hmet⟩ := h.settles
  have htarget : a ≠ .target := fun heq => absurd (heq ▸ hnamed) (by decide)
  have name : p.read ("--" ++ a.long) = .ok { q with pending := some (a, none) } := by
    rw [read_flag h.onlyTargets hnamed, readLong_option hnamed hoption hsettled]
  have waiting : { q with pending := some (a, none) }.onlyTargets = false := hq.onlyTargets
  have next : { q with pending := some (a, none) }.read value.word =
      .ok { q with pending := some (a, some value.word) } := (read_operand waiting value).trans rfl
  refine ⟨_, ?_, hq.tells_pending hms (show q.targetMet = true ↔ _ from ?_)⟩
  · simp only [readAll, name, next]
  · rw [hmet, h.targetMet, List.map_append, List.mem_append]
    simp [Ne.symm htarget]

/-- A phrase is read as what it mentions. -/
lemma Tells.phrase {ws : List String} (h : p.Tells ms) (hphrase : Phrase ws ms')
    (hms : Admissible (ms ++ ms')) : ∃ q, p.readAll ws = .ok q ∧ q.Tells (ms ++ ms') := by
  cases hphrase with
  | target t =>
    obtain ⟨q, hread, hq⟩ := h.target t hms
    exact ⟨q, by rw [readAll_singleton, hread], hq⟩
  | @flag a hnamed hflag =>
    have htarget : a ≠ .target := fun heq => absurd (heq ▸ hnamed) (by decide)
    obtain ⟨q, haccept, hq⟩ := h.accept true none (by simp [hflag]) htarget hms
    refine ⟨q, ?_, hq⟩
    rw [readAll_singleton, read_flag h.onlyTargets hnamed, readLong_flag hnamed hflag, haccept]
  | letters hne hletters =>
    obtain ⟨q, hread, hq⟩ := h.letters hletters hms
    refine ⟨q, ?_, hq⟩
    cases hletters with
    | nil => exact absurd rfl hne
    | cons hletter _ =>
      rw [readAll_singleton, read_letters h.onlyTargets (short_spec hletter).2.2.2, hread]
  | separate hnamed hoption value => exact h.separate hnamed hoption value hms
  | @joined a hnamed hoption value =>
    have htarget : a ≠ .target := fun heq => absurd (heq ▸ hnamed) (by decide)
    obtain ⟨q, haccept, hq⟩ := h.accept true (some value.word) (fun _ => rfl) htarget hms
    refine ⟨q, ?_, hq⟩
    have rest : ("--" ++ a.long ++ "=" ++ value.word).toList =
        '-' :: '-' :: (a.long.toList ++ '=' :: value.word.toList) := by simp
    rw [readAll_singleton, read_name h.onlyTargets hnamed rest, readLong_joined hnamed hoption,
      String.ofList_toList, haccept]

/-- Words are read as what they mention. -/
lemma Tells.spells (h : p.Tells ms) (hspells : Spells words ms') (hms : Admissible (ms ++ ms')) :
    ∃ q, p.readAll words = .ok q ∧ q.Tells (ms ++ ms') := by
  induction hspells generalizing p ms with
  | nil => exact ⟨p, rfl, by rwa [List.append_nil]⟩
  | append hphrase _ ih =>
    rw [← List.append_assoc] at hms ⊢
    obtain ⟨q, hread, hq⟩ := h.phrase hphrase hms.left
    obtain ⟨r, hread', hr⟩ := ih hq hms
    exact ⟨r, (readAll_append _ hread).trans hread', hr⟩

/-- The request that is on record. -/
def toRequest (p : Progress) (target : Path) : Request :=
  { target, recursive := p.recursive, quiet := p.quiet, bestPractices := p.bestPractices,
    format := p.format, config? := p.config?, schema? := p.schema?, verbosity := p.verbosity }

/-- The words end with the request that is on record after what they mention. -/
lemma Tells.finish (h : p.Tells ms) {target : Path} (htarget : (after ms).target? = some target) :
    p.finish = .ok ((after ms).toRequest target) := by
  obtain ⟨q, hsettled, hq, -⟩ := h.settles
  rw [← hq.values] at htarget ⊢
  have htarget' : q.target? = some target := htarget
  simp only [Progress.finish, hsettled, htarget']
  rfl

end Progress

/-! ## Reading a demand -/

namespace Demand

open Progress

variable (d : Demand)

lemma flag_fst_sublist (a : Argument) (isSet : Bool) :
    ((flag a isSet).map Prod.fst).Sublist [a] := by
  cases isSet
  · exact List.nil_sublist _
  · exact List.Sublist.refl _

lemma option_fst_sublist (a : Argument) (value? : Option String) :
    ((option a value?).map Prod.fst).Sublist [a] := by
  cases value?
  · exact List.nil_sublist _
  · exact List.Sublist.refl _

/-- No argument is mentioned twice, except for that of how much is logged. -/
lemma spent_mentions_sublist :
    (spent d.mentions).Sublist
      [.target, .recursive, .quiet, .noBestPractices, .format, .config, .schema] := by
  have settings : (d.settings.map Prod.fst).Sublist
      [.target, .recursive, .quiet, .noBestPractices, .format, .config, .schema] := by
    simp only [Demand.settings, List.map_append]
    exact ((((((List.Sublist.refl [Argument.target]).append (flag_fst_sublist _ _)).append
      (flag_fst_sublist _ _)).append (flag_fst_sublist _ _)).append (option_fst_sublist _ _)).append
      (option_fst_sublist _ _)).append (option_fst_sublist _ _)
  have others : spent d.mentions = (d.settings.map Prod.fst).filter (· ≠ Argument.verbose) := by
    simp [spent, mentions, List.map_append, List.filter_append]
  rw [others]
  exact List.filter_sublist.trans settings

lemma eq_of_mem_flag {m : Mention} {a : Argument} {isSet : Bool} (h : m ∈ flag a isSet) :
    m = (a, "") := by
  cases isSet with
  | false => cases h
  | true => exact List.mem_singleton.mp h

lemma of_mem_option {α : Type} {m : Mention} {a : Argument} {x? : Option α} {word : α → String}
    (h : m ∈ option a (x?.map word)) : ∃ x, m = (a, word x) := by
  cases x? with
  | none => cases h
  | some x => exact ⟨x, List.mem_singleton.mp h⟩

/-- A mention that is part of a request, with a value that suits it. -/
def Proper (m : Mention) : Prop :=
  (m.1.takesValue = true → suits m.1 m.2 = true) ∧ m.1 ≠ .help ∧ m.1 ≠ .version

/-- An operand is a proper value, except for the form of the report. -/
lemma proper_operand {a : Argument} (ha : a ∉ [.format, .help, .version]) (value : Operand) :
    Proper (a, value.word) := by
  obtain ⟨c, cs, htext, -⟩ := value.proper
  have nonempty : value.word.isEmpty = false := by
    rw [← Bool.not_eq_true, String.isEmpty_iff, ← String.toList_inj, htext]
    exact nofun
  unfold Proper
  cases a <;> simp_all [suits]

lemma proper_of_mem_mentions {m : Mention} (h : m ∈ d.mentions) : Proper m := by
  simp only [mentions, settings, List.mem_append, List.mem_singleton, or_assoc] at h
  rcases h with rfl | h | h | h | h | h | h | h
  · exact proper_operand (by decide) d.target
  · exact eq_of_mem_flag h ▸ ⟨nofun, nofun, nofun⟩
  · exact eq_of_mem_flag h ▸ ⟨nofun, nofun, nofun⟩
  · exact eq_of_mem_flag h ▸ ⟨nofun, nofun, nofun⟩
  · obtain ⟨format, rfl⟩ := of_mem_option h
    exact ⟨fun _ => by cases format <;> rfl, nofun, nofun⟩
  · obtain ⟨path, rfl⟩ := of_mem_option h
    exact proper_operand (by decide) path
  · obtain ⟨path, rfl⟩ := of_mem_option h
    exact proper_operand (by decide) path
  · exact List.eq_of_mem_replicate h ▸ ⟨nofun, nofun, nofun⟩

lemma admissible_mentions : Admissible d.mentions where
  once := d.spent_mentions_sublist.nodup (by decide)
  suits _ hm := (d.proper_of_mem_mentions hm).1
  asks _ hm := (d.proper_of_mem_mentions hm).2

/-- Repeated demands for more to be logged are counted, up to the largest count. -/
lemma foldl_verbose (p : Progress) (hp : p.verbosity ≤ maxVerbosity) (n : Nat) :
    (List.replicate n ((.verbose, "") : Mention)).foldl (fun p m => p.record m.1 m.2) p =
      { p with verbosity := min (p.verbosity + n) maxVerbosity } := by
  induction n generalizing p with
  | zero =>
    rw [Nat.add_zero, Nat.min_eq_left hp]
    rfl
  | succ n ih =>
    rw [List.replicate_succ, List.foldl_cons, ih _ (Nat.min_le_right _ _)]
    have count : min (min (p.verbosity + 1) maxVerbosity + n) maxVerbosity =
        min (p.verbosity + (n + 1)) maxVerbosity := by omega
    simp only [record, count]

/-- What is on record after all mentions. -/
lemma after_mentions :
    (after d.mentions).target? = some (Path.ofString d.target.word) ∧
      (after d.mentions).toRequest (Path.ofString d.target.word) = d.request := by
  have settings : after d.settings =
      { target? := some (Path.ofString d.target.word), recursive := d.recursive, quiet := d.quiet,
        bestPractices := !d.noBestPractices, format := d.format?.getD .human
        config? := d.config?.map fun path => Path.ofString path.word
        schema? := d.schema?.map fun path => Path.ofString path.word } := by
    obtain ⟨target, recursive, quiet, noBestPractices, format?, config?, schema?, verbose⟩ := d
    rcases recursive <;> rcases quiet <;> rcases noBestPractices <;> rcases config? <;>
      rcases schema? <;> rcases format? with _ | (_ | _) <;> rfl
  rw [after, mentions, List.foldl_append, ← after, settings, foldl_verbose _ (Nat.zero_le _),
    Nat.zero_add]
  exact ⟨rfl, rfl⟩

/-- Every way to spell a demand is read as the request that it makes. -/
lemma ofArguments_of_spelledBy {d : Demand} {words : List String} (h : d.SpelledBy words) :
    Request.ofArguments words = .ok d.request := by
  obtain ⟨ms, hspells, hperm⟩ := h
  have admissible : Admissible ms := d.admissible_mentions.perm hperm.symm
  obtain ⟨p, hread, hp⟩ := Tells.spells tells_nil hspells admissible
  have record : after ms = after d.mentions := after_perm admissible hperm
  obtain ⟨htarget, hrequest⟩ := d.after_mentions
  have finish : p.finish = .ok ((after ms).toRequest (Path.ofString d.target.word)) :=
    hp.finish (by rw [List.nil_append, record, htarget])
  simp only [Request.ofArguments, hread, finish, record, hrequest]

end Demand

/-! ## What is written -/

/-- How much is logged does not matter to a run. -/
lemma run_verbosity (color : Bool) (files : Tree) (r : Request) (n : Nat) :
    run color files { r with verbosity := n } = run color files r := rfl

/-- All ways to spell a request are read as this request, and have the same effects, however often
it is demanded that more is logged. -/
theorem invoke_of_spelledBy (color : Bool) (files : Tree) {d : Demand} {n : Nat}
    {words words' : List String} (h : d.SpelledBy words)
    (h' : { d with verbose := n }.SpelledBy words') :
    Request.ofArguments words = .ok d.request ∧
      invoke color files words' = invoke color files words := by
  have read := Demand.ofArguments_of_spelledBy h
  have read' := Demand.ofArguments_of_spelledBy h'
  refine ⟨read, ?_⟩
  have verbosity : ({ d with verbose := n } : Demand).request =
      { d.request with verbosity := min n Progress.maxVerbosity } := rfl
  rw [invoke, invoke, read, read', verbosity]
  simp only [run_verbosity]

/-- One request spelled in a short and in a long way. -/
theorem invoke_of_spelledBy_short :
    (Request.ofArguments ["-vrq", "docs", "--config=lint.yml"]).toOption.isSome ∧
      invoke false {} ["--config", "lint.yml", "docs", "--verbose", "--quiet", "--recursive", "-v"] =
        invoke false {} ["-vrq", "docs", "--config=lint.yml"] := by
  let docs : Operand := ⟨"docs", 'd', ['o', 'c', 's'], rfl, by decide⟩
  let lint : Operand := ⟨"lint.yml", 'l', ['i', 'n', 't', '.', 'y', 'm', 'l'], rfl, by decide⟩
  let demand : Demand :=
    { target := docs, recursive := true, quiet := true, config? := some lint, verbose := 1 }
  have letters : Phrase ["-vrq"] [(.verbose, ""), (.recursive, ""), (.quiet, "")] :=
    @Phrase.letters [.verbose, .recursive, .quiet] ['v', 'r', 'q'] nofun
      (.cons rfl (.cons rfl (.cons rfl .nil)))
  have letter : Phrase ["-v"] [(.verbose, "")] :=
    @Phrase.letters [.verbose] ['v'] nofun (.cons rfl .nil)
  have joined : Phrase ["--config=lint.yml"] [(.config, "lint.yml")] :=
    @Phrase.joined .config (by decide) rfl lint
  have separate : Phrase ["--config", "lint.yml"] [(.config, "lint.yml")] :=
    @Phrase.separate .config (by decide) rfl lint
  have short : demand.SpelledBy ["-vrq", "docs", "--config=lint.yml"] :=
    ⟨_, .append letters (.append (.target docs) (.append joined .nil)), by decide⟩
  have long : { demand with verbose := 2 }.SpelledBy
      ["--config", "lint.yml", "docs", "--verbose", "--quiet", "--recursive", "-v"] :=
    ⟨_, .append separate (.append (.target docs) (.append (@Phrase.flag .verbose (by decide) rfl)
      (.append (@Phrase.flag .quiet (by decide) rfl)
        (.append (@Phrase.flag .recursive (by decide) rfl) (.append letter .nil))))), by decide⟩
  have alike := invoke_of_spelledBy false {} short long
  exact ⟨by rw [alike.1]; rfl, alike.2⟩

end AgentManifest.CommandLine
