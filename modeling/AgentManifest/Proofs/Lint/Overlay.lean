import AgentManifest.Lint.Config.File
import AgentManifest.Proofs.Json.Compactness
import AgentManifest.Proofs.Lint.Settings
import AgentManifest.Proofs.Yaml.Meaning
import AgentManifest.Proofs.Yaml.Nodes

/-!
# Configurations laid over the defaults

An object is decoded as a configuration that lays its entries over the defaults. YAML reads the same
configuration from a compact text: to the scanner its tokens are those of the tree, and the fields
are read from the nodes as they are decoded from the entries.
-/

namespace AgentManifest.Yaml

open Json (Denotes IsArrayOf IsItems IsString Spells Tight)

variable {text : String} {texts : List String} {t ts q u : List Char} {ch : Char}

/-! ## Compact texts in YAML -/

/-- The spelling of a character in a tight text is legible. -/
lemma legible_of_tight (hu : Spells ch u) (ht : Tight Legible true u) : ∀ x ∈ u, Legible x := by
  refine legible_of_mem_spelling hu fun heq => ?_
  cases hu with
  | plain _ hquote hslash =>
    rw [Tight, Json.features_plain hquote hslash, List.forall_mem_cons] at ht
    exact ht.1.2.2
  | escape | code => cases congrArg List.length heq

/-- YAML reads a string of a tight text as JSON does. -/
lemma isLiteral_of_tight (h : Denotes q text) (ht : Tight Legible false q) : IsLiteral text q := by
  obtain ⟨ps, hps, htext, rfl⟩ := h.of_tight ht
  exact ⟨ps, fun p hp => ⟨(hps p hp).1, legible_of_tight (hps p hp).1 (hps p hp).2⟩, htext, rfl⟩

lemma renders_string (h : IsString text t) (ht : Tight Legible false t) :
    Renders (.value (.string text)) t :=
  .string (isLiteral_of_tight (h.of_tight ht) ht)

/-- What is left of the items behind a comma is an array of its own behind a bracket. -/
lemma Renders.array_of_items {vs : List Json.Value} (h : Renders (.items vs) (',' :: t)) :
    Renders (.value (.array vs)) ('[' :: t) := by
  cases h with
  | item hv hvs => exact .array hv hvs

lemma Renders.object_of_members {ms : List (String × Json.Value)}
    (h : Renders (.members ms) (',' :: t)) : Renders (.value (.object ms)) ('{' :: t) := by
  cases h with
  | member hname hshort hv hms => exact .object hname hshort hv hms

/-- The text of an object is not blank. -/
lemma Renders.not_blank {ms : List (String × Json.Value)} (h : Renders (.value (.object ms)) t) :
    Text.allBlank t = false := by
  cases h with
  | word hkinds => cases ms <;> cases hkinds
  | emptyObject | object => rfl

lemma renders_items (h : IsItems IsString texts ts) (ht : Tight Legible false ts) :
    Renders (.items (texts.map .string)) (',' :: ts) := by
  induction h with
  | last h =>
    rw [Json.tight_append h.isText.leads] at ht
    exact .item (renders_string h ht.1) .lastItem
  | cons h _ ih =>
    rw [Json.tight_append h.isText.leads, Json.tight_cons (by decide)] at ht
    exact .item (renders_string h ht.1) (ih ht.2.2)

lemma renders_array (h : IsArrayOf IsString texts t) (ht : Tight Legible false t) :
    Renders (.value (.array (texts.map .string))) t := by
  rcases h.of_tight (fun h => h.isText) ht with ⟨rfl, rfl⟩ | ⟨ts, hts, rfl, htight⟩
  · exact .emptyArray
  · exact (renders_items hts htight).array_of_items

/-! ## Names -/

lemma byteLength_le (t : List Char) : Text.byteLength t ≤ 4 * t.length := by
  induction t with
  | nil => exact Nat.le_refl 0
  | cons c t ih =>
    have hsize := c.utf8Size_le_four
    rw [Text.byteLength_cons, List.length_cons]
    omega

lemma length_spelling_le (hu : Spells ch u) : u.length ≤ 6 := by
  cases hu <;> simp

lemma length_spelled_le {ps : List (Char × List Char)} (h : WellSpelled ps) :
    (ps.flatMap Prod.snd).length ≤ 6 * ps.length := by
  induction ps with
  | nil => exact Nat.le_refl 0
  | cons p ps ih =>
    rw [WellSpelled, List.forall_mem_cons] at h
    have hp := length_spelling_le h.1.1
    have hps := ih h.2
    rw [List.flatMap_cons, List.length_append, List.length_cons]
    omega

/-- A short name is short enough to be a key, however it is spelled. -/
lemma IsLiteral.short (h : IsLiteral text q) (hlength : text.toList.length ≤ 32) :
    Text.byteLength q ≤ maxKeyLength := by
  obtain ⟨ps, hps, htext, rfl⟩ := h
  have hspelled := length_spelled_le hps
  rw [htext, List.length_map] at hlength
  have hbytes := byteLength_le ('"' :: (ps.flatMap Prod.snd ++ ['"']))
  rw [List.length_cons, List.length_append, List.length_singleton] at hbytes
  rw [maxKeyLength]
  omega

end AgentManifest.Yaml

namespace AgentManifest.Lint.Config

open Json (InStrings IsCompact IsEntries IsObject IsPairFree IsQuoted IsText Tight
  decodeText quote)
open Yaml (Anchors Depicts DepictsItems DepictsMembers Expand Legible Mark Node Renders Step)

variable {t ms : List Char} {c : Config} {ss : List Setting} {s : Setting}

/-! ## Compact texts of settings -/

/-- A datum as a tree. -/
def Datum.toJson : Datum → Json.Value
  | .number n => .nat n
  | .names texts => .array (texts.map .string)

/-- The member of an object that a setting is. -/
def Setting.member (s : Setting) : String × Json.Value := (s.name, s.datum.toJson)

lemma renders_datum {d : Datum} (h : d.IsWritten t) (ht : Tight Legible false t) :
    Renders (.value d.toJson) t := by
  cases d with
  | number n =>
    obtain rfl := Json.IsNatural.of_tight h ht
    exact .word rfl (Yaml.isWord_intText n)
  | names texts => exact Yaml.renders_array h ht

/-- The name of a setting is a literal for YAML, and a key. -/
lemma Setting.key (s : Setting) (ht : Tight Legible false s.entry.1) :
    Yaml.IsLiteral s.name s.entry.1 ∧ Text.byteLength s.entry.1 ≤ Yaml.maxKeyLength := by
  have hshort : ∀ name ∈ fieldNames, name.toList.length ≤ 32 := by decide
  have hliteral := Yaml.isLiteral_of_tight s.denotes ht
  exact ⟨hliteral, hliteral.short (hshort _ s.fits.mem_fieldNames)⟩

/-- The entries of a tight text are members. -/
lemma renders_members (h : IsEntries (ss.map Setting.entry) ms) (ht : Tight Legible false ms) :
    Renders (.members (ss.map Setting.member)) (',' :: ms) := by
  -- the comma stands in for the opening brace, so that the first member is like the others
  generalize hes : ss.map Setting.entry = es at h
  induction h generalizing ss with
  | @last q t ws ws' hws hq hws' htext =>
    obtain ⟨s, ss, rfl, hs, hnil⟩ := List.map_eq_cons_iff.mp hes
    obtain rfl := List.map_eq_nil_iff.mp hnil
    obtain rfl : s.entry.1 = q := congrArg Prod.fst hs
    obtain rfl : s.entry.2 = t := congrArg Prod.snd hs
    obtain ⟨rfl, rfl, hname, hvalue, -⟩ := Json.tight_entry hws hq hws' htext ht
    obtain ⟨hliteral, hshort⟩ := s.key hname
    exact .member hliteral hshort (renders_datum s.written hvalue) .lastMember
  | @cons q t ws ws' ms es hws hq hws' htext _ ih =>
    obtain ⟨s, ss, rfl, hs, hrest⟩ := List.map_eq_cons_iff.mp hes
    obtain rfl : s.entry.1 = q := congrArg Prod.fst hs
    obtain rfl : s.entry.2 = t := congrArg Prod.snd hs
    obtain ⟨rfl, rfl, hname, hvalue, hbehind⟩ := Json.tight_entry hws hq hws' htext ht
    rw [Json.tight_cons (by decide)] at hbehind
    obtain ⟨hliteral, hshort⟩ := s.key hname
    exact .member hliteral hshort (renders_datum s.written hvalue) (ih hbehind.2 hrest)

/-- A compact text of settings is one of the tree that they make. -/
lemma renders_object (h : IsObject (ss.map Setting.entry) t) (ht : Tight Legible false t) :
    Renders (.value (.object (ss.map Setting.member))) t := by
  rcases h.of_tight ht with ⟨hnil, rfl⟩ | ⟨ms, hms, rfl, htight⟩
  · obtain rfl := List.map_eq_nil_iff.mp hnil
    exact .emptyObject
  · exact (renders_members hms htight).object_of_members

/-! ## Reading -/

variable {anchors : Anchors} {path : List Step} {mark : Mark} {node : Node} {nodes : List Node}
variable {entries : List (Node × Node)} {st : Partial}

lemma readText_quoted (expected : String) (path : List Step) (p : Yaml.Properties) (text : String) :
    readText anchors expected path (.scalar p text.toList .quoted) = pure (text, p.mark) := by
  simp only [readText, Anchors.follow, pure_bind, String.ofList_toList]

lemma readNatural_depicts (kind : String) (path : List Step) {n : Nat} (hn : n < 2 ^ 64)
    (h : Depicts (.nat n) node) : readNatural anchors kind path node = pure n := by
  obtain ⟨p, -, rfl⟩ := h
  have hnatural : Yaml.natural? (Json.Value.nat n).write = some n := Yaml.natural?_natText n
  have hsize : n < UInt64.size := hn
  simp only [readNatural, Anchors.follow, pure_bind, mayBeNumber, if_true, hnatural, hsize]

lemma readTexts_depicts {texts : List String} (i : Nat)
    (h : DepictsItems (texts.map .string) nodes) :
    readTexts anchors path i nodes = pure texts := by
  induction texts generalizing nodes i with
  | nil =>
    obtain rfl : nodes = [] := h
    rfl
  | cons text texts ih =>
    obtain ⟨_, nodes, rfl, ⟨p, -, rfl⟩, hnodes⟩ := h
    simp only [readTexts, readText_quoted, pure_bind, ih (i + 1) hnodes]

lemma readSections_depicts {texts : List String} (h : Depicts (.array (texts.map .string)) node) :
    readSections anchors path node = pure texts := by
  obtain ⟨p, nodes, -, rfl, hnodes⟩ := h
  simp only [readSections, Anchors.follow, pure_bind, readTexts_depicts 0 hnodes]

/-- A field that is not set yet is set to the datum that a node depicts. -/
lemma readField_depicts {name : String} {d : Datum} (hfits : Fits name d)
    (hst : st.look name = none) (h : Depicts d.toJson node) (mark : Mark) (step : Step) :
    readField anchors mark st name step node = pure (st.put name d) := by
  cases d with
  | number n =>
    obtain ⟨hname, hn⟩ := hfits
    have hread (kind : String) : readNatural anchors kind [step] node = pure n :=
      readNatural_depicts kind [step] hn h
    simp only [numberFields, List.mem_cons, List.not_mem_nil, or_false] at hname
    rcases hname with rfl | rfl | rfl | rfl <;>
      simp only [Partial.look, Option.map_eq_none_iff] at hst <;>
      simp [readField, setField, hst, hread, Partial.put]
  | names texts =>
    obtain rfl : name = _ := hfits
    have hread : readSections anchors [step] node = pure texts := readSections_depicts h
    simp only [Partial.look, Option.map_eq_none_iff] at hst
    simp [readField, setField, hst, hread, Partial.put]

/-- The fields of settings are set one after the other, as they are decoded. -/
lemma readEntries_depicts (hnodup : (ss.map Setting.name).Nodup)
    (hst : ∀ s ∈ ss, st.look s.name = none)
    (h : DepictsMembers (ss.map Setting.member) entries) :
    readEntries anchors mark st entries = pure (st.putAll ss) := by
  -- no field is set twice: the names that are left are not set, and setting one leaves it so
  induction ss generalizing st entries with
  | nil =>
    obtain rfl : entries = [] := h
    rfl
  | cons s ss ih =>
    obtain ⟨p, node, entries, -, rfl, hnode, hentries⟩ := h
    rw [List.map_cons, List.nodup_cons] at hnodup
    rw [List.forall_mem_cons] at hst
    have hnext : ∀ s' ∈ ss, (st.put s.name s.datum).look s'.name = none := by
      intro s' hs'
      have hne : s'.name ≠ s.name := fun heq => hnodup.1 (heq ▸ List.mem_map_of_mem hs')
      rw [look_put s.fits, if_neg hne]
      exact hst.2 s' hs'
    have hknown : fieldNames.contains s.name = true :=
      List.contains_iff_mem.mpr s.fits.mem_fieldNames
    simp only [readEntries, readText_quoted, pure_bind, hknown, if_true,
      readField_depicts s.fits hst.1 hnode, ih hnodup.2 hnext hentries]
    rfl

/-- A compact text of settings of different fields is read by YAML as what the settings are. -/
theorem ofText_settings (hnodup : (ss.map Setting.name).Nodup)
    (h : IsObject (ss.map Setting.entry) t) (ht : Tight Legible false t) :
    Config.ofText (String.ofList t) = .ok (({} : Partial).putAll ss).get := by
  have hrenders := renders_object h ht
  obtain ⟨root, hdocument, p, entries, -, rfl, hentries⟩ := hrenders.document
  have hblank : Text.allBlank t = false := hrenders.not_blank
  have hread (anchors : Anchors) :
      readNode anchors (.mapping p entries) = pure (({} : Partial).putAll ss).get := by
    have hfields : readEntries anchors p.mark {} entries = pure (({} : Partial).putAll ss) :=
      readEntries_depicts hnodup (fun _ _ => look_empty _) hentries
    simp only [readNode, Anchors.follow, pure_bind, hfields]
  rw [Config.ofText, String.toList_ofList, hblank, if_neg Bool.false_ne_true, ofYaml,
    String.toList_ofList, hdocument]
  simp only [hread]
  rfl

/-! ## Decoding and reading -/

/-- A configuration file is laid over the defaults. An object is decoded just if its names are those
of fields, each of them once, and its values are such as the fields may have; the fields that it
names then have the values given, and the others their defaults. From a compact text YAML reads the
same configuration, unless a character is escaped as a surrogate pair, or one stands in a string that
YAML does not take for a part of it. -/
theorem decode_overlays (ht : IsText t) (hbrace : (Json.skipBlanks t).head? = some '{') :
    (∃ es, IsObject es t) ∧ ∀ es, IsObject es t →
      ((∃ c, decodeText decode (String.ofList t) = .ok c) ↔ Acceptable es) ∧
      ∀ c, decodeText decode (String.ofList t) = .ok c →
        Overlays es c ∧ (IsCompact t → IsPairFree t → InStrings Legible t →
          Config.ofText (String.ofList t) = .ok c) := by
  refine ⟨ht.exists_object hbrace, fun es hes => ⟨?_, fun c hc => ?_⟩⟩
  · rw [← exists_settings_iff]
    constructor
    · rintro ⟨c, hc⟩
      obtain ⟨ss, hss, hnodup, -⟩ := (decode_eq_ok_iff hes).mp hc
      exact ⟨ss, hss, hnodup⟩
    · rintro ⟨ss, hss, hnodup⟩
      exact ⟨_, (decode_eq_ok_iff hes).mpr ⟨ss, hss, hnodup, rfl⟩⟩
  · obtain ⟨ss, rfl, hnodup, rfl⟩ := (decode_eq_ok_iff hes).mp hc
    exact ⟨overlays_putAll hnodup, fun hcompact hpairs hlegible =>
      ofText_settings hnodup hes (Json.tight_iff.mpr ⟨hcompact, hpairs, hlegible⟩)⟩

/-- Two settings in another order than that of the fields, in a compact text. -/
def twoSettings : List Char :=
  '{' :: (quote "recommended_sections" ++ ':' :: '[' :: (quote "usage" ++ ']' :: ',' ::
    (quote "max_code_lines" ++ [':', '5', '}'])))

lemma isObject_twoSettings : IsObject [(quote "recommended_sections", '[' :: (quote "usage" ++ [']'])),
    (quote "max_code_lines", ['5'])] twoSettings := by
  have hquoted (text : String) : IsQuoted (quote text) := (Json.denotes_quote text).isQuoted
  have hsections : IsText ('[' :: (quote "usage" ++ [']'])) :=
    .array (.lastItem (.string (hquoted "usage")))
  have hlines : IsText ['5'] := .positive (Json.isNumeral_natText 5)
  have hlast := @IsEntries.last _ _ [] [] nofun (hquoted "max_code_lines") nofun hlines
  have hfirst := @IsEntries.cons _ _ [] [] _ _ nofun (hquoted "recommended_sections") nofun hsections
    hlast
  exact Json.padded_self (.inr ⟨_, hfirst, rfl⟩)

/-- The two settings are laid over the defaults, in JSON and in YAML. -/
theorem twoSettings_overlay :
    IsText twoSettings ∧ (Json.skipBlanks twoSettings).head? = some '{' ∧
      Overlays [(quote "recommended_sections", '[' :: (quote "usage" ++ [']'])),
        (quote "max_code_lines", ['5'])] { maxCodeLines := 5, recommendedSections := ["usage"] } ∧
      Config.ofText (String.ofList twoSettings) =
        .ok { maxCodeLines := 5, recommendedSections := ["usage"] } := by
  have ht : IsText twoSettings := isObject_twoSettings.isText
  have hbrace : (Json.skipBlanks twoSettings).head? = some '{' := rfl
  obtain ⟨hoverlays, hyaml⟩ := ((decode_overlays ht hbrace).2 _ isObject_twoSettings).2
    { maxCodeLines := 5, recommendedSections := ["usage"] } rfl
  exact ⟨ht, hbrace, hoverlays, hyaml (by decide) (by decide) (by decide)⟩

/-- An object with one section, under some literal. -/
def oneSection (literal : List Char) : List Char :=
  '{' :: (quote "recommended_sections" ++ ':' :: '[' :: (literal ++ [']', '}']))

lemma isObject_oneSection {literal : List Char} (h : IsQuoted literal) :
    IsObject [(quote "recommended_sections", '[' :: (literal ++ [']']))] (oneSection literal) := by
  have hsections : IsText ('[' :: (literal ++ [']'])) := .array (.lastItem (.string h))
  have hlast := @IsEntries.last _ _ [] [] nofun
    (Json.denotes_quote "recommended_sections").isQuoted nofun hsections
  exact Json.padded_self (.inr ⟨_, hlast, by simp [oneSection]⟩)

/-- A literal with one character, which is escaped as a surrogate pair. -/
def escapedPair : List Char := "\"\\ud83d\\ude00\"".toList

/-- A literal with half of a surrogate pair. -/
def escapedHalf : List Char := "\"\\ud83d\"".toList

lemma isQuoted_escapedPair : IsQuoted escapedPair := by
  refine ⟨[['\\', 'u', 'd', '8', '3', 'd'], ['\\', 'u', 'd', 'e', '0', '0']], ?_, rfl⟩
  exact List.forall_mem_cons.mpr ⟨.code (List.all_eq_true.mp rfl),
    List.forall_mem_singleton.mpr (.code (List.all_eq_true.mp rfl))⟩

lemma isQuoted_escapedHalf : IsQuoted escapedHalf := by
  refine ⟨[['\\', 'u', 'd', '8', '3', 'd']], ?_, rfl⟩
  exact List.forall_mem_singleton.mpr (.code (List.all_eq_true.mp rfl))

/-- What is decoded from a character that is escaped as a surrogate pair is refused by YAML. Half of
such a pair is a string to the grammar, but not to the decoder. -/
theorem surrogate_escapes :
    (IsObject [(quote "recommended_sections", '[' :: (escapedPair ++ [']']))]
        (oneSection escapedPair) ∧ IsCompact (oneSection escapedPair) ∧
      decodeText decode (String.ofList (oneSection escapedPair)) =
        .ok { recommendedSections := ["😀"] } ∧
      InStrings Legible (oneSection escapedPair) ∧ (∀ ch ∈ "😀".toList, Legible ch) ∧
      ∀ c, Config.ofText (String.ofList (oneSection escapedPair)) ≠ .ok c) ∧
    IsQuoted escapedHalf ∧
      IsObject [(quote "recommended_sections", '[' :: (escapedHalf ++ [']']))]
        (oneSection escapedHalf) ∧
      ∀ c, decodeText decode (String.ofList (oneSection escapedHalf)) ≠ .ok c := by
  have hrefused : (Config.ofText (String.ofList (oneSection escapedPair))).toOption = none := by
    decide
  have hrefused' : (decodeText decode (String.ofList (oneSection escapedHalf))).toOption = none := by
    decide
  have hlegible : ∀ ch ∈ "😀".toList, Legible ch := List.all_iff_forall_prop.mp (by decide)
  refine ⟨⟨isObject_oneSection isQuoted_escapedPair, by decide, rfl, by decide, hlegible,
    fun c hc => ?_⟩, isQuoted_escapedHalf, isObject_oneSection isQuoted_escapedHalf, fun c hc => ?_⟩
  · rw [hc] at hrefused
    cases hrefused
  · rw [hc] at hrefused'
    cases hrefused'

end AgentManifest.Lint.Config
