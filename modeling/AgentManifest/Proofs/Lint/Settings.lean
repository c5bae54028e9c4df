import Mathlib.Data.Set.List
import AgentManifest.Lint.Config
import AgentManifest.Proofs.Json.Entries
import AgentManifest.Proofs.Report.Decoding

/-!
# Settings

What the entries of an object set in a configuration. An object is decoded as a configuration just
if each of its names is that of a field and occurs once, and each of its values is one that the field
may have; the fields that it names then have the values given, and the others their defaults,
whatever the order of the entries.
-/

namespace AgentManifest.Lint.Config

open Json (Denotes IsArrayOf IsNatural IsObject IsString decodeText)

variable {es : List (List Char × List Char)} {t : List Char} {c : Config} {name name' : String}
variable {st st' : Partial}

/-! ## What a field is set to -/

/-- What a field is set to. -/
inductive Datum where
  | number (n : Nat)
  | names (texts : List String)

/-- The names of the fields that hold a number. -/
def numberFields : List String :=
  ["max_code_lines", "max_file_size", "min_usage_examples", "max_decision_tree_depth"]

/-- A text stands for a datum. -/
def Datum.IsWritten : Datum → List Char → Prop
  | .number n, t => IsNatural n t
  | .names texts, t => IsArrayOf IsString texts t

/-- A field of a name may be set to a datum. -/
def Fits (name : String) : Datum → Prop
  | .number n => name ∈ numberFields ∧ n < 2 ^ 64
  | .names _ => name = "recommended_sections"

/-- What the field of a name is set to. -/
def Partial.look (st : Partial) : String → Option Datum
  | "max_code_lines" => st.maxCodeLines.map .number
  | "max_file_size" => st.maxFileSize.map .number
  | "min_usage_examples" => st.minUsageExamples.map .number
  | "max_decision_tree_depth" => st.maxDecisionTreeDepth.map .number
  | "recommended_sections" => st.recommendedSections.map .names
  | _ => none

/-- Sets the field of a name. -/
def Partial.put (st : Partial) : String → Datum → Partial
  | "max_code_lines", .number n => { st with maxCodeLines := some n }
  | "max_file_size", .number n => { st with maxFileSize := some n }
  | "min_usage_examples", .number n => { st with minUsageExamples := some n }
  | "max_decision_tree_depth", .number n => { st with maxDecisionTreeDepth := some n }
  | "recommended_sections", .names texts => { st with recommendedSections := some texts }
  | _, _ => st

lemma Fits.mem_fieldNames {d : Datum} (h : Fits name d) : name ∈ fieldNames := by
  cases d with
  | number n => exact (show numberFields ⊆ fieldNames by decide) h.1
  | names texts =>
    obtain rfl : name = _ := h
    decide

lemma look_empty (name : String) : ({} : Partial).look name = none := by
  unfold Partial.look
  split <;> rfl

/-- A field that is set has what it was set to, and the others have what they had. -/
lemma look_put {d : Datum} (h : Fits name d) (st : Partial) (name' : String) :
    (st.put name d).look name' = if name' = name then some d else st.look name' := by
  cases d with
  | number n =>
    obtain ⟨hname, -⟩ := h
    simp only [numberFields, List.mem_cons, List.not_mem_nil, or_false] at hname
    rcases hname with rfl | rfl | rfl | rfl <;> simp only [Partial.put] <;> unfold Partial.look <;>
      split <;> simp_all
  | names texts =>
    obtain rfl : name = _ := h
    simp only [Partial.put]
    unfold Partial.look
    split <;> simp_all

/-! ## Entries -/

/-- An entry with what it sets. -/
structure Setting where
  entry : List Char × List Char
  name : String
  datum : Datum
  denotes : Denotes entry.1 name
  fits : Fits name datum
  written : datum.IsWritten entry.2

variable {ss : List Setting}

/-- Sets the fields that some settings name, one after the other. -/
def Partial.putAll (st : Partial) (ss : List Setting) : Partial :=
  ss.foldl (fun st s => st.put s.name s.datum) st

lemma look_putAll_of_not_mem (h : ∀ s ∈ ss, s.name ≠ name) (st : Partial) :
    (st.putAll ss).look name = st.look name := by
  induction ss generalizing st with
  | nil => rfl
  | cons s ss ih =>
    rw [List.forall_mem_cons] at h
    have hlook := ih h.2 (st.put s.name s.datum)
    rwa [look_put s.fits, if_neg h.1.symm] at hlook

lemma look_putAll_of_mem (hnodup : (ss.map Setting.name).Nodup) {s : Setting} (hs : s ∈ ss)
    (st : Partial) : (st.putAll ss).look s.name = some s.datum := by
  induction ss generalizing st with
  | nil => cases hs
  | cons s' ss ih =>
    rw [List.map_cons, List.nodup_cons] at hnodup
    cases hs with
    | head =>
      have hother : ∀ s' ∈ ss, s'.name ≠ s.name := fun s' hs' heq =>
        hnodup.1 (heq ▸ List.mem_map_of_mem hs')
      have hlook := look_putAll_of_not_mem hother (st.put s.name s.datum)
      rwa [look_put s.fits, if_pos rfl] at hlook
    | tail _ hs => exact ih hnodup.2 hs (st.put s'.name s'.datum)

/-! ## Decoding -/

/-- A field takes up a text as a datum that it may be set to. -/
def Takes (field : Json.Field Partial) (t : List Char) (st st' : Partial) : Prop :=
  ∃ d, Fits field.name d ∧ d.IsWritten t ∧ st' = st.put field.name d

lemma number_recognizes {kind : String} {get : Partial → Option Nat} {set : Partial → Nat → Partial}
    (hname : name ∈ numberFields) (hset : ∀ st n, set st n = st.put name (.number n)) :
    (Json.Field.of name false (Json.decodeNatural kind) get set).Recognizes (Json.maxNesting - 1)
      (Takes (.of name false (Json.decodeNatural kind) get set)) := by
  refine Json.Field.of_recognizes (Json.decodeNatural_recognizes kind _) fun t st st' => ?_
  constructor
  · rintro ⟨d, hfits, hd, rfl⟩
    cases d with
    | number n => exact ⟨n, ⟨hfits.2, hd⟩, (hset st n).symm⟩
    | names texts =>
      obtain rfl : name = _ := hfits
      exact absurd hname (by decide)
  · rintro ⟨n, ⟨hlt, hn⟩, rfl⟩
    exact ⟨.number n, ⟨hname, hlt⟩, hn, hset st n⟩

lemma sections_recognizes {get : Partial → Option (List String)}
    {set : Partial → List String → Partial}
    (hset : ∀ st texts, set st texts = st.put "recommended_sections" (.names texts)) :
    (Json.Field.of "recommended_sections" false (Json.decodeList Json.decodeString) get
      set).Recognizes (Json.maxNesting - 1)
        (Takes (.of "recommended_sections" false (Json.decodeList Json.decodeString) get set)) := by
  refine Json.Field.of_recognizes
    (Json.decodeList_recognizes (by decide) (Json.decodeString_recognizes _)) fun t st st' => ?_
  constructor
  · rintro ⟨d, hfits, hd, rfl⟩
    cases d with
    | number n =>
      exact absurd (show "recommended_sections" ∈ numberFields from hfits.1) (by decide)
    | names texts => exact ⟨texts, hd, (hset st texts).symm⟩
  · rintro ⟨texts, htexts, rfl⟩
    exact ⟨.names texts, rfl, htexts, hset st texts⟩

lemma fields_recognize :
    ∀ field ∈ shape.fields, field.Recognizes (Json.maxNesting - 1) (Takes field) := by
  intro field hfield
  simp only [shape, List.mem_cons, List.not_mem_nil, or_false] at hfield
  rcases hfield with rfl | rfl | rfl | rfl | rfl
  iterate 4 exact number_recognizes (by decide) fun _ _ => rfl
  exact sections_recognizes fun _ _ => rfl

lemma isSet_eq : ∀ field ∈ shape.fields, field.isSet st = (st.look field.name).isSome := by
  intro field hfield
  simp only [shape, List.mem_cons, List.not_mem_nil, or_false] at hfield
  rcases hfield with rfl | rfl | rfl | rfl | rfl <;>
    simp [Json.Field.of, Partial.look]

lemma optional : ∀ field ∈ shape.fields, field.required = false := by
  intro field hfield
  simp only [shape, List.mem_cons, List.not_mem_nil, or_false] at hfield
  rcases hfield with rfl | rfl | rfl | rfl | rfl <;> rfl

lemma exists_field (h : name ∈ fieldNames) :
    ∃ field, shape.fields.find? (·.name == name) = some field := by
  obtain ⟨field, hfield, hname⟩ := List.mem_map.mp (show name ∈ shape.fields.map (·.name) from h)
  exact Option.isSome_iff_exists.mp (List.find?_isSome.mpr ⟨field, hfield, by simpa using hname⟩)

/-- The entries that are taken up are those of settings of different fields, none of which is set
yet. -/
lemma runs_iff : shape.Runs Takes es st st' ↔
    ∃ ss : List Setting, ss.map Setting.entry = es ∧ (ss.map Setting.name).Nodup ∧
      (∀ s ∈ ss, st.look s.name = none) ∧ st' = st.putAll ss := by
  constructor
  -- that no field is set yet is what keeps the names of the settings apart
  · intro h
    induction h with
    | nil st => exact ⟨[], rfl, .nil, nofun, rfl⟩
    | @cons q t es name field st _ _ hname hfind hset hread _ ih =>
      obtain ⟨d, hfits, hd, rfl⟩ := hread
      obtain ⟨ss, rfl, hnodup, hnone, rfl⟩ := ih
      have hfield := List.mem_of_find?_eq_some hfind
      obtain rfl : field.name = name := by simpa using List.find?_some hfind
      rw [isSet_eq field hfield, Option.isSome_eq_false_iff, Option.isNone_iff_eq_none] at hset
      have hother : ∀ s ∈ ss, s.name ≠ field.name := by
        intro s hs heq
        have hlook := hnone s hs
        rw [look_put hfits, if_pos heq] at hlook
        cases hlook
      let s : Setting := ⟨(q, t), field.name, d, hname, hfits, hd⟩
      refine ⟨s :: ss, rfl, ?_, ?_, rfl⟩
      · rw [List.map_cons, List.nodup_cons]
        refine ⟨fun hmem => ?_, hnodup⟩
        obtain ⟨s', hs', heq⟩ := List.mem_map.mp hmem
        exact hother s' hs' heq
      · refine List.forall_mem_cons.mpr ⟨hset, fun s' hs' => ?_⟩
        have hlook := hnone s' hs'
        rwa [look_put hfits, if_neg (hother s' hs')] at hlook
  · rintro ⟨ss, rfl, hnodup, hnone, rfl⟩
    induction ss generalizing st with
    | nil => exact .nil st
    | cons s ss ih =>
      rw [List.map_cons, List.nodup_cons] at hnodup
      rw [List.forall_mem_cons] at hnone
      obtain ⟨field, hfind⟩ := exists_field s.fits.mem_fieldNames
      have hfield := List.mem_of_find?_eq_some hfind
      have hname : field.name = s.name := by simpa using List.find?_some hfind
      refine .cons s.denotes hfind ?_ ⟨s.datum, hname ▸ s.fits, s.written, rfl⟩ ?_
      · rw [isSet_eq field hfield, hname, hnone.1]
        rfl
      · rw [hname]
        refine ih hnodup.2 fun s' hs' => ?_
        have hne : s'.name ≠ s.name := fun heq => hnodup.1 (heq ▸ List.mem_map_of_mem hs')
        rw [look_put s.fits, if_neg hne]
        exact hnone.2 s' hs'

/-- An object is decoded as a configuration just if its entries are those of settings of different
fields, which are then laid over the defaults. -/
theorem decode_eq_ok_iff (h : IsObject es t) :
    decodeText decode (String.ofList t) = .ok c ↔
      ∃ ss : List Setting, ss.map Setting.entry = es ∧ (ss.map Setting.name).Nodup ∧
        (({} : Partial).putAll ss).get = c := by
  rw [Json.Shape.decodeText_eq_ok_iff makes rfl optional fields_recognize h]
  constructor
  · rintro ⟨st, hruns, rfl⟩
    obtain ⟨ss, hes, hnodup, -, rfl⟩ := runs_iff.mp hruns
    exact ⟨ss, hes, hnodup, rfl⟩
  · rintro ⟨ss, hes, hnodup, rfl⟩
    exact ⟨_, runs_iff.mpr ⟨ss, hes, hnodup, fun _ _ => look_empty _, rfl⟩, rfl⟩

/-! ## Acceptance -/

/-- Each name is that of a field, no two are the same, and each value is one that its field may
have. -/
structure Acceptable (es : List (List Char × List Char)) : Prop where
  known : ∀ e ∈ es, ∃ name ∈ fieldNames, Denotes e.1 name
  distinct : es.Pairwise fun e e' => ∀ name, Denotes e.1 name → ¬Denotes e'.1 name
  number : ∀ e ∈ es, ∀ name ∈ numberFields, Denotes e.1 name → ∃ n < 2 ^ 64, IsNatural n e.2
  sections : ∀ e ∈ es, Denotes e.1 "recommended_sections" → ∃ texts, IsArrayOf IsString texts e.2

lemma Acceptable.exists_setting (h : Acceptable es) {e : List Char × List Char} (he : e ∈ es) :
    ∃ s : Setting, s.entry = e := by
  obtain ⟨name, hname, hdenotes⟩ := h.known e he
  have hcases : ∀ name ∈ fieldNames, name ∈ numberFields ∨ name = "recommended_sections" := by
    decide
  rcases hcases name hname with hnumber | rfl
  · obtain ⟨n, hlt, hn⟩ := h.number e he name hnumber hdenotes
    exact ⟨⟨e, name, .number n, hdenotes, ⟨hnumber, hlt⟩, hn⟩, rfl⟩
  · obtain ⟨texts, htexts⟩ := h.sections e he hdenotes
    exact ⟨⟨e, _, .names texts, hdenotes, rfl, htexts⟩, rfl⟩

/-- Settings are of different fields just if no two of the literals denote the same name. -/
lemma nodup_names_iff (ss : List Setting) : (ss.map Setting.name).Nodup ↔
    (ss.map Setting.entry).Pairwise fun e e' => ∀ name, Denotes e.1 name → ¬Denotes e'.1 name := by
  rw [List.Nodup, List.pairwise_map, List.pairwise_map]
  refine List.Pairwise.iff fun s s' => ?_
  constructor
  · intro hne name h h'
    exact hne ((s.denotes.unique h).trans (h'.unique s'.denotes))
  · intro h heq
    exact h s.name s.denotes (heq ▸ s'.denotes)

/-- The entries are those of settings of different fields just if they are acceptable. -/
lemma exists_settings_iff :
    (∃ ss : List Setting, ss.map Setting.entry = es ∧ (ss.map Setting.name).Nodup) ↔
      Acceptable es := by
  constructor
  · rintro ⟨ss, rfl, hnodup⟩
    refine ⟨?_, (nodup_names_iff ss).mp hnodup, ?_, ?_⟩ <;> intro e he <;>
      obtain ⟨s, -, rfl⟩ := List.mem_map.mp he
    · exact ⟨s.name, s.fits.mem_fieldNames, s.denotes⟩
    · intro name hname hdenotes
      obtain ⟨entry, _, d, hdenotes', hfits, hd⟩ := s
      obtain rfl := hdenotes'.unique hdenotes
      cases d with
      | number n => exact ⟨n, hfits.2, hd⟩
      | names texts =>
        obtain rfl := hfits
        exact absurd hname (by decide)
    · intro hdenotes
      obtain ⟨entry, _, d, hdenotes', hfits, hd⟩ := s
      obtain rfl := hdenotes'.unique hdenotes
      cases d with
      | number n => exact absurd hfits.1 (by decide)
      | names texts => exact ⟨texts, hd⟩
  · intro h
    have hrange : es ∈ Set.range (List.map Setting.entry) := by
      rw [Set.range_list_map]
      exact fun e he => h.exists_setting he
    obtain ⟨ss, rfl⟩ := hrange
    exact ⟨ss, rfl, (nodup_names_iff ss).mpr h.distinct⟩

/-! ## Overlays -/

/-- The field of a name has the value that the entry under the name stands for, or its default if
there is no such entry. -/
def Holds {α : Type} (es : List (List Char × List Char)) (name : String)
    (R : α → List Char → Prop) (default value : α) : Prop :=
  (∀ e ∈ es, Denotes e.1 name → R value e.2) ∧ ((∀ e ∈ es, ¬Denotes e.1 name) → value = default)

/-- The fields that entries name have the values given, and the others their defaults. -/
structure Overlays (es : List (List Char × List Char)) (c : Config) : Prop where
  maxCodeLines : Holds es "max_code_lines" IsNatural ({} : Config).maxCodeLines c.maxCodeLines
  maxFileSize : Holds es "max_file_size" IsNatural ({} : Config).maxFileSize c.maxFileSize
  minUsageExamples :
    Holds es "min_usage_examples" IsNatural ({} : Config).minUsageExamples c.minUsageExamples
  maxDecisionTreeDepth : Holds es "max_decision_tree_depth" IsNatural
    ({} : Config).maxDecisionTreeDepth c.maxDecisionTreeDepth
  recommendedSections : Holds es "recommended_sections" (IsArrayOf IsString)
    ({} : Config).recommendedSections c.recommendedSections

/-- A field that holds data of one kind has what the settings say, or its default. -/
lemma holds_of_look {α : Type} {R : α → List Char → Prop} {mk : α → Datum} {value : Option α}
    (hnodup : (ss.map Setting.name).Nodup) (hlook : (({} : Partial).putAll ss).look name = value.map mk)
    (hempty : ({} : Partial).look name = none) (hR : ∀ a t, (mk a).IsWritten t → R a t)
    (default : α) : Holds (ss.map Setting.entry) name R default (value.getD default) := by
  constructor
  · intro e he hdenotes
    obtain ⟨s, hs, rfl⟩ := List.mem_map.mp he
    obtain rfl := s.denotes.unique hdenotes
    rw [look_putAll_of_mem hnodup hs] at hlook
    cases value with
    | none => cases hlook
    | some a => exact hR a _ (Option.some.inj hlook ▸ s.written)
  · intro hnone
    have hother : ∀ s ∈ ss, s.name ≠ name := by
      rintro s hs rfl
      exact hnone s.entry (List.mem_map_of_mem hs) s.denotes
    rw [look_putAll_of_not_mem hother, hempty] at hlook
    cases value with
    | none => rfl
    | some a => cases hlook

/-- Settings of different fields are laid over the defaults. -/
lemma overlays_putAll (hnodup : (ss.map Setting.name).Nodup) :
    Overlays (ss.map Setting.entry) (({} : Partial).putAll ss).get := by
  have hnumber (n : Nat) (t : List Char) (h : (Datum.number n).IsWritten t) : IsNatural n t := h
  have hnames (texts : List String) (t : List Char) (h : (Datum.names texts).IsWritten t) :
      IsArrayOf IsString texts t := h
  exact {
    maxCodeLines := holds_of_look hnodup rfl rfl hnumber _
    maxFileSize := holds_of_look hnodup rfl rfl hnumber _
    minUsageExamples := holds_of_look hnodup rfl rfl hnumber _
    maxDecisionTreeDepth := holds_of_look hnodup rfl rfl hnumber _
    recommendedSections := holds_of_look hnodup rfl rfl hnames _ }

end AgentManifest.Lint.Config
