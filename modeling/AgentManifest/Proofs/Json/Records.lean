import AgentManifest.Proofs.Json.Decoders

/-!
# Records and written texts

What the shape of a record makes of the text of an object or of an array. The fields are taken up
one by one, in whatever state the record is (`Shape.Takes`). Members that are no fields are passed
over where the shape is open, whatever text they have, and refused where it is closed.
-/

namespace AgentManifest.Json

variable {σ α : Type} {l : Layout} {fuel depth k : Nat} {rest t ws : List Char}
variable {shape : Shape σ} {field : Field σ} {st st' st'' : σ} {name : String}
variable {es es' : List (String × List Char)} {ms : Members} {v : Value} {vs : List Value}

/-! ## Texts of objects -/

namespace Layout

/-- The members of an object as texts, and the closing brace. -/
def entries (l : Layout) : Bool → List (String × List Char) → List Char
  | _, [] => l.lineBreak 0 ++ ['}']
  | first, (name, t) :: es =>
    (if first then [] else [',']) ++ (l.lineBreak 1 ++ (quote name ++ ':' :: (l.gap ++
      (t ++ entries l false es))))

/-- An object whose members are given as texts. -/
def record (l : Layout) (es : List (String × List Char)) : List Char := '{' :: l.entries true es

/-- The names of members with the texts of their values. -/
def texts (l : Layout) (ms : Members) : List (String × List Char) :=
  ms.map fun m => (m.1, l.write 1 m.2)

lemma entries_texts (l : Layout) (ms : Members) :
    l.entries false (l.texts ms) = l.writeMembers 0 ms := by
  induction ms with
  | nil => rfl
  | cons m ms ih =>
    obtain ⟨name, v⟩ := m
    rw [texts, List.map_cons, entries, ← texts, ih, writeMembers]
    rfl

/-- The written form of an object that has members is the record of their texts. -/
lemma record_texts (l : Layout) (h : ms ≠ []) :
    l.record (l.texts ms) = l.write 0 (.object ms) := by
  cases ms with
  | nil => exact absurd rfl h
  | cons m ms =>
    obtain ⟨name, v⟩ := m
    rw [texts, List.map_cons, record, entries, ← texts, entries_texts, write]
    rfl

lemma entries_pos (l : Layout) (first : Bool) (es : List (String × List Char)) :
    1 ≤ (l.entries first es).length := by
  cases es <;> simp [entries]
  omega

lemma follows_entries (l : Layout) (es : List (String × List Char)) (rest : List Char) :
    Follows (l.entries false es ++ rest) := by
  cases es with
  | nil =>
    rw [entries, List.append_assoc]
    exact Follows.blank (l.lineBreak_blank 0) (by simp [Follows])
  | cons => simp [entries, Follows]

end Layout

lemma beforeName_gap (h : IsGap ws) (first : Bool) (s : List Char) :
    beforeName first (ws ++ s) = beforeName first s := by
  rw [beforeName, skipBlanks_gap h, beforeName]

/-- In front of a member its name is found. -/
lemma beforeName_entries (l : Layout) (hws : IsGap ws) (first : Bool) (name : String)
    (t : List Char) (es : List (String × List Char)) (rest : List Char) :
    beforeName first (ws ++ (l.entries first ((name, t) :: es) ++ rest)) =
      .ok (true, name.toList.flatMap escape ++
        '"' :: ':' :: (l.gap ++ (t ++ (l.entries false es ++ rest)))) := by
  have hquote := quote_append name (':' :: (l.gap ++ (t ++ (l.entries false es ++ rest))))
  rw [beforeName_gap hws]
  cases first with
  | true =>
    simp only [Layout.entries, if_pos, List.nil_append, List.append_assoc, List.cons_append, hquote]
    exact beforeName_first (l.lineBreak_blank 1) _
  | false =>
    simp only [Layout.entries, Bool.false_eq_true, if_false, List.append_assoc, List.cons_append,
      List.nil_append, hquote]
    exact beforeName_comma (l.lineBreak_blank 1) _

/-! ## Fields -/

/-- A field takes up a text in a state. -/
def Field.Reads (field : Field σ) (depth : Nat) (t : List Char) (st st' : σ) : Prop :=
  ∀ ⦃fuel : Nat⦄ ⦃ws rest : List Char⦄, t.length ≤ fuel → IsGap ws → Follows rest →
    field.read fuel depth (ws ++ (t ++ rest)) st = .ok (st', rest)

/-- A field takes up what its decoder makes of a text. -/
lemma Field.of_reads {decoder : Decoder α} {a : α} {required : Bool} {get : σ → Option α}
    {set : σ → α → σ} (h : decoder.Reads depth t a) (st : σ) :
    (Field.of name required decoder get set).Reads depth t st (set st a) := by
  intro fuel ws rest hfuel hws hrest
  simp only [Field.of, h hfuel hws hrest, bind, Except.bind]

namespace Shape

/-- The names of the fields. -/
def names (shape : Shape σ) : List String := shape.fields.map (·.name)

/-- Whether a name is that of a field. -/
def knows (shape : Shape σ) (name : String) : Bool := shape.names.contains name

lemma find?_eq_none (h : shape.knows name = false) :
    shape.fields.find? (·.name == name) = none := by
  rw [List.find?_eq_none]
  intro field hfield heq
  have hmem : name ∈ shape.names := List.mem_map.mpr ⟨field, hfield, beq_iff_eq.mp heq⟩
  rw [knows, List.contains_iff_mem.mpr hmem] at h
  cases h

/-! ## Members -/

/-- A record takes up members, from one state to another. -/
inductive Takes (shape : Shape σ) (depth : Nat) : List (String × List Char) → σ → σ → Prop where
  | nil (st : σ) : Takes shape depth [] st st
  | field {name : String} {t : List Char} {es : List (String × List Char)} {field : Field σ}
      {st st' st'' : σ} (hfind : shape.fields.find? (·.name == name) = some field)
      (hset : field.isSet st = false) (hread : field.Reads depth t st st')
      (h : Takes shape depth es st' st'') : Takes shape depth ((name, t) :: es) st st''
  | other {name : String} {t : List Char} {es : List (String × List Char)} {st st' : σ}
      (hopen : shape.closed = false) (hname : shape.knows name = false) (ht : IsText t)
      (h : Takes shape depth es st st') : Takes shape depth ((name, t) :: es) st st'

lemma Takes.append_left (h : shape.Takes depth (es ++ es') st st'') :
    ∃ st', shape.Takes depth es st st' := by
  induction es generalizing st with
  | nil => exact ⟨st, .nil st⟩
  | cons e es ih =>
    cases h with
    | field hfind hset hread h =>
      obtain ⟨st', htakes⟩ := ih h
      exact ⟨st', .field hfind hset hread htakes⟩
    | other hopen hname ht h =>
      obtain ⟨st', htakes⟩ := ih h
      exact ⟨st', .other hopen hname ht htakes⟩

/-- An open record takes up members between which there are others as it takes up those alone. -/
lemma Takes.of_filter (hopen : shape.closed = false)
    (htexts : ∀ e ∈ es, shape.knows e.1 = false → IsText e.2)
    (h : shape.Takes depth (es.filter fun e => shape.knows e.1) st st') :
    shape.Takes depth es st st' := by
  induction es generalizing st with
  | nil => exact h
  | cons e es ih =>
    obtain ⟨name, t⟩ := e
    rw [List.forall_mem_cons] at htexts
    cases hname : shape.knows name with
    | false =>
      rw [List.filter_cons_of_neg (by simp [hname])] at h
      exact .other hopen hname (htexts.1 hname) (ih htexts.2 h)
    | true =>
      rw [List.filter_cons_of_pos (by simp [hname])] at h
      cases h with
      | field hfind hset hread h => exact .field hfind hset hread (ih htexts.2 h)
      | other hopen hother => exact absurd (hname.symm.trans hother) (by decide)

/-- What reading members comes to in front of a member. -/
lemma members_entries (hws : IsGap ws) (first : Bool) (hfuel : (quote name).length ≤ fuel + 1) :
    shape.members depth (fuel + 1) first
        (ws ++ (l.entries first ((name, t) :: es) ++ rest)) st =
      match shape.fields.find? (·.name == name) with
      | none =>
        if shape.closed then
          stopAt (.shape (.unknownField name shape.names))
            (behindEnd (':' :: (l.gap ++ (t ++ (l.entries false es ++ rest)))))
        else
          skipValue fuel (l.gap ++ (t ++ (l.entries false es ++ rest))) >>= fun rest =>
            shape.members depth fuel false rest st
      | some field =>
        if field.isSet st then
          stopAt (.shape (.duplicateField name))
            (behindEnd (':' :: (l.gap ++ (t ++ (l.entries false es ++ rest)))))
        else
          field.read fuel depth (l.gap ++ (t ++ (l.entries false es ++ rest))) st >>= fun p =>
            shape.members depth fuel false p.2 p.1 := by
  have hmore := beforeName_entries l hws first name t es rest
  have hname := stringRest_quote hfuel (':' :: (l.gap ++ (t ++ (l.entries false es ++ rest))))
  have hcolon (s : List Char) : colon (':' :: s) = .ok s := rfl
  rw [members]
  simp only [hmore, hname, hcolon, names, bind, Except.bind, if_pos]
  all_goals rfl

/-- Reading members goes on behind those that are taken up. -/
lemma Takes.members_append (h : shape.Takes depth es st st') (rest : List Char) :
    ∀ {fuel : Nat} {first : Bool} {ws : List Char}, (l.entries first (es ++ es')).length ≤ fuel →
      IsGap ws → ∃ fuel' first' ws', (l.entries first' es').length ≤ fuel' ∧ IsGap ws' ∧
        shape.members depth fuel first (ws ++ (l.entries first (es ++ es') ++ rest)) st =
          shape.members depth fuel' first' (ws' ++ (l.entries first' es' ++ rest)) st' := by
  induction h with
  | nil => exact fun {fuel first ws} hfuel hws => ⟨fuel, first, ws, hfuel, hws, rfl⟩
  | @field name t es field st st' st'' hfind hset hread h ih =>
    intro fuel first ws hfuel hws
    rw [List.cons_append, Layout.entries] at hfuel
    simp only [List.length_append, List.length_cons] at hfuel
    obtain ⟨fuel, rfl⟩ := Nat.exists_eq_add_of_le' (show 1 ≤ fuel by omega)
    have hvalue := hread (show t.length ≤ fuel by omega) l.gap_blank.gap
      (l.follows_entries (es ++ es') rest)
    obtain ⟨fuel', first', ws', hfuel', hws', heq⟩ :=
      ih (show (l.entries false (es ++ es')).length ≤ fuel by omega) (show IsGap [] from nofun)
    refine ⟨fuel', first', ws', hfuel', hws', ?_⟩
    rw [← heq, List.cons_append, members_entries hws first (by omega)]
    simp only [hfind, hset, hvalue, bind, Except.bind, Bool.false_eq_true, if_false,
      List.nil_append]
  | @other name t es st st' hopen hname ht h ih =>
    intro fuel first ws hfuel hws
    have hpos := IsPiece.length_pos ht
    rw [List.cons_append, Layout.entries] at hfuel
    simp only [List.length_append, List.length_cons] at hfuel
    obtain ⟨fuel, rfl⟩ := Nat.exists_eq_add_of_le' (show 2 ≤ fuel by omega)
    obtain ⟨gap, hgap, hskip⟩ := skipValue_of_isText ht (show t.length ≤ fuel + 1 by omega)
      (l.follows_entries (es ++ es') rest).ends
    rw [← skipValue_gap l.gap_blank.gap] at hskip
    obtain ⟨fuel', first', ws', hfuel', hws', heq⟩ :=
      ih (show (l.entries false (es ++ es')).length ≤ fuel + 1 by omega) hgap
    refine ⟨fuel', first', ws', hfuel', hws', ?_⟩
    rw [← heq, List.cons_append, members_entries hws first (by omega)]
    simp only [find?_eq_none hname, hopen, hskip, bind, Except.bind, Bool.false_eq_true, if_false]

/-- No field that a record needs is missing. -/
def Complete (shape : Shape σ) (st : σ) : Prop :=
  ∀ field ∈ shape.fields, field.required = true → field.isSet st = true

/-- A record of texts is decoded if its members are taken up to a complete record. -/
lemma Takes.decode (h : shape.Takes (depth - 1) es st st') (hcomplete : shape.Complete st')
    (hdepth : 1 < depth) (hfuel : (l.record es).length ≤ fuel) :
    shape.decode st fuel depth (l.record es ++ rest) = .ok (st', rest) := by
  have hentries : (l.entries true (es ++ [])).length ≤ fuel := by
    rw [List.append_nil]
    exact Nat.le_of_succ_le hfuel
  obtain ⟨fuel', first, ws, hfuel', hws, heq⟩ :=
    h.members_append rest hentries (show IsGap [] from nofun)
  obtain ⟨fuel', rfl⟩ := Nat.exists_eq_add_of_le' (Nat.le_trans (l.entries_pos first []) hfuel')
  have hend : beforeName first (ws ++ (l.entries first [] ++ rest)) = .ok (false, rest) := by
    rw [beforeName_gap hws, Layout.entries, List.append_assoc]
    exact beforeName_end first (l.lineBreak_blank 0) rest
  have hnone : shape.fields.find? (fun field => field.required && !field.isSet st') = none := by
    rw [List.find?_eq_none]
    intro field hfield
    have hset := hcomplete field hfield
    simpa using hset
  rw [List.append_nil, List.nil_append] at heq
  rw [Layout.record, List.cons_append, Shape.decode, skipBlanks_cons rfl]
  simp only [if_neg (Nat.not_le.mpr hdepth)]
  rw [heq, members]
  simp only [hend, hnone, bind, Except.bind, Bool.false_eq_true, if_false]

/-- A closed record refuses the first member that is no field. -/
lemma Takes.refuse (h : shape.Takes (depth - 1) es st st') (hclosed : shape.closed = true)
    (hname : shape.knows name = false) (rest : List Char) (hdepth : 1 < depth)
    (hfuel : (l.record (es ++ (name, t) :: es')).length ≤ fuel) :
    ∃ stop, shape.decode st fuel depth (l.record (es ++ (name, t) :: es') ++ rest) = .error stop ∧
      stop.cause = .shape (.unknownField name shape.names) := by
  obtain ⟨fuel', first, ws, hfuel', hws, heq⟩ :=
    h.members_append rest (Nat.le_of_succ_le hfuel) (show IsGap [] from nofun)
  rw [Layout.entries] at hfuel'
  simp only [List.length_append, List.length_cons] at hfuel'
  obtain ⟨fuel', rfl⟩ := Nat.exists_eq_add_of_le' (show 1 ≤ fuel' by omega)
  rw [List.nil_append] at heq
  rw [Layout.record, List.cons_append, Shape.decode, skipBlanks_cons rfl]
  simp only [if_neg (Nat.not_le.mpr hdepth)]
  rw [heq, members_entries hws first (by omega)]
  simp only [find?_eq_none hname, hclosed, if_pos]
  exact ⟨_, rfl, rfl⟩

/-! ## Items -/

/-- Fields take up values one by one, from one state to another. -/
inductive Fills (depth : Nat) (l : Layout) : List (Field σ) → List Value → σ → σ → Prop where
  | nil (st : σ) : Fills depth l [] [] st st
  | cons {field : Field σ} {fields : List (Field σ)} {v : Value} {vs : List Value} {st st' st'' : σ}
      (hread : field.Reads depth (l.write 1 v) st st') (h : Fills depth l fields vs st' st'') :
      Fills depth l (field :: fields) (v :: vs) st st''

/-- The fields behind the first are read from the items behind the first. -/
lemma Fills.items (shape : Shape σ) {fields : List (Field σ)} (h : Fills depth l fields vs st st')
    (rest : List Char) (hwords : ∀ v ∈ vs, ∀ n ∈ v.numbers, n.IsWord) {index : Nat}
    (hindex : index ≠ 0) (hfuel : (l.writeItems 0 vs).length ≤ fuel) :
    shape.items fuel depth index fields (l.writeItems 0 vs ++ rest) st = .ok (st', rest) := by
  induction h generalizing index with
  | nil st =>
    have hend : skipBlanks (l.writeItems 0 [] ++ rest) = ']' :: rest := by
      rw [Layout.writeItems, List.append_assoc, skipBlanks_append (l.lineBreak_blank 0)]
      exact skipBlanks_cons rfl rest
    simp only [Shape.items, endItems, hend, bind, Except.bind]
  | @cons field fields v vs st st' st'' hread h ih =>
    rw [List.forall_mem_cons] at hwords
    simp only [Layout.writeItems, List.length_cons, List.length_append, Nat.zero_add] at hfuel
    obtain ⟨c, s, hwrite, hblank, hend⟩ := exists_write_eq_cons l 1 hwords.1
    have hmore : beforeItem false (',' :: (l.lineBreak (0 + 1) ++
        (l.write (0 + 1) v ++ (l.writeItems 0 vs ++ rest)))) =
          .ok (true, l.write 1 v ++ (l.writeItems 0 vs ++ rest)) := by
      rw [hwrite]
      exact beforeItem_comma (l.lineBreak_blank _) hblank hend _
    have hv := hread (show _ ≤ fuel by omega) (show IsGap [] from nofun)
      (follows_writeItems (l := l) 0 vs rest)
    have hvs := ih hwords.2 (Nat.succ_ne_zero index) (show _ ≤ fuel by omega)
    rw [List.nil_append] at hv
    simp only [Layout.writeItems, List.cons_append, List.append_assoc, Shape.items,
      beq_eq_false_iff_ne.mpr hindex, hmore, hv, hvs, bind, Except.bind, if_pos]

/-- An array of the values of the fields is decoded. -/
lemma Fills.decode {field : Field σ} {fields : List (Field σ)}
    (hfields : shape.fields = field :: fields)
    (h : Fills (depth - 1) l shape.fields vs st st') (hwords : ∀ v ∈ vs, ∀ n ∈ v.numbers, n.IsWord)
    (hdepth : 1 < depth) (hfuel : (l.write 0 (.array vs)).length ≤ fuel) :
    shape.decode st fuel depth (l.write 0 (.array vs) ++ rest) = .ok (st', rest) := by
  rw [hfields] at h
  cases h with
  | @cons _ _ v vs _ st' _ hread h =>
    rw [List.forall_mem_cons] at hwords
    simp only [Layout.write, List.length_cons, List.length_append, Nat.zero_add] at hfuel
    obtain ⟨c, s, hwrite, hblank, hend⟩ := exists_write_eq_cons l 1 hwords.1
    have hmore : beforeItem true (l.lineBreak (0 + 1) ++
        (l.write (0 + 1) v ++ (l.writeItems 0 vs ++ rest))) =
          .ok (true, l.write 1 v ++ (l.writeItems 0 vs ++ rest)) := by
      rw [hwrite]
      exact beforeItem_first (l.lineBreak_blank _) hblank hend _
    have hv := hread (show _ ≤ fuel by omega) (show IsGap [] from nofun)
      (follows_writeItems (l := l) 0 vs rest)
    have hvs := h.items shape rest hwords.2 (Nat.succ_ne_zero 0)
      (show _ ≤ fuel by omega)
    rw [List.nil_append] at hv
    rw [Layout.write, List.cons_append, Shape.decode, skipBlanks_cons rfl]
    simp only [if_neg (Nat.not_le.mpr hdepth), hfields, List.append_assoc, Shape.items,
      beq_self_eq_true, hmore, hv, hvs, bind, Except.bind, if_pos]

/-! ## Whole texts -/

/-- A decoder makes of a record what a function makes of its last state. -/
def Makes (shape : Shape σ) (init : σ) (get : σ → α) (decoder : Decoder α) : Prop :=
  ∀ fuel depth s, decoder fuel depth s = do
    let (st, rest) ← shape.decode init fuel depth s
    .ok (get st, rest)

variable {get : σ → α} {decoder : Decoder α}

lemma Makes.decodeText_eq (h : shape.Makes st get decoder) {text : List Char}
    (hdecode : ∀ {fuel : Nat}, text.length ≤ fuel →
      shape.decode st fuel maxNesting (text ++ []) = .ok (st', [])) :
    decodeText decoder (String.ofList text) = .ok (get st') := by
  have hshape := hdecode (show text.length ≤ 2 * text.length + 2 by omega)
  rw [List.append_nil] at hshape
  have hfinish : finish (get st') [] = .ok (get st') := rfl
  rw [decodeText, String.toList_ofList]
  simp only [h _ _ _, hshape, bind, Except.bind, hfinish]

lemma Takes.decodeText_eq (l : Layout) (hmakes : shape.Makes st get decoder)
    (h : shape.Takes (maxNesting - 1) es st st') (hcomplete : shape.Complete st') :
    decodeText decoder (String.ofList (l.record es)) = .ok (get st') :=
  hmakes.decodeText_eq fun hfuel => h.decode hcomplete (by decide) hfuel

lemma Fills.decodeText_eq (hmakes : shape.Makes st get decoder) {field : Field σ}
    {fields : List (Field σ)} (hfields : shape.fields = field :: fields)
    (h : Fills (maxNesting - 1) l shape.fields vs st st')
    (hwords : ∀ v ∈ vs, ∀ n ∈ v.numbers, n.IsWord) :
    decodeText decoder (String.ofList (l.write 0 (.array vs))) = .ok (get st') :=
  hmakes.decodeText_eq fun hfuel => h.decode hfields hwords (by decide) hfuel

lemma Takes.decodeText_refuse (l : Layout) (hmakes : shape.Makes st get decoder)
    (h : shape.Takes (maxNesting - 1) es st st') (hclosed : shape.closed = true)
    (hname : shape.knows name = false) (t : List Char) (es' : List (String × List Char)) :
    ∃ error, decodeText decoder (String.ofList (l.record (es ++ (name, t) :: es'))) = .error error ∧
      error.cause = .shape (.unknownField name shape.names) := by
  have hfuel : (l.record (es ++ (name, t) :: es')).length ≤
      2 * (l.record (es ++ (name, t) :: es')).length + 2 := by omega
  obtain ⟨stop, hstop, hcause⟩ :=
    h.refuse hclosed hname [] (show 1 < maxNesting by decide) hfuel
  rw [List.append_nil] at hstop
  refine ⟨stop.locate (l.record (es ++ (name, t) :: es')), ?_, hcause⟩
  rw [decodeText, String.toList_ofList]
  simp only [hmakes _ _ _, hstop, bind, Except.bind]

/-- Members are those of an object, with others between them that are no fields. -/
def Extends (shape : Shape σ) (l : Layout) (j : Value) (es : List (String × List Char)) : Prop :=
  ∃ ms, j = .object ms ∧ (es.filter fun e => shape.knows e.1) = l.texts ms

/-- Members that are no fields have texts of JSON values. -/
def OthersAreTexts (shape : Shape σ) (es : List (String × List Char)) : Prop :=
  ∀ e ∈ es, shape.knows e.1 = false → IsText e.2

end Shape

/-- A value is decoded from both written forms of its encoding. -/
def Recovers (decoder : Decoder α) (j : Value) (a : α) : Prop :=
  decodeText decoder j.compact = .ok a ∧ decodeText decoder j.pretty = .ok a

lemma recovers_of_write {decoder : Decoder α} {j : Value} {a : α}
    (h : ∀ l : Layout, decodeText decoder (String.ofList (l.write 0 j)) = .ok a) :
    Recovers decoder j a := by
  refine ⟨?_, ?_⟩
  · rw [Value.compact, ← Layout.write_compact 0]
    exact h Layout.compact
  · rw [Value.pretty, ← Layout.write_indented]
    exact h Layout.indented

end AgentManifest.Json
