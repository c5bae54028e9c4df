import AgentManifest.Proofs.Json.Recognition
import AgentManifest.Proofs.Json.Records

/-!
# Records of arbitrary texts

The text of an object as its entries: the literals of the names with the texts of the values, however
many blanks stand between them. A closed record is decoded just from those entries that its fields
take up one by one (`Shape.decodeText_eq_ok_iff`).
-/

namespace AgentManifest.Json

variable {σ α : Type} {fuel depth : Nat} {s t ms q lead rest behind ws ws' : List Char}
variable {es : List (List Char × List Char)} {first : Bool} {st st' : σ}

/-! ## Entries -/

/-- The text of entries, each a name and a value, and the closing brace. -/
inductive IsEntries : List (List Char × List Char) → List Char → Prop where
  | last {q t ws ws' : List Char} (hws : IsGap ws) (hq : IsQuoted q) (hws' : IsGap ws')
      (ht : IsText t) : IsEntries [(q, t)] (ws ++ (q ++ (ws' ++ ':' :: (t ++ ['}']))))
  | cons {q t ws ws' ms : List Char} {es : List (List Char × List Char)} (hws : IsGap ws)
      (hq : IsQuoted q) (hws' : IsGap ws') (ht : IsText t) (hs : IsEntries es ms) :
      IsEntries ((q, t) :: es) (ws ++ (q ++ (ws' ++ ':' :: (t ++ ',' :: ms))))

/-- A text is an object with some entries, with blanks around it. -/
def IsObject (es : List (List Char × List Char)) (t : List Char) : Prop :=
  Padded (fun core => (∃ ws, IsGap ws ∧ es = [] ∧ core = '{' :: (ws ++ ['}'])) ∨
    ∃ ms, IsEntries es ms ∧ core = '{' :: ms) t

lemma IsQuoted.two_le_length (h : IsQuoted q) : 2 ≤ q.length := by
  obtain ⟨units, -, rfl⟩ := h
  simp

lemma IsPiece.exists_entries {p : Piece} (h : IsPiece p ms) :
    p = .members → ∃ es, IsEntries es ms := by
  induction h with
  | lastMember hws hq hws' ht => exact fun _ => ⟨_, .last hws hq hws' ht⟩
  | member hws hq hws' ht _ _ ih =>
    intro hp
    obtain ⟨es, hes⟩ := ih hp
    exact ⟨_, .cons hws hq hws' ht hes⟩
  | _ => exact nofun

lemma IsEntries.isPiece (h : IsEntries es ms) : IsPiece .members ms := by
  induction h with
  | last hws hq hws' ht => exact .lastMember hws hq hws' ht
  | cons hws hq hws' ht _ ih => exact .member hws hq hws' ht ih

lemma IsObject.isText (h : IsObject es t) : IsText t := by
  obtain ⟨ws, core, ws', rfl, hws, ⟨gap, hgap, -, rfl⟩ | ⟨ms, hms, rfl⟩, hws'⟩ := h
  · exact .padded hws (.emptyObject hgap) hws'
  · exact .padded hws (.object hms.isPiece) hws'

/-- A text that starts with a brace is an object with some entries. -/
lemma IsText.exists_object (h : IsText t) (hbrace : (skipBlanks t).head? = some '{') :
    ∃ es, IsObject es t := by
  obtain ⟨ws, c, s, ws', rfl, hws, hws', hcore, hskip⟩ := h.exists_continues []
  rw [List.append_nil] at hskip
  rw [hskip] at hbrace
  cases hbrace
  cases hcore with
  | emptyObject hgap => exact ⟨[], ws, _, ws', rfl, hws, .inl ⟨_, hgap, rfl, rfl⟩, hws'⟩
  | object hms =>
    obtain ⟨es, hes⟩ := hms.exists_entries rfl
    exact ⟨es, ws, _, ws', rfl, hws, .inr ⟨s, hes, rfl⟩, hws'⟩
  | word h => simp at h
  | positive h => cases h.isDigit

lemma finish_eq_ok_iff {a b : α} : finish a rest = .ok b ↔ a = b ∧ skipBlanks rest = [] := by
  unfold finish
  split
  · simp [*]
  · simp_all [stopAfter]

/-! ## Fields -/

/-- A field takes up the texts of values that stand in a relation to the states before and behind. -/
structure Field.Recognizes (field : Field σ) (depth : Nat) (A : List Char → σ → σ → Prop) :
    Prop where
  sound : ∀ {fuel t rest st st' behind}, IsText t → t.length ≤ fuel → Ends rest →
    field.read fuel depth (t ++ rest) st = .ok (st', behind) →
      A t st st' ∧ ∃ ws, IsGap ws ∧ behind = ws ++ rest
  complete : ∀ {fuel t st st'}, A t st st' → t.length ≤ fuel → ∀ {rest}, Ends rest →
    ∃ ws, IsGap ws ∧ field.read fuel depth (t ++ rest) st = .ok (st', ws ++ rest)

/-- A field takes up what its decoder recognizes. -/
lemma Field.of_recognizes {decoder : Decoder α} {R : α → List Char → Prop} {name : String}
    {required : Bool} {get : σ → Option α} {set : σ → α → σ} {A : List Char → σ → σ → Prop}
    (h : decoder.Recognizes depth R)
    (hA : ∀ t st st', A t st st' ↔ ∃ a, R a t ∧ st' = set st a) :
    (Field.of name required decoder get set).Recognizes depth A where
  sound := by
    intro fuel t rest st st' behind ht hfuel hrest hread
    simp only [Field.of, bind, Except.bind] at hread
    split at hread
    · cases hread
    · rename_i p hdecode
      cases hread
      obtain ⟨hR, hbehind⟩ := h.sound ht hfuel hrest hdecode
      exact ⟨(hA _ _ _).mpr ⟨p.1, hR, rfl⟩, hbehind⟩
  complete := by
    intro fuel t st st' hread hfuel rest hrest
    obtain ⟨a, hR, rfl⟩ := (hA _ _ _).mp hread
    obtain ⟨ws, hws, hdecode⟩ := h.complete hR hfuel hrest
    exact ⟨ws, hws, by simp only [Field.of, hdecode, bind, Except.bind]⟩

namespace Shape

variable {shape : Shape σ} {A : Field σ → List Char → σ → σ → Prop}

/-! ## Members -/

/-- A closed record takes up entries, from one state to another: each name denotes that of a field
that is not set yet, and the field takes up the value. -/
inductive Runs (shape : Shape σ) (A : Field σ → List Char → σ → σ → Prop) :
    List (List Char × List Char) → σ → σ → Prop where
  | nil (st : σ) : Runs shape A [] st st
  | cons {q t : List Char} {es : List (List Char × List Char)} {name : String} {field : Field σ}
      {st st' st'' : σ} (hname : Denotes q name)
      (hfind : shape.fields.find? (·.name == name) = some field) (hset : field.isSet st = false)
      (hread : A field t st st') (h : Runs shape A es st' st'') :
      Runs shape A ((q, t) :: es) st st''

lemma beforeName_lead (hlead : IsLead first lead) (hws : IsGap ws) (s : List Char) :
    beforeName first (lead ++ (ws ++ '"' :: s)) = .ok (true, s) := by
  obtain ⟨gap, hgap, rfl⟩ := hlead
  cases first with
  | true =>
    rw [if_pos rfl, List.append_nil, beforeName, skipBlanks_gap hgap, skipBlanks_gap hws,
      skipBlanks_cons rfl]
    rfl
  | false =>
    have hname : skipBlanks (ws ++ '"' :: s) = '"' :: s := by
      rw [skipBlanks_gap hws, skipBlanks_cons rfl]
    rw [if_neg Bool.false_ne_true, List.append_assoc, List.singleton_append, beforeName,
      skipBlanks_gap hgap, skipBlanks_cons rfl]
    simp [hname]

/-- A closed record goes on behind an entry if its name denotes that of a field that is not set
yet, and the field takes up what stands behind the colon. -/
lemma members_eq_ok_iff (hclosed : shape.closed = true) (hlead : IsLead first lead)
    (hws : IsGap ws) (hq : IsQuoted q) (hws' : IsGap ws') (hfuel : q.length ≤ fuel + 1)
    {p : Parsed σ} :
    shape.members depth (fuel + 1) first (lead ++ (ws ++ (q ++ (ws' ++ ':' :: s)))) st = .ok p ↔
      ∃ name field p', Denotes q name ∧ shape.fields.find? (·.name == name) = some field ∧
        field.isSet st = false ∧ field.read fuel depth s st = .ok p' ∧
        shape.members depth fuel false p'.2 p'.1 = .ok p := by
  obtain ⟨s', hs'⟩ : ∃ s', q ++ (ws' ++ ':' :: s) = '"' :: s' := by
    obtain ⟨units, -, rfl⟩ := hq
    exact ⟨_, rfl⟩
  have hcolon : colon (ws' ++ ':' :: s) = .ok s := by
    rw [colon, skipBlanks_gap hws', skipBlanks_cons rfl]
    rfl
  have hmore := beforeName_lead hlead hws s'
  rw [hs', members]
  simp only [hmore, bind, Except.bind, if_pos]
  constructor
  · intro h
    cases hname : stringRest fuel s' with
    | error stop =>
      rw [hname] at h
      cases h
    | ok p' =>
      obtain ⟨name, rest⟩ := p'
      obtain ⟨hdenotes, rfl⟩ := hq.denotes hs' hname
      simp only [hname, hcolon] at h
      split at h
      · rw [hclosed] at h
        cases h
      · rename_i field hfind
        split_ifs at h with hset
        · cases h
        · cases hread : field.read fuel depth s st with
          | error stop =>
            rw [hread] at h
            cases h
          | ok p' =>
            rw [hread] at h
            exact ⟨name, field, p', hdenotes, hfind, Bool.eq_false_iff.mpr hset, hread, h⟩
  · rintro ⟨name, field, p', hname, hfind, hset, hread, h⟩
    obtain ⟨s'', hs'', hrest⟩ := hname.stringRest hfuel (ws' ++ ':' :: s)
    obtain rfl : s' = s'' := (List.cons.inj (hs'.symm.trans hs'')).2
    simp only [hrest, hfind, hset, hcolon, hread, Bool.false_eq_true, if_false, h]

/-- The closing brace ends the members of a record that needs no field. -/
lemma members_close (hoptional : ∀ field ∈ shape.fields, field.required = false) (hws : IsGap ws)
    (hfuel : 1 ≤ fuel) :
    shape.members depth fuel first (ws ++ '}' :: rest) st = .ok (st, rest) := by
  obtain ⟨fuel, rfl⟩ := Nat.exists_eq_add_of_le' hfuel
  have hend : beforeName first (ws ++ '}' :: rest) = .ok (false, rest) := by
    rw [beforeName, skipBlanks_gap hws, skipBlanks_cons rfl]
    rfl
  have hnone : shape.fields.find? (fun field => field.required && !field.isSet st) = none := by
    rw [List.find?_eq_none]
    intro field hfield
    simp [hoptional field hfield]
  rw [members]
  simp only [hend, hnone, bind, Except.bind, Bool.false_eq_true, if_false]

/-- The members of a closed record are decoded just from the entries that it takes up. -/
theorem members_iff (hclosed : shape.closed = true)
    (hoptional : ∀ field ∈ shape.fields, field.required = false)
    (hfields : ∀ field ∈ shape.fields, field.Recognizes depth (A field)) (h : IsEntries es ms) :
    ∀ {fuel : Nat} {first : Bool} {lead : List Char} {st : σ}, ms.length ≤ fuel →
      IsLead first lead →
      (shape.members depth fuel first (lead ++ (ms ++ rest)) st = .ok (st', behind) ↔
        shape.Runs A es st st' ∧ behind = rest) := by
  induction h with
  | @last q t ws ws' hws hq hws' ht =>
    intro fuel first lead st hfuel hlead
    have hpos := IsPiece.length_pos ht
    have hlength := IsQuoted.two_le_length hq
    simp only [List.length_append, List.length_cons, List.length_nil] at hfuel
    obtain ⟨fuel, rfl⟩ := Nat.exists_eq_add_of_le' (show 2 ≤ fuel by omega)
    simp only [List.append_assoc, List.cons_append, List.nil_append]
    rw [members_eq_ok_iff hclosed hlead hws hq hws' (by omega)]
    -- a field is read up to a gap, which is left to what comes next
    have hends : Ends ('}' :: rest) := ends_cons (by decide) rest
    constructor
    · rintro ⟨name, field, p, hname, hfind, hset, hread, h⟩
      obtain ⟨hA, gap, hgap, hp⟩ :=
        (hfields field (List.mem_of_find?_eq_some hfind)).sound ht (by omega) hends hread
      rw [hp, members_close hoptional hgap (Nat.le_add_left 1 fuel)] at h
      cases h
      exact ⟨.cons hname hfind hset hA (.nil _), rfl⟩
    · rintro ⟨h, rfl⟩
      cases h with
      | @cons _ _ _ name field _ st₁ _ hname hfind hset hA h =>
        cases h
        obtain ⟨gap, hgap, hread⟩ := (hfields field (List.mem_of_find?_eq_some hfind)).complete hA
          (show t.length ≤ fuel + 1 by omega) hends
        exact ⟨name, field, _, hname, hfind, hset, hread,
          members_close hoptional hgap (Nat.le_add_left 1 fuel)⟩
  | @cons q t ws ws' ms es hws hq hws' ht hs ih =>
    intro fuel first lead st hfuel hlead
    have hpos := IsPiece.length_pos ht
    have hlength := IsQuoted.two_le_length hq
    simp only [List.length_append, List.length_cons] at hfuel
    obtain ⟨fuel, rfl⟩ := Nat.exists_eq_add_of_le' (show 1 ≤ fuel by omega)
    simp only [List.append_assoc, List.cons_append]
    rw [members_eq_ok_iff hclosed hlead hws hq hws' (by omega)]
    have hends : Ends (',' :: (ms ++ rest)) := ends_cons (by decide) (ms ++ rest)
    have hnext {gap : List Char} (hgap : IsGap gap) (st : σ) :
        shape.members depth fuel false (gap ++ ',' :: (ms ++ rest)) st = .ok (st', behind) ↔
          shape.Runs A es st st' ∧ behind = rest := by
      rw [List.append_cons]
      exact ih (by omega) ⟨gap, hgap, rfl⟩
    constructor
    · rintro ⟨name, field, p, hname, hfind, hset, hread, h⟩
      obtain ⟨hA, gap, hgap, hp⟩ :=
        (hfields field (List.mem_of_find?_eq_some hfind)).sound ht (by omega) hends hread
      rw [hp, hnext hgap] at h
      exact ⟨.cons hname hfind hset hA h.1, h.2⟩
    · rintro ⟨h, hbehind⟩
      cases h with
      | @cons _ _ _ name field _ st₁ _ hname hfind hset hA h =>
        obtain ⟨gap, hgap, hread⟩ := (hfields field (List.mem_of_find?_eq_some hfind)).complete hA
          (show t.length ≤ fuel by omega) hends
        exact ⟨name, field, _, hname, hfind, hset, hread, (hnext hgap st₁).mpr ⟨h, hbehind⟩⟩

/-! ## Whole texts -/

/-- A closed record that needs no field is decoded just from the objects whose entries it takes
up. -/
theorem decodeText_eq_ok_iff {get : σ → α} {decoder : Decoder α} {a : α}
    (hmakes : shape.Makes st get decoder) (hclosed : shape.closed = true)
    (hoptional : ∀ field ∈ shape.fields, field.required = false)
    (hfields : ∀ field ∈ shape.fields, field.Recognizes (maxNesting - 1) (A field))
    (h : IsObject es t) :
    decodeText decoder (String.ofList t) = .ok a ↔ ∃ st', shape.Runs A es st st' ∧ get st' = a := by
  obtain ⟨ws, core, ws', rfl, hws, hcore, hws'⟩ := h
  have hend : skipBlanks ws' = [] := by
    rw [← List.append_nil ws', skipBlanks_gap hws']
    rfl
  have hdepth : ¬maxNesting ≤ 1 := by decide
  -- the members of the object, with the blanks behind it
  have hmembers {p : Parsed σ} {fuel : Nat} (hfuel : core.length ≤ fuel) :
      shape.decode st fuel maxNesting (ws ++ (core ++ ws')) = .ok p ↔
        shape.Runs A es st p.1 ∧ p.2 = ws' := by
    obtain ⟨st', behind⟩ := p
    rcases hcore with ⟨gap, hgap, rfl, rfl⟩ | ⟨ms, hms, rfl⟩
    · rw [List.length_cons, List.length_append, List.length_singleton] at hfuel
      rw [List.cons_append, List.append_assoc, List.singleton_append, decode, skipBlanks_gap hws,
        skipBlanks_cons rfl]
      simp only [if_neg hdepth, members_close hoptional hgap (show 1 ≤ fuel by omega)]
      constructor
      · intro h
        cases h
        exact ⟨.nil st, rfl⟩
      · rintro ⟨h, rfl⟩
        cases h
        rfl
    · rw [List.length_cons] at hfuel
      rw [List.cons_append, decode, skipBlanks_gap hws, skipBlanks_cons rfl]
      simp only [if_neg hdepth]
      exact members_iff hclosed hoptional hfields hms (by omega) IsLead.nil
  have hfuel : core.length ≤ 2 * (ws ++ (core ++ ws')).length + 2 := by
    rw [List.length_append, List.length_append]
    omega
  rw [decodeText, String.toList_ofList]
  simp only [hmakes _ _ _, bind, Except.bind]
  cases hdecode : shape.decode st (2 * (ws ++ (core ++ ws')).length + 2) maxNesting
      (ws ++ (core ++ ws')) with
  | error stop =>
    constructor
    · intro h
      cases h
    · rintro ⟨st', hruns, -⟩
      rw [(hmembers (p := (st', ws')) hfuel).mpr ⟨hruns, rfl⟩] at hdecode
      cases hdecode
  | ok p =>
    obtain ⟨hruns, hp⟩ := (hmembers hfuel).mp hdecode
    have hfinish : finish (get p.1) p.2 = .ok (get p.1) := finish_eq_ok_iff.mpr ⟨rfl, hp ▸ hend⟩
    simp only [hfinish, Except.ok.injEq]
    constructor
    · rintro rfl
      exact ⟨p.1, hruns, rfl⟩
    · rintro ⟨st', hruns', rfl⟩
      have hsame := (hmembers (p := (st', ws')) hfuel).mpr ⟨hruns', rfl⟩
      rw [hdecode] at hsame
      rw [Except.ok.inj hsame]

end Shape
end AgentManifest.Json
