import AgentManifest.Proofs.Json.Entries

/-!
# Compact texts

Whether blanks stand between the tokens of a text, which characters stand in its strings, and whether
a surrogate is escaped there is seen without parsing the text (`features`). Between the parts that the
grammar finds in a compact text there are no gaps, and where no surrogate is escaped each character of
a string is spelled on its own.
-/

namespace AgentManifest.Json

variable {inside inside' inside'' : Bool} {c : Char} {s t u v ws q : List Char}

/-! ## Features -/

/-- What is seen of a text character by character: a character outside its strings, one that is not
escaped inside of them, or the digits of a code that is. -/
inductive Feature where
  | bare (c : Char)
  | inner (c : Char)
  | code (digits : List Char)

/-- The features of a text that starts inside or outside a string. -/
def features : Bool → List Char → List Feature
  | _, [] => []
  | false, c :: s => .bare c :: features (c == '"') s
  | true, '"' :: s => features false s
  | true, '\\' :: 'u' :: s => .code (s.take 4) :: features true s
  | true, '\\' :: _ :: s => features true s
  | true, c :: s => .inner c :: features true s

/-- A blank between tokens. -/
def Feature.IsBlank : Feature → Prop
  | .bare c => isBlank c = true
  | _ => False

/-- Half of an escaped surrogate pair. -/
def Feature.IsHalf : Feature → Prop
  | .code digits => IsSurrogate (Text.hexNumber digits)
  | _ => False

/-- What stands in a string without an escape has some property. -/
def Feature.Shows (L : Char → Prop) : Feature → Prop
  | .inner c => L c
  | _ => True

instance : DecidablePred Feature.IsBlank
  | .bare c => inferInstanceAs (Decidable (isBlank c = true))
  | .inner _ | .code _ => inferInstanceAs (Decidable False)

instance : DecidablePred Feature.IsHalf
  | .code digits => inferInstanceAs (Decidable (IsSurrogate (Text.hexNumber digits)))
  | .bare _ | .inner _ => inferInstanceAs (Decidable False)

instance (L : Char → Prop) [DecidablePred L] : DecidablePred (Feature.Shows L)
  | .inner c => inferInstanceAs (Decidable (L c))
  | .bare _ | .code _ => inferInstanceAs (Decidable True)

/-- No blank stands between the tokens of a text. -/
def IsCompact (t : List Char) : Prop := ∀ f ∈ features false t, ¬f.IsBlank

/-- No character is escaped in a text as a surrogate pair. -/
def IsPairFree (t : List Char) : Prop := ∀ f ∈ features false t, ¬f.IsHalf

/-- The characters in the strings of a text have some property, apart from escaped ones. -/
def InStrings (L : Char → Prop) (t : List Char) : Prop := ∀ f ∈ features false t, f.Shows L

instance (t : List Char) : Decidable (IsCompact t) :=
  inferInstanceAs (Decidable (∀ f ∈ features false t, ¬f.IsBlank))

instance (t : List Char) : Decidable (IsPairFree t) :=
  inferInstanceAs (Decidable (∀ f ∈ features false t, ¬f.IsHalf))

instance (L : Char → Prop) [DecidablePred L] (t : List Char) : Decidable (InStrings L t) :=
  inferInstanceAs (Decidable (∀ f ∈ features false t, f.Shows L))

/-! ## Texts one after the other -/

/-- A text leads from the inside or the outside of a string to another, so that what follows it is
seen apart from it. -/
def Leads (inside : Bool) (u : List Char) (inside' : Bool) : Prop :=
  ∀ v, features inside (u ++ v) = features inside u ++ features inside' v

lemma leads_nil (inside : Bool) : Leads inside [] inside := fun v => by
  rw [features.eq_def inside []]
  rfl

lemma Leads.append (h : Leads inside u inside') (h' : Leads inside' v inside'') :
    Leads inside (u ++ v) inside'' := fun w => by
  rw [List.append_assoc, h, h', h v, List.append_assoc]

/-- A character other than a quote leaves the text outside strings. -/
lemma Leads.cons (hc : c ≠ '"') (h : Leads false u inside) : Leads false (c :: u) inside := fun v => by
  simp only [List.cons_append, features, beq_eq_false_iff_ne.mpr hc, h v]

lemma leads_of_not_quote (h : ∀ c ∈ u, c ≠ '"') : Leads false u false := by
  induction u with
  | nil => exact leads_nil false
  | cons c u ih =>
    rw [List.forall_mem_cons] at h
    exact .cons h.1 (ih h.2)

lemma leads_openQuote : Leads false ['"'] true := fun _ => by
  simp [features]

lemma leads_closeQuote : Leads true ['"'] false := fun _ => by
  simp [features]

lemma features_plain (hquote : c ≠ '"') (hslash : c ≠ '\\') (s : List Char) :
    features true (c :: s) = .inner c :: features true s := by
  rw [features.eq_def]
  split <;> simp_all

lemma features_escape (hc : c ≠ 'u') (s : List Char) :
    features true ('\\' :: c :: s) = features true s := by
  rw [features]
  exact hc

/-- Hexadecimal digits stand in a string as themselves. -/
lemma features_hex (h : ∀ x ∈ u, Text.isHex x = true) (s : List Char) :
    features true (u ++ s) = u.map .inner ++ features true s := by
  induction u with
  | nil => rfl
  | cons c u ih =>
    rw [List.forall_mem_cons] at h
    have hquote : c ≠ '"' := by
      rintro rfl
      cases h.1
    have hslash : c ≠ '\\' := by
      rintro rfl
      cases h.1
    rw [List.cons_append, features_plain hquote hslash, ih h.2, List.map_cons, List.cons_append]

lemma features_code {a b c d : Char} (h : ∀ x ∈ [a, b, c, d], Text.isHex x = true) (s : List Char) :
    features true ('\\' :: 'u' :: a :: b :: c :: d :: s) =
      .code [a, b, c, d] :: ([a, b, c, d].map .inner ++ features true s) :=
  congrArg (Feature.code [a, b, c, d] :: ·) (features_hex h s)

/-- The units of a string are seen one by one. -/
lemma IsUnit.leads (h : IsUnit u) : Leads true u true := by
  intro v
  cases h with
  | plain _ hquote hslash =>
    rw [List.singleton_append, features_plain hquote hslash, features_plain hquote hslash]
    rfl
  | @escape c h =>
    have hc : c ≠ 'u' := by
      rintro rfl
      cases h
    rw [List.cons_append, List.singleton_append, features_escape hc, features_escape hc]
    rfl
  | code h =>
    simp only [List.cons_append, List.nil_append, features_code h]
    rfl

lemma leads_units {units : List (List Char)} (h : ∀ u ∈ units, IsUnit u) :
    Leads true units.flatten true := by
  induction units with
  | nil => exact leads_nil true
  | cons u units ih =>
    rw [List.forall_mem_cons] at h
    exact h.1.leads.append (ih h.2)

lemma IsQuoted.leads (h : IsQuoted q) : Leads false q false := by
  obtain ⟨units, hunits, rfl⟩ := h
  exact leads_openQuote.append ((leads_units hunits).append leads_closeQuote)

lemma IsDigits.ne_quote (h : IsDigits u) : ∀ c ∈ u, c ≠ '"' := by
  rintro _ hc rfl
  cases h.2 _ hc

/-- No quote stands in a number. -/
lemma IsNumeral.ne_quote (h : IsNumeral u) : ∀ c ∈ u, c ≠ '"' := by
  obtain ⟨whole, fraction, exponent, rfl, hwhole, hfraction, hexponent⟩ := h
  rw [List.forall_mem_append, List.forall_mem_append]
  refine ⟨?_, ?_, ?_⟩
  · rcases hwhole with rfl | ⟨hdigits, -⟩
    · simp
    · exact hdigits.ne_quote
  · rcases hfraction with rfl | ⟨ds, rfl, hdigits⟩
    · exact nofun
    · exact List.forall_mem_cons.mpr ⟨by decide, hdigits.ne_quote⟩
  · rcases hexponent with rfl | ⟨mark, sign, ds, rfl, hmark, hsign, hdigits⟩
    · exact nofun
    · have hmarks : ∀ c ∈ ['e', 'E'], c ≠ '"' := by simp
      have hsigns : ∀ sign ∈ [[], ['+'], ['-']], ∀ c ∈ sign, c ≠ '"' := by simp
      exact List.forall_mem_cons.mpr ⟨hmarks mark hmark,
        List.forall_mem_append.mpr ⟨hsigns sign hsign, hdigits.ne_quote⟩⟩

lemma IsGap.ne_quote (h : IsGap ws) : ∀ c ∈ ws, c ≠ '"' := by
  rintro _ hc rfl
  cases h _ hc

lemma IsGap.leads (h : IsGap ws) : Leads false ws false := leads_of_not_quote h.ne_quote

/-- What the grammar takes for one part of a text is seen apart from what follows it. -/
theorem IsPiece.leads {p : Piece} (h : IsPiece p t) : Leads false t false := by
  induction h with
  | nullWord | trueWord | falseWord => exact leads_of_not_quote (by simp)
  | positive h => exact leads_of_not_quote h.ne_quote
  | negative h => exact .cons (by decide) (leads_of_not_quote h.ne_quote)
  | string h => exact h.leads
  -- the brackets, commas and colons between the parts are no quotes
  | emptyArray h | emptyObject h =>
    exact .cons (by decide) (h.leads.append (.cons (by decide) (leads_nil false)))
  | array _ ih | object _ ih => exact .cons (by decide) ih
  | padded hws _ hws' ih => exact hws.leads.append (ih.append hws'.leads)
  | lastItem _ ih => exact ih.append (.cons (by decide) (leads_nil false))
  | item _ _ ih ihs => exact ih.append (.cons (by decide) ihs)
  | lastMember hws hname hws' _ ih =>
    exact hws.leads.append (hname.leads.append (hws'.leads.append
      (.cons (by decide) (ih.append (.cons (by decide) (leads_nil false))))))
  | member hws hname hws' _ _ ih ihs =>
    exact hws.leads.append (hname.leads.append (hws'.leads.append
      (.cons (by decide) (ih.append (.cons (by decide) ihs)))))

lemma IsText.leads (h : IsText t) : Leads false t false := IsPiece.leads h

/-! ## Tight texts -/

/-- Nothing is seen that may not stand in a compact text without escaped pairs, the strings of which
have characters with some property. -/
def Feature.Fits (L : Char → Prop) (f : Feature) : Prop := ¬f.IsBlank ∧ ¬f.IsHalf ∧ f.Shows L

/-- A text from the inside or the outside of a string on is compact, free of escaped pairs, and has
characters with some property in its strings. -/
def Tight (L : Char → Prop) (inside : Bool) (t : List Char) : Prop :=
  ∀ f ∈ features inside t, f.Fits L

variable {L : Char → Prop}

lemma tight_iff : Tight L false t ↔ IsCompact t ∧ IsPairFree t ∧ InStrings L t := by
  simp only [Tight, Feature.Fits, IsCompact, IsPairFree, InStrings, forall_and]

lemma tight_append (h : Leads inside u inside') :
    Tight L inside (u ++ v) ↔ Tight L inside u ∧ Tight L inside' v := by
  rw [Tight, h, List.forall_mem_append]
  rfl

lemma tight_cons (hc : c ≠ '"') :
    Tight L false (c :: s) ↔ isBlank c = false ∧ Tight L false s := by
  rw [Tight, features, beq_eq_false_iff_ne.mpr hc, List.forall_mem_cons]
  simp [Tight, Feature.Fits, Feature.IsBlank, Feature.IsHalf, Feature.Shows]

/-- There is no gap in a tight text. -/
lemma IsGap.eq_nil (h : IsGap ws) (ht : Tight L false ws) : ws = [] := by
  cases ws with
  | nil => rfl
  | cons c ws =>
    have hblank := h c List.mem_cons_self
    rw [tight_cons (h.ne_quote c List.mem_cons_self), hblank] at ht
    cases ht.1

/-- What blanks may stand around has none in a tight text. -/
lemma Padded.of_tight {P : List Char → Prop} (h : Padded P t)
    (hleads : ∀ core, P core → Leads false core false) (ht : Tight L false t) : P t := by
  obtain ⟨ws, core, ws', rfl, hws, hcore, hws'⟩ := h
  rw [tight_append hws.leads, tight_append (hleads core hcore)] at ht
  rw [hws.eq_nil ht.1, hws'.eq_nil ht.2.2, List.nil_append, List.append_nil]
  exact hcore

variable {ps : List (Char × List Char)} {text : String}

/-- A character that is escaped as a pair is none in a tight text. -/
lemma not_tight_pair {ch : Char} (h : SpellsPair ch u) : ¬Tight L true u := by
  cases h with
  | @mk a b c d _ _ _ _ high low h h' hhigh hhigh' hlow hlow' =>
    intro ht
    rw [Tight, features_code h, List.forall_mem_cons] at ht
    refine ht.1.2.1 ?_
    rw [Feature.IsHalf, hhigh, IsSurrogate]
    omega

/-- In a tight text each character of a string is spelled on its own. -/
lemma Spelled.of_tight (h : Spelled ps) (ht : Tight L true (ps.flatMap Prod.snd)) :
    ∀ p ∈ ps, Spells p.1 p.2 ∧ Tight L true p.2 := by
  induction ps with
  | nil => exact nofun
  | cons p ps ih =>
    rw [Spelled, List.forall_mem_cons] at h
    obtain ⟨units, hunits, hu⟩ := Json.exists_units h.1
    rw [List.flatMap_cons, tight_append (hu ▸ leads_units hunits)] at ht
    refine List.forall_mem_cons.mpr ⟨⟨?_, ht.1⟩, ih h.2 ht.2⟩
    exact h.1.resolve_right fun hpair => not_tight_pair hpair ht.1

lemma Denotes.of_tight (h : Denotes q text) (ht : Tight L false q) :
    ∃ ps : List (Char × List Char), (∀ p ∈ ps, Spells p.1 p.2 ∧ Tight L true p.2) ∧
      text.toList = ps.map Prod.fst ∧ q = '"' :: (ps.flatMap Prod.snd ++ ['"']) := by
  obtain ⟨ps, hps, htext, rfl⟩ := h
  obtain ⟨units, hunits, hflat⟩ := hps.exists_units
  rw [← List.singleton_append, tight_append leads_openQuote,
    tight_append (hflat ▸ leads_units hunits)] at ht
  exact ⟨ps, hps.of_tight ht.2.1, htext, rfl⟩

/-! ## Tight values -/

lemma IsString.of_tight (h : IsString text t) (ht : Tight L false t) : Denotes t text :=
  Padded.of_tight h (fun _ hq => hq.isQuoted.leads) ht

lemma IsNatural.of_tight {n : Nat} (h : IsNatural n t) (ht : Tight L false t) :
    t = Decimal.natText n := by
  refine Padded.of_tight (P := (· = Decimal.natText n)) h ?_ ht
  rintro _ rfl
  exact leads_of_not_quote (isNumeral_natText n).ne_quote

variable {α : Type} {R : α → List Char → Prop} {as : List α} {es : List (List Char × List Char)}

lemma IsArrayOf.of_tight (h : IsArrayOf R as t) (hR : ∀ {a t}, R a t → IsText t)
    (ht : Tight L false t) :
    (as = [] ∧ t = ['[', ']']) ∨ ∃ ts, IsItems R as ts ∧ t = '[' :: ts ∧ Tight L false ts := by
  have hcore := Padded.of_tight h (by
    rintro core (⟨ws, hws, -, rfl⟩ | ⟨ts, hts, rfl⟩)
    · exact IsText.leads (.emptyArray hws)
    · exact IsText.leads (.array (hts.isPiece hR))) ht
  rcases hcore with ⟨ws, hws, has, rfl⟩ | ⟨ts, hts, rfl⟩
  · rw [tight_cons (by decide), tight_append hws.leads] at ht
    exact .inl ⟨has, by rw [hws.eq_nil ht.2.1, List.nil_append]⟩
  · exact .inr ⟨ts, hts, rfl, ((tight_cons (by decide)).mp ht).2⟩

lemma IsObject.of_tight (h : IsObject es t) (ht : Tight L false t) :
    (es = [] ∧ t = ['{', '}']) ∨
      ∃ ms, IsEntries es ms ∧ t = '{' :: ms ∧ Tight L false ms := by
  have hcore := Padded.of_tight h (by
    rintro core (⟨ws, hws, -, rfl⟩ | ⟨ms, hms, rfl⟩)
    · exact IsText.leads (.emptyObject hws)
    · exact IsText.leads (.object hms.isPiece)) ht
  rcases hcore with ⟨ws, hws, hes, rfl⟩ | ⟨ms, hms, rfl⟩
  · rw [tight_cons (by decide), tight_append hws.leads] at ht
    exact .inl ⟨hes, by rw [hws.eq_nil ht.2.1, List.nil_append]⟩
  · exact .inr ⟨ms, hms, rfl, ((tight_cons (by decide)).mp ht).2⟩

/-- No gaps are left around the name of a tight entry. -/
lemma tight_entry {ws' : List Char} (hws : IsGap ws) (hq : IsQuoted q) (hws' : IsGap ws')
    (ht : IsText t) (h : Tight L false (ws ++ (q ++ (ws' ++ ':' :: (t ++ s))))) :
    ws = [] ∧ ws' = [] ∧ Tight L false q ∧ Tight L false t ∧ Tight L false s := by
  rw [tight_append hws.leads, tight_append hq.leads, tight_append hws'.leads,
    tight_cons (by decide), tight_append ht.leads] at h
  obtain ⟨hgap, hname, hgap', -, hvalue, hbehind⟩ := h
  exact ⟨hws.eq_nil hgap, hws'.eq_nil hgap', hname, hvalue, hbehind⟩

end AgentManifest.Json
