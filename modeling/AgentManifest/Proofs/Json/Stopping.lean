import AgentManifest.Json.Reader
import AgentManifest.Proofs.Text.Place

/-!
# Where reading stops

A reader leaves an end of the text that it is given. Where it stops, what is left is an end of the
text as well, of which no more bytes are counted than there are. So a refusal has its place in the
text.
-/

namespace AgentManifest.Json

variable {α β : Type} {s t : List Char}

/-- A reading does not leave the text: what is left of it is an end of the text, and a stop counts
bytes that are there. -/
def StaysIn (left : α → List Char) (s : List Char) : Except Stop α → Prop
  | .ok a => left a <:+ s
  | .error stop => stop.rest <:+ s ∧ stop.ahead ≤ Text.byteLength stop.rest

namespace StaysIn

variable {left : α → List Char} {left' : β → List Char} {x : Except Stop α}

/-- A reading of an end of the text. -/
lemma mono (h : StaysIn left t x) (hts : t <:+ s) : StaysIn left s x := by
  cases x with
  | ok a => exact List.IsSuffix.trans h hts
  | error stop => exact ⟨h.1.trans hts, h.2⟩

/-- A reading behind a character. -/
lemma behind (c : Char) (h : StaysIn left s x) : StaysIn left (c :: s) x :=
  h.mono (List.suffix_cons c s)

/-- A reading that goes on with what is left. -/
lemma bind {f : α → Except Stop β} (hx : StaysIn left s x)
    (hf : ∀ a, StaysIn left' (left a) (f a)) : StaysIn left' s (x >>= f) := by
  cases x with
  | ok a => exact (hf a).mono hx
  | error stop => exact hx

lemma stopAt (cause : Cause) (hts : t <:+ s) : StaysIn left s (stopAt cause t) :=
  ⟨hts, Nat.zero_le _⟩

lemma stopAfter (cause : Cause) (hts : t <:+ s) : StaysIn left s (stopAfter cause t) := by
  refine ⟨hts, ?_⟩
  cases t with
  | nil => exact Nat.le_refl 0
  | cons c t =>
    have hpos := c.utf8Size_pos
    change 1 ≤ Text.byteLength (c :: t)
    rw [Text.byteLength_cons]
    omega

end StaysIn

lemma skipBlanks_suffix (s : List Char) : skipBlanks s <:+ s := List.dropWhile_suffix _

lemma word_staysIn (ws s : List Char) : StaysIn id s (word ws s) := by
  induction ws generalizing s with
  | nil => exact List.suffix_rfl
  | cons w ws ih =>
    cases s with
    | nil => exact .stopAt _ List.suffix_rfl
    | cons c s =>
      rw [word]
      split
      · exact (ih s).behind c
      · exact .stopAfter _ List.suffix_rfl

/-! ## Numbers -/

lemma signed_staysIn (negative : Bool) (significand : Nat) (exponent : Int) (s : List Char) :
    StaysIn Prod.snd s (signed negative significand exponent s) := by
  unfold signed
  split
  · exact .stopAt _ List.suffix_rfl
  · exact List.suffix_rfl

lemma exponentDigits_suffix (e : Nat) (s : List Char) : (exponentDigits e s).2 <:+ s := by
  induction s generalizing e with
  | nil => exact List.suffix_rfl
  | cons c s ih =>
    rw [exponentDigits]
    split
    · dsimp only
      split
      · exact (ih _).trans (List.suffix_cons c s)
      · exact List.suffix_cons c s
    · exact List.suffix_rfl

lemma exponentPart_staysIn (negative : Bool) (significand : Nat) (exponent : Int) (s : List Char) :
    StaysIn Prod.snd s (exponentPart negative significand exponent s) := by
  unfold exponentPart
  split
  case h_1 minus behindSign hsign =>
    have hsuffix : behindSign <:+ s := by
      split at hsign <;> cases hsign
      · exact List.suffix_cons _ _
      · exact List.suffix_cons _ _
      · exact List.suffix_rfl
    refine StaysIn.mono ?_ hsuffix
    cases behindSign with
    | nil => exact .stopAt _ List.suffix_rfl
    | cons c cs =>
      have hdigits := (exponentDigits_suffix (digitValue c) cs).trans (List.suffix_cons c cs)
      dsimp only
      split
      · split
        case h_1 e rest heq =>
          rw [heq] at hdigits
          exact (signed_staysIn _ _ _ rest).mono hdigits
        case h_2 rest heq =>
          rw [heq] at hdigits
          split
          · exact .stopAt _ hdigits
          · exact (List.dropWhile_suffix _).trans hdigits
      · exact .stopAfter _ List.suffix_rfl

lemma afterDigits_staysIn (negative : Bool) (significand : Nat) (exponent : Int) (s : List Char) :
    StaysIn Prod.snd s (afterDigits negative significand exponent s) := by
  unfold afterDigits
  split
  · exact (exponentPart_staysIn _ _ _ _).behind _
  · exact (exponentPart_staysIn _ _ _ _).behind _
  · exact signed_staysIn _ _ _ _

lemma fractionPart_staysIn (negative : Bool) (significand : Nat) (exponent : Int) (s : List Char) :
    StaysIn Prod.snd s (fractionPart negative significand exponent s) := by
  have hsuffix : s.dropWhile Char.isDigit <:+ s := List.dropWhile_suffix _
  unfold fractionPart
  dsimp only
  split
  · split
    · exact .stopAt _ (List.nil_suffix)
    · exact .stopAfter _ hsuffix
  · exact (afterDigits_staysIn _ _ _ _).mono hsuffix

lemma afterInteger_staysIn (negative : Bool) (significand left : Nat) (s : List Char) :
    StaysIn Prod.snd s (afterInteger negative significand left s) := by
  unfold afterInteger
  split
  case h_1 rest =>
    exact .behind _ ((fractionPart_staysIn _ _ _ rest).bind fun _ => List.suffix_rfl)
  case h_2 c rest _ =>
    split
    · exact .behind _ ((exponentPart_staysIn _ _ _ rest).bind fun _ => List.suffix_rfl)
    · split
      · exact List.suffix_rfl
      · exact (signed_staysIn _ _ _ _).bind fun _ => List.suffix_rfl
  case h_3 =>
    split
    · exact List.suffix_rfl
    · exact (signed_staysIn _ _ _ _).bind fun _ => List.suffix_rfl

lemma number_staysIn (negative : Bool) (s : List Char) :
    StaysIn Prod.snd s (number negative s) := by
  unfold number
  split
  case h_1 => exact .stopAt _ List.suffix_rfl
  case h_2 rest =>
    have hsuffix : rest <:+ '0' :: rest := List.suffix_cons _ _
    split
    · split
      · exact .stopAfter _ hsuffix
      · exact (afterInteger_staysIn _ _ _ _).mono hsuffix
    · exact (afterInteger_staysIn _ _ _ _).mono hsuffix
  case h_3 c rest _ =>
    split
    · have hsuffix : rest.dropWhile Char.isDigit <:+ c :: rest :=
        (List.dropWhile_suffix _).trans (List.suffix_cons _ _)
      exact (afterInteger_staysIn _ _ _ _).mono hsuffix
    · exact .stopAfter _ List.suffix_rfl

/-! ## Strings -/

lemma hexUnit_staysIn (s : List Char) : StaysIn Prod.snd s (hexUnit s) := by
  have hbytes : Text.byteLength (s.take 4) ≤ Text.byteLength s := by
    have hsplit := Text.byteLength_append (s.take 4) (s.drop 4)
    rw [List.take_append_drop] at hsplit
    omega
  unfold hexUnit
  split
  case isTrue => exact .stopAt _ List.nil_suffix
  case isFalse hfour =>
    have hstop : StaysIn (Prod.snd : Parsed Nat → List Char) s
        (.error { cause := .invalidEscape, rest := s, ahead := 4 }) :=
      ⟨List.suffix_rfl, (Nat.not_lt.mp hfour).trans hbytes⟩
    split
    case h_1 =>
      split
      · exact ⟨[_, _, _, _], rfl⟩
      · exact hstop
    case h_2 => exact hstop

lemma unicodeEscape_staysIn (s : List Char) : StaysIn Prod.snd s (unicodeEscape s) := by
  unfold unicodeEscape
  refine (hexUnit_staysIn s).bind fun ⟨n, rest⟩ => ?_
  dsimp only
  split
  · exact .stopAt _ List.suffix_rfl
  · split
    · exact List.suffix_rfl
    · split
      case h_1 rest =>
        refine StaysIn.mono ?_ ⟨['\\', 'u'], rfl⟩
        refine (hexUnit_staysIn rest).bind fun ⟨m, rest⟩ => ?_
        dsimp only
        split
        · exact .stopAt _ List.suffix_rfl
        · exact List.suffix_rfl
      case h_2 => exact .stopAt _ List.nil_suffix
      case h_3 rest _ _ => exact .stopAfter _ (List.suffix_cons _ _)
      case h_4 => exact .stopAt _ List.nil_suffix
      case h_5 => exact .stopAfter _ List.suffix_rfl

lemma stringBody_staysIn (fuel : Nat) (seen s : List Char) :
    StaysIn Prod.snd s (stringBody fuel seen s) := by
  induction fuel generalizing seen s with
  | zero => exact .stopAt _ List.suffix_rfl
  | succ fuel ih =>
    unfold stringBody
    split
    case h_1 => exact .stopAt _ List.suffix_rfl
    case h_2 rest => exact List.suffix_cons _ _
    case h_3 rest =>
      refine .behind _ ?_
      split
      case h_1 => exact .stopAt _ List.suffix_rfl
      case h_2 rest =>
        refine .behind _ ?_
        have hescape := unicodeEscape_staysIn rest
        split
        case h_1 heq =>
          rw [heq] at hescape
          exact (ih _ _).mono hescape
        case h_2 heq =>
          rw [heq] at hescape
          exact hescape
      case h_3 c rest _ =>
        split
        · exact (ih _ _).behind _
        · exact .stopAfter _ List.suffix_rfl
    case h_4 c rest _ _ =>
      split
      · exact .stopAfter _ List.suffix_rfl
      · exact (ih _ _).behind _

lemma stringRest_staysIn (fuel : Nat) (s : List Char) :
    StaysIn Prod.snd s (stringRest fuel s) :=
  (stringBody_staysIn fuel [] s).bind fun _ => List.suffix_rfl

/-! ## Containers -/

lemma beforeItem_staysIn (first : Bool) (s : List Char) :
    StaysIn Prod.snd s (beforeItem first s) := by
  refine StaysIn.mono ?_ (skipBlanks_suffix s)
  unfold beforeItem
  split
  case h_1 => exact .stopAt _ List.nil_suffix
  case h_2 rest hs => exact hs ▸ List.suffix_cons _ _
  case h_3 c rest _ hs =>
    rw [hs]
    split
    · exact List.suffix_rfl
    · split
      · refine StaysIn.mono ?_ ((skipBlanks_suffix rest).trans (List.suffix_cons c rest))
        split
        case h_1 => exact .stopAt _ List.nil_suffix
        case h_2 heq => exact .stopAfter _ (heq ▸ List.suffix_rfl)
        case h_3 => exact List.suffix_rfl
      · exact .stopAfter _ List.suffix_rfl

lemma beforeName_staysIn (first : Bool) (s : List Char) :
    StaysIn Prod.snd s (beforeName first s) := by
  refine StaysIn.mono ?_ (skipBlanks_suffix s)
  unfold beforeName
  split
  case h_1 => exact .stopAt _ List.nil_suffix
  case h_2 rest hs => exact hs ▸ List.suffix_cons _ _
  case h_3 c rest _ hs =>
    rw [hs]
    split
    · split
      · exact List.suffix_cons _ _
      · exact .stopAfter _ List.suffix_rfl
    · split
      · refine StaysIn.mono ?_ ((skipBlanks_suffix rest).trans (List.suffix_cons c rest))
        split
        case h_1 => exact .stopAt _ List.nil_suffix
        case h_2 heq => exact heq ▸ List.suffix_cons _ _
        case h_3 heq => exact .stopAfter _ (heq ▸ List.suffix_rfl)
        case h_4 => exact .stopAfter _ List.suffix_rfl
      · exact .stopAfter _ List.suffix_rfl

lemma colon_staysIn (s : List Char) : StaysIn id s (colon s) := by
  refine StaysIn.mono ?_ (skipBlanks_suffix s)
  unfold colon
  split
  case h_1 => exact .stopAt _ List.nil_suffix
  case h_2 rest hs => exact hs ▸ List.suffix_cons _ _
  case h_3 => exact .stopAfter _ List.suffix_rfl

mutual

/-- Reading a value stays in the text. -/
theorem value_staysIn : ∀ (fuel depth : Nat) (s : List Char),
    StaysIn Prod.snd s (value fuel depth s)
  | 0, _, _ => .stopAt _ List.suffix_rfl
  | fuel + 1, depth, s => by
    refine StaysIn.mono ?_ (skipBlanks_suffix s)
    rw [value]
    split
    case h_1 => exact .stopAt _ List.nil_suffix
    all_goals rename_i hs; rw [hs]
    case h_2 rest =>
      exact .behind _ ((word_staysIn _ rest).bind fun _ => List.suffix_rfl)
    case h_3 rest =>
      exact .behind _ ((word_staysIn _ rest).bind fun _ => List.suffix_rfl)
    case h_4 rest =>
      exact .behind _ ((word_staysIn _ rest).bind fun _ => List.suffix_rfl)
    case h_5 rest =>
      exact .behind _ ((number_staysIn _ rest).bind fun _ => List.suffix_rfl)
    case h_6 rest =>
      exact .behind _ ((stringRest_staysIn fuel rest).bind fun _ => List.suffix_rfl)
    case h_7 rest =>
      split
      · exact .stopAfter _ List.suffix_rfl
      · exact .behind _ ((items_staysIn fuel _ _ rest).bind fun _ => List.suffix_rfl)
    case h_8 rest =>
      split
      · exact .stopAfter _ List.suffix_rfl
      · exact .behind _ ((members_staysIn fuel _ _ rest).bind fun _ => List.suffix_rfl)
    case h_9 c rest _ _ _ _ _ _ _ =>
      split
      · exact (number_staysIn _ _).bind fun _ => List.suffix_rfl
      · exact .stopAfter _ List.suffix_rfl

/-- Reading the items of an array stays in the text. -/
theorem items_staysIn : ∀ (fuel depth : Nat) (first : Bool) (s : List Char),
    StaysIn Prod.snd s (items fuel depth first s)
  | 0, _, _, _ => .stopAt _ List.suffix_rfl
  | fuel + 1, depth, first, s => by
    rw [items]
    refine (beforeItem_staysIn first s).bind fun ⟨more, rest⟩ => ?_
    cases more with
    | false => exact List.suffix_rfl
    | true =>
      refine (value_staysIn fuel depth rest).bind fun ⟨v, rest⟩ => ?_
      exact (items_staysIn fuel depth false rest).bind fun _ => List.suffix_rfl

/-- Reading the members of an object stays in the text. -/
theorem members_staysIn : ∀ (fuel depth : Nat) (first : Bool) (s : List Char),
    StaysIn Prod.snd s (members fuel depth first s)
  | 0, _, _, _ => .stopAt _ List.suffix_rfl
  | fuel + 1, depth, first, s => by
    rw [members]
    refine (beforeName_staysIn first s).bind fun ⟨more, rest⟩ => ?_
    cases more with
    | false => exact List.suffix_rfl
    | true =>
      refine (stringRest_staysIn fuel rest).bind fun ⟨k, rest⟩ => ?_
      refine (colon_staysIn rest).bind fun rest => ?_
      refine (value_staysIn fuel depth rest).bind fun ⟨v, rest⟩ => ?_
      exact (members_staysIn fuel depth false rest).bind fun _ => List.suffix_rfl

end

/-! ## Texts -/

lemma finish_staysIn (a : α) (s : List Char) : StaysIn (fun _ => []) s (finish a s) := by
  refine StaysIn.mono ?_ (skipBlanks_suffix s)
  unfold finish
  split
  · exact List.nil_suffix
  · exact .stopAfter _ List.suffix_rfl

/-- No more bytes are counted than the text has. -/
lemma StaysIn.offset_le {left : α → List Char} {stop : Stop}
    (h : StaysIn left s (.error stop)) : stop.offset s ≤ Text.byteLength s := by
  obtain ⟨⟨front, hfront⟩, hahead⟩ := h
  have hbytes := Text.byteLength_append front stop.rest
  rw [hfront] at hbytes
  rw [Stop.offset]
  omega

/-- A refusal is placed by a number of bytes that the text has. -/
theorem exists_offset {e : Error} (h : readChars s = .error e) :
    ∃ n, n ≤ (Text.encode s).length ∧ e.place = Text.Place.start.advance s n := by
  unfold readChars at h
  split at h
  case h_1 => cases h
  case h_2 stop hstop =>
    cases h
    have hread : StaysIn (fun _ => []) s
        (value (2 * s.length + 2) maxNesting s >>= fun p => finish p.1 p.2) :=
      (value_staysIn _ _ s).bind fun p => finish_staysIn p.1 p.2
    rw [hstop] at hread
    exact ⟨stop.offset s, Text.length_encode s ▸ hread.offset_le, rfl⟩

end AgentManifest.Json
