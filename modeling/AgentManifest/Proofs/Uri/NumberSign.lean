import Mathlib.Data.List.Basic
import Mathlib.Tactic.Lemma
import AgentManifest.Proofs.Decimal.Digits
import AgentManifest.Uri.Reference

/-!
# Number signs

A number sign starts the fragment of a reference and stands nowhere else. A reference that is
written without one has no fragment, and no normal form or base brings one in: escapes are only
undone where they stand for letters, digits and a few marks.
-/

namespace AgentManifest.Uri

/-- No number sign is among some characters. -/
def Unmarked (cs : List Char) : Prop := '#' ∉ cs

namespace Unmarked

variable {cs ds : List Char} {c : Char}

lemma nil : Unmarked [] := List.not_mem_nil

lemma cons_iff : Unmarked (c :: cs) ↔ c ≠ '#' ∧ Unmarked cs := by
  rw [Unmarked, List.mem_cons, not_or, ne_comm]
  rfl

lemma append_iff : Unmarked (cs ++ ds) ↔ Unmarked cs ∧ Unmarked ds := by
  rw [Unmarked, List.mem_append, not_or]
  rfl

lemma of_subset (h : Unmarked ds) (hcs : cs ⊆ ds) : Unmarked cs := fun hmem => h (hcs hmem)

lemma reverse_iff : Unmarked cs.reverse ↔ Unmarked cs := by
  rw [Unmarked, List.mem_reverse]
  rfl

lemma map (h : Unmarked cs) {f : Char → Char} (hf : ∀ c, c ≠ '#' → f c ≠ '#') :
    Unmarked (cs.map f) := by
  intro hmem
  obtain ⟨c, hc, heq⟩ := List.mem_map.mp hmem
  exact hf c (fun hsign => h (hsign ▸ hc)) heq

lemma intercalate {sep : List Char} (hsep : Unmarked sep) {parts : List (List Char)}
    (h : ∀ part ∈ parts, Unmarked part) : Unmarked (sep.intercalate parts) := by
  induction parts with
  | nil => exact nil
  | cons part parts ih =>
    obtain ⟨hpart, hparts⟩ := List.forall_mem_cons.mp h
    cases parts with
    | nil => rwa [List.intercalate_singleton]
    | cons next parts =>
      rw [List.intercalate_cons_cons]
      exact append_iff.mpr ⟨append_iff.mpr ⟨hpart, hsep⟩, ih hparts⟩

end Unmarked

/-! ## Reading -/

section

variable {wide : Bool} {c c' : Cursor}

lemma Cursor.unmarked_behind (h : Unmarked c.rest) (taken : List Char) :
    Unmarked (c.behind taken).rest := h.of_subset (List.drop_subset _ _)

lemma Cursor.unmarked_of_over? (h : Unmarked c.rest) {text : List Char}
    (hover : c.over? text = some c') : Unmarked c'.rest := by
  unfold Cursor.over? at hover
  split at hover
  · cases hover
    exact c.unmarked_behind h text
  · cases hover

/-- No number sign can be stepped over. -/
lemma Cursor.over?_numberSign (h : Unmarked c.rest) : c.over? ['#'] = none := by
  unfold Cursor.over?
  split
  case isTrue hfront =>
    obtain ⟨rest, hrest⟩ := List.isPrefixOf_iff_prefix.mp hfront
    exact absurd (hrest ▸ List.mem_append_left rest (List.mem_singleton_self '#')) h
  case isFalse => rfl

lemma takePart_subset (allowed : Char → Bool) (cs : List Char) : (takePart allowed cs).1 ⊆ cs := by
  fun_induction takePart allowed cs with
  | case1 a b rest hhex part bad heq ih =>
    rw [heq] at ih
    exact List.cons_subset_cons _ (List.cons_subset_cons _ (List.cons_subset_cons _ ih))
  | case4 c rest _ _ _ part bad heq ih =>
    rw [heq] at ih
    exact List.cons_subset_cons _ ih
  | _ => exact List.nil_subset _

end

/-- What is read has a property, if anything is. -/
def Yields {α : Type} (x : Except Fault α) (P : α → Prop) : Prop := ∀ a, x = .ok a → P a

namespace Yields

variable {α β : Type} {P : α → Prop} {Q : β → Prop}

lemma ok {a : α} (h : P a) : Yields (.ok a) P := by
  rintro _ ⟨⟩
  exact h

lemma error (f : Fault) : Yields (.error f) P := nofun

lemma unexpected (c : Cursor) : Yields (Uri.unexpected c) P := nofun

lemma bind {x : Except Fault α} {f : α → Except Fault β} (hx : Yields x P)
    (hf : ∀ a, P a → Yields (f a) Q) : Yields (x >>= f) Q := by
  cases x with
  | error fault => exact nofun
  | ok a => exact hf a (hx a rfl)

end Yields

/-- What is read of a text without number signs, and what is left of the text, has none. -/
def Parted {α : Type} (P : α → Prop) (r : α × Cursor) : Prop := P r.1 ∧ Unmarked r.2.rest

/-- No number sign is in a host. -/
def Host.Unmarked : Host → Prop
  | .name text => Uri.Unmarked text
  | .address written _ => Uri.Unmarked written
  | .future written => Uri.Unmarked written

/-- No number sign is in an authority. -/
structure Authority.Unmarked (a : Authority) : Prop where
  user : ∀ user ∈ a.user, Uri.Unmarked user
  host : a.host.Unmarked
  service : ∀ digits ∈ a.service, Uri.Unmarked digits

/-- No number sign is in the parts of a reference, and it has no fragment. -/
structure Reference.Unmarked (r : Reference) : Prop where
  scheme : ∀ s ∈ r.scheme, Uri.Unmarked s
  authority : ∀ a ∈ r.authority, a.Unmarked
  path : Uri.Unmarked r.path
  query : ∀ q ∈ r.query, Uri.Unmarked q
  fragment : r.fragment = none

section

variable {wide : Bool} {c : Cursor} (h : Unmarked c.rest)
include h

lemma readPart_yields (allowed : Char → Bool) : Yields (readPart allowed c) (Parted Unmarked) := by
  unfold readPart
  dsimp only
  split
  · exact .error _
  · exact .ok ⟨h.of_subset (takePart_subset allowed c.rest), c.unmarked_behind h _⟩

lemma readSome_yields (allowed : Char → Bool) : Yields (readSome allowed c) (Parted Unmarked) := by
  unfold readSome
  dsimp only
  split
  · exact .unexpected c
  · exact .ok ⟨h.of_subset (List.takeWhile_subset _), c.unmarked_behind h _⟩

lemma expect_yields (ch : Char) : Yields (expect ch c) fun c => Unmarked c.rest := by
  unfold expect
  split
  case h_1 hover => exact .ok (Cursor.unmarked_of_over? h hover)
  case h_2 => exact .unexpected c

lemma readFuture_yields : Yields (readFuture c) (Parted Unmarked) := by
  unfold readFuture
  split
  case h_1 v _ hrest =>
    have hv : v ≠ '#' := (Unmarked.cons_iff.mp (hrest ▸ h)).1
    split
    · refine (readSome_yields (c.unmarked_behind h _) _).bind fun version hversion => ?_
      refine (expect_yields hversion.2 '.').bind fun c' hc' => ?_
      refine (readSome_yields hc' _).bind fun text htext => .ok ⟨?_, htext.2⟩
      refine Unmarked.cons_iff.mpr ⟨hv, Unmarked.append_iff.mpr ⟨hversion.1, ?_⟩⟩
      exact Unmarked.cons_iff.mpr ⟨by decide, htext.1⟩
    · exact .unexpected c
  case h_2 => exact .unexpected c

lemma readBracketed_yields : Yields (readBracketed c) (Parted Host.Unmarked) := by
  have hclosed (host : Host) (hhost : host.Unmarked) {c' : Cursor} (hc' : Unmarked c'.rest) :
      Yields (do .ok (host, ← expect ']' c')) (Parted Host.Unmarked) :=
    (expect_yields hc' ']').bind fun c' hc' => .ok ⟨hhost, hc'⟩
  unfold readBracketed
  dsimp only
  split
  · exact hclosed (.address _ _) (h.of_subset (List.take_subset _ _)) (c.unmarked_behind h _)
  · split
    · exact (readFuture_yields h).bind fun text htext => hclosed (.future _) htext.1 htext.2
    · exact .error _

lemma readHost_yields : Yields (readHost wide c) (Parted Host.Unmarked) := by
  unfold readHost
  split
  case h_1 hover => exact readBracketed_yields (Cursor.unmarked_of_over? h hover)
  case h_2 => exact (readPart_yields h _).bind fun name hname => .ok hname

lemma readService_unmarked :
    Parted (fun service => ∀ digits ∈ service, Unmarked digits) (readService c) := by
  unfold readService
  split
  case h_1 hover =>
    have hrest := Cursor.unmarked_of_over? h hover
    refine ⟨?_, Cursor.unmarked_behind hrest _⟩
    rintro _ ⟨⟩
    exact hrest.of_subset (List.takeWhile_subset _)
  case h_2 => exact ⟨nofun, h⟩

omit h in
lemma splitService_yields {part : List Char} (h : Unmarked part) (start : Cursor) :
    Yields (splitService start part) fun r =>
      r.1.Unmarked ∧ ∀ digits ∈ r.2, Unmarked digits := by
  unfold splitService
  dsimp only
  split
  · exact .ok ⟨h, nofun⟩
  · split
    · exact .unexpected _
    · split
      · refine .ok ⟨h.of_subset (List.take_subset _ _), ?_⟩
        rintro _ ⟨⟩
        rw [Unmarked.reverse_iff]
        exact (Unmarked.reverse_iff.mpr h).of_subset (List.takeWhile_subset _)
      · exact .unexpected _

lemma readAuthority_yields : Yields (readAuthority wide c) (Parted Authority.Unmarked) := by
  have hplain {user : Option (List Char)} {host : Host × Cursor} (huser : ∀ u ∈ user, Unmarked u)
      (hhost : Parted Host.Unmarked host) : Parted Authority.Unmarked
        ({ user, host := host.1, service := (readService host.2).1 }, (readService host.2).2) :=
    ⟨⟨huser, hhost.1, (readService_unmarked hhost.2).1⟩, (readService_unmarked hhost.2).2⟩
  unfold readAuthority
  refine (readPart_yields h _).bind fun part hpart => ?_
  dsimp only
  split
  case h_1 hover =>
    have huser : ∀ u ∈ some part.1, Unmarked u := by
      rintro _ ⟨⟩
      exact hpart.1
    exact (readHost_yields (Cursor.unmarked_of_over? hpart.2 hover)).bind fun host hhost =>
      .ok (hplain huser hhost)
  case h_2 =>
    have hnobody : ∀ u ∈ (none : Option (List Char)), Unmarked u := by
      rintro _ ⟨⟩
    split
    · exact (readHost_yields hpart.2).bind fun host hhost => .ok (hplain hnobody hhost)
    · exact (splitService_yields hpart.1 c).bind fun host hhost =>
        .ok ⟨⟨hnobody, hhost.1, hhost.2⟩, hpart.2⟩

lemma readTail_yields {r : Reference} (hr : r.Unmarked) :
    Yields (readTail wide r c) Reference.Unmarked := by
  have hended {r : Reference} (hr : r.Unmarked) (c : Cursor) :
      Yields (if c.rest.isEmpty then .ok r else unexpected c) Reference.Unmarked := by
    split
    · exact .ok hr
    · exact .unexpected c
  unfold readTail
  dsimp only
  split
  case h_1 =>
    dsimp only [bind, Except.bind]
    rw [Cursor.over?_numberSign h]
    exact hended hr c
  case h_2 hover =>
    refine (readPart_yields (Cursor.unmarked_of_over? h hover) _).bind fun query hquery => ?_
    have hread : Reference.Unmarked { r with query := some query.1 } := by
      refine { hr with query := ?_ }
      rintro _ ⟨⟩
      exact hquery.1
    dsimp only [bind, Except.bind]
    rw [Cursor.over?_numberSign hquery.2]
    exact hended hread query.2

lemma readPath_yields {r : Reference} (hr : r.Unmarked) :
    Yields (readPath wide r c) Reference.Unmarked := by
  unfold readPath
  refine (readPart_yields h _).bind fun path hpath => ?_
  dsimp only
  split
  · exact .unexpected c
  · exact readTail_yields hpath.2 { hr with path := hpath.1 }

lemma readFromSlashes_yields {r : Reference} (hr : r.Unmarked) :
    Yields (readFromSlashes wide r c) Reference.Unmarked := by
  unfold readFromSlashes
  split
  case h_1 => exact readPath_yields h hr
  case h_2 hover =>
    refine (readAuthority_yields (Cursor.unmarked_of_over? h hover)).bind fun authority ha => ?_
    refine readPath_yields ha.2 { hr with authority := ?_ }
    rintro _ ⟨⟩
    exact ha.1

lemma readRelative_yields {r : Reference} (hr : r.Unmarked) :
    Yields (readRelative wide r c) Reference.Unmarked := by
  unfold readRelative
  split
  case h_1 => exact readFromSlashes_yields h hr
  case h_2 =>
    refine (readPart_yields h _).bind fun part hpart => ?_
    dsimp only
    split
    · exact .unexpected _
    · exact readPath_yields h hr

end

/-- A reference without a number sign has none in its parts, and no fragment. -/
lemma parse_yields {text : List Char} (h : Unmarked text) (wide : Bool) :
    Yields (parse wide text) Reference.Unmarked := by
  have hscheme : Unmarked (text.takeWhile isSchemeChar) := h.of_subset (List.takeWhile_subset _)
  have hempty : Reference.Unmarked
      { scheme := none, authority := none, path := [], query := none, fragment := none } :=
    ⟨nofun, nofun, .nil, nofun, rfl⟩
  unfold parse
  dsimp only
  split
  case h_1 hover =>
    split
    · refine readFromSlashes_yields ?_ { hempty with scheme := ?_ }
      · exact Cursor.unmarked_of_over? (Cursor.unmarked_behind h _) hover
      · rintro _ ⟨⟩
        exact hscheme
    · exact .unexpected _
  case h_2 => exact readRelative_yields h hempty

/-! ## Normal forms -/

lemma toLower_ne {c : Char} (h : c ≠ '#') : c.toLower ≠ '#' := by
  unfold Char.toLower
  split
  case isTrue hupper =>
    intro heq
    have hadd := congrArg UInt32.toNat (congrArg Char.val heq)
    have hdiff : ('a'.val - 'A'.val).toNat = 32 := rfl
    have hsign : '#'.val.toNat = 35 := rfl
    have hlow : 65 ≤ c.val.toNat := UInt32.le_iff_toNat_le.mp hupper.1
    have hhigh : c.val.toNat ≤ 90 := UInt32.le_iff_toNat_le.mp hupper.2
    rw [UInt32.toNat_add, hdiff, hsign] at hadd
    omega
  case isFalse => exact h

lemma toUpper_ne {c : Char} (h : c ≠ '#') : c.toUpper ≠ '#' := by
  unfold Char.toUpper
  split
  case isTrue hlower =>
    intro heq
    have hadd := congrArg UInt32.toNat (congrArg Char.val heq)
    have hdiff : ('A'.val - 'a'.val).toNat = 4294967264 := rfl
    have hsign : '#'.val.toNat = 35 := rfl
    have hlow : 97 ≤ c.val.toNat := UInt32.le_iff_toNat_le.mp hlower.1
    have hhigh : c.val.toNat ≤ 122 := UInt32.le_iff_toNat_le.mp hlower.2
    rw [UInt32.toNat_add, hdiff, hsign] at hadd
    omega
  case isFalse => exact h

namespace Unmarked

variable {cs : List Char}

lemma normalEscapes (h : Unmarked cs) : Unmarked (Uri.normalEscapes cs) := by
  fun_induction Uri.normalEscapes cs with
  | case1 a b rest c hc ih =>
    rw [cons_iff, cons_iff, cons_iff] at h
    refine cons_iff.mpr ⟨?_, ih h.2.2.2⟩
    rintro heq
    rw [heq] at hc
    exact absurd hc (by decide)
  | case2 a b rest c hc ih =>
    rw [cons_iff, cons_iff, cons_iff] at h
    rw [cons_iff, cons_iff, cons_iff]
    exact ⟨h.1, toUpper_ne h.2.1, toUpper_ne h.2.2.1, ih h.2.2.2⟩
  | case3 c rest _ ih =>
    rw [cons_iff] at h ⊢
    exact ⟨h.1, ih h.2⟩
  | case4 => exact nil

lemma lowerPart (h : Unmarked cs) : Unmarked (Uri.lowerPart cs) := by
  fun_induction Uri.lowerPart cs with
  | case1 a b rest ih =>
    rw [cons_iff, cons_iff, cons_iff] at h ⊢
    exact ⟨h.1, h.2.1, h.2.2.1, ih h.2.2.2⟩
  | case2 c rest _ ih =>
    rw [cons_iff] at h ⊢
    exact ⟨toLower_ne h.1, ih h.2⟩
  | case3 => exact nil

lemma dropDots {kept segments : List (List Char)} (hkept : ∀ s ∈ kept, Unmarked s)
    (h : ∀ s ∈ segments, Unmarked s) : ∀ s ∈ Uri.dropDots kept segments, Unmarked s := by
  have hlast {kept : List (List Char)} (hkept : ∀ s ∈ kept, Unmarked s) (b : Bool) :
      ∀ s ∈ if b then [] :: kept else kept, Unmarked s := by
    cases b
    · exact hkept
    · exact List.forall_mem_cons.mpr ⟨nil, hkept⟩
  fun_induction Uri.dropDots kept segments with
  | case1 kept => exact fun s hs => hkept s (List.mem_reverse.mp hs)
  | case2 kept segments last ih => exact ih (hlast hkept _) (List.forall_mem_cons.mp h).2
  | case3 kept segments last kept' _ ih =>
    exact ih (hlast (fun s hs => hkept s (List.mem_of_mem_drop hs)) _) (List.forall_mem_cons.mp h).2
  | case4 kept segment segments _ _ ih =>
    obtain ⟨hsegment, hsegments⟩ := List.forall_mem_cons.mp h
    exact ih (List.forall_mem_cons.mpr ⟨hsegment, hkept⟩) hsegments

lemma splitOnChar (h : Unmarked cs) (sep : Char) : ∀ s ∈ Uri.splitOnChar sep cs, Unmarked s := by
  induction cs with
  | nil => exact List.forall_mem_singleton.mpr nil
  | cons c cs ih =>
    obtain ⟨hc, hcs⟩ := cons_iff.mp h
    rw [Uri.splitOnChar]
    split
    · exact List.forall_mem_cons.mpr ⟨nil, ih hcs⟩
    · split
      case h_1 => exact List.forall_mem_singleton.mpr (cons_iff.mpr ⟨hc, nil⟩)
      case h_2 part parts hsplit =>
        obtain ⟨hpart, hparts⟩ := List.forall_mem_cons.mp (hsplit ▸ ih hcs)
        exact List.forall_mem_cons.mpr ⟨cons_iff.mpr ⟨hc, hpart⟩, hparts⟩

lemma removeDotSegments (h : Unmarked cs) : Unmarked (Uri.removeDotSegments cs) := by
  unfold Uri.removeDotSegments
  split
  case h_1 rest =>
    obtain ⟨hslash, hrest⟩ := cons_iff.mp h
    have hsep : Unmarked ['/'] := cons_iff.mpr ⟨hslash, nil⟩
    exact cons_iff.mpr ⟨hslash, intercalate hsep (dropDots nofun (hrest.splitOnChar '/'))⟩
  case h_2 => exact h

end Unmarked

lemma digitChar_ne (n : Nat) : Nat.digitChar n ≠ '#' := by
  by_cases h : n < 16
  · revert n
    decide
  · rw [Nat.digitChar]
    iterate 16 rw [if_neg (by omega)]
    decide

lemma toDigitsCore_unmarked (base fuel n : Nat) {cs : List Char} (h : Unmarked cs) :
    Unmarked (Nat.toDigitsCore base fuel n cs) := by
  induction fuel generalizing n cs with
  | zero => exact h
  | succ fuel ih =>
    have hnext := Unmarked.cons_iff.mpr ⟨digitChar_ne (n % base), h⟩
    rw [Nat.toDigitsCore]
    split
    · exact hnext
    · exact ih _ hnext

lemma groupText_unmarked (n : Nat) : Unmarked (groupText n) := toDigitsCore_unmarked 16 _ n .nil

lemma groupsText_unmarked (groups : List Nat) : Unmarked (groupsText groups) :=
  .intercalate (Unmarked.cons_iff.mpr ⟨by decide, .nil⟩)
    (List.forall_mem_map.mpr fun n _ => groupText_unmarked n)

lemma natText_unmarked (n : Nat) : Unmarked (Decimal.natText n) :=
  fun hmem => absurd (Decimal.isDigit_of_mem_natText hmem) (by decide)

lemma addressText_unmarked (groups : List Nat) : Unmarked (addressText groups) := by
  have hbytes (n : Nat) : Unmarked (bytesText n) :=
    Unmarked.append_iff.mpr ⟨natText_unmarked _,
      Unmarked.cons_iff.mpr ⟨by decide, natText_unmarked _⟩⟩
  unfold addressText
  split
  case h_1 =>
    have hfront : '#' ∉ "::ffff:".toList := by decide
    exact Unmarked.append_iff.mpr ⟨Unmarked.append_iff.mpr ⟨hfront, hbytes _⟩,
      Unmarked.cons_iff.mpr ⟨by decide, hbytes _⟩⟩
  case h_2 =>
    have hcolons : '#' ∉ [':', ':'] := by decide
    dsimp only
    split
    · exact groupsText_unmarked groups
    · exact Unmarked.append_iff.mpr
        ⟨Unmarked.append_iff.mpr ⟨groupsText_unmarked _, hcolons⟩, groupsText_unmarked _⟩

lemma Host.Unmarked.normalize {host : Host} (h : host.Unmarked) : host.normalize.Unmarked := by
  cases host with
  | name text => exact (Uri.Unmarked.normalEscapes h).lowerPart
  | address written groups => exact addressText_unmarked groups
  | future written => exact Uri.Unmarked.map h fun c => toLower_ne

lemma Authority.Unmarked.normalize {a : Authority} (h : a.Unmarked) : a.normalize.Unmarked where
  user := Option.forall_mem_map.mpr fun user huser => (h.user user huser).normalEscapes
  host := h.host.normalize
  service := fun digits hdigits => h.service digits (Option.mem_filter_iff.mp hdigits).1

namespace Reference.Unmarked

variable {r base : Reference}

lemma normalize (h : r.Unmarked) : r.normalize.Unmarked where
  scheme := Option.forall_mem_map.mpr fun s hs => (h.scheme s hs).map fun _ => toLower_ne
  authority := Option.forall_mem_map.mpr fun a ha => (h.authority a ha).normalize
  path := by
    have hguarded {path : List Char} (hpath : Uri.Unmarked path) : Uri.Unmarked (guarded path) := by
      unfold guarded
      split
      case h_1 rest =>
        simp only [Uri.Unmarked.cons_iff] at hpath ⊢
        exact ⟨hpath.1, by decide, hpath⟩
      case h_2 => exact hpath
    have hpath : Uri.Unmarked (if r.scheme.isSome then removeDotSegments (normalEscapes r.path)
        else normalEscapes r.path) := by
      split
      · exact h.path.normalEscapes.removeDotSegments
      · exact h.path.normalEscapes
    unfold Reference.normalize
    dsimp only
    split
    · exact hguarded hpath
    · exact hpath
  query := Option.forall_mem_map.mpr fun q hq => (h.query q hq).normalEscapes
  fragment := by rw [Reference.normalize, h.fragment, Option.map_none]

lemma mergePath (h : r.Unmarked) (hbase : base.Unmarked) :
    Uri.Unmarked (Reference.mergePath base r) := by
  unfold Reference.mergePath
  split
  · exact Uri.Unmarked.cons_iff.mpr ⟨by decide, h.path⟩
  · refine Uri.Unmarked.append_iff.mpr ⟨?_, h.path⟩
    rw [Uri.Unmarked.reverse_iff]
    exact (Uri.Unmarked.reverse_iff.mpr hbase.path).of_subset (List.dropWhile_subset _)

lemma resolve (h : r.Unmarked) (hbase : base.Unmarked) : (base.resolve r).Unmarked := by
  unfold Reference.resolve
  dsimp only
  split
  · exact { h with path := h.path.removeDotSegments }
  · split
    · exact { h with scheme := hbase.scheme, path := h.path.removeDotSegments }
    · split
      · refine { h with
          scheme := hbase.scheme, authority := hbase.authority, path := hbase.path, query := ?_ }
        intro q hq
        cases hquery : r.query with
        | none =>
          rw [hquery] at hq
          exact hbase.query q hq
        | some q' =>
          rw [hquery] at hq
          cases hq
          exact h.query q hquery
      · split
        · exact { h with
            scheme := hbase.scheme, authority := hbase.authority,
            path := h.path.removeDotSegments }
        · exact { h with
            scheme := hbase.scheme, authority := hbase.authority,
            path := (h.mergePath hbase).removeDotSegments }

end Reference.Unmarked

lemma Host.Unmarked.text {host : Host} (h : host.Unmarked) : Uri.Unmarked host.text := by
  have hbracketed {written : List Char} (hwritten : Uri.Unmarked written) :
      Uri.Unmarked ('[' :: (written ++ [']'])) := by
    have hclosing : '#' ∉ [']'] := by decide
    exact Uri.Unmarked.cons_iff.mpr ⟨by decide, Uri.Unmarked.append_iff.mpr ⟨hwritten, hclosing⟩⟩
  cases host with
  | name text => exact h
  | address written groups => exact hbracketed h
  | future written => exact hbracketed h

lemma Authority.Unmarked.text {a : Authority} (h : a.Unmarked) : Uri.Unmarked a.text := by
  refine Uri.Unmarked.append_iff.mpr ⟨Uri.Unmarked.append_iff.mpr ⟨?_, h.host.text⟩, ?_⟩
  · split
    case h_1 user huser =>
      have hat : '#' ∉ ['@'] := by decide
      exact Uri.Unmarked.append_iff.mpr ⟨h.user user huser, hat⟩
    case h_2 => exact .nil
  · split
    case h_1 digits hdigits =>
      exact Uri.Unmarked.cons_iff.mpr ⟨by decide, h.service digits hdigits⟩
    case h_2 => exact .nil

/-- The text of a reference without number signs in its parts has none. -/
lemma Reference.Unmarked.text {r : Reference} (h : r.Unmarked) : Uri.Unmarked r.text := by
  rw [Reference.text, h.fragment]
  simp only [Uri.Unmarked.append_iff]
  refine ⟨⟨⟨⟨?_, ?_⟩, h.path⟩, ?_⟩, .nil⟩
  · split
    case h_1 s hs =>
      have hcolon : '#' ∉ [':'] := by decide
      exact Uri.Unmarked.append_iff.mpr ⟨h.scheme s hs, hcolon⟩
    case h_2 => exact .nil
  · split
    case h_1 a ha =>
      have htext := Uri.Unmarked.cons_iff.mpr ⟨(by decide : '/' ≠ '#'), (h.authority a ha).text⟩
      exact Uri.Unmarked.cons_iff.mpr ⟨by decide, htext⟩
    case h_2 => exact .nil
  · split
    case h_1 q hq => exact Uri.Unmarked.cons_iff.mpr ⟨by decide, h.query q hq⟩
    case h_2 => exact .nil

end AgentManifest.Uri
