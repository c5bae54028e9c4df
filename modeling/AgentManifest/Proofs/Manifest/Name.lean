import Mathlib.Data.List.TakeWhile
import AgentManifest.Manifest.Load
import AgentManifest.Proofs.Files.Discovery
import AgentManifest.Proofs.Text.Utf8

/-!
# Names of manifests

A manifest is called `llm` with one of three extensions, behind nothing or behind anything that ends
in a hyphen or a dot; the case of letters of ASCII does not matter. Such a name has the extension
that it ends in wherever the file lies, so that a manifest is read in the syntax that its name
announces.
-/

namespace AgentManifest.Files

open Text (Bytes encode decodeLossy)

/-- The form of a name in lower case: `llm.` and an extension, behind nothing or behind anything
that ends in a hyphen or a dot. -/
def IsManifestForm (s : List Char) : Prop :=
  ∃ front extension, s = front ++ "llm.".toList ++ extension ∧
    extension ∈ ["yml".toList, "yaml".toList, "json".toList] ∧
    (front = [] ∨ front.getLast? = some '-' ∨ front.getLast? = some '.')

/-! ## Letters in lower case -/

lemma toNat_toLower (c : Char) :
    c.toLower.toNat = if 65 ≤ c.toNat ∧ c.toNat ≤ 90 then c.toNat + 32 else c.toNat := by
  have hrange : (c.val ≥ 'A'.val ∧ c.val ≤ 'Z'.val) ↔ 65 ≤ c.toNat ∧ c.toNat ≤ 90 := Iff.rfl
  unfold Char.toLower
  by_cases h : 65 ≤ c.toNat ∧ c.toNat ≤ 90
  · have hsum : (c.val + ('a'.val - 'A'.val)).toNat = c.toNat + 32 := by
      rw [UInt32.toNat_add]
      exact Nat.mod_eq_of_lt (show c.toNat + 32 < 2 ^ 32 by omega)
    rw [dif_pos (hrange.mpr h), if_pos h, ← hsum]
    rfl
  · rw [dif_neg (mt hrange.mp h), if_neg h]

lemma lowerAscii_eq (c : Char) : lowerAscii c = c.toLower := by
  have hrange : ('A' ≤ c ∧ c ≤ 'Z') ↔ (65 ≤ c.toNat ∧ c.toNat ≤ 90) := Iff.rfl
  rw [← Char.toNat_inj, toNat_toLower, lowerAscii]
  by_cases h : 65 ≤ c.toNat ∧ c.toNat ≤ 90
  · rw [if_pos (hrange.mpr h), if_pos h, Text.toNat_ofNat (.inl (by omega))]
  · rw [if_neg (mt hrange.mp h), if_neg h]

lemma map_lowerAscii (s : List Char) : s.map lowerAscii = s.map Char.toLower :=
  List.map_congr_left fun c _ => lowerAscii_eq c

/-- A dot is no letter. -/
lemma toLower_eq_dot {c : Char} (h : c.toLower = '.') : c = '.' := by
  have hdot := congrArg Char.toNat h
  have hvalue : '.'.toNat = 46 := rfl
  rw [toNat_toLower, hvalue] at hdot
  rw [← Char.toNat_inj, hvalue]
  split at hdot <;> omega

/-! ## The last occurrence -/

lemma takeWhile_reverse {α : Type} [DecidableEq α] {sep : α} {back : List α} (h : sep ∉ back)
    (front : List α) :
    (front ++ sep :: back).reverse.takeWhile (· != sep) = back.reverse := by
  have hback : ∀ x ∈ back.reverse, (x != sep) = true := by
    intro x hx
    rw [bne_iff_ne]
    rintro rfl
    exact h (List.mem_reverse.mp hx)
  rw [List.reverse_append, List.reverse_cons, List.append_assoc, List.singleton_append,
    List.takeWhile_append_of_pos hback, List.takeWhile_cons_of_neg (by simp), List.append_nil]

/-- What stands in front of it is left when as much is dropped. -/
lemma drop_reverse {α : Type} (sep : α) (front back : List α) :
    (front ++ sep :: back).reverse.drop back.reverse.length = sep :: front.reverse := by
  rw [List.reverse_append, List.reverse_cons, List.append_assoc, List.singleton_append,
    List.drop_left]

/-- What occurs has a last occurrence. -/
lemma exists_last {α : Type} [DecidableEq α] {sep : α} {s : List α} (h : sep ∈ s) :
    ∃ front back, s = front ++ sep :: back ∧ sep ∉ back := by
  obtain ⟨back, front, hs, hback⟩ := List.eq_append_cons_of_mem (List.mem_reverse.mpr h)
  refine ⟨front.reverse, back.reverse, ?_, fun hmem => hback (List.mem_reverse.mp hmem)⟩
  rw [← List.reverse_inj, hs]
  simp

lemma splitLast?_append {sep : Char} {back : List Char} (h : sep ∉ back) (front : List Char) :
    splitLast? sep (front ++ sep :: back) = some (front, back) := by
  simp only [splitLast?, drop_reverse, takeWhile_reverse h, List.reverse_reverse]

lemma splitLast?_eq_none {sep : Char} {s : List Char} (h : sep ∉ s) : splitLast? sep s = none := by
  have hall : ∀ x ∈ s.reverse, (x != sep) = true := by
    intro x hx
    rw [bne_iff_ne]
    rintro rfl
    exact h (List.mem_reverse.mp hx)
  have htake : s.reverse.takeWhile (· != sep) = s.reverse := List.takeWhile_eq_self_iff.mpr hall
  simp only [splitLast?, htake, List.drop_length]

/-! ## Names -/

lemma isManifestName_append {front back : List Char} {s : List Char} (h : '.' ∉ back)
    (hs : s.map Char.toLower = front ++ '.' :: back) :
    isManifestName s = true ↔ back ∈ manifestExtensions ∧
      (front = "llm".toList ∨ "-llm".toList <:+ front ∨ ".llm".toList <:+ front) := by
  rw [isManifestName, map_lowerAscii, hs, splitLast?_append h]
  simp only [Bool.and_eq_true, Bool.or_eq_true, List.contains_iff_mem, beq_iff_eq,
    List.isSuffixOf_iff_suffix, or_assoc]

lemma dot_not_mem_extension {extension : List Char} (h : extension ∈ manifestExtensions) :
    '.' ∉ extension := by
  revert extension
  decide

/-- A file name is that of a manifest exactly if it has the form in lower case. -/
lemma isManifestName_iff (s : List Char) :
    isManifestName s = true ↔ IsManifestForm (s.map Char.toLower) := by
  constructor
  · intro h
    by_cases hdot : '.' ∈ s.map Char.toLower
    · obtain ⟨front, back, hs, hback⟩ := exists_last hdot
      obtain ⟨hextension, hfront⟩ := (isManifestName_append hback hs).mp h
      rw [hs]
      rcases hfront with rfl | ⟨q, rfl⟩ | ⟨q, rfl⟩
      · exact ⟨[], back, rfl, hextension, .inl rfl⟩
      · exact ⟨q ++ ['-'], back, by simp, hextension, .inr (.inl List.getLast?_concat)⟩
      · exact ⟨q ++ ['.'], back, by simp, hextension, .inr (.inr List.getLast?_concat)⟩
    · rw [isManifestName, map_lowerAscii, splitLast?_eq_none hdot] at h
      cases h
  · rintro ⟨front, extension, hs, hextension, hfront⟩
    have hsplit : s.map Char.toLower = (front ++ "llm".toList) ++ '.' :: extension := by
      rw [hs]
      simp
    refine (isManifestName_append (dot_not_mem_extension hextension) hsplit).mpr
      ⟨hextension, ?_⟩
    rcases hfront with rfl | hlast | hlast
    · exact .inl rfl
    · obtain ⟨q, rfl⟩ := List.getLast?_eq_some_iff.mp hlast
      exact .inr (.inl ⟨q, by simp⟩)
    · obtain ⟨q, rfl⟩ := List.getLast?_eq_some_iff.mp hlast
      exact .inr (.inr ⟨q, by simp⟩)

/-! ## Extensions -/

/-- A path ends in the name that was joined to it. -/
lemma Path.fileName?_join {name : Bytes} (hslash : slash ∉ name) (hne : name ≠ [])
    (hcurrent : name ≠ [dot]) (hparent : name ≠ [dot, dot]) (dir : Path) :
    (dir.join name).fileName? = some name := by
  have hparts : ∃ front, splitAt slash (dir.join name).bytes = front ++ [name] := by
    by_cases hlast : dir.bytes.getLast? = some slash
    · obtain ⟨bytes, hbytes⟩ := List.getLast?_eq_some_iff.mp hlast
      refine ⟨splitAt slash bytes, ?_⟩
      have hjoin : (dir.join name).bytes = bytes ++ slash :: name := by simp [join, hbytes]
      rw [hjoin, splitAt_append, splitAt_of_not_mem hslash]
    · by_cases hempty : dir.bytes = []
      · refine ⟨[], ?_⟩
        have hjoin : (dir.join name).bytes = name := by simp [join, hempty]
        rw [hjoin, splitAt_of_not_mem hslash, List.nil_append]
      · refine ⟨splitAt slash dir.bytes, ?_⟩
        have hjoin : (dir.join name).bytes = dir.bytes ++ slash :: name := by
          simp [join, hlast, hempty]
        rw [hjoin, splitAt_append, splitAt_of_not_mem hslash]
  obtain ⟨front, hparts⟩ := hparts
  have hcomponent : component? name = some (.name name) := by
    simp [component?, hne, hcurrent, hparent]
  have hsteps : (splitAt slash (dir.join name).bytes).filterMap component? =
      front.filterMap component? ++ [.name name] := by
    rw [hparts, List.filterMap_append, List.filterMap_cons_some hcomponent, List.filterMap_nil]
  have hlast (c : Component) (cs : List Component) :
      (c :: (cs ++ [Component.name name])).getLast? = some (.name name) := by
    rw [← List.cons_append, List.getLast?_concat]
  unfold fileName? components
  dsimp only
  rw [hsteps]
  split_ifs
  · rw [hlast]
  · rw [hlast]
  · rw [List.getLast?_concat]

/-- The extension of a path is what stands behind the last dot of the name joined to it, if that
does not start the name. -/
lemma Path.extension?_join {front back : Bytes} (hslash : slash ∉ front ++ dot :: back)
    (hfront : front ≠ []) (hback : back ≠ []) (hdot : dot ∉ back) (dir : Path) :
    (dir.join (front ++ dot :: back)).extension? = some back := by
  obtain ⟨b, front, rfl⟩ := List.exists_cons_of_ne_nil hfront
  obtain ⟨b', back, rfl⟩ := List.exists_cons_of_ne_nil hback
  have hlong : ([dot, dot] : Bytes).length < (b :: front ++ dot :: b' :: back).length := by
    simp only [List.cons_append, List.length_cons, List.length_append, List.length_nil]
    omega
  have hparent : b :: front ++ dot :: b' :: back ≠ [dot, dot] := by
    intro heq
    rw [heq] at hlong
    exact Nat.lt_irrefl _ hlong
  have hname := fileName?_join hslash (by simp) (by simp) hparent dir
  obtain ⟨last, before, hreverse⟩ := List.exists_cons_of_ne_nil
    (List.reverse_ne_nil_iff.mpr (List.cons_ne_nil b front))
  simp only [extension?, hname, drop_reverse, takeWhile_reverse hdot, hreverse,
    List.reverse_reverse]

end AgentManifest.Files

namespace AgentManifest.Manifest

open Files
open Text (Bytes encode decodeLossy)

/-- Bytes whose text is the name of a manifest end in an extension of ASCII behind a dot, and do not
start with that. -/
lemma exists_extension {name : Bytes} (h : isManifestName (decodeLossy name) = true) :
    ∃ (front : Bytes) (back : List Char), name = front ++ dot :: encode back ∧ front ≠ [] ∧
      back.map Char.toLower ∈ manifestExtensions ∧
      (".json".toList <:+ (decodeLossy name).map Char.toLower ↔
        back.map Char.toLower = "json".toList) := by
  obtain ⟨q, extension, hname, hextension, -⟩ := (isManifestName_iff _).mp h
  have hsplit : (decodeLossy name).map Char.toLower = (q ++ "llm".toList) ++ '.' :: extension := by
    rw [hname]
    simp
  obtain ⟨before, behind, htext, hbefore, hbehind⟩ := List.map_eq_append_iff.mp hsplit
  obtain ⟨c, back, rfl, hc, hback⟩ := List.map_eq_cons_iff.mp hbehind
  obtain rfl := toLower_eq_dot hc
  obtain ⟨ps, qs, hpieces, hps, hqs⟩ := List.map_eq_append_iff.mp htext
  -- the characters of the extension were decoded, and do not stand for bytes that are none
  have hmarker : '\uFFFD' ∉ '.' :: back := by
    intro hmem
    have hlower : '\uFFFD' ∈ extension := by
      rw [← hback]
      rcases List.mem_cons.mp hmem with hdot | hmem
      · cases hdot
      · exact List.mem_map.mpr ⟨_, hmem, rfl⟩
    have hnone : ∀ e ∈ manifestExtensions, '\uFFFD' ∉ e := by decide
    exact hnone extension hextension hlower
  have hsome : qs = ('.' :: back).map some := by
    rw [← hqs, List.map_map]
    refine (List.map_id qs).symm.trans (List.map_congr_left fun p hp => ?_)
    cases p with
    | some c => rfl
    | none => exact absurd (hqs ▸ List.mem_map.mpr ⟨none, hp, rfl⟩) hmarker
  rw [hsome] at hpieces
  obtain ⟨front, hbytes, hfront⟩ := Text.exists_append_encode hpieces
  refine ⟨front, back, hbytes, hfront ?_, hback ▸ hextension, ?_⟩
  · rintro rfl
    rw [← hps] at hbefore
    simp at hbefore
  · rw [hsplit, hback]
    constructor
    · intro hsuffix
      have hother := List.suffix_or_suffix_of_suffix hsuffix
        (List.suffix_append (q ++ "llm".toList) ('.' :: extension))
      revert hother
      have hall : ∀ e ∈ manifestExtensions,
          ".json".toList <:+ '.' :: e ∨ '.' :: e <:+ ".json".toList → e = "json".toList := by
        decide
      exact hall extension hextension
    · rintro rfl
      exact ⟨q ++ "llm".toList, rfl⟩

/-! ## Syntax -/

/-- A path announces the syntax that the name at its end announces, if that is the name of a
manifest. -/
lemma ofPath_join {name : Bytes} (h : isManifestName (decodeLossy name) = true)
    (hslash : slash ∉ name) (dir : Path) :
    Format.ofPath (dir.join name) = .json ↔
      ".json".toList <:+ (decodeLossy name).map Char.toLower := by
  obtain ⟨front, back, rfl, hfront, hback, hiff⟩ := exists_extension h
  have hne : encode back ≠ [] := by
    intro hempty
    have hnil : back = [] := by rw [← Text.decodeLossy_encode back, hempty]; rfl
    rw [hnil] at hback
    revert hback
    decide
  have hdot : dot ∉ encode back := by
    intro hmem
    have hchar := Text.mem_of_mem_encode (c := '.') (by decide) hmem
    exact dot_not_mem_extension hback (List.mem_map.mpr ⟨'.', hchar, rfl⟩)
  rw [hiff, Format.ofPath, Path.extension?_join hslash hfront hne hdot]
  dsimp only
  rw [Text.decodeLossy_encode, map_lowerAscii]
  split_ifs with hjson
  · exact iff_of_true rfl hjson
  · exact iff_of_false nofun hjson

/-- What is found in a directory has the name of a manifest, joined to the path of a directory. -/
lemma exists_of_mem_manifests {tree : Tree} {dir p : Path} {recursive : Bool}
    (hwf : tree.WellFormed) (hp : p ∈ tree.manifests dir recursive) :
    ∃ (parent : Path) (name : Bytes), p = parent.join name ∧ IsName name ∧
      isManifestName (decodeLossy name) = true := by
  cases hd : tree.directory? dir with
  | none =>
    rw [Tree.manifests, hd] at hp
    cases hp
  | some entries =>
    have hentries := hwf.directory? hd
    rw [Tree.manifests_eq (fun ns => isName_of_mem_namesIn hentries) hd, List.mem_map] at hp
    obtain ⟨ns, hns, rfl⟩ := hp
    have hns := (mem_sortedNames.mp hns).1
    have hnames := isName_of_mem_namesIn hentries hns
    obtain ⟨cs, n, rfl, -, hmanifest, -⟩ := (mem_namesIn_iff hentries).mp hns
    exact ⟨dir.below cs, n, List.foldl_append, hnames n (by simp), hmanifest⟩

/-- A file name is that of a manifest exactly if it is of the form in lower case, so that the case
of its letters does not matter; and the path of a manifest, in whatever directory, announces JSON
exactly if the name ends in `.json` in lower case. So do the paths of the manifests that are
found. -/
theorem name_announces_syntax :
    (∀ s : List Char, isManifestName s = true ↔ IsManifestForm (s.map Char.toLower)) ∧
    (∀ s s' : List Char, s.map Char.toLower = s'.map Char.toLower →
      isManifestName s = isManifestName s') ∧
    (∀ s : List Char, isManifestName s = true → '/' ∉ s → ∀ dir : Path,
      (Format.ofPath (dir.join (encode s)) = .json ↔
        ".json".toList <:+ s.map Char.toLower)) ∧
    ∀ (tree : Tree) (dir : Path) (recursive : Bool), tree.WellFormed →
      ∀ p ∈ tree.manifests dir recursive, ∃ name, p.fileName? = some name ∧
        isManifestName (decodeLossy name) = true ∧
        (Format.ofPath p = .json ↔ ".json".toList <:+ (decodeLossy name).map Char.toLower) := by
  refine ⟨isManifestName_iff, fun s s' h => ?_, fun s h hslash dir => ?_,
    fun tree dir recursive hwf p hp => ?_⟩
  · rw [Bool.eq_iff_iff, isManifestName_iff, isManifestName_iff, h]
  · have hbyte : slash ∉ encode s := fun hmem =>
      hslash (Text.mem_of_mem_encode (c := '/') (by decide) hmem)
    have hname : isManifestName (decodeLossy (encode s)) = true := by
      rwa [Text.decodeLossy_encode]
    have hjoin := ofPath_join hname hbyte dir
    rwa [Text.decodeLossy_encode] at hjoin
  · obtain ⟨parent, name, rfl, hname, hmanifest⟩ := exists_of_mem_manifests hwf hp
    exact ⟨name, Path.fileName?_join hname.noSlash hname.ne_nil hname.ne_current hname.ne_parent
      parent, hmanifest, ofPath_join hmanifest hname.noSlash parent⟩

end AgentManifest.Manifest
