import Mathlib.Data.List.Forall2
import Mathlib.Data.List.Perm.Basic
import AgentManifest.Proofs.Json.Gathering
import AgentManifest.Yaml.Value

/-!
# What becomes of a YAML value

A value has a JSON form exactly if its mappings have scalar keys other than null and its numbers,
apart from those that are keys, are finite. Scalars and sequences then stay what they are, tags are
gone, and a mapping is an object with what comes last under each name. As long as no two keys of a
mapping have one name, the order of its entries is of no account.
-/

namespace AgentManifest.Yaml

open Decimal (Binary64)
open Json (Members)
open List (Forall₂)

namespace Value

/-! ## What lies in a value -/

/-- Induction on a value by what lies in it, apart from its keys. -/
theorem induction {P : Value → Prop} (null : P .null) (bool : ∀ b, P (.bool b))
    (number : ∀ n, P (.number n)) (string : ∀ s, P (.string s))
    (sequence : ∀ vs, (∀ v ∈ vs, P v) → P (.sequence vs))
    (mapping : ∀ es : List (Value × Value), (∀ e ∈ es, P e.2) → P (.mapping es))
    (tagged : ∀ t v, P v → P (.tagged t v)) (v : Value) : P v := by
  refine @Value.rec P (fun vs => ∀ v ∈ vs, P v) (fun es => ∀ e ∈ es, P e.2) (fun e => P e.2)
    null bool number string sequence mapping tagged ?_ ?_ ?_ ?_ ?_ v
  · exact List.forall_mem_nil _
  · intro v vs hv hvs
    exact List.forall_mem_cons.mpr ⟨hv, hvs⟩
  · exact List.forall_mem_nil _
  · intro e es he hes
    exact List.forall_mem_cons.mpr ⟨he, hes⟩
  · intro k v _ hv
    exact hv

/-- A value lies in another, below any sequences, mappings and tags, but not in a key. -/
inductive Inside : Value → Value → Prop where
  | here (v : Value) : Inside v v
  | item {w v : Value} {vs : List Value} : v ∈ vs → Inside w v → Inside w (.sequence vs)
  | value {w : Value} {e : Value × Value} {es : List (Value × Value)} :
    e ∈ es → Inside w e.2 → Inside w (.mapping es)
  | tagged {w v : Value} {t : String} : Inside w v → Inside w (.tagged t v)

lemma Inside.trans {u v w : Value} (h : Inside u v) (h' : Inside v w) : Inside u w := by
  induction h' with
  | here => exact h
  | item hmem _ ih => exact .item hmem ih
  | value hmem _ ih => exact .value hmem ih
  | tagged _ ih => exact .tagged ih

/-- Whether a key has no name: it is null, a sequence, a mapping or tagged. -/
def Nameless : Value → Prop
  | .null | .sequence _ | .mapping _ | .tagged _ _ => True
  | .bool _ | .number _ | .string _ => False

/-- Every key has a name, and every number that is no key is finite. -/
structure Convertible (v : Value) : Prop where
  keys : ∀ es, Inside (.mapping es) v → ∀ e ∈ es, ¬e.1.Nameless
  numbers : ∀ x, Inside (.number (.float x)) v → x ≠ .nan ∧ ∀ s, x ≠ .infinite s

/-- The names of keys. -/
def keyNames (es : List (Value × Value)) : List String := es.filterMap fun e => keyName? e.1

/-! ## What a value becomes -/

mutual

/-- A value becomes a JSON value. -/
inductive Becomes : Value → Json.Value → Prop where
  | null : Becomes .null .null
  | bool (b : Bool) : Becomes (.bool b) (.bool b)
  | int (n : Int) : Becomes (.number (.int n)) (.number (.int n))
  | float (negative : Bool) (mantissa : Nat) (exponent : Int) :
    Becomes (.number (.float (.finite negative mantissa exponent)))
      (.number (.float (.finite negative mantissa exponent)))
  | string (s : String) : Becomes (.string s) (.string s)
  | sequence {vs : List Value} {ws : List Json.Value} :
    Forall₂ Becomes vs ws → Becomes (.sequence vs) (.array ws)
  | mapping {es : List (Value × Value)} {pairs : List (String × Json.Value)} {ms : Members} :
    EntriesBecome es pairs → Members.Gathers pairs ms → Becomes (.mapping es) (.object ms)
  | tagged {v : Value} {w : Json.Value} (t : String) : Becomes v w → Becomes (.tagged t v) w

/-- Entries become names with JSON values, in order. -/
inductive EntriesBecome : List (Value × Value) → List (String × Json.Value) → Prop where
  | nil : EntriesBecome [] []
  | cons {k v : Value} {name : String} {w : Json.Value} {es : List (Value × Value)}
    {pairs : List (String × Json.Value)} :
    keyName? k = some name → Becomes v w → EntriesBecome es pairs →
    EntriesBecome ((k, v) :: es) ((name, w) :: pairs)

end

/-- What an entry comes to. -/
def Named (e : Value × Value) (p : String × Json.Value) : Prop :=
  keyName? e.1 = some p.1 ∧ e.2.toJson = .ok p.2

variable {vs : List Value} {ws : List Json.Value} {es es' : List (Value × Value)}
variable {pairs : List (String × Json.Value)} {v v' w : Value} {j : Json.Value}

/-! ## Steps of the conversion -/

lemma toJsonItems_eq_ok_iff :
    toJsonItems vs = .ok ws ↔ Forall₂ (fun v w => v.toJson = .ok w) vs ws := by
  induction vs generalizing ws with
  | nil =>
    rw [toJsonItems, List.forall₂_nil_left_iff]
    exact ⟨fun h => (Except.ok.inj h).symm, fun h => congrArg _ h.symm⟩
  | cons v vs ih =>
    rw [toJsonItems, List.forall₂_cons_left_iff]
    constructor
    · intro h
      cases hv : v.toJson with
      | error e =>
        rw [hv] at h
        cases h
      | ok w =>
        rw [hv] at h
        cases hvs : toJsonItems vs with
        | error e =>
          rw [hvs] at h
          cases h
        | ok ws' =>
          rw [hvs] at h
          exact ⟨w, ws', rfl, ih.mp hvs, (Except.ok.inj h).symm⟩
    · rintro ⟨w, ws', hv, hvs, rfl⟩
      rw [hv, ih.mpr hvs]

lemma toJsonEntries_eq_ok_iff {ms : Members} :
    toJsonEntries ms es = .ok j ↔ ∃ pairs, Forall₂ Named es pairs ∧
      j = .object (pairs.foldl (fun ms p => Members.insert ms p.1 p.2) ms) := by
  induction es generalizing ms with
  | nil =>
    simp only [toJsonEntries, List.forall₂_nil_left_iff, exists_eq_left, List.foldl_nil]
    exact ⟨fun h => (Except.ok.inj h).symm, fun h => congrArg _ h.symm⟩
  | cons e es ih =>
    obtain ⟨k, v⟩ := e
    rw [toJsonEntries]
    constructor
    · intro h
      cases hk : keyName? k with
      | none =>
        rw [hk] at h
        cases h
      | some name =>
        rw [hk] at h
        cases hv : v.toJson with
        | error e =>
          simp only [hv] at h
          cases h
        | ok w =>
          simp only [hv] at h
          obtain ⟨pairs, hpairs, hj⟩ := ih.mp h
          exact ⟨(name, w) :: pairs, .cons ⟨hk, hv⟩ hpairs, hj⟩
    · rintro ⟨_, hpairs, hj⟩
      cases hpairs with
      | @cons _ p _ pairs hp hpairs =>
        simp only [hp.1, hp.2]
        exact ih.mpr ⟨pairs, hpairs, hj⟩

lemma toJson_sequence_eq_ok_iff :
    (sequence vs).toJson = .ok j ↔
      ∃ ws, Forall₂ (fun v w => v.toJson = .ok w) vs ws ∧ j = .array ws := by
  simp only [← toJsonItems_eq_ok_iff]
  rw [toJson]
  cases toJsonItems vs with
  | error e => simp
  | ok ws => simp [eq_comm]

lemma toJson_mapping_eq_ok_iff :
    (mapping es).toJson = .ok j ↔
      ∃ pairs, Forall₂ Named es pairs ∧ j = .object (Members.ofList pairs) := by
  rw [toJson]
  exact toJsonEntries_eq_ok_iff

lemma toJson_tagged (t : String) (v : Value) : (tagged t v).toJson = v.toJson := by
  rw [toJson]

lemma entriesBecome_iff : EntriesBecome es pairs ↔
    Forall₂ (fun e p => keyName? e.1 = some p.1 ∧ Becomes e.2 p.2) es pairs := by
  induction es generalizing pairs with
  | nil =>
    rw [List.forall₂_nil_left_iff]
    constructor
    · rintro ⟨⟩
      rfl
    · rintro rfl
      exact .nil
  | cons e es ih =>
    constructor
    · intro h
      cases h with
      | cons hk hv h => exact .cons ⟨hk, hv⟩ (ih.mp h)
    · intro h
      cases h with
      | cons he h => exact .cons he.1 he.2 (ih.mpr h)

/-- Relations that say the same of all items of a list say the same of the list. -/
lemma forall₂_congr_of_mem {α β : Type} {R S : α → β → Prop} {as : List α} {bs : List β}
    (h : ∀ a ∈ as, ∀ b, R a b ↔ S a b) : Forall₂ R as bs ↔ Forall₂ S as bs := by
  induction as generalizing bs with
  | nil => rw [List.forall₂_nil_left_iff, List.forall₂_nil_left_iff]
  | cons a as ih =>
    rw [List.forall_mem_cons] at h
    simp only [List.forall₂_cons_left_iff, h.1, ih h.2]

/-- A value is converted to what it becomes. -/
lemma toJson_eq_ok_iff (v : Value) (j : Json.Value) : v.toJson = .ok j ↔ Becomes v j := by
  induction v using Value.induction generalizing j with
  | null | bool _ | string _ =>
    constructor
    · rintro ⟨⟩
      constructor
    · rintro ⟨⟩
      rfl
  | number n =>
    constructor
    · intro h
      cases n with
      | int n =>
        cases h
        exact .int n
      | float x =>
        cases x with
        | finite negative mantissa exponent =>
          cases h
          exact .float negative mantissa exponent
        | infinite negative => cases h
        | nan => cases h
    · intro h
      cases h with
      | int => rfl
      | float => rfl
  | sequence vs ih =>
    rw [toJson_sequence_eq_ok_iff]
    simp only [forall₂_congr_of_mem ih]
    constructor
    · rintro ⟨ws, hws, rfl⟩
      exact .sequence hws
    · intro h
      cases h with
      | sequence hws => exact ⟨_, hws, rfl⟩
  | mapping es ih =>
    -- the entries come to the pairs that they become, and these make up one object only
    have hnamed {pairs : List (String × Json.Value)} :
        Forall₂ Named es pairs ↔ EntriesBecome es pairs :=
      (forall₂_congr_of_mem fun e he p => and_congr_right fun _ => ih e he p.2).trans
        entriesBecome_iff.symm
    rw [toJson_mapping_eq_ok_iff]
    constructor
    · rintro ⟨pairs, hpairs, rfl⟩
      exact .mapping (hnamed.mp hpairs) (Members.gathers_ofList pairs)
    · intro h
      cases h with
      | mapping hpairs hms =>
        exact ⟨_, hnamed.mpr hpairs, congrArg _ (Members.gathers_iff.mp hms)⟩
  | tagged t v ih =>
    rw [toJson_tagged, ih]
    constructor
    · exact .tagged t
    · intro h
      cases h with
      | tagged _ h => exact h

/-! ## Which values have a JSON form -/

lemma keyName?_eq_none_iff {k : Value} : keyName? k = none ↔ k.Nameless := by
  cases k <;> simp [keyName?, Nameless]

lemma exists_keyName?_iff {k : Value} : (∃ name, keyName? k = some name) ↔ ¬k.Nameless := by
  rw [← keyName?_eq_none_iff, ← Ne, Option.ne_none_iff_exists']

lemma exists_forall₂_iff {α β : Type} {R : α → β → Prop} {as : List α} :
    (∃ bs, Forall₂ R as bs) ↔ ∀ a ∈ as, ∃ b, R a b := by
  induction as with
  | nil => exact iff_of_true ⟨[], .nil⟩ (List.forall_mem_nil _)
  | cons a as ih =>
    rw [List.forall_mem_cons, ← ih]
    constructor
    · rintro ⟨bs, h⟩
      cases h with
      | cons hb hbs => exact ⟨⟨_, hb⟩, _, hbs⟩
    · rintro ⟨⟨b, hb⟩, bs, hbs⟩
      exact ⟨b :: bs, .cons hb hbs⟩

lemma Convertible.of_inside (h : Convertible v) (hw : Inside w v) : Convertible w where
  keys := fun es hes => h.keys es (hes.trans hw)
  numbers := fun x hx => h.numbers x (hx.trans hw)

lemma convertible_sequence_iff : Convertible (.sequence vs) ↔ ∀ v ∈ vs, Convertible v := by
  constructor
  · intro h v hv
    exact h.of_inside (.item hv (.here v))
  · intro h
    constructor
    · intro es hes
      cases hes with
      | item hv hes => exact (h _ hv).keys es hes
    · intro x hx
      cases hx with
      | item hv hx => exact (h _ hv).numbers x hx

lemma convertible_mapping_iff :
    Convertible (.mapping es) ↔ ∀ e ∈ es, ¬e.1.Nameless ∧ Convertible e.2 := by
  constructor
  · intro h e he
    exact ⟨h.keys es (.here _) e he, h.of_inside (.value he (.here _))⟩
  · intro h
    constructor
    · intro es' hes
      cases hes with
      | here => exact fun e he => (h e he).1
      | value he hes => exact (h _ he).2.keys es' hes
    · intro x hx
      cases hx with
      | value he hx => exact (h _ he).2.numbers x hx

lemma convertible_tagged_iff {t : String} : Convertible (.tagged t v) ↔ Convertible v := by
  constructor
  · intro h
    exact h.of_inside (.tagged (.here v))
  · intro h
    constructor
    · intro es hes
      cases hes with
      | tagged hes => exact h.keys es hes
    · intro x hx
      cases hx with
      | tagged hx => exact h.numbers x hx

lemma convertible_float_iff {x : Binary64} :
    Convertible (.number (.float x)) ↔ x.isFinite = true := by
  constructor
  · intro h
    obtain ⟨hnan, hinfinite⟩ := h.numbers x (.here _)
    cases x with
    | finite => rfl
    | infinite s => exact absurd rfl (hinfinite s)
    | nan => exact absurd rfl hnan
  · intro h
    constructor
    · intro es hes
      cases hes
    · intro y hy
      cases hy
      cases x with
      | finite => exact ⟨nofun, nofun⟩
      | infinite s => cases h
      | nan => cases h

/-- A scalar that is no double has nothing in it that could fail. -/
lemma convertible_of_inside_only (h : ∀ w, Inside w v → w = v) (hes : ∀ es, v ≠ .mapping es)
    (hx : ∀ x, v ≠ .number (.float x)) : Convertible v where
  keys := fun es hinside => absurd (h _ hinside).symm (hes es)
  numbers := fun x hinside => absurd (h _ hinside).symm (hx x)

lemma exists_toJson_iff (v : Value) : (∃ j, v.toJson = .ok j) ↔ Convertible v := by
  induction v using Value.induction with
  | null | bool _ | string _ =>
    refine iff_of_true ⟨_, rfl⟩ (convertible_of_inside_only ?_ nofun nofun)
    rintro w ⟨⟩
    rfl
  | number n =>
    cases n with
    | int n =>
      refine iff_of_true ⟨_, rfl⟩ (convertible_of_inside_only ?_ nofun nofun)
      rintro w ⟨⟩
      rfl
    | float x =>
      rw [convertible_float_iff, toJson]
      cases x.isFinite with
      | false => exact iff_of_false nofun nofun
      | true => exact iff_of_true ⟨_, rfl⟩ rfl
  | sequence vs ih =>
    calc (∃ j, (sequence vs).toJson = .ok j)
        ↔ ∃ ws, Forall₂ (fun v w => v.toJson = .ok w) vs ws := by
          simp only [toJson_sequence_eq_ok_iff]
          exact ⟨fun ⟨_, ws, h, _⟩ => ⟨ws, h⟩, fun ⟨ws, h⟩ => ⟨_, ws, h, rfl⟩⟩
      _ ↔ ∀ v ∈ vs, ∃ w, v.toJson = .ok w := exists_forall₂_iff
      _ ↔ ∀ v ∈ vs, Convertible v := forall₂_congr ih
      _ ↔ Convertible (.sequence vs) := convertible_sequence_iff.symm
  | mapping es ih =>
    have hentry (e : Value × Value) (he : e ∈ es) :
        (∃ p, Named e p) ↔ ¬e.1.Nameless ∧ Convertible e.2 := by
      rw [← exists_keyName?_iff, ← ih e he]
      exact ⟨fun ⟨p, hk, hv⟩ => ⟨⟨_, hk⟩, _, hv⟩, fun ⟨⟨name, hk⟩, w, hv⟩ => ⟨(name, w), hk, hv⟩⟩
    calc (∃ j, (mapping es).toJson = .ok j)
        ↔ ∃ pairs, Forall₂ Named es pairs := by
          simp only [toJson_mapping_eq_ok_iff]
          exact ⟨fun ⟨_, pairs, h, _⟩ => ⟨pairs, h⟩, fun ⟨pairs, h⟩ => ⟨_, pairs, h, rfl⟩⟩
      _ ↔ ∀ e ∈ es, ∃ p, Named e p := exists_forall₂_iff
      _ ↔ ∀ e ∈ es, ¬e.1.Nameless ∧ Convertible e.2 := forall₂_congr hentry
      _ ↔ Convertible (.mapping es) := convertible_mapping_iff.symm
  | tagged t v ih => rw [toJson_tagged, convertible_tagged_iff, ih]

/-! ## Tags -/

mutual

/-- A value without its tags, save those in keys. -/
def untagged : Value → Value
  | .sequence vs => .sequence (untaggedItems vs)
  | .mapping es => .mapping (untaggedEntries es)
  | .tagged _ v => untagged v
  | v => v

/-- Items without their tags. -/
def untaggedItems : List Value → List Value
  | [] => []
  | v :: vs => untagged v :: untaggedItems vs

/-- Entries whose values are without their tags. -/
def untaggedEntries : List (Value × Value) → List (Value × Value)
  | [] => []
  | (k, v) :: es => (k, untagged v) :: untaggedEntries es

end

lemma toJsonItems_untagged (h : ∀ v ∈ vs, v.untagged.toJson = v.toJson) :
    toJsonItems (untaggedItems vs) = toJsonItems vs := by
  induction vs with
  | nil => rfl
  | cons v vs ih =>
    rw [List.forall_mem_cons] at h
    rw [untaggedItems, toJsonItems, toJsonItems, h.1, ih h.2]

lemma toJsonEntries_untagged (h : ∀ e ∈ es, e.2.untagged.toJson = e.2.toJson) (ms : Members) :
    toJsonEntries ms (untaggedEntries es) = toJsonEntries ms es := by
  induction es generalizing ms with
  | nil => rfl
  | cons e es ih =>
    obtain ⟨k, v⟩ := e
    rw [List.forall_mem_cons] at h
    simp only [untaggedEntries, toJsonEntries, h.1, ih h.2]

/-- The tags of a value have no part in its JSON form, nor in the reason why it has none. -/
lemma toJson_untagged (v : Value) : v.untagged.toJson = v.toJson := by
  induction v using Value.induction with
  | null | bool _ | number _ | string _ => rfl
  | sequence vs ih => rw [untagged, toJson, toJson, toJsonItems_untagged ih]
  | mapping es ih => rw [untagged, toJson, toJson, toJsonEntries_untagged ih]
  | tagged t v ih => rw [untagged, toJson_tagged, ih]

/-! ## Order -/

/-- Two values differ at most in the order of the entries of mappings, anywhere in them apart from
keys, whose keys have different names. -/
inductive Reordered : Value → Value → Prop where
  | refl (v : Value) : Reordered v v
  | trans {u v w : Value} : Reordered u v → Reordered v w → Reordered u w
  | entries {es es' : List (Value × Value)} :
    es.Perm es' → (keyNames es).Nodup → Reordered (.mapping es) (.mapping es')
  | item {front rest : List Value} {v v' : Value} :
    Reordered v v' → Reordered (.sequence (front ++ v :: rest)) (.sequence (front ++ v' :: rest))
  | value {front rest : List (Value × Value)} {k v v' : Value} :
    Reordered v v' →
    Reordered (.mapping (front ++ (k, v) :: rest)) (.mapping (front ++ (k, v') :: rest))
  | tagged {v v' : Value} (t : String) : Reordered v v' → Reordered (.tagged t v) (.tagged t v')

lemma keyNames_of_named (h : Forall₂ Named es pairs) : keyNames es = pairs.map Prod.fst := by
  induction h with
  | nil => rfl
  | cons he _ ih =>
    rw [keyNames, List.filterMap_cons, he.1, List.map_cons]
    exact congrArg _ ih

/-- One item of a list may give way to another that has the same relatives. -/
lemma forall₂_replace {α β : Type} {R : α → β → Prop} {a a' : α} (h : ∀ b, R a b → R a' b)
    {front rest : List α} {bs : List β} (hbs : Forall₂ R (front ++ a :: rest) bs) :
    Forall₂ R (front ++ a' :: rest) bs := by
  induction front generalizing bs with
  | nil =>
    cases hbs with
    | cons hb hbs => exact .cons (h _ hb) hbs
  | cons c front ih =>
    cases hbs with
    | cons hb hbs => exact .cons hb (ih hbs)

/-- The order of entries whose keys have different names has no part in the JSON form. -/
lemma Reordered.toJson (h : Reordered v v') (hj : v.toJson = .ok j) : v'.toJson = .ok j := by
  induction h generalizing j with
  | refl => exact hj
  | trans _ _ ih ih' => exact ih' (ih hj)
  | entries hperm hnodup =>
    -- entries in another order come to the same pairs in that order
    obtain ⟨pairs, hpairs, rfl⟩ := toJson_mapping_eq_ok_iff.mp hj
    obtain ⟨pairs', hpairs', hperm'⟩ := List.perm_comp_forall₂ hperm.symm hpairs
    rw [keyNames_of_named hpairs] at hnodup
    refine toJson_mapping_eq_ok_iff.mpr ⟨pairs', hpairs', ?_⟩
    rw [Members.ofList_perm hperm'.symm hnodup]
  | item _ ih =>
    obtain ⟨ws, hws, rfl⟩ := toJson_sequence_eq_ok_iff.mp hj
    exact toJson_sequence_eq_ok_iff.mpr ⟨ws, forall₂_replace (fun _ => ih) hws, rfl⟩
  | value _ ih =>
    obtain ⟨pairs, hpairs, rfl⟩ := toJson_mapping_eq_ok_iff.mp hj
    refine toJson_mapping_eq_ok_iff.mpr ⟨pairs, forall₂_replace ?_ hpairs, rfl⟩
    exact fun p hp => ⟨hp.1, ih hp.2⟩
  | tagged t _ ih =>
    rw [toJson_tagged] at hj ⊢
    exact ih hj

/-! ## All of it -/

/-- A value has a JSON form exactly if every key has a name and every number that is no key is
finite. It is then what the value becomes: integers and finite doubles are kept as they are,
sequences keep their items in order, and an object has the names of the keys, each with what the last
value under it becomes. No tag has a part in it, nor has the order of entries whose keys have
different names; and a mapping that lies in the value has as many entries as the object that it
becomes exactly if the names of its keys are different. -/
theorem toJson_exact (y : Value) :
    ((∃ j, y.toJson = .ok j) ↔ Convertible y) ∧
    (∀ j, y.toJson = .ok j ↔ Becomes y j) ∧
    y.untagged.toJson = y.toJson ∧
    (∀ j y', y.toJson = .ok j → Reordered y y' → y'.toJson = .ok j) ∧
    ∀ j es, y.toJson = .ok j → Inside (.mapping es) y →
      ∃ ms : Members, (mapping es).toJson = .ok (.object ms) ∧
        (∀ name, name ∈ ms.names ↔ name ∈ keyNames es) ∧
        (ms.length = es.length ↔ (keyNames es).Nodup) := by
  refine ⟨exists_toJson_iff y, toJson_eq_ok_iff y, toJson_untagged y,
    fun j y' hj hy => hy.toJson hj, fun j es hj hes => ?_⟩
  -- what lies in a convertible value is convertible
  have hconvertible : Convertible y := (exists_toJson_iff y).mp ⟨j, hj⟩
  obtain ⟨j', hj'⟩ := (exists_toJson_iff _).mpr (hconvertible.of_inside hes)
  obtain ⟨pairs, hpairs, rfl⟩ := toJson_mapping_eq_ok_iff.mp hj'
  have hgathers := Members.gathers_ofList pairs
  refine ⟨_, hj', fun name => ?_, ?_⟩
  · rw [keyNames_of_named hpairs]
    exact hgathers.mem_names
  · rw [keyNames_of_named hpairs, hpairs.length_eq]
    exact hgathers.length_eq_iff

/-- Keys `1` and `"1"` have one name, under which the later one counts; the tag is gone. -/
example : toJson (.tagged "t" (.mapping [(.number (.int 1), .string "a"), (.bool true, .null),
      (.string "1", .tagged "u" (.string "b"))])) =
    .ok (.object [("1", .string "b"), ("true", .null)]) := rfl

end Value
end AgentManifest.Yaml
