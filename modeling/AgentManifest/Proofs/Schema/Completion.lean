import AgentManifest.Proofs.Schema.Coherence
import AgentManifest.Proofs.Schema.Filling
import AgentManifest.Schema.Compile

/-!
# What references lead to

What is put off while schemas are read is read later, one by one, until nothing is left. So what
holds of everything that is put off, and what is read from such, holds of all that references lead
to.
-/

namespace AgentManifest.Schema

open Json (Value Members)

/-!
## The registry of the drafts

The registry that all others grow from holds the schemas of the drafts, and none of them has double
names.
-/

namespace MetaSchema

/-! ## No double names -/

/-- No value among some members has double names. -/
def WellFormedPairs (pairs : List (String × Value)) : Prop := ∀ p ∈ pairs, p.2.WellFormed

lemma pairs_nil : WellFormedPairs [] := nofun

lemma pairs_cons {name : String} {v : Value} {pairs : List (String × Value)} (hv : v.WellFormed)
    (h : WellFormedPairs pairs) : WellFormedPairs ((name, v) :: pairs) :=
  List.forall_mem_cons.mpr ⟨hv, h⟩

lemma pairs_append {pairs pairs' : List (String × Value)} (h : WellFormedPairs pairs)
    (h' : WellFormedPairs pairs') : WellFormedPairs (pairs ++ pairs') :=
  List.forall_mem_append.mpr ⟨h, h'⟩

lemma pairs_each {names : List String} {s : Value} (h : s.WellFormed) :
    WellFormedPairs (each names s) :=
  List.forall_mem_map.mpr fun _ _ => h

lemma wellFormed_string (s : String) : (Value.string s).WellFormed := trivial

lemma wellFormed_bool (b : Bool) : (Value.bool b).WellFormed := trivial

lemma wellFormed_nat (n : Nat) : (Value.nat n).WellFormed := trivial

lemma wellFormed_obj {pairs : List (String × Value)} (h : WellFormedPairs pairs) :
    (obj pairs).WellFormed := by
  have hgathers := Members.gathers_ofList pairs
  have hmembers : ∀ m ∈ Members.ofList pairs, m.2.WellFormed := by
    intro m hm
    have hlast := hgathers.get?_eq m.1
    rw [Members.get?_of_mem hgathers.increasing hm, Members.lastUnder] at hlast
    obtain ⟨p, hp, hvalue⟩ := Option.map_eq_some_iff.mp hlast.symm
    exact hvalue ▸ h p (List.mem_filter.mp (List.mem_of_getLast? hp)).1
  refine ⟨hgathers.increasing, ?_⟩
  clear hgathers
  generalize Members.ofList pairs = ms at hmembers
  induction ms with
  | nil => trivial
  | cons m ms ih =>
    obtain ⟨hm, hms⟩ := List.forall_mem_cons.mp hmembers
    exact ⟨hm, ih hms⟩

lemma wellFormed_items_nil : (Value.array []).WellFormed := trivial

lemma wellFormed_items_cons {v : Value} {vs : List Value} (hv : v.WellFormed)
    (h : (Value.array vs).WellFormed) : (Value.array (v :: vs)).WellFormed := ⟨hv, h⟩

lemma wellFormed_anything : anything.WellFormed := ⟨List.Pairwise.nil, trivial⟩

/-- No schema of a draft has double names. -/
lemma wellFormed_documents (d : Draft) : WellFormedPairs (documents d) := by
  cases d
  all_goals
    repeat' first
      | exact pairs_nil
      | refine pairs_append ?_ ?_
      | refine pairs_each ?_
      | refine pairs_cons ?_ ?_
      | refine wellFormed_obj ?_
      | exact wellFormed_string _
      | exact wellFormed_bool _
      | exact wellFormed_nat _
      | exact wellFormed_items_nil
      | refine wellFormed_items_cons ?_ ?_
      | exact wellFormed_anything

end MetaSchema

lemma Registry.WellFormed.withDraft {reg : Registry} (h : reg.WellFormed) (d : Draft) :
    (reg.withDraft d).WellFormed := by
  have hdocuments := MetaSchema.wellFormed_documents d
  rw [Registry.withDraft]
  generalize MetaSchema.documents d = documents at hdocuments
  induction documents generalizing reg with
  | nil => exact h
  | cons document documents ih =>
    obtain ⟨hdocument, hdocuments⟩ := List.forall_mem_cons.mp hdocuments
    exact ih ((h.insert _ hdocument).insertNames _ hdocument) hdocuments

lemma Registry.wellFormed_standard : Registry.standard.WellFormed := by
  rw [Registry.standard]
  generalize MetaSchema.drafts = drafts
  have hempty : Registry.empty.WellFormed := ⟨nofun, nofun⟩
  generalize Registry.empty = reg at hempty
  induction drafts generalizing reg with
  | nil => exact hempty
  | cons d drafts ih => exact ih _ (hempty.withDraft d)

open Compiling (Ensures)

lemma Registry.WellFormed.reaches {reg : Registry} (h : reg.WellFormed) {l : Landing}
    (hl : reg.Reaches l) : l.contents.WellFormed := by
  obtain ⟨c, text, hl⟩ | ⟨c, hl⟩ := hl
  · exact h.follow hl
  · exact h.followRecursive hl

/-- However often references are followed in place, what they lead to is read as a coherent
schema. -/
lemma Reader.following_sound {D : Deferred → Prop} {reg : Registry} (h : reg.WellFormed)
    (hdeferred : ∀ l, reg.Reaches l → ∀ (c : Context) focus? scopes context,
      c.detached { l with scopes } = .ok context →
        D { focus?, target := context.target l, contents := l.contents, context }) (n : Nat) :
    (Reader.following reg n).Sound D := by
  have hreg (n : Nat) : (Reader.following reg n).registry = reg := by cases n <;> rfl
  have hreaches (n : Nat) (l : Landing) (hl : (Reader.following reg n).registry.Reaches l) :
      reg.Reaches l := hreg n ▸ hl
  induction n with
  | zero =>
    exact
      { form := fun v c _ => .pure Form.coherent_always
        coverage := fun focus v c _ => .pure trivial
        wellFormed := fun l hl => h.reaches (hreaches 0 l hl)
        deferred := fun l hl => hdeferred l (hreaches 0 l hl) }
  | succ n ih =>
    exact
      { form := fun v c hv => (Part.sound_of ih hv).form c
        coverage := fun focus v c hv => (Part.sound_of ih hv).coverage focus c
        wellFormed := fun l hl => h.reaches (hreaches (n + 1) l hl)
        deferred := fun l hl => hdeferred l (hreaches (n + 1) l hl) }

/-- All schemas that references lead to have a property, which may depend on where they lie. -/
def Table.All (T : Target → Form → Prop) (table : Table) : Prop := ∀ e ∈ table.forms, T e.1 e.2

/-- What is put off is read as a schema with a property, and what is put off in turn is like it. -/
structure Reader.Keeps (D : Deferred → Prop) (T : Target → Form → Prop) (r : Reader) : Prop where
  form : ∀ d, D d → Ensures D (r.form d.contents d.context) (T d.target)
  coverage : ∀ focus d, D d → Ensures D (r.coverage focus d.contents d.context) fun _ => True
  always : ∀ t, T t .always

namespace Table.All

variable {D : Deferred → Prop} {T : Target → Form → Prop} {r : Reader} {table : Table}

lemma empty : Table.All T {} := fun _ he => absurd he List.not_mem_nil

lemma add (hr : r.Keeps D T) (h : table.All T) {d : Deferred} (hd : D d) :
    (table.add r d).1.All T ∧ ∀ d' ∈ (table.add r d).2, D d' := by
  have hstart : ∀ d ∈ Progress.start.deferred, D d := List.forall_mem_nil _
  unfold Table.add
  split
  case h_1 =>
    dsimp only
    split
    case h_1 s p hrun =>
      obtain ⟨hs, hp⟩ := hr.form d hd hstart hrun
      exact ⟨List.forall_mem_cons.mpr ⟨hs, h⟩, hp⟩
    case h_2 => exact ⟨List.forall_mem_cons.mpr ⟨hr.always _, h⟩, nofun⟩
  case h_2 =>
    dsimp only
    split
    case h_1 s p hrun => exact ⟨h, (hr.coverage _ d hd hstart hrun).2⟩
    case h_2 => exact ⟨h, nofun⟩

lemma complete (hr : r.Keeps D T) (n : Nat) (h : table.All T) {ds : List Deferred}
    (hds : ∀ d ∈ ds, D d) : (table.complete r n ds).All T := by
  induction n generalizing table ds with
  | zero => exact h
  | succ n ih =>
    cases ds with
    | nil => exact h
    | cons d ds =>
      obtain ⟨hd, hds⟩ := List.forall_mem_cons.mp hds
      rw [Table.complete]
      split
      · exact ih h hds
      · obtain ⟨hadd, hlater⟩ := h.add hr hd
        exact ih hadd (List.forall_mem_append.mpr ⟨hlater, hds⟩)

lemma lookup (h : table.All T) {t : Target} {s : Form} (hs : table.forms.lookup t = some s) :
    T t s := h (t, s) (mem_of_lookup hs)

end Table.All

end AgentManifest.Schema
