import Mathlib.Tactic.Lemma
import AgentManifest.Manifest.Load
import AgentManifest.Proofs.Text.Utf8

/-!
# Files that give documents

A file gives a document if it can be read, its bytes are the encoding of a text, and the text parses
in the syntax that the name of the file announces. Loading a file succeeds in just this case.
-/

namespace AgentManifest.Manifest

open Files (Path Tree)

/-- A file gives a document. -/
def Gives (files : Tree) (p : Path) (d : Json.Value) : Prop :=
  ∃ text : List Char, files.read p = .ok (Text.encode text) ∧
    parse (Format.ofPath p) (String.ofList text) = .ok d

variable {files : Tree} {p : Path} {d d' : Json.Value}

/-- Loading a file succeeds with the document that it gives. -/
theorem load_ok_iff :
    (∃ loaded, load files p = .ok loaded ∧ loaded.tree = d) ↔ Gives files p d := by
  constructor
  · rintro ⟨loaded, h, rfl⟩
    unfold load at h
    split at h
    case h_1 => cases h
    case h_2 contents hread =>
      split at h
      case h_1 => cases h
      case h_2 text hdecode =>
        split at h
        case h_1 => cases h
        case h_2 tree hparse =>
          obtain rfl := Except.ok.inj h
          obtain rfl := Text.decode?_eq_some_iff.mp hdecode
          exact ⟨text, hread, hparse⟩
  · rintro ⟨text, hread, hparse⟩
    have hdecode := Text.decode?_eq_some_iff.mpr (rfl : Text.encode text = _)
    refine ⟨{ path := p, tree := d, size := (Text.encode text).length }, ?_, rfl⟩
    simp only [load, hread, hdecode, hparse]

/-- A file gives no more than one document. -/
lemma Gives.unique (h : Gives files p d) (h' : Gives files p d') : d = d' := by
  obtain ⟨loaded, hl, rfl⟩ := load_ok_iff.mpr h
  obtain ⟨loaded', hl', rfl⟩ := load_ok_iff.mpr h'
  rw [Except.ok.inj (hl.symm.trans hl')]

/-- Loading a file fails exactly if it gives no document. -/
lemma load_error_iff : (∃ e, load files p = .error e) ↔ ¬∃ d, Gives files p d := by
  constructor
  · rintro ⟨e, he⟩ ⟨d, h⟩
    obtain ⟨loaded, hl, -⟩ := load_ok_iff.mpr h
    rw [he] at hl
    cases hl
  · intro h
    cases hl : load files p with
    | error e => exact ⟨e, rfl⟩
    | ok loaded => exact absurd ⟨_, load_ok_iff.mp ⟨loaded, hl, rfl⟩⟩ h

end AgentManifest.Manifest
