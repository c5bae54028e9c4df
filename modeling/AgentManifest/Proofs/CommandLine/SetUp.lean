import AgentManifest.Proofs.CommandLine.ExitCode

/-!
# Set-up

A run cannot start if its schema cannot be read, is no JSON or cannot be compiled, if its
configuration cannot be read or decoded, or if its target is not there. It fails with the first of
these. None of the options that shape the report, and none of the files that would be checked, has a
part in that.
-/

namespace AgentManifest.CommandLine

open Files (Path Tree)

variable {files files' : Tree} {r r' : Request} {e : SetupError}

/-! ## What can be wrong -/

/-- What is wrong with the schema that a request names. -/
inductive SchemaFault (files : Tree) (r : Request) : SetupError → Prop
  | unreadable {path : Path} {reason : Files.IoError} (hr : r.schema? = some path)
      (h : files.readText path = .error reason) :
      SchemaFault files r (.schema path (.unreadable path reason))
  | notJson {path : Path} {text : List Char} {error : Json.Error} (hr : r.schema? = some path)
      (htext : files.readText path = .ok text) (h : Json.read (String.ofList text) = .error error) :
      SchemaFault files r (.schema path (.notJson path.text error))
  | noSchema {path : Path} {text : List Char} {root : Json.Value} {error : Schema.Error}
      (hr : r.schema? = some path) (htext : files.readText path = .ok text)
      (hroot : Json.read (String.ofList text) = .ok root)
      (h : Schema.compile root [] = .error error) :
      SchemaFault files r (.schema path error)

/-- What is wrong with the configuration that a request names. -/
inductive ConfigFault (files : Tree) (r : Request) : SetupError → Prop
  | unreadable {path : Path} {reason : Files.IoError} (hr : r.config? = some path)
      (h : files.readText path = .error reason) :
      ConfigFault files r (.config { path, failure := .unreadable reason })
  | invalid {path : Path} {text : List Char} {error : Yaml.Error} (hr : r.config? = some path)
      (htext : files.readText path = .ok text)
      (h : Lint.Config.ofText (String.ofList text) = .error error) :
      ConfigFault files r (.config { path, failure := .invalid error })

/-- What is wrong with the target of a request. -/
inductive TargetFault (files : Tree) (r : Request) : SetupError → Prop
  | missing {reason : Files.IoError} (h : files.resolve r.target = .error reason) :
      TargetFault files r (.noTarget r.target)

/-- What is wrong first: the configuration counts if nothing is wrong with the schema, and the
target if nothing is wrong with either. -/
inductive FirstFault (files : Tree) (r : Request) (e : SetupError) : Prop
  | schema (h : SchemaFault files r e)
  | config (hschema : ¬∃ e, SchemaFault files r e) (h : ConfigFault files r e)
  | target (hschema : ¬∃ e, SchemaFault files r e) (hconfig : ¬∃ e, ConfigFault files r e)
      (h : TargetFault files r e)

/-! ## What a run fails with -/

lemma schemaFault_iff :
    SchemaFault files r e ↔ ∃ path error, r.schema? = some path ∧
      Schema.compileFile files path = .error error ∧ e = .schema path error := by
  constructor
  · intro h
    cases h with
    | @unreadable path reason hr h =>
      exact ⟨path, _, hr, by simp only [Schema.compileFile, h], rfl⟩
    | @notJson path text error hr htext h =>
      exact ⟨path, _, hr, by simp only [Schema.compileFile, htext, Schema.compileText, h], rfl⟩
    | @noSchema path text root error hr htext hroot h =>
      refine ⟨path, error, hr, ?_, rfl⟩
      simp only [Schema.compileFile, htext, Schema.compileText, hroot, h]
  · rintro ⟨path, error, hr, h, rfl⟩
    rw [Schema.compileFile] at h
    split at h
    case h_1 reason hread =>
      cases h
      exact .unreadable hr hread
    case h_2 text htext =>
      rw [Schema.compileText] at h
      split at h
      case h_1 hjson =>
        cases h
        exact .notJson hr htext hjson
      case h_2 root hroot => exact .noSchema hr htext hroot h

lemma configFault_iff :
    ConfigFault files r e ↔ ∃ path error, r.config? = some path ∧
      Lint.Config.ofFile files path = .error error ∧ e = .config error := by
  constructor
  · intro h
    cases h with
    | @unreadable path reason hr h =>
      exact ⟨path, _, hr, by simp only [Lint.Config.ofFile, h], rfl⟩
    | @invalid path text error hr htext h =>
      exact ⟨path, _, hr, by simp only [Lint.Config.ofFile, htext, h], rfl⟩
  · rintro ⟨path, error, hr, h, rfl⟩
    rw [Lint.Config.ofFile] at h
    split at h
    case h_1 reason hread =>
      cases h
      exact .unreadable hr hread
    case h_2 text htext =>
      split at h
      case h_1 => cases h
      case h_2 hconfig =>
        cases h
        exact .invalid hr htext hconfig

lemma exists_hasSchema (h : ¬∃ e, SchemaFault files r e) : ∃ s, r.HasSchema files s := by
  unfold Request.HasSchema
  cases hr : r.schema? with
  | none => exact ⟨_, rfl⟩
  | some path =>
    cases hs : Schema.compileFile files path with
    | ok s => exact ⟨s, hs⟩
    | error error => exact absurd ⟨_, schemaFault_iff.mpr ⟨path, error, hr, hs, rfl⟩⟩ h

lemma hasConfig_of_not_configFault (h : ¬∃ e, ConfigFault files r e) : r.HasConfig files := by
  intro path hr
  cases hc : Lint.Config.ofFile files path with
  | ok config => exact ⟨config, rfl⟩
  | error error => exact absurd ⟨_, configFault_iff.mpr ⟨path, error, hr, hc, rfl⟩⟩ h

lemma validator_of_schemaFault (h : SchemaFault files r e) : validator files r = .error e := by
  obtain ⟨path, error, hr, hs, rfl⟩ := schemaFault_iff.mp h
  simp only [validator, hr, hs]

lemma validator_of_configFault (hschema : ¬∃ e, SchemaFault files r e)
    (h : ConfigFault files r e) : validator files r = .error e := by
  obtain ⟨s, hs⟩ := exists_hasSchema hschema
  obtain ⟨path, error, hc, hconfig, rfl⟩ := configFault_iff.mp h
  unfold Request.HasSchema at hs
  cases hr : r.schema? with
  | none => simp only [validator, hr, hc, hconfig]
  | some path' =>
    rw [hr] at hs
    simp only [validator, hr, hs, hc, hconfig]

/-- A run fails with what is wrong first. -/
lemma run_of_firstFault (color : Bool) (h : FirstFault files r e) :
    run color files r = .error e := by
  cases h with
  | schema h => simp only [run, validator_of_schemaFault h]
  | config hschema h => simp only [run, validator_of_configFault hschema h]
  | target hschema hconfig h =>
    obtain ⟨s, hs⟩ := exists_hasSchema hschema
    obtain ⟨v, hv, -⟩ := validator_of_schema hs (hasConfig_of_not_configFault hconfig)
    cases h with
    | missing h => simp only [run, hv, h]

/-- Something is wrong with the set-up, or it succeeds. -/
lemma firstFault_or_setUp (files : Tree) (r : Request) :
    (∃ e, FirstFault files r e) ∨ ∃ s, SetUp files r s := by
  by_cases hschema : ∃ e, SchemaFault files r e
  · obtain ⟨e, h⟩ := hschema
    exact .inl ⟨e, .schema h⟩
  · by_cases hconfig : ∃ e, ConfigFault files r e
    · obtain ⟨e, h⟩ := hconfig
      exact .inl ⟨e, .config hschema h⟩
    · cases htarget : files.resolve r.target with
      | error reason => exact .inl ⟨_, .target hschema hconfig (.missing htarget)⟩
      | ok entry =>
        obtain ⟨s, hs⟩ := exists_hasSchema hschema
        exact .inr ⟨s, hs, hasConfig_of_not_configFault hconfig, entry, htarget⟩

/-- A run fails exactly if something is wrong with its set-up, with what is wrong first. -/
lemma run_error_iff (color : Bool) : run color files r = .error e ↔ FirstFault files r e := by
  constructor
  · intro h
    obtain ⟨e', hfault⟩ | ⟨s, hsetUp⟩ := firstFault_or_setUp files r
    · have hrun := run_of_firstFault color hfault
      rw [h] at hrun
      cases hrun
      exact hfault
    · obtain ⟨result, hrun, -⟩ := run_tells color hsetUp
      rw [h] at hrun
      cases hrun
  · exact run_of_firstFault color

lemma exists_firstFault_iff : (∃ e, FirstFault files r e) ↔
    (∃ e, SchemaFault files r e) ∨ (∃ e, ConfigFault files r e) ∨ ∃ e, TargetFault files r e := by
  constructor
  · rintro ⟨e, h | ⟨-, h⟩ | ⟨-, -, h⟩⟩
    · exact .inl ⟨e, h⟩
    · exact .inr (.inl ⟨e, h⟩)
    · exact .inr (.inr ⟨e, h⟩)
  · intro h
    by_cases hschema : ∃ e, SchemaFault files r e
    · exact hschema.imp fun _ => .schema
    · by_cases hconfig : ∃ e, ConfigFault files r e
      · exact hconfig.imp fun _ => .config hschema
      · obtain ⟨e, he⟩ := (h.resolve_left hschema).resolve_left hconfig
        exact ⟨e, .target hschema hconfig he⟩

/-! ## What has no part in it -/

/-- Requests that ask for the same schema, configuration and target, of which the same is read in
both trees. -/
structure SameSetUp (files files' : Tree) (r r' : Request) : Prop where
  schema : r'.schema? = r.schema?
  config : r'.config? = r.config?
  target : r'.target = r.target
  schemaText : ∀ path, r.schema? = some path → files'.readText path = files.readText path
  configText : ∀ path, r.config? = some path → files'.readText path = files.readText path
  missing : (∃ reason, files'.resolve r.target = .error reason) ↔
    ∃ reason, files.resolve r.target = .error reason

namespace SameSetUp

lemma symm (h : SameSetUp files files' r r') : SameSetUp files' files r' r := by
  refine ⟨h.schema.symm, h.config.symm, h.target.symm, fun path hr => ?_, fun path hr => ?_, ?_⟩
  · exact (h.schemaText path (h.schema ▸ hr)).symm
  · exact (h.configText path (h.config ▸ hr)).symm
  · rw [h.target]
    exact h.missing.symm

lemma schemaFault (h : SameSetUp files files' r r') (hfault : SchemaFault files r e) :
    SchemaFault files' r' e := by
  have htext := h.schemaText
  cases hfault with
  | unreadable hr hread => exact .unreadable (h.schema.trans hr) ((htext _ hr).trans hread)
  | notJson hr hread hjson => exact .notJson (h.schema.trans hr) ((htext _ hr).trans hread) hjson
  | noSchema hr hread hroot hs =>
    exact .noSchema (h.schema.trans hr) ((htext _ hr).trans hread) hroot hs

lemma configFault (h : SameSetUp files files' r r') (hfault : ConfigFault files r e) :
    ConfigFault files' r' e := by
  have htext := h.configText
  cases hfault with
  | unreadable hr hread => exact .unreadable (h.config.trans hr) ((htext _ hr).trans hread)
  | invalid hr hread hc => exact .invalid (h.config.trans hr) ((htext _ hr).trans hread) hc

lemma targetFault (h : SameSetUp files files' r r') (hfault : TargetFault files r e) :
    TargetFault files' r' e := by
  cases hfault with
  | missing hreason =>
    obtain ⟨reason, hreason⟩ := h.missing.mpr ⟨_, hreason⟩
    rw [← h.target] at hreason ⊢
    exact .missing hreason

lemma firstFault (h : SameSetUp files files' r r') (hfault : FirstFault files r e) :
    FirstFault files' r' e := by
  have hschema (hnone : ¬∃ e, SchemaFault files r e) : ¬∃ e, SchemaFault files' r' e := by
    rintro ⟨e, he⟩
    exact hnone ⟨e, h.symm.schemaFault he⟩
  have hconfig (hnone : ¬∃ e, ConfigFault files r e) : ¬∃ e, ConfigFault files' r' e := by
    rintro ⟨e, he⟩
    exact hnone ⟨e, h.symm.configFault he⟩
  cases hfault with
  | schema hfault => exact .schema (h.schemaFault hfault)
  | config hnone hfault => exact .config (hschema hnone) (h.configFault hfault)
  | target hnone hnone' hfault =>
    exact .target (hschema hnone) (hconfig hnone') (h.targetFault hfault)

end SameSetUp

end AgentManifest.CommandLine
