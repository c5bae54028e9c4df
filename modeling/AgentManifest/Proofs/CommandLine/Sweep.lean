import AgentManifest.Proofs.CommandLine.ExitCode
import AgentManifest.Proofs.Files.Resolution
import AgentManifest.Proofs.Report.Document

/-!
# Sweeps

A run on a directory is the sum of the runs on the manifests that are found in it. What it writes
for people is what those runs write, one after the other, between a heading and a closing line; what
it writes for programs has their files one after the other and the sums of their counts; and its
code is the largest of theirs.
-/

namespace AgentManifest.CommandLine

open Files (Path Tree IoError)
open Report (Outcome Summary Sheet Line)

variable {color : Bool} {files : Tree} {r : Request} {s : Schema.Compiled} {v : Validator}
variable {p : Path} {ps : List Path}

/-! ## Runs on one file -/

/-- What a run comes to on a file that is there. The path of a file may be too long for the file to
be opened by it, so that no run on it starts; then what there is to say of the file is just that. -/
def runFile (color : Bool) (files : Tree) (r : Request) (p : Path) : Result :=
  match run color files { r with target := p } with
  | .ok result => result
  | .error _ =>
    reportFile color r (.unread p ("cannot read " ++ p.text ++ ": " ++ IoError.nameTooLong.message))

/-- A run on a file that can be opened reports its outcome. -/
lemma run_of_file {contents : Text.Bytes} (hv : validator files r = .ok v)
    (hp : files.resolve p = .ok (.file contents)) :
    run color files { r with target := p } = .ok (reportFile color r (check v files r p)) := by
  have hv' : validator files { r with target := p } = .ok v := hv
  simp only [run, hv', hp]
  rfl

/-- No run on a file starts if its path is too long. -/
lemma run_of_long (hv : validator files r = .ok v) (hp : files.resolve p = .error .nameTooLong) :
    run color files { r with target := p } = .error (.noTarget p) := by
  have hv' : validator files { r with target := p } = .ok v := hv
  simp only [run, hv', hp]

/-- Files that cannot be opened are reported as such by runs that come across them. -/
lemma check_of_long (hp : files.resolve p = .error .nameTooLong) :
    check v files r p =
      .unread p ("cannot read " ++ p.text ++ ": " ++ IoError.nameTooLong.message) := by
  simp only [check, Validator.validateFile, Manifest.load, Tree.read, hp]
  rfl

/-! ## Runs on a directory -/

/-- A run on a file that was found in a directory comes to the report of its outcome. -/
lemma runFile_eq {entries : Files.Entries} (hv : validator files r = .ok v)
    (hwf : files.WellFormed) (hd : files.directory? r.target = some entries)
    (hp : p ∈ files.manifests r.target r.recursive) :
    runFile color files r p = reportFile color r (check v files r p) := by
  obtain ⟨hshort, hlong⟩ := Tree.resolve_of_mem_manifests hwf hd hp
  unfold runFile
  -- too long a path fails in both: the run does not start, and the sweep cannot read the file
  by_cases hle : p.bytes.length ≤ Tree.maxPath
  · obtain ⟨contents, hresolve⟩ := hshort hle
    rw [run_of_file hv hresolve]
  · have hresolve := hlong (by omega)
    rw [run_of_long hv hresolve, check_of_long hresolve]

/-- Lines are written one after the other. -/
lemma render_append (color : Bool) (lines lines' : List Line) :
    Line.render color (lines ++ lines') = Line.render color lines ++ Line.render color lines' := by
  unfold Line.render
  rw [List.flatMap_append, String.ofList_append]

lemma render_flatMap (color : Bool) (outcomes : List Outcome) :
    Line.render color (outcomes.flatMap Outcome.lines) =
      String.join (outcomes.map fun o => Line.render color o.lines) := by
  induction outcomes with
  | nil => rfl
  | cons o outcomes ih =>
    rw [List.flatMap_cons, render_append, ih, List.map_cons, String.join_cons]

/-- A run on a directory reports the outcomes of the manifests that are found in it. -/
lemma run_of_directory {entries : Files.Entries} (color : Bool) (hv : validator files r = .ok v)
    (hd : files.directory? r.target = some entries) :
    run color files r = .ok (reportDirectory color r
      ((files.manifests r.target r.recursive).map (check v files r))) := by
  have hresolve := Files.Tree.directory?_eq_some_iff.mp hd
  simp only [run, hv, hresolve]

lemma reportDirectory_code {outcomes : List Outcome} (hne : outcomes ≠ []) :
    (reportDirectory color r outcomes).code = (Summary.ofOutcomes outcomes).exitCode := by
  have hempty : outcomes.isEmpty = false := by simpa using hne
  simp [reportDirectory, hempty]

/-- The report for people on at least one outcome has the reports on each between a heading and a
closing line. -/
lemma reportDirectory_human {outcomes : List Outcome} (hne : outcomes ≠ [])
    (hformat : r.format = .human) :
    (reportDirectory color r outcomes).output =
      Line.render color [Report.scanHeader r.target] ++
        String.join (outcomes.map fun o => (reportFile color r o).output) ++
        Line.render color (Summary.ofOutcomes outcomes).lines := by
  have hempty : outcomes.isEmpty = false := by simpa using hne
  have houtput (o : Outcome) : (reportFile color r o).output = Line.render color o.lines := by
    simp only [reportFile, hformat]
  simp only [reportDirectory, hformat, hempty, houtput, ← render_flatMap]
  rw [← render_append, ← render_append]
  rfl

/-- The report for programs on at least one outcome is made of the reports on each. -/
lemma reportDirectory_json {outcomes : List Outcome} (hne : outcomes ≠ [])
    (hformat : r.format = .json) :
    (reportDirectory color r outcomes).output =
      (Sheet.concat (outcomes.map fun o => Sheet.ofOutcomes [o])).text := by
  rw [← Sheet.ofOutcomes_eq_concat hne, ← Sheet.documentText_eq]
  simp only [reportDirectory, hformat]

/-- A run on a directory with manifests is made of the runs on each of them, whether it reports to
people or to programs, and its code is the largest of theirs. The runs on the manifests start, save
where the path of one is too long for the file to be opened. -/
theorem run_sweep {entries : Files.Entries} (color : Bool) (hwf : files.WellFormed)
    (h : SetUp files r s) (hd : files.directory? r.target = some entries)
    (hps : files.manifests r.target r.recursive = ps) (hne : ps ≠ []) :
    ∃ result, run color files r = .ok result ∧
      (ps.map fun p => (runFile color files r p).code).max? = some result.code ∧
      (r.format = .human → result.output =
        Line.render color [Report.scanHeader r.target] ++
          String.join (ps.map fun p => (runFile color files r p).output) ++
          Line.render color
            (Summary.ofCodes (ps.map fun p => (runFile color files r p).code)).lines) ∧
      (r.format = .json → ∃ sheet : Path → Sheet,
        (∀ p ∈ ps, (runFile color files r p).output = (sheet p).text) ∧
          result.output = (Sheet.concat (ps.map sheet)).text) ∧
      (∀ p ∈ ps, p.bytes.length ≤ Tree.maxPath →
        run color files { r with target := p } = .ok (runFile color files r p)) ∧
      ∀ p ∈ ps, Tree.maxPath < p.bytes.length →
        run color files { r with target := p } = .error (.noTarget p) := by
  obtain ⟨v, hv, rfl⟩ := validator_of_schema h.schema h.config
  have hfile (p : Path) (hp : p ∈ ps) :
      runFile color files r p = reportFile color r (check v files r p) := by
    rw [← hps] at hp
    exact runFile_eq hv hwf hd hp
  have hmap {α : Type} (f : Result → α) : (ps.map fun p => f (runFile color files r p)) =
      (ps.map (check v files r)).map fun o => f (reportFile color r o) := by
    rw [List.map_map]
    exact List.map_congr_left fun p hp => congrArg f (hfile p hp)
  have houtcomes : ps.map (check v files r) ≠ [] := by simpa using hne
  have hrun := run_of_directory color hv hd
  rw [hps] at hrun
  refine ⟨_, hrun, ?_, ?_, ?_, ?_, ?_⟩
  · rw [hmap Result.code, reportDirectory_code houtcomes]
    exact Summary.exitCode_max? houtcomes
  · intro hformat
    rw [hmap Result.output, hmap Result.code, reportDirectory_human houtcomes hformat,
      Summary.ofOutcomes_eq_ofCodes]
    rfl
  · intro hformat
    refine ⟨fun p => Sheet.ofOutcomes [check v files r p], ?_, ?_⟩
    · intro p hp
      rw [hfile p hp, ← Sheet.documentText_eq]
      simp only [reportFile, hformat]
    · rw [reportDirectory_json houtcomes hformat, List.map_map]
      rfl
  · intro p hp hle
    rw [← hps] at hp
    obtain ⟨contents, hresolve⟩ := (Tree.resolve_of_mem_manifests hwf hd hp).1 hle
    rw [runFile_eq hv hwf hd hp]
    exact run_of_file hv hresolve
  · intro p hp hlt
    rw [← hps] at hp
    exact run_of_long hv ((Tree.resolve_of_mem_manifests hwf hd hp).2 hlt)

/-- A working directory with a manifest that is no text, and a blank one. -/
def mixed : Tree :=
  { root := [([0x77], .directory [(Text.encode "a-llm.json".toList, .file [0xFF]),
      (Text.encode "llm.yml".toList, .file [])])]
    here := [[0x77]] }

theorem run_sweep_mixed :
    let r : Request := { target := Path.ofString "." }
    let first := Path.ofString "./a-llm.json"
    let second := Path.ofString "./llm.yml"
    mixed.WellFormed ∧ SetUp mixed r Schema.builtin ∧
      ∃ result, run false mixed r = .ok result ∧
        result.output = Line.render false [Report.scanHeader r.target] ++
          String.join
            [(runFile false mixed r first).output, (runFile false mixed r second).output] ++
          Line.render false (Summary.ofCodes
            [(runFile false mixed r first).code, (runFile false mixed r second).code]).lines := by
  intro r first second
  have hwf : mixed.WellFormed := by
    refine .directory (by decide) (by decide) ?_ .nil
    exact .file (by decide) (by decide) (.file (by decide) (by decide) .nil)
  have hsetUp : SetUp mixed r Schema.builtin := ⟨rfl, nofun, ⟨_, rfl⟩⟩
  have hd : mixed.directory? r.target = some [(Text.encode "a-llm.json".toList, .file [0xFF]),
      (Text.encode "llm.yml".toList, .file [])] := rfl
  have hps : mixed.manifests r.target r.recursive = [first, second] := by
    have hfirst :
        Files.isManifestName (Text.decodeLossy (Text.encode "a-llm.json".toList)) = true := by
      decide
    have hsecond :
        Files.isManifestName (Text.decodeLossy (Text.encode "llm.yml".toList)) = true := by
      decide
    simp only [Tree.manifests, hd, Files.manifestsIn, hfirst, hsecond, if_true]
    exact List.mergeSort_of_pairwise (by decide)
  obtain ⟨result, hrun, -, hhuman, -⟩ := run_sweep false hwf hsetUp hd hps (List.cons_ne_nil _ _)
  exact ⟨hwf, hsetUp, result, hrun, hhuman rfl⟩

/-- A working directory with a blank manifest. -/
def blank : Tree :=
  { root := [([0x77], .directory [(Text.encode "llm.yml".toList, .file [])])]
    here := [[0x77]] }

/-- The report on a directory with one file, which cannot be read, has more than a heading and a
closing line. -/
lemma reportDirectory_unread {message : String} (hformat : r.format = .human) (summary : Summary) :
    (reportDirectory false r [.unread p message]).output ≠
      Line.render false [Report.scanHeader r.target] ++ Line.render false summary.lines := by
  intro h
  rw [reportDirectory_human (List.cons_ne_nil _ _) hformat, String.append_assoc,
    String.append_right_inj] at h
  -- the second line is about the file, where that of a summary would say so
  have hsecond := congrArg (fun s : String => s.toList[1]?) h
  simp [reportFile, hformat, Line.render, Report.Outcome.lines, Line.write,
    Report.Fragment.write, Report.Summary.lines, String.join] at hsecond

/-- A manifest may be found whose path is too long for a run on it to start. Such a run writes
nothing, but the run on the directory writes more than a heading and a closing line. -/
theorem run_sweep_dots :
    let r : Request := { target := Path.dots 2047 }
    let p := r.target.join (Text.encode "llm.yml".toList)
    blank.WellFormed ∧ SetUp blank r Schema.builtin ∧
      blank.manifests r.target r.recursive = [p] ∧
      run false blank { r with target := p } = .error (.noTarget p) ∧
      ∃ result, run false blank r = .ok result ∧ ∀ summary : Summary,
        result.output ≠
          Line.render false [Report.scanHeader r.target] ++ Line.render false summary.lines := by
  intro r p
  have hwf : blank.WellFormed :=
    .directory (by decide) (by decide) (.file (by decide) (by decide) .nil) .nil
  have hresolve : blank.resolve r.target =
      .ok (.directory [(Text.encode "llm.yml".toList, .file [])]) :=
    Tree.resolve_dots (by decide) (by decide) rfl
  have hd := Tree.directory?_eq_some_iff.mpr hresolve
  have hsetUp : SetUp blank r Schema.builtin := ⟨rfl, nofun, ⟨_, hresolve⟩⟩
  have hps : blank.manifests r.target r.recursive = [p] := by
    have hname :
        Files.isManifestName (Text.decodeLossy (Text.encode "llm.yml".toList)) = true := by
      decide
    simp only [Tree.manifests, hd, Files.manifestsIn, hname, if_true, List.mergeSort_singleton]
    rfl
  have hlong : blank.resolve p = .error .nameTooLong := by
    refine Tree.resolve_join_of_long hresolve (by decide) ?_
    rw [Path.length_dots]
    decide
  obtain ⟨v, hv, -⟩ := validator_of_schema hsetUp.schema hsetUp.config
  have hrun := run_of_directory false hv hd
  rw [hps, List.map_singleton, check_of_long hlong] at hrun
  exact ⟨hwf, hsetUp, hps, run_of_long hv hlong, _, hrun, reportDirectory_unread rfl⟩

end AgentManifest.CommandLine
