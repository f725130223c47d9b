import LinearPrograms.CommandLine.Run
import LinearPrograms.Proofs.Problem.Refusal
import LinearPrograms.Proofs.Solve.Collecting

/-!
# How a run of the command line ends

A run on arguments that are accepted ends in one of three ways, which the environment, the file system
and the engine decide. It reports, if there is a problem at the path and the engine solves it. It ends
by a fault that nothing takes care of, if the path cannot be followed or leads to a folder, if the
file is `Problem.Unread`, or if the engine fails in a way that is not a solver's. In all other cases
it refuses: nothing but a message is written, and the exit code is one (`CommandLine.run_ending`).

The report never fails, since the objective of a solve that returns is a scalar
(`Request.objective_of_solve`).
-/

namespace LinearPrograms

/-! ## What stands at a path -/

namespace FileSystem

variable {α : Type} {s : FileSystem α} {p : Path}

/-- What stands where a path leads, if it leads anywhere. -/
def standing? (s : FileSystem α) (p : Path) : Option (Node α) :=
  match s.locate p with
  | .ok place => s.node? place
  | .error _ => none

theorem locate_of_standing {node : Node α} (h : s.standing? p = some node) :
    ∃ place, s.locate p = .ok place ∧ s.node? place = some node := by
  unfold standing? at h
  cases hplace : s.locate p with
  | error flaw =>
    rw [hplace] at h
    cases h
  | ok place =>
    rw [hplace] at h
    exact ⟨place, rfl, h⟩

theorem read_of_file {contents : α} (h : s.standing? p = some (.file contents)) :
    s.isThere p = .ok true ∧ s.read p = .ok contents := by
  obtain ⟨place, hplace, hnode⟩ := locate_of_standing h
  simp [isThere, read, hplace, hnode]

theorem read_of_folder (h : s.standing? p = some .folder) :
    s.isThere p = .ok true ∧ s.read p = .error (.file (.isDirectory p.toText)) := by
  obtain ⟨place, hplace, hnode⟩ := locate_of_standing h
  simp [isThere, read, hplace, hnode]

theorem isThere_of_none (h : s.standing? p = none) (hlong : s.locate p ≠ .error .nameTooLong) :
    s.isThere p = .ok false := by
  unfold standing? at h
  cases hplace : s.locate p with
  | error flaw =>
    cases flaw with
    | nameTooLong => exact absurd hplace hlong
    | missing | notFolder | nullByte | unencodable => simp [isThere, hplace]
  | ok place =>
    rw [hplace] at h
    simp only at h
    simp [isThere, hplace, h]

variable {s : FileSystem (List Nat)} {octets : List Nat}

theorem look_of_file (h : s.standing? p = some (.file octets)) : s.look p = .ok (some octets) := by
  obtain ⟨hthere, hread⟩ := read_of_file h
  rw [look, hthere]
  simp only [bind, Except.bind, if_true, hread]
  rfl

theorem look_of_folder (h : s.standing? p = some .folder) :
    s.look p = .error (.file (.isDirectory p.toText)) := by
  obtain ⟨hthere, hread⟩ := read_of_folder h
  rw [look, hthere]
  simp only [bind, Except.bind, if_true, hread]

theorem look_of_none (h : s.standing? p = none) (hlong : s.locate p ≠ .error .nameTooLong) :
    s.look p = .ok none := by
  rw [look, isThere_of_none h hlong]
  rfl

theorem look_of_tooLong (h : s.locate p = .error .nameTooLong) :
    s.look p = .error (.file (.nameTooLong p.toText)) := by
  rw [look, isThere, h]
  rfl

end FileSystem

/-! ## A run in its steps -/

/-- Is the fault one that a solver reports as its own? -/
def Fault.IsOfSolver : Fault → Prop
  | .unsolved _ _ | .input _ | .unknownEngine _ => True
  | _ => False

namespace CommandLine

theorem failureMessage?_eq_none {fault : Fault} :
    failureMessage? fault = none ↔ ¬fault.IsOfSolver := by
  cases fault <;> simp [failureMessage?, Fault.IsOfSolver]

theorem rendered_of_objective (a : Arguments) (st : Settings) (p : Problem) {o : Outcome}
    (h : ∃ z, o.objective = .float z) : ∃ text, rendered a st p o = .ok text := by
  obtain ⟨z, hz⟩ := h
  unfold rendered
  split
  · exact ⟨_, rfl⟩
  · rw [Report.lines, hz]
    exact ⟨_, rfl⟩

section
variable {σ : Type}

/-- The settings and the problem that a run comes to have, from the environment and a file. -/
inductive Prepares (environment : List (Text × Text)) (s : FileSystem (List Nat)) (a : Arguments) :
    Settings → Problem → Prop
  | intro {given : Settings} {octets : List Nat} {p : Problem} :
      Settings.ofEnvironment environment = .ok given →
      s.standing? (Path.ofText a.problem) = some (.file octets) →
      Problem.ofFile (Path.ofText a.problem).toText.toString octets = .ok p →
      Prepares environment s a (combined a given) (withScaling p (combined a given))

/-- The faults that nothing on the way of a run takes care of. -/
inductive Escapes (table : List (String × Engine σ)) (environment : List (Text × Text))
    (s : FileSystem (List Nat)) (a : Arguments) : Fault → Prop
  | tooLong {given : Settings} : Settings.ofEnvironment environment = .ok given →
      s.locate (Path.ofText a.problem) = .error .nameTooLong →
      Escapes table environment s a (.file (.nameTooLong (Path.ofText a.problem).toText))
  | folder {given : Settings} : Settings.ofEnvironment environment = .ok given →
      s.standing? (Path.ofText a.problem) = some .folder →
      Escapes table environment s a (.file (.isDirectory (Path.ofText a.problem).toText))
  | unread {given : Settings} {octets : List Nat} {fault : Fault} :
      Settings.ofEnvironment environment = .ok given →
      s.standing? (Path.ofText a.problem) = some (.file octets) →
      Problem.Unread octets fault → Escapes table environment s a fault
  | unsolved {st : Settings} {p : Problem} {fault : Fault} : Prepares environment s a st p →
      (p.toRequest.solve (.named table st.engine)).result = .error fault → ¬fault.IsOfSolver →
      Escapes table environment s a fault

/-- A run that writes nothing but a message, after entries of the log, and ends with code one. -/
structure Run.Refuses (run : Run σ) : Prop where
  ending : run.ending = .exit 1
  output : run.output = ""
  notices : ∃ before message, run.notices = before ++ [.text (message ++ "\n")] ∧ message ≠ "" ∧
    ∀ notice ∈ before, ∃ entry, notice = .entry entry

/-- A run that writes the report of an outcome, besides entries of the log, and ends with code zero.
-/
structure Run.Reports (run : Run σ) (a : Arguments) (st : Settings) (p : Problem) (o : Outcome) :
    Prop where
  ending : run.ending = .exit 0
  output : rendered a st p o = .ok run.output
  notices : ∀ notice ∈ run.notices, ∃ entry, notice = .entry entry

variable {table : List (String × Engine σ)} {environment : List (Text × Text)}
  {s : FileSystem (List Nat)} {a : Arguments} {texts : List Text} {given st : Settings}
  {path : Path} {octets : List Nat} {p : Problem} {fault : Fault} {o : Outcome}

theorem entry_of_mem_shownEntries {verbose : Bool} {log : List LogEntry} {notice : Notice}
    (h : notice ∈ shownEntries verbose log) : ∃ entry, notice = .entry entry := by
  obtain ⟨entry, -, rfl⟩ := List.mem_map.1 h
  exact ⟨entry, rfl⟩

theorem append_ne_empty {s : String} (h : s ≠ "") (t : String) : s ++ t ≠ "" := by
  simp [h]

/-- What a run tells of a fault is not empty. -/
theorem failureMessage?_ne_empty {message : String} (h : failureMessage? fault = some message) :
    message ≠ "" := by
  cases fault with
  | unsolved status statusText =>
    cases h
    refine append_ne_empty (append_ne_empty (append_ne_empty (append_ne_empty ?_ _) _) _) _
    decide
  | input cause =>
    cases h
    exact append_ne_empty (by decide) _
  | unknownEngine name =>
    cases h
    exact append_ne_empty (by decide) _
  | _ => cases h

theorem refuses_refusal {message : String} (h : message ≠ "") (verbose : Bool)
    (log : List LogEntry) (final : Option σ) :
    (refusal (shownEntries verbose log) message final).Refuses :=
  ⟨rfl, rfl, _, message, rfl, h, fun _ => entry_of_mem_shownEntries⟩

/-- A refusal before anything is logged. -/
theorem refuses_refusal_nil (introduction : String) (h : introduction ≠ "") (cause : String) :
    (refusal [] (introduction ++ cause) (none : Option σ)).Refuses :=
  refuses_refusal (append_ne_empty h cause) false [] none

/-- Entries of the log before a message change nothing about it. -/
theorem Run.Refuses.after {run : Run σ} (h : run.Refuses) (verbose : Bool) (log : List LogEntry) :
    Run.Refuses { run with notices := shownEntries verbose log ++ run.notices } := by
  obtain ⟨before, message, hnotices, hmessage, hbefore⟩ := h.notices
  refine ⟨h.ending, h.output, shownEntries verbose log ++ before, message, ?_, hmessage,
    fun notice hnotice => ?_⟩
  · show shownEntries verbose log ++ run.notices = _
    rw [hnotices, List.append_assoc]
  · rcases List.mem_append.1 hnotice with hnotice | hnotice
    · exact entry_of_mem_shownEntries hnotice
    · exact hbefore notice hnotice

/-- A problem that is solved is reported. -/
theorem reports_solveAndReport (h : (p.toRequest.solve (.named table st.engine)).result = .ok o) :
    (solveAndReport table a st path p).Reports a st p o := by
  obtain ⟨text, htext⟩ := rendered_of_objective a st p (Request.objective_of_solve h)
  simp only [solveAndReport, h, htext]
  exact ⟨rfl, htext, fun notice hnotice => entry_of_mem_shownEntries hnotice⟩

theorem solveAndReport_of_told
    (h : (p.toRequest.solve (.named table st.engine)).result = .error fault)
    (htold : fault.IsOfSolver) : (solveAndReport table a st path p).Refuses := by
  cases hmessage : failureMessage? fault with
  | none => exact absurd htold (failureMessage?_eq_none.1 hmessage)
  | some message =>
    simp only [solveAndReport, h, hmessage]
    exact refuses_refusal (failureMessage?_ne_empty hmessage) _ _ _

theorem solveAndReport_of_untold
    (h : (p.toRequest.solve (.named table st.engine)).result = .error fault)
    (huntold : ¬fault.IsOfSolver) :
    (solveAndReport table a st path p).ending = .escaped fault := by
  simp only [solveAndReport, h, failureMessage?_eq_none.2 huntold]

/-- What is written before a run adds entries of the log only. -/
theorem readAndSolve_of_ok (h : Problem.ofFile path.toText.toString octets = .ok p) :
    ∃ log, readAndSolve table a st path octets =
      { solveAndReport table a st path (withScaling p st) with
        notices := shownEntries st.verbose.isTrue log ++
          (solveAndReport table a st path (withScaling p st)).notices } := by
  simp only [readAndSolve, h]
  exact ⟨_, rfl⟩

theorem refuses_readAndSolve {cause : FormatFault}
    (h : Problem.ofFile path.toText.toString octets = .error (.format cause)) :
    (readAndSolve table a st path octets).Refuses := by
  simp only [readAndSolve, h]
  exact refuses_refusal_nil "Error parsing file: " (by decide) _

theorem readAndSolve_of_unread (h : Problem.Unread octets fault) :
    (readAndSolve table a st path octets).ending = .escaped fault := by
  have hfile : Problem.ofFile path.toText.toString octets = .error fault := h.ofFile
  cases fault with
  | format cause => exact absurd rfl (h.ne_format cause)
  | _ => simp only [readAndSolve, hfile]

section
variable (hparse : Arguments.parse texts = .ok a)
  (hgiven : Settings.ofEnvironment environment = .ok given)
include hparse

theorem refuses_run_of_environment (h : Settings.ofEnvironment environment = .error fault)
    (look : Look) : (run table environment look texts).Refuses := by
  simp only [run, hparse, runWith, h]
  exact refuses_refusal_nil "Error: " (by decide) _

include hgiven

theorem run_of_file (h : s.standing? (Path.ofText a.problem) = some (.file octets)) :
    run table environment s.look texts =
      readAndSolve table a (combined a given) (Path.ofText a.problem) octets := by
  simp only [run, hparse, runWith, hgiven, FileSystem.look_of_file h]

theorem refuses_run_of_none (h : s.standing? (Path.ofText a.problem) = none)
    (hlong : s.locate (Path.ofText a.problem) ≠ .error .nameTooLong) :
    (run table environment s.look texts).Refuses := by
  simp only [run, hparse, runWith, hgiven, FileSystem.look_of_none h hlong]
  exact refuses_refusal_nil "Error: Problem file not found: " (by decide) _

theorem run_of_look (h : s.look (Path.ofText a.problem) = .error fault) :
    (run table environment s.look texts).ending = .escaped fault := by
  simp only [run, hparse, runWith, hgiven, h]

end

/-! ## The three endings -/

section
variable (hparse : Arguments.parse texts = .ok a)
include hparse

theorem reports_run (h : Prepares environment s a st p)
    (ho : (p.toRequest.solve (.named table st.engine)).result = .ok o) :
    (run table environment s.look texts).Reports a st p o := by
  obtain ⟨hgiven, hfile, hp⟩ := h
  obtain ⟨log, hread⟩ := readAndSolve_of_ok hp
  have hreports : (solveAndReport table a _ (Path.ofText a.problem) _).Reports a _ _ o :=
    reports_solveAndReport ho
  rw [run_of_file hparse hgiven hfile, hread]
  refine ⟨hreports.ending, hreports.output, fun notice hnotice => ?_⟩
  rcases List.mem_append.1 hnotice with hnotice | hnotice
  · exact entry_of_mem_shownEntries hnotice
  · exact hreports.notices notice hnotice

theorem run_of_escapes (h : Escapes table environment s a fault) :
    (run table environment s.look texts).ending = .escaped fault := by
  cases h with
  | tooLong hgiven hlong => exact run_of_look hparse hgiven (FileSystem.look_of_tooLong hlong)
  | folder hgiven hfolder => exact run_of_look hparse hgiven (FileSystem.look_of_folder hfolder)
  | unread hgiven hfile hunread =>
    rw [run_of_file hparse hgiven hfile]
    exact readAndSolve_of_unread hunread
  | unsolved hprepares hfault huntold =>
    obtain ⟨hgiven, hfile, hp⟩ := hprepares
    obtain ⟨log, hread⟩ := readAndSolve_of_ok hp
    rw [run_of_file hparse hgiven hfile, hread]
    exact solveAndReport_of_untold hfault huntold

/-- A run reports, or a fault escapes, or it refuses: there is nothing else. -/
theorem run_cases (table : List (String × Engine σ)) (environment : List (Text × Text))
    (s : FileSystem (List Nat)) :
    (∃ st p o, Prepares environment s a st p ∧
      (p.toRequest.solve (.named table st.engine)).result = .ok o) ∨
    (∃ fault, Escapes table environment s a fault) ∨
    (run table environment s.look texts).Refuses := by
  cases hgiven : Settings.ofEnvironment environment with
  | error fault => exact .inr (.inr (refuses_run_of_environment hparse hgiven _))
  | ok given =>
    cases hstanding : s.standing? (Path.ofText a.problem) with
    | none =>
      by_cases hlong : s.locate (Path.ofText a.problem) = .error .nameTooLong
      · exact .inr (.inl ⟨_, .tooLong hgiven hlong⟩)
      · exact .inr (.inr (refuses_run_of_none hparse hgiven hstanding hlong))
    | some node =>
      cases node with
      | folder => exact .inr (.inl ⟨_, .folder hgiven hstanding⟩)
      | file octets =>
        cases hp : Problem.ofFile (Path.ofText a.problem).toText.toString octets with
        | error fault =>
          rcases Problem.ofFile_eq_error hp with ⟨cause, rfl⟩ | hunread
          · rw [run_of_file hparse hgiven hstanding]
            exact .inr (.inr (refuses_readAndSolve hp))
          · exact .inr (.inl ⟨fault, .unread hgiven hstanding hunread⟩)
        | ok p =>
          have hprepares : Prepares environment s a _ _ := .intro hgiven hstanding hp
          cases ho : ((withScaling p (combined a given)).toRequest.solve
              (.named table (combined a given).engine)).result with
          | ok o => exact .inl ⟨_, _, o, hprepares, ho⟩
          | error fault =>
            by_cases htold : fault.IsOfSolver
            · obtain ⟨log, hread⟩ := readAndSolve_of_ok hp
              rw [run_of_file hparse hgiven hstanding, hread]
              exact .inr (.inr ((solveAndReport_of_told ho htold).after _ _))
            · exact .inr (.inl ⟨fault, .unsolved hprepares ho htold⟩)

end

/-- How a run on accepted arguments ends. It ends with code zero exactly if the problem was read and
solved, and then it reports the outcome. A fault escapes exactly if the path cannot be followed or
leads to a folder, if the file cannot be read, or if the engine fails with a fault that is not a
solver's. In all other cases the run ends with code one, a message that is not empty, and no
output. -/
theorem run_ending (hparse : Arguments.parse texts = .ok a) (table : List (String × Engine σ))
    (environment : List (Text × Text)) (s : FileSystem (List Nat)) :
    ((run table environment s.look texts).ending = .exit 0 ↔ ∃ st p o,
      Prepares environment s a st p ∧
        (p.toRequest.solve (.named table st.engine)).result = .ok o) ∧
    (∀ st p o, Prepares environment s a st p →
      (p.toRequest.solve (.named table st.engine)).result = .ok o →
        (run table environment s.look texts).Reports a st p o) ∧
    (∀ fault, (run table environment s.look texts).ending = .escaped fault ↔
      Escapes table environment s a fault) ∧
    ((run table environment s.look texts).ending ≠ .exit 0 →
      (∀ fault, (run table environment s.look texts).ending ≠ .escaped fault) →
        (run table environment s.look texts).Refuses) := by
  refine ⟨⟨fun h => ?_, ?_⟩, fun st p o => reports_run hparse, fun fault => ⟨fun h => ?_, ?_⟩,
    fun hzero hescaped => ?_⟩
  · rcases run_cases hparse table environment s with hsolved | ⟨fault, hfault⟩ | hrefuses
    · exact hsolved
    · rw [run_of_escapes hparse hfault] at h
      cases h
    · rw [hrefuses.ending] at h
      cases h
  · rintro ⟨st, p, o, hp, ho⟩
    exact (reports_run hparse hp ho).ending
  · rcases run_cases hparse table environment s with ⟨st, p, o, hp, ho⟩ | ⟨e, he⟩ | hrefuses
    · rw [(reports_run hparse hp ho).ending] at h
      cases h
    · rw [run_of_escapes hparse he] at h
      cases h
      exact he
    · rw [hrefuses.ending] at h
      cases h
  · exact run_of_escapes hparse
  · rcases run_cases hparse table environment s with ⟨st, p, o, hp, ho⟩ | ⟨e, he⟩ | hrefuses
    · exact absurd (reports_run hparse hp ho).ending hzero
    · exact absurd (run_of_escapes hparse he) (hescaped e)
    · exact hrefuses

end

/-- A folder with a file that holds some octets, and with another folder. -/
def folderWith (octets : List Nat) : FileSystem (List Nat) :=
  ⟨[([Text.ofString "p.json"], .file octets), ([Text.ofString "d"], .folder)], []⟩

/-- No engine is listed. -/
def noEngines : List (String × Engine Unit) := []

/-- A list that is not closed is no document. -/
theorem run_ending_malformed :
    Arguments.parse [Text.ofString "p.json"] = .ok { problem := Text.ofString "p.json" } ∧
      (run noEngines [] (folderWith [0x5b]).look [Text.ofString "p.json"]).Refuses := by
  have hparse : Arguments.parse [Text.ofString "p.json"] =
      .ok { problem := Text.ofString "p.json" } := rfl
  have hone : (run noEngines [] (folderWith [0x5b]).look [Text.ofString "p.json"]).ending =
      .exit 1 := rfl
  obtain ⟨-, -, -, hrefuses⟩ := run_ending hparse noEngines [] (folderWith [0x5b])
  refine ⟨hparse, hrefuses ?_ fun fault => ?_⟩
  · rw [hone]
    exact fun h => by cases h
  · rw [hone]
    exact fun h => by cases h

/-- An octet that begins no character escapes as a fault, and so does a folder. -/
theorem run_unreadable :
    (run noEngines [] (folderWith [0xff]).look [Text.ofString "p.json"]).ending =
        .escaped (.file (.undecodable (some 0xff) 0 0 "invalid start byte")) ∧
      (run noEngines [] (folderWith []).look [Text.ofString "d"]).ending =
        .escaped (.file (.isDirectory (Text.ofString "d"))) := ⟨rfl, rfl⟩

end CommandLine

end LinearPrograms
