import LinearPrograms.Proofs.Knowledge.Storages
import Mathlib.Data.Set.Function

/-!
# A storage in memory and one in a folder

The two storages are interchangeable on a set of names (`Interchangeable`) if every sequence of
calls has the same answers on both, and neither mixes up two of the names. They are exactly if every
name leads to a place of its own where a file can be written and nothing stands yet (`Separated`).

While the names are separated, the files hold what the table holds: `Mirrors` is kept by every call
(`Mirrors.run`), which gives the same answers along any sequence of calls (`Mirrors.answers_eq`). In
the other direction, a load, a save, and a save followed by a load each show one part of
`Separated`.

Names that can stand as the name of a file in an empty folder are separated
(`separated_of_isFileName`). Names with separators need not be: `./a` and `a` lead to the same file,
and `b/c` to a folder that is not there (`not_interchangeable_separators`).
-/

namespace LinearPrograms.Storage

variable {σ β : Type}

/-! ## Sequences of calls -/

/-- A call on a storage. -/
inductive Call where
  | save (name : Text) (state : Document)
  | load (name : Text)
  | drop (name : Text)

namespace Call

def name : Call → Text
  | save name _ => name
  | load name => name
  | drop name => name

/-- The call as an action, which answers the state that a load finds, if it finds one. -/
def run (storage : Storage σ) : Call → Action σ (Option Document)
  | save name state => do
    storage.save name state
    return none
  | load name => storage.load name
  | drop name => do
    storage.drop name
    return none

variable (storage : Storage σ) {q : Text} {d : Document} {s t : σ} {log : List LogEntry}

theorem run_save_of_ok (h : storage.save q d s = ⟨.ok (), t, log⟩) :
    (save q d).run storage s = ⟨.ok none, t, log⟩ := by
  rw [run, Action.bind_eq_of_ok h]
  simp [pure, Action.give]

theorem run_save_of_error {fault : Fault} (h : storage.save q d s = ⟨.error fault, t, log⟩) :
    (save q d).run storage s = ⟨.error fault, t, log⟩ := Action.bind_eq_of_error h

theorem run_drop_of_ok (h : storage.drop q s = ⟨.ok (), t, log⟩) :
    (drop q).run storage s = ⟨.ok none, t, log⟩ := by
  rw [run, Action.bind_eq_of_ok h]
  simp [pure, Action.give]

/-- A call with one of the names, whose state, if it saves one, can be encoded. -/
def IsAmong (codec : Codec β) (names : Set Text) (c : Call) : Prop :=
  c.name ∈ names ∧ ∀ name state, c = save name state → codec.Encodes state

variable {codec : Codec β} {names : Set Text}

theorem isAmong_save (hq : q ∈ names) (hd : codec.Encodes d) :
    (save q d).IsAmong codec names := by
  refine ⟨hq, fun name state h => ?_⟩
  cases h
  exact hd

theorem isAmong_load (hq : q ∈ names) : (load q).IsAmong codec names :=
  ⟨hq, fun _ _ h => by cases h⟩

end Call

/-- The answers to calls made one after the other; a call that fails has none. -/
def answers (storage : Storage σ) : List Call → σ → List (Option (Option Document))
  | [], _ => []
  | c :: cs, s => (c.run storage s).result.toOption :: answers storage cs (c.run storage s).state

def after (storage : Storage σ) : List Call → σ → σ
  | [], s => s
  | c :: cs, s => after storage cs (c.run storage s).state

theorem after_concat (storage : Storage σ) (c : Call) :
    ∀ (cs : List Call) (s : σ),
      after storage (cs ++ [c]) s = (c.run storage (after storage cs s)).state
  | [], _ => rfl
  | e :: cs, s => after_concat storage c cs (e.run storage s).state

/-! ## What is compared -/

/-- However the storage was used, a call with one name changes no load of another one. -/
def Independent (codec : Codec β) (names : Set Text) (storage : Storage σ) (s : σ) : Prop :=
  ∀ (cs : List Call) (c : Call) (name : Text),
    (∀ e ∈ cs, e.IsAmong codec names) → c.IsAmong codec names → name ∈ names → name ≠ c.name →
      (storage.load name (after storage (cs ++ [c]) s)).result =
        (storage.load name (after storage cs s)).result

/-- On these names it makes no difference whether the states are kept in a table, empty at first, or
in a folder. -/
structure Interchangeable (codec : Codec β) (s : FileSystem β) (folder : Path) (names : Set Text) :
    Prop where
  sameAnswers : ∀ cs : List Call, (∀ c ∈ cs, c.IsAmong codec names) →
    answers (inMemory codec) cs [] = answers (inFolder codec folder) cs s
  inMemory : Independent codec names (Storage.inMemory codec) []
  inFolder : Independent codec names (Storage.inFolder codec folder) s

/-- Every name leads to a place where nothing stands, and no two names to the same one. -/
structure Separated (s : FileSystem β) (folder : Path) (names : Set Text)
    (place : Text → List Text) : Prop where
  leads : ∀ name ∈ names, s.locate (filePath folder name) = .ok (place name)
  vacant : ∀ name ∈ names, s.node? (place name) = none
  injective : Set.InjOn place names

/-! ## The files mirror the table -/

section
variable {codec : Codec β} {s : FileSystem β} {folder : Path} {names : Set Text}
  {place : Text → List Text}

/-- Since the calls began with `s`, the folders are the same, and at the place of each name stands
the file with what the table holds for it. -/
structure Mirrors (s : FileSystem β) (names : Set Text) (place : Text → List Text) (t : Table β)
    (u : FileSystem β) : Prop where
  folders : FileSystem.SameFolders s u
  held : ∀ name ∈ names, u.node? (place name) = (t.get? name).map .file

variable {t : Table β} {u : FileSystem β}

theorem Separated.mirrors (h : Separated s folder names place) : Mirrors s names place [] s :=
  ⟨.refl s, h.vacant⟩

theorem Mirrors.leads (hm : Mirrors s names place t u) (h : Separated s folder names place)
    {name : Text} (hname : name ∈ names) :
    u.locate (filePath folder name) = .ok (place name) :=
  (FileSystem.locate_eq_ok hm.folders).2 (h.leads name hname)

theorem Mirrors.ne_folder (hm : Mirrors s names place t u) {name : Text} (hname : name ∈ names) :
    u.node? (place name) ≠ some .folder := by
  rw [hm.held name hname]
  cases t.get? name <;> simp

theorem Mirrors.put (hm : Mirrors s names place t u) (h : Separated s folder names place)
    {name : Text} (hname : name ∈ names) (b : β) :
    Mirrors s names place (t.put name b) (u.put (place name) (.file b)) := by
  have hfolder := hm.ne_folder hname
  refine ⟨hm.folders.trans (FileSystem.sameFolders_put hfolder b), fun q hq => ?_⟩
  rw [Table.get?_put]
  by_cases heq : q = name
  · rw [if_pos heq, heq, FileSystem.node?_put_self u (FileSystem.ne_root hfolder)]
    rfl
  · have hplace : place q ≠ place name := fun he => heq (h.injective hq hname he)
    rw [if_neg heq, FileSystem.node?_put_of_ne u hplace, hm.held q hq]

theorem Mirrors.erase (hm : Mirrors s names place t u) (h : Separated s folder names place)
    {name : Text} (hname : name ∈ names) :
    Mirrors s names place (t.erase name)
      (if (t.get? name).isSome then u.remove (place name) else u) := by
  have hfolder := hm.ne_folder hname
  split
  · refine ⟨hm.folders.trans (FileSystem.sameFolders_remove hfolder), fun q hq => ?_⟩
    rw [Table.get?_erase]
    by_cases heq : q = name
    · rw [if_pos heq, heq, FileSystem.node?_remove_self u (FileSystem.ne_root hfolder)]
      rfl
    · have hplace : place q ≠ place name := fun he => heq (h.injective hq hname he)
      rw [if_neg heq, FileSystem.node?_remove_of_ne u hplace, hm.held q hq]
  · next hnone =>
    refine ⟨hm.folders, fun q hq => ?_⟩
    rw [hm.held q hq, Table.get?_erase]
    split
    · next heq => rw [heq, Option.not_isSome_iff_eq_none.1 hnone]
    · rfl

theorem Mirrors.load_eq (hm : Mirrors s names place t u) (h : Separated s folder names place)
    {name : Text} (hname : name ∈ names) :
    loadFile codec folder name u = decoded codec (t.get? name) :=
  loadFile_of_leads codec _ (hm.leads h hname) (hm.held name hname)

/-- A call has the same answer on both sides, and leaves them alike. -/
theorem Mirrors.run (hm : Mirrors s names place t u) (h : Separated s folder names place) {c : Call}
    (hc : c.IsAmong codec names) :
    (c.run (inFolder codec folder) u).result = (c.run (inMemory codec) t).result ∧
      Mirrors s names place (c.run (inMemory codec) t).state
        (c.run (inFolder codec folder) u).state := by
  obtain ⟨hname, hencodes⟩ := hc
  cases c with
  | save name state =>
    have hname : name ∈ names := hname
    have hstate : (codec.encode state).fault = none := hencodes name state rfl
    have hfile := saveFile_of_leads codec state (hm.leads h hname) (hm.ne_folder hname)
    rw [hstate] at hfile
    rw [Call.run_save_of_ok (Storage.inMemory codec) (inMemory_save_of_encodes hstate t),
      Call.run_save_of_ok (inFolder codec folder) hfile]
    exact ⟨rfl, hm.put h hname _⟩
  | load name => exact ⟨hm.load_eq h hname, hm⟩
  | drop name =>
    have hname : name ∈ names := hname
    have hfile := dropFile_of_leads codec (t.get? name) (hm.leads h hname) (hm.held name hname)
    rw [Call.run_drop_of_ok (inFolder codec folder) hfile,
      Call.run_drop_of_ok (inMemory codec) rfl]
    exact ⟨rfl, hm.erase h hname⟩

theorem Mirrors.answers_eq (h : Separated s folder names place) :
    ∀ {cs : List Call} {t : Table β} {u : FileSystem β}, Mirrors s names place t u →
      (∀ c ∈ cs, c.IsAmong codec names) →
        answers (inMemory codec) cs t = answers (inFolder codec folder) cs u ∧
          Mirrors s names place (after (inMemory codec) cs t) (after (inFolder codec folder) cs u)
  | [], _, _, hm, _ => ⟨rfl, hm⟩
  | c :: cs, t, u, hm, hcs => by
    obtain ⟨hresult, hm'⟩ := hm.run h (hcs c (.head _))
    obtain ⟨hanswers, hafter⟩ := Mirrors.answers_eq h hm' fun e he => hcs e (.tail _ he)
    exact ⟨by rw [answers, answers, hresult, hanswers], hafter⟩

/-- A call changes what the table holds for its own name only. -/
theorem get?_run_of_ne (c : Call) {name : Text} (hne : name ≠ c.name) (t : Table β) :
    (c.run (inMemory codec) t).state.get? name = t.get? name := by
  cases c with
  | save q state =>
    cases hstate : (codec.encode state).fault with
    | none =>
      rw [Call.run_save_of_ok (Storage.inMemory codec) (inMemory_save_of_encodes hstate t)]
      exact (Table.get?_put t q name _).trans (if_neg hne)
    | some fault =>
      rw [Call.run_save_of_error (Storage.inMemory codec) (inMemory_save_of_fault hstate t)]
  | load q => rfl
  | drop q =>
    rw [Call.run_drop_of_ok (inMemory codec) rfl]
    exact (Table.get?_erase t q name).trans (if_neg hne)

theorem independent_inMemory (codec : Codec β) (names : Set Text) (t : Table β) :
    Independent codec names (inMemory codec) t := by
  intro cs c name _ _ _ hne
  rw [after_concat]
  exact congrArg (decoded codec) (get?_run_of_ne c hne _)

/-- What the table keeps apart, the files that mirror it keep apart. -/
theorem Separated.independent (h : Separated s folder names place) :
    Independent codec names (inFolder codec folder) s := by
  intro cs c name hcs hc hname hne
  have hbefore := (Mirrors.answers_eq h h.mirrors hcs).2
  have hafter := (Mirrors.answers_eq h h.mirrors
    (List.forall_mem_append.2 ⟨hcs, List.forall_mem_singleton.2 hc⟩)).2
  calc loadFile codec folder name (after (inFolder codec folder) (cs ++ [c]) s)
      = decoded codec ((after (inMemory codec) (cs ++ [c]) []).get? name) := hafter.load_eq h hname
    _ = decoded codec ((after (inMemory codec) cs []).get? name) :=
        independent_inMemory codec names [] cs c name hcs hc hname hne
    _ = loadFile codec folder name (after (inFolder codec folder) cs s) :=
        (hbefore.load_eq h hname).symm

theorem Separated.interchangeable (h : Separated s folder names place) :
    Interchangeable codec s folder names where
  sameAnswers _ hcs := (Mirrors.answers_eq h h.mirrors hcs).1
  inMemory := independent_inMemory codec names []
  inFolder := h.independent

/-! ## What the same answers say about the names -/

theorem Interchangeable.load_eq_none (h : Interchangeable codec s folder names) {name : Text}
    (hname : name ∈ names) : loadFile codec folder name s = .ok none := by
  have hanswers := h.sameAnswers [.load name]
    (List.forall_mem_singleton.2 (Call.isAmong_load hname))
  simp only [answers, List.cons.injEq, and_true] at hanswers
  exact Computation.toOption_eq_some.1 hanswers.symm

variable {d : Document}

theorem Interchangeable.save_eq_ok (h : Interchangeable codec s folder names)
    (hd : codec.Encodes d) {name : Text} (hname : name ∈ names) :
    (saveFile codec folder name d s).result = .ok () := by
  have hanswers := h.sameAnswers [.save name d]
    (List.forall_mem_singleton.2 (Call.isAmong_save hname hd))
  simp only [answers, List.cons.injEq, and_true,
    Call.run_save_of_ok (Storage.inMemory codec) (inMemory_save_of_encodes hd [])] at hanswers
  rcases hsave : saveFile codec folder name d s with ⟨fault | ⟨⟩, u, log⟩
  · rw [Call.run_save_of_error (Storage.inFolder codec folder) hsave] at hanswers
    cases hanswers
  · rfl

/-- A name that can be saved, and of which nothing is found before, leads to an empty place. -/
theorem Interchangeable.leads (h : Interchangeable codec s folder names) (hd : codec.Encodes d)
    {name : Text} (hname : name ∈ names) :
    ∃ place, s.locate (filePath folder name) = .ok place ∧ s.node? place = none := by
  have hsave := h.save_eq_ok hd hname
  have hload := h.load_eq_none hname
  cases htarget : s.target (filePath folder name) with
  | error fault =>
    rw [saveFile_of_target_error htarget] at hsave
    cases hsave
  | ok place =>
    obtain ⟨hplace, hfolder⟩ := FileSystem.target_eq_ok.1 htarget
    obtain ⟨held, hheld⟩ := exists_held hfolder
    have hdecoded := loadFile_of_leads codec held hplace hheld
    rw [hload] at hdecoded
    refine ⟨place, hplace, ?_⟩
    rw [hheld, decoded_eq_none.1 hdecoded.symm]
    rfl

/-- A name of which nothing is found after another one was saved leads elsewhere. -/
theorem Interchangeable.ne_place (h : Interchangeable codec s folder names) (hd : codec.Encodes d)
    {a b : Text} (ha : a ∈ names) (hb : b ∈ names) (hne : b ≠ a) {place : List Text}
    (hplace : s.locate (filePath folder a) = .ok place) (hnode : s.node? place = none) :
    s.locate (filePath folder b) ≠ .ok place := by
  intro hshared
  have hfolder : s.node? place ≠ some .folder := by simp [hnode]
  have hsave := saveFile_of_leads codec d hplace hfolder
  rw [show (codec.encode d).fault = none from hd] at hsave
  have hanswers := h.sameAnswers [.save a d, .load b] (List.forall_mem_cons.2
    ⟨Call.isAmong_save ha hd, List.forall_mem_singleton.2 (Call.isAmong_load hb)⟩)
  simp only [answers, List.cons.injEq, and_true,
    Call.run_save_of_ok (Storage.inMemory codec) (inMemory_save_of_encodes hd []),
    Call.run_save_of_ok (Storage.inFolder codec folder) hsave] at hanswers
  have hmemory : decoded codec (Table.get? (Table.put [] a (codec.encode d).output) b) =
      .ok none := by
    rw [Table.get?_put, if_neg hne]
    rfl
  have hfile : loadFile codec folder b (s.put place (.file (codec.encode d).output)) =
      decoded codec (some (codec.encode d).output) := by
    apply loadFile_of_leads
    · exact (FileSystem.locate_eq_ok (FileSystem.sameFolders_put hfolder _)).2 hshared
    · exact FileSystem.node?_put_self s (FileSystem.ne_root hfolder) _
  have hnothing : decoded codec (some (codec.encode d).output) = .ok none := by
    rw [← hfile]
    refine Computation.toOption_eq_some.1 (hanswers.2.symm.trans ?_)
    exact congrArg Except.toOption hmemory
  cases decoded_eq_none.1 hnothing

theorem Interchangeable.exists_separated (h : Interchangeable codec s folder names)
    (hd : codec.Encodes d) : ∃ place, Separated s folder names place := by
  choose! place hplace using fun name (hname : name ∈ names) => h.leads hd hname
  refine ⟨place, ?_, ?_, ?_⟩
  · intro name hname
    exact (hplace name hname).1
  · intro name hname
    exact (hplace name hname).2
  intro a ha b hb hab
  by_contra hne
  refine h.ne_place hd ha hb (Ne.symm hne) (hplace a ha).1 (hplace a ha).2 ?_
  rw [hab]
  exact (hplace b hb).1

end

/-! ## Names that can stand as the name of a file -/

def fileName (name : Text) : Text := name ++ Text.ofString ".pkl"

/-- With its ending, the name can stand as the name of a file in the folder. -/
structure IsFileName (folder : Path) (name : Text) : Prop where
  single : Path.separator ∉ name.points
  fits : FileSystem.Fits folder (fileName name)

/-- The path leads to a folder in which nothing stands. -/
structure IsEmptyFolder (s : FileSystem β) (folder : Path) (root : List Text) : Prop where
  leads : s.locate folder = .ok root
  isFolder : s.node? root = some .folder
  isEmpty : ∀ name, s.node? (root ++ [name]) = none

theorem length_fileName (name : Text) : (fileName name).points.length = name.points.length + 4 :=
  List.length_append

theorem isName_fileName {folder : Path} {name : Text} (h : IsFileName folder name) :
    Path.IsName (fileName name) where
  ne_empty hempty := by
    have hlength := length_fileName name
    simp [hempty] at hlength
  ne_dot hdot := by
    have hlength := length_fileName name
    simp [hdot, Path.dot] at hlength
  ne_dots hdots := by
    have hlength := length_fileName name
    simp [hdots, Path.dots] at hlength
  not_mem hmem := by
    rcases List.mem_append.1 hmem with hname | hending
    · exact h.single hname
    · revert hending
      decide

theorem fileName_injective {a b : Text} (h : fileName a = fileName b) : a = b := by
  have hpoints : a.points ++ (Text.ofString ".pkl").points =
      b.points ++ (Text.ofString ".pkl").points := congrArg Text.points h
  cases a
  cases b
  exact congrArg Text.mk (List.append_cancel_right hpoints)

/-- In an empty folder, such names lead to places of their own. -/
theorem separated_of_isFileName {s : FileSystem β} {folder : Path} {root : List Text}
    {names : Set Text} (h : IsEmptyFolder s folder root)
    (hnames : ∀ name ∈ names, IsFileName folder name) :
    Separated s folder names fun name => root ++ [fileName name] where
  leads name hname := FileSystem.locate_of_fits h.leads h.isFolder
    (isName_fileName (hnames name hname)) (hnames name hname).fits
  vacant name _ := h.isEmpty _
  injective a _ b _ hab := fileName_injective (by simpa using hab)

/-! ## When the two are interchangeable -/

/-- A table and an empty folder are interchangeable on a set of names exactly if the names lead to
empty places, each to its own; names that can stand as the name of a file do. -/
theorem interchangeable_iff (codec : Codec β) {d : Document} (hd : codec.Encodes d)
    {s : FileSystem β} {folder : Path} {root : List Text} (hfolder : IsEmptyFolder s folder root)
    (names : Set Text) :
    (Interchangeable codec s folder names ↔ ∃ place, Separated s folder names place) ∧
      ((∀ name ∈ names, IsFileName folder name) → Interchangeable codec s folder names) :=
  ⟨⟨fun h => h.exists_separated hd, fun ⟨_, h⟩ => h.interchangeable⟩,
    fun hnames => (separated_of_isFileName hfolder hnames).interchangeable⟩

def sampleFolder : Path := ⟨⟨[]⟩, [Text.ofString "d"]⟩

/-- A file system with an empty folder. -/
def sampleFiles : FileSystem β := ⟨[([Text.ofString "d"], .folder)], []⟩

theorem sampleFolder_isEmpty :
    IsEmptyFolder (sampleFiles : FileSystem β) sampleFolder [Text.ofString "d"] where
  leads := rfl
  isFolder := rfl
  isEmpty name := by simp [FileSystem.node?, sampleFiles]

theorem interchangeable_fileNames :
    IsFileName sampleFolder (Text.ofString "model") ∧
      Interchangeable Codec.plain sampleFiles sampleFolder {name | IsFileName sampleFolder name} :=
  ⟨⟨by decide, by decide, by decide, by decide⟩,
    (interchangeable_iff Codec.plain (d := .null) rfl sampleFolder_isEmpty _).2 fun _ h => h⟩

/-- Two names with separators, of which the first leads to the file of `a`, and the second to a
folder that is not there. -/
theorem not_interchangeable_separators :
    answers (inMemory Codec.plain)
        [.save (Text.ofString "./a") (.int 1), .load (Text.ofString "a")] [] =
      [some none, some none] ∧
    answers (inFolder Codec.plain sampleFolder)
        [.save (Text.ofString "./a") (.int 1), .load (Text.ofString "a")] sampleFiles =
      [some none, some (some (.int 1))] ∧
    answers (inMemory Codec.plain) [.save (Text.ofString "b/c") (.int 2)] [] = [some none] ∧
    answers (inFolder Codec.plain sampleFolder) [.save (Text.ofString "b/c") (.int 2)] sampleFiles =
      [none] ∧
    ¬Interchangeable Codec.plain sampleFiles sampleFolder
      {name | name.points ≠ [] ∧ 0 ∉ name.points} := by
  refine ⟨rfl, rfl, rfl, rfl, fun h => ?_⟩
  have hanswers := h.sameAnswers [.save (Text.ofString "b/c") (.int 2)]
    (List.forall_mem_singleton.2 (Call.isAmong_save (by decide) rfl))
  cases hanswers

end LinearPrograms.Storage
