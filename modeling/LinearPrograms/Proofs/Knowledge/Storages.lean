import LinearPrograms.Knowledge.Storage
import LinearPrograms.Proofs.Files.Places

/-!
# What storages answer

One equation for each operation of the two storages. In memory it says what the table holds for each
name afterwards (`Table.get?_put`, `Table.get?_erase`). In a folder it is about a name whose path
leads to a place (`loadFile_of_leads`, `saveFile_of_leads`, `dropFile_of_leads`); where a path
cannot be written, a save changes nothing (`saveFile_of_target_error`).
-/

namespace LinearPrograms

variable {β : Type}

namespace Codec

/-- The codec encodes the state to the end. -/
def Encodes (codec : Codec β) (d : Document) : Prop := (codec.encode d).fault = none

/-- What is encoded to the end is decoded to the same state. -/
def RoundTrips (codec : Codec β) : Prop :=
  ∀ d, codec.Encodes d → codec.decode (codec.encode d).output = .ok d

theorem plain_roundTrips : Codec.plain.RoundTrips := fun _ _ => rfl

end Codec

namespace Storage

/-! ## In memory -/

theorem Table.get?_erase (t : Table β) (name q : Text) :
    (t.erase name).get? q = if q = name then none else t.get? q := by
  simp only [Table.get?, Table.erase, find?_filter_key]
  split <;> rfl

theorem Table.get?_put (t : Table β) (name q : Text) (state : β) :
    (t.put name state).get? q = if q = name then some state else t.get? q := by
  by_cases h : q = name
  · simp [Table.get?, Table.put, h]
  · have herased := Table.get?_erase t name q
    rw [if_neg h] at herased ⊢
    rw [← herased]
    simp [Table.get?, Table.put, Ne.symm h]

variable {codec : Codec β} {name : Text} {d : Document}

theorem inMemory_save_of_encodes (h : codec.Encodes d) (t : Table β) :
    (inMemory codec).save name d t = ⟨.ok (), t.put name (codec.encode d).output, []⟩ := by
  simp only [inMemory, show (codec.encode d).fault = none from h]

theorem inMemory_save_of_fault {fault : Fault} (h : (codec.encode d).fault = some fault)
    (t : Table β) : (inMemory codec).save name d t = ⟨.error fault, t, []⟩ := by
  simp only [inMemory, h]

/-- Nothing is found only where nothing is held. -/
theorem decoded_eq_none {held : Option β} : decoded codec held = .ok none ↔ held = none := by
  cases held with
  | none => simp [decoded]
  | some b => cases h : codec.decode b <;> simp [decoded, h, Except.map]

/-! ## In a folder -/

variable {folder : Path} {s t : FileSystem β} {place : List Text}

/-- A place that can be written holds a file or nothing. -/
theorem exists_held (h : s.node? place ≠ some .folder) :
    ∃ held : Option β, s.node? place = held.map .file := by
  cases hnode : s.node? place with
  | none => exact ⟨none, rfl⟩
  | some node =>
    cases node with
    | folder => exact absurd hnode h
    | file b => exact ⟨some b, rfl⟩

/-- A load answers the decoded contents of the file that the name leads to. -/
theorem loadFile_of_leads (codec : Codec β) (held : Option β)
    (hplace : s.locate (filePath folder name) = .ok place)
    (hheld : s.node? place = held.map .file) :
    loadFile codec folder name s = decoded codec held := by
  have hthere : s.isThere (filePath folder name) = .ok held.isSome := by
    simp [FileSystem.isThere, hplace, hheld]
  rw [loadFile, hthere]
  cases held with
  | none => rfl
  | some b =>
    have hread : s.read (filePath folder name) = .ok b := by
      simp [FileSystem.read, hplace, hheld]
    rw [hread]
    rfl

/-- A load answers the same after a change that keeps the folders and the file of the name. -/
theorem loadFile_congr (h : FileSystem.SameFolders s t)
    (hnode : ∀ place, s.locate (filePath folder name) = .ok place → t.node? place = s.node? place) :
    loadFile codec folder name t = loadFile codec folder name s := by
  have hthere := FileSystem.isThere_congr h hnode
  cases hplace : s.locate (filePath folder name) with
  | ok place =>
    have hread := FileSystem.read_congr h hplace (hnode place hplace)
    rw [loadFile, loadFile, hthere, hread]
  | error flaw =>
    have hbranch : s.isThere (filePath folder name) ≠ .ok true := by
      rw [FileSystem.isThere, hplace]
      cases flaw <;> simp
    rw [loadFile, loadFile, hthere]
    cases hs : s.isThere (filePath folder name) with
    | error fault => rfl
    | ok found =>
      cases found with
      | false => rfl
      | true => exact absurd hs hbranch

/-- A save leaves the output of the encoding in the file, also where the encoding fails. -/
theorem saveFile_of_leads (codec : Codec β) (d : Document)
    (hplace : s.locate (filePath folder name) = .ok place)
    (hnode : s.node? place ≠ some .folder) :
    saveFile codec folder name d s =
      ⟨(codec.encode d).fault.elim (.ok ()) .error,
        s.put place (.file (codec.encode d).output), []⟩ := by
  have htarget : s.target (filePath folder name) = .ok place := by
    simp only [FileSystem.target, hplace]
  simp only [saveFile, FileSystem.write, htarget, Except.map]
  cases (codec.encode d).fault <;> rfl

theorem saveFile_of_target_error {fault : Fault}
    (h : s.target (filePath folder name) = .error fault) :
    saveFile codec folder name d s = ⟨.error fault, s, []⟩ := by
  simp only [saveFile, FileSystem.write, h, Except.map]

theorem dropFile_of_leads (codec : Codec β) (held : Option β)
    (hplace : s.locate (filePath folder name) = .ok place)
    (hheld : s.node? place = held.map .file) :
    (inFolder codec folder).drop name s =
      ⟨.ok (), if held.isSome then s.remove place else s, []⟩ := by
  cases held <;> simp [inFolder, FileSystem.delete, hplace, hheld]

end Storage

end LinearPrograms
