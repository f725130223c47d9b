import LinearPrograms.Proofs.Knowledge.Interchange
import LinearPrograms.Proofs.Knowledge.Sharing

/-!
# Saves that fail

What a save leaves whose state cannot be encoded (`FailedSave`). In memory the encoding comes before
the table is touched, so nothing changes. In a folder the file is opened, and with that emptied,
before the encoding begins: the part of the output that came before the fault replaces what the file
held (`loadFile_after_fault`), and only the names that lead elsewhere are loaded as before
(`loadFile_elsewhere`). A load of the name finds what it found before exactly if that part is
decoded to it, which no lost state ever is (`lostState_of_fault`).
-/

namespace LinearPrograms.Storage

variable {β : Type} {codec : Codec β} {d : Document} {fault : Fault} {folder : Path} {name q : Text}
  {s : FileSystem β} {place : List Text}

/-! ## The file of the name, and the other files -/

/-- After a save, each name that leads to the written file is loaded from the output of the
encoding, whether that came to an end or not. -/
theorem loadFile_after_save (codec : Codec β) (d : Document)
    (htarget : s.target (filePath folder name) = .ok place)
    (hq : s.locate (filePath folder q) = .ok place) :
    loadFile codec folder q (saveFile codec folder name d s).state =
      decoded codec (some (codec.encode d).output) := by
  obtain ⟨hplace, hnode⟩ := FileSystem.target_eq_ok.1 htarget
  rw [saveFile_of_leads codec d hplace hnode]
  apply loadFile_of_leads
  · exact (FileSystem.locate_eq_ok (FileSystem.sameFolders_put hnode _)).2 hq
  · exact FileSystem.node?_put_self s (FileSystem.ne_root hnode) _

/-- A save, failed or not, changes no load of a name that leads elsewhere. -/
theorem loadFile_elsewhere
    (hq : ∀ place, s.target (filePath folder name) = .ok place →
      s.locate (filePath folder q) ≠ .ok place) :
    loadFile codec folder q (saveFile codec folder name d s).state = loadFile codec folder q s := by
  cases htarget : s.target (filePath folder name) with
  | error e => rw [saveFile_of_target_error htarget]
  | ok place =>
    obtain ⟨hplace, hnode⟩ := FileSystem.target_eq_ok.1 htarget
    rw [saveFile_of_leads codec d hplace hnode]
    apply loadFile_congr (FileSystem.sameFolders_put hnode _)
    intro p hp
    apply FileSystem.node?_put_of_ne
    intro heq
    rw [heq] at hp
    exact hq place htarget hp

/-- Two names that lead to one place, which is no folder, are loaded alike. -/
theorem loadFile_eq_of_place (hname : s.locate (filePath folder name) = .ok place)
    (hq : s.locate (filePath folder q) = .ok place) (hnode : s.node? place ≠ some .folder) :
    loadFile codec folder q s = loadFile codec folder name s := by
  obtain ⟨held, hheld⟩ := exists_held hnode
  rw [loadFile_of_leads codec held hq hheld, loadFile_of_leads codec held hname hheld]

/-! ## Knowledge bases whose save failed -/

/-- The storage after a save of present parameters is what its own save leaves. -/
theorem storage_save {σ : Type} (storage : Storage σ) {k : KnowledgeBase.Stored σ}
    (h : k.base.model ≠ .null) :
    (KnowledgeBase.save storage k).state.storage =
      (storage.save k.base.name k.base.state k.storage).state := by
  rw [KnowledgeBase.save_of_present h]
  rcases hsave : storage.save k.base.name k.base.state k.storage with ⟨e | u, t, log⟩
  · rw [Action.bind_eq_of_error (KnowledgeBase.onStorage_eq hsave)]
  · rw [Action.bind_eq_of_ok (KnowledgeBase.onStorage_eq hsave)]
    rfl

theorem load_of_load_error {σ : Type} (storage : Storage σ) {k : KnowledgeBase.Stored σ}
    {e : Fault} (h : k.base.model = .null)
    (hload : (storage.load k.base.name k.storage).result = .error e) :
    (KnowledgeBase.load storage k).result = .error e := by
  rcases hreply : storage.load k.base.name k.storage with ⟨r, t, log⟩
  rw [hreply] at hload
  subst hload
  rw [KnowledgeBase.load_of_absent h, Action.bind_eq_of_error (KnowledgeBase.onStorage_eq hreply)]

/-- After a knowledge base has failed to save to a file, no other one can load under that name,
where the part that was written cannot be decoded. -/
theorem load_of_undecodable {k : KnowledgeBase.Stored (FileSystem β)} {other : KnowledgeBase}
    {e : Fault} (hmodel : k.base.model ≠ .null) (hother : other.model = .null)
    (hname : other.name = k.base.name)
    (htarget : k.storage.target (filePath folder k.base.name) = .ok place)
    (hdecode : codec.decode (codec.encode k.base.state).output = .error e) :
    (KnowledgeBase.load (inFolder codec folder)
      ⟨other, (KnowledgeBase.save (inFolder codec folder) k).state.storage⟩).result = .error e := by
  apply load_of_load_error _ hother
  rw [storage_save (inFolder codec folder) hmodel]
  have hload := loadFile_after_save codec k.base.state htarget
    (FileSystem.target_eq_ok.1 htarget).1
  simp only [hname]
  refine hload.trans ?_
  simp [decoded, hdecode, Except.map]

/-! ## What a failed save leaves -/

/-- A save of a state whose encoding fails, in memory and in a folder. -/
structure FailedSave (codec : Codec β) (folder : Path) (name : Text) (d : Document)
    (fault : Fault) : Prop where
  /-- In memory, it fails and leaves the table as it was. -/
  inMemory : ∀ t : Table β, (inMemory codec).save name d t = ⟨.error fault, t, []⟩
  /-- In a folder, it fails and leaves every file as it was where the file cannot be opened. -/
  unopened : ∀ (s : FileSystem β) e, s.target (filePath folder name) = .error e →
    saveFile codec folder name d s = ⟨.error e, s, []⟩
  /-- Where it can be opened, the part that was written has replaced what the file held. -/
  opened : ∀ (s : FileSystem β) place, s.target (filePath folder name) = .ok place →
    (saveFile codec folder name d s).result = .error fault ∧
      loadFile codec folder name (saveFile codec folder name d s).state =
        decoded codec (some (codec.encode d).output)
  elsewhere : ∀ (s : FileSystem β) q,
    (∀ place, s.target (filePath folder name) = .ok place →
      s.locate (filePath folder q) ≠ .ok place) →
    loadFile codec folder q (saveFile codec folder name d s).state = loadFile codec folder q s
  /-- A knowledge base in memory that fails to save is left as it was, and so is the table. -/
  baseInMemory : ∀ k : KnowledgeBase.Stored (Table β), k.base.name = name → k.base.state = d →
    k.base.model ≠ .null → KnowledgeBase.save (Storage.inMemory codec) k = ⟨.error fault, k, []⟩
  /-- After one has failed to save to a file, no other one of its name can load, where the part that
  was written cannot be decoded. -/
  baseInFolder : ∀ (k : KnowledgeBase.Stored (FileSystem β)) (other : KnowledgeBase) place e,
    k.base.name = name → k.base.state = d → k.base.model ≠ .null →
    other.name = name → other.model = .null →
    k.storage.target (filePath folder name) = .ok place →
    codec.decode (codec.encode d).output = .error e →
      (KnowledgeBase.load (inFolder codec folder)
        ⟨other, (KnowledgeBase.save (inFolder codec folder) k).state.storage⟩).result = .error e
  /-- Every name is loaded as before exactly if the part that was written stands for what the file
  held. -/
  keeps_iff : ∀ s : FileSystem β,
    (∀ q, loadFile codec folder q (saveFile codec folder name d s).state =
      loadFile codec folder q s) ↔
    ∀ place, s.target (filePath folder name) = .ok place →
      decoded codec (some (codec.encode d).output) = loadFile codec folder name s

theorem keeps_iff (codec : Codec β) (folder : Path) (name : Text) (d : Document)
    (s : FileSystem β) :
    (∀ q, loadFile codec folder q (saveFile codec folder name d s).state =
      loadFile codec folder q s) ↔
    ∀ place, s.target (filePath folder name) = .ok place →
      decoded codec (some (codec.encode d).output) = loadFile codec folder name s := by
  constructor
  · intro hkeeps place htarget
    rw [← hkeeps name]
    exact (loadFile_after_save codec d htarget (FileSystem.target_eq_ok.1 htarget).1).symm
  · intro hsame q
    by_cases hshared : ∃ place, s.target (filePath folder name) = .ok place ∧
        s.locate (filePath folder q) = .ok place
    · obtain ⟨place, htarget, hq⟩ := hshared
      obtain ⟨hplace, hnode⟩ := FileSystem.target_eq_ok.1 htarget
      rw [loadFile_after_save codec d htarget hq, hsame place htarget,
        loadFile_eq_of_place hplace hq hnode]
    · apply loadFile_elsewhere
      intro place htarget hq
      exact hshared ⟨place, htarget, hq⟩

/-- A failed save leaves a table as it was, but in a folder what had been written before the fault.
-/
theorem failedSave (h : (codec.encode d).fault = some fault) (folder : Path) (name : Text) :
    FailedSave codec folder name d fault where
  inMemory t := inMemory_save_of_fault h t
  unopened _ _ htarget := saveFile_of_target_error htarget
  opened s place htarget := by
    obtain ⟨hplace, hnode⟩ := FileSystem.target_eq_ok.1 htarget
    refine ⟨?_, loadFile_after_save codec d htarget hplace⟩
    rw [saveFile_of_leads codec d hplace hnode, h]
    rfl
  elsewhere _ _ hq := loadFile_elsewhere hq
  baseInMemory k hname hstate hmodel := by
    subst hname hstate
    exact KnowledgeBase.save_of_fault hmodel h
  baseInFolder k other place e hname hstate hmodel hother hnull htarget hdecode := by
    subst hname hstate
    exact load_of_undecodable hmodel hnull hother htarget hdecode
  keeps_iff s := keeps_iff codec folder name d s

/-- A codec that cannot encode model parameters that are a text, and has written nothing by then. -/
def textless : Codec (Option Document) where
  encode d :=
    match KnowledgeBase.fieldOf d KnowledgeBase.modelKey with
    | .ok (.text t) => { output := none, fault := some (.scripted "TypeError" t) }
    | _ => { output := some d }
  decode
    | some d => .ok d
    | none => .error (.knowledge .damaged)

def keptBase : KnowledgeBase := { name := Text.ofString "model", model := .int 1 }

/-- The same knowledge base, with parameters that the codec cannot encode. -/
def spoiltBase : KnowledgeBase := { keptBase with model := .text (Text.ofString "weights") }

theorem failedSave_textless :
    (textless.encode spoiltBase.state).fault =
        some (.scripted "TypeError" (Text.ofString "weights")) ∧
      FailedSave textless sampleFolder spoiltBase.name spoiltBase.state
        (.scripted "TypeError" (Text.ofString "weights")) :=
  ⟨rfl, failedSave rfl _ _⟩

/-- The empty folder after `keptBase` was saved. -/
def keptFiles : FileSystem (Option Document) :=
  (saveFile textless sampleFolder keptBase.name keptBase.state sampleFiles).state

/-- Of a saved state, nothing can be loaded any more after a failed save under its name. -/
theorem lostState_of_fault :
    loadFile textless sampleFolder keptBase.name keptFiles = .ok (some keptBase.state) ∧
    (KnowledgeBase.save (inFolder textless sampleFolder) ⟨spoiltBase, keptFiles⟩).result =
      .error (.scripted "TypeError" (Text.ofString "weights")) ∧
    (KnowledgeBase.load (inFolder textless sampleFolder) ⟨{ name := keptBase.name },
      (KnowledgeBase.save (inFolder textless sampleFolder)
        ⟨spoiltBase, keptFiles⟩).state.storage⟩).result = .error (.knowledge .damaged) ∧
    ¬∀ q, loadFile textless sampleFolder q
        (saveFile textless sampleFolder spoiltBase.name spoiltBase.state keptFiles).state =
      loadFile textless sampleFolder q keptFiles := by
  refine ⟨rfl, rfl, rfl, fun hkeeps => ?_⟩
  have hload := hkeeps keptBase.name
  cases hload

end LinearPrograms.Storage
