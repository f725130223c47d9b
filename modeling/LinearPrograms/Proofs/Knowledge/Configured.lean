import LinearPrograms.Proofs.Knowledge.FailedSave
import Mathlib.Data.List.Induction

/-!
# Knowledge bases with both parameters or none

A knowledge base is whole if it has both its parameters or neither, and both if it is trained
(`KnowledgeBase.IsWhole`). Any number of them work on one storage, of which nothing is known but that
it finds only what they have saved (`Storage.Remembers`); both storages are of that kind, if what can
be decoded from an output, even from a part of it, is the state that was encoded.

What a call makes of its knowledge base is said once (`KnowledgeBase.Turn`), with one case that leaves
half of the parameters: a reinitialization assigns the new model parameters before it asks for the new
training parameters, and those cannot be made. A property that the other cases keep holds along every
course without such a torn call (`Sharing.keeps_run`). So all knowledge bases are whole after every
call exactly if no call is torn (`Sharing.whole_iff_untorn`).
-/

namespace LinearPrograms

/-! ## Storages that find what was saved -/

/-- Whatever can be decoded from the output for a state, which a fault may cut short, is that state.
-/
def Codec.IsFaithful {β : Type} (codec : Codec β) : Prop :=
  ∀ d d', codec.decode (codec.encode d).output = .ok d' → d' = d

theorem Codec.plain_isFaithful : Codec.plain.IsFaithful :=
  fun _ _ h => (Except.ok.inj h).symm

namespace Storage

variable {σ β : Type}

/-- A storage finds nothing but what it holds, and holds nothing but what was saved. -/
structure Remembers (storage : Storage σ) (holds : σ → Document → Prop) : Prop where
  found : ∀ name s d, (storage.load name s).result = .ok (some d) → holds s d
  save : ∀ name d s d', holds (storage.save name d s).state d' → holds s d' ∨ d' = d
  load : ∀ name s d, holds (storage.load name s).state d → holds s d
  drop : ∀ name s d, holds (storage.drop name s).state d → holds s d

/-- The states that can be decoded from a table. -/
def Table.Holds (codec : Codec β) (t : Table β) (d : Document) : Prop :=
  ∃ name b, t.get? name = some b ∧ codec.decode b = .ok d

theorem remembers_inMemory {codec : Codec β} (h : codec.IsFaithful) :
    (inMemory codec).Remembers (Table.Holds codec) where
  found name t d hd := by
    cases hb : t.get? name with
    | none =>
      simp only [inMemory, hb, decoded] at hd
      cases hd
    | some b =>
      simp only [inMemory, hb, decoded] at hd
      cases hdecode : codec.decode b with
      | error e =>
        rw [hdecode] at hd
        cases hd
      | ok d' =>
        rw [hdecode] at hd
        cases hd
        exact ⟨name, b, hb, hdecode⟩
  save name d t d' hd := by
    cases hfault : (codec.encode d).fault with
    | some fault =>
      rw [inMemory_save_of_fault hfault] at hd
      exact .inl hd
    | none =>
      rw [inMemory_save_of_encodes hfault] at hd
      obtain ⟨q, b, hb, hdecode⟩ := hd
      rw [Table.get?_put] at hb
      split at hb
      · obtain rfl := Option.some.inj hb
        exact .inr (h d d' hdecode)
      · exact .inl ⟨q, b, hb, hdecode⟩
  load _ _ _ hd := hd
  drop name t d hd := by
    obtain ⟨q, b, hb, hdecode⟩ := hd
    have hget := Table.get?_erase t name q
    split at hget
    · rw [show (t.erase name).get? q = some b from hb] at hget
      cases hget
    · exact ⟨q, b, hget.symm.trans hb, hdecode⟩

end Storage

namespace FileSystem

variable {β : Type} {s : FileSystem β} {p : Path}

/-- The states that can be decoded from the files. -/
def Holds (codec : Codec β) (s : FileSystem β) (d : Document) : Prop :=
  ∃ place b, s.node? place = some (.file b) ∧ codec.decode b = .ok d

theorem exists_file_of_read {b : β} (h : s.read p = .ok b) :
    ∃ place, s.node? place = some (.file b) := by
  unfold read at h
  split at h
  · cases h
  · rename_i place _
    split at h
    · rename_i contents hnode
      obtain rfl := Except.ok.inj h
      exact ⟨place, hnode⟩
    · cases h
    · cases h

/-- A deletion leaves no file that was not there. -/
theorem file_of_delete {t : FileSystem β} (h : s.delete p = .ok t) {q : List Text} {b : β}
    (hq : t.node? q = some (.file b)) : s.node? q = some (.file b) := by
  unfold delete at h
  split at h
  · cases h
    exact hq
  · cases h
  · rename_i place _
    split at h
    · cases h
    · rename_i contents hnode
      cases h
      by_cases hplace : q = place
      · rw [hplace, node?_remove_self s (ne_root (by rw [hnode]; exact fun h => by cases h))] at hq
        cases hq
      · rwa [node?_remove_of_ne s hplace] at hq
    · cases h
      exact hq

end FileSystem

namespace Storage

variable {β : Type} {codec : Codec β} {folder : Path}

theorem remembers_inFolder (h : codec.IsFaithful) (folder : Path) :
    (inFolder codec folder).Remembers (FileSystem.Holds codec) where
  found name s d hd := by
    obtain ⟨there, -, hd⟩ := Computation.bind_eq_ok.1 (show loadFile codec folder name s = _ from hd)
    cases there with
    | false => cases hd
    | true =>
      obtain ⟨b, hread, hd⟩ := Computation.bind_eq_ok.1 hd
      obtain ⟨place, hnode⟩ := FileSystem.exists_file_of_read hread
      cases hdecode : codec.decode b with
      | error e =>
        rw [decoded, hdecode] at hd
        cases hd
      | ok d' =>
        rw [decoded, hdecode] at hd
        cases hd
        exact ⟨place, b, hnode, hdecode⟩
  save name d s d' hd := by
    have hstate : ((inFolder codec folder).save name d s).state =
        (saveFile codec folder name d s).state := rfl
    rw [hstate] at hd
    cases htarget : s.target (filePath folder name) with
    | error fault =>
      rw [saveFile_of_target_error htarget] at hd
      exact .inl hd
    | ok place =>
      obtain ⟨hplace, hnode⟩ := FileSystem.target_eq_ok.1 htarget
      rw [saveFile_of_leads codec d hplace hnode] at hd
      obtain ⟨q, b, hb, hdecode⟩ := hd
      by_cases hq : q = place
      · rw [hq, FileSystem.node?_put_self s (FileSystem.ne_root hnode)] at hb
        cases hb
        exact .inr (h d d' hdecode)
      · rw [FileSystem.node?_put_of_ne s hq] at hb
        exact .inl ⟨q, b, hb, hdecode⟩
  load _ _ _ hd := hd
  drop name s d hd := by
    obtain ⟨q, b, hb, hdecode⟩ := hd
    cases hdelete : s.delete (filePath folder name) with
    | error fault =>
      simp only [inFolder, hdelete] at hb
      exact ⟨q, b, hb, hdecode⟩
    | ok t =>
      simp only [inFolder, hdelete] at hb
      exact ⟨q, b, FileSystem.file_of_delete hdelete hb, hdecode⟩

end Storage

/-! ## What a call makes of a knowledge base -/

namespace KnowledgeBase

variable {σ : Type} {storage : Storage σ} {k : Stored σ}

/-- A knowledge base after its erasing. -/
def emptied (k : KnowledgeBase) : KnowledgeBase :=
  { k with model := .null, training := .null, trained := .bool false }

/-- Is the operation a call, with new parameters that are there if they can be made? -/
def Operation.IsCall : Operation → Prop
  | save | load | erase => True
  | reinitialize newModel newTraining =>
    newModel ≠ .ok .null ∧ newTraining ≠ .ok .null
  | setModel _ | setTraining _ => False

/-- A reinitialization that erases, makes the new model parameters, and then fails to make the new
training parameters. -/
inductive Operation.IsTorn (storage : Storage σ) (k : Stored σ) : Operation → Prop
  | intro {model : Document} {fault : Fault} :
      (storage.drop k.base.name k.storage).result = .ok () →
      IsTorn storage k (Operation.reinitialize (.ok model) (.error fault))

/-- What a call may make of its knowledge base. -/
inductive Turn (storage : Storage σ) (k : Stored σ) : Operation → KnowledgeBase → Prop
  | kept (op : Operation) : Turn storage k op k.base
  | emptied (op : Operation) : Turn storage k op k.base.emptied
  | loaded (saved : KnowledgeBase) :
      (storage.load k.base.name k.storage).result = .ok (some saved.state) →
      Turn storage k .load (k.base.loaded saved)
  | renewed (model training : Document) :
      Turn storage k (Operation.reinitialize (.ok model) (.ok training))
        { k.base.emptied with model := model, training := training }
  | torn (model : Document) (fault : Fault) :
      (storage.drop k.base.name k.storage).result = .ok () →
      Turn storage k (Operation.reinitialize (.ok model) (.error fault))
        { k.base.emptied with model := model }

theorem erase_of_ok (h : (storage.drop k.base.name k.storage).result = .ok ()) :
    erase storage k =
      ⟨.ok (), ⟨k.base.emptied, (storage.drop k.base.name k.storage).state⟩,
        (storage.drop k.base.name k.storage).log⟩ := by
  rcases hdrop : storage.drop k.base.name k.storage with ⟨r, s, log⟩
  rw [hdrop] at h
  obtain rfl : r = .ok () := h
  rw [erase, Action.read_bind, Action.bind_eq_of_ok (onStorage_eq hdrop)]
  simp [update, Action.change, emptied]

theorem erase_of_error {fault : Fault}
    (h : (storage.drop k.base.name k.storage).result = .error fault) :
    erase storage k =
      ⟨.error fault, ⟨k.base, (storage.drop k.base.name k.storage).state⟩,
        (storage.drop k.base.name k.storage).log⟩ := by
  rcases hdrop : storage.drop k.base.name k.storage with ⟨r, s, log⟩
  rw [hdrop] at h
  obtain rfl : r = .error fault := h
  rw [erase, Action.read_bind, Action.bind_eq_of_error (onStorage_eq hdrop)]

/-- A reinitialization begins with the erasing, and then makes the new parameters. -/
theorem reinitialize_of_ok (h : (storage.drop k.base.name k.storage).result = .ok ())
    (newModel newTraining : Except Fault Document) :
    (KnowledgeBase.reinitialize storage newModel newTraining k).state =
      ⟨match newModel, newTraining with
        | .ok model, .ok training => { k.base.emptied with model := model, training := training }
        | .ok model, .error _ => { k.base.emptied with model := model }
        | .error _, _ => k.base.emptied,
      (storage.drop k.base.name k.storage).state⟩ := by
  rw [KnowledgeBase.reinitialize, Action.bind_eq_of_ok (erase_of_ok h)]
  cases newModel with
  | error fault => rfl
  | ok model => cases newTraining <;> rfl

theorem reinitialize_of_error {fault : Fault}
    (h : (storage.drop k.base.name k.storage).result = .error fault)
    (newModel newTraining : Except Fault Document) :
    (KnowledgeBase.reinitialize storage newModel newTraining k).state =
      ⟨k.base, (storage.drop k.base.name k.storage).state⟩ := by
  rw [KnowledgeBase.reinitialize, Action.bind_eq_of_error (erase_of_error h)]

/-- However it ends, an erasing drops what the storage has under the name. -/
theorem erase_storage (storage : Storage σ) (k : Stored σ) :
    (erase storage k).state.storage = (storage.drop k.base.name k.storage).state := by
  cases hdrop : (storage.drop k.base.name k.storage).result with
  | error fault => rw [erase_of_error hdrop]
  | ok u => rw [erase_of_ok hdrop]

theorem reinitialize_storage (storage : Storage σ) (k : Stored σ)
    (newModel newTraining : Except Fault Document) :
    (KnowledgeBase.reinitialize storage newModel newTraining k).state.storage =
      (storage.drop k.base.name k.storage).state := by
  cases hdrop : (storage.drop k.base.name k.storage).result with
  | error fault => rw [reinitialize_of_error hdrop]
  | ok u => rw [reinitialize_of_ok hdrop]

theorem base_save (storage : Storage σ) (k : Stored σ) : (save storage k).state.base = k.base := by
  by_cases hmodel : k.base.model = .null
  · rw [save_of_absent hmodel]
  · rw [save_of_present hmodel]
    rcases hsave : storage.save k.base.name k.base.state k.storage with ⟨e | u, s, log⟩
    · rw [Action.bind_eq_of_error (onStorage_eq hsave)]
    · rw [Action.bind_eq_of_ok (onStorage_eq hsave)]
      rfl

theorem turn_load (hfound : ∀ d, (storage.load k.base.name k.storage).result = .ok (some d) →
    ∃ saved : KnowledgeBase, d = saved.state) :
    Turn storage k .load (load storage k).state.base := by
  by_cases hmodel : k.base.model = .null
  · rw [load_of_absent hmodel]
    rcases hload : storage.load k.base.name k.storage with ⟨e | found, s, log⟩
    · rw [Action.bind_eq_of_error (onStorage_eq hload)]
      exact .kept _
    · rw [Action.bind_eq_of_ok (onStorage_eq hload)]
      cases found with
      | none => exact .kept _
      | some d =>
        obtain ⟨saved, rfl⟩ := hfound d (by rw [hload])
        exact .loaded saved (by rw [hload])
  · rw [load_of_present hmodel]
    exact .kept _

/-- A call makes one of five things of its knowledge base. -/
theorem turn_perform {op : Operation} (hcall : op.IsCall)
    (hfound : ∀ d, (storage.load k.base.name k.storage).result = .ok (some d) →
      ∃ saved : KnowledgeBase, d = saved.state) :
    Turn storage k op (op.perform storage k).state.base := by
  cases op with
  | save =>
    rw [Operation.perform, base_save]
    exact .kept _
  | load => exact turn_load hfound
  | erase =>
    cases hdrop : (storage.drop k.base.name k.storage).result with
    | error fault =>
      rw [Operation.perform, erase_of_error hdrop]
      exact .kept _
    | ok u =>
      rw [Operation.perform, erase_of_ok hdrop]
      exact .emptied _
  | reinitialize newModel newTraining =>
    cases hdrop : (storage.drop k.base.name k.storage).result with
    | error fault =>
      rw [Operation.perform, reinitialize_of_error hdrop]
      exact .kept _
    | ok u =>
      rw [Operation.perform, reinitialize_of_ok hdrop]
      cases newModel with
      | error fault => exact .emptied _
      | ok model =>
        cases newTraining with
        | error fault => exact .torn model fault hdrop
        | ok training => exact .renewed model training
  | setModel value => exact hcall.elim
  | setTraining value => exact hcall.elim

theorem storage_load_cases (storage : Storage σ) (k : Stored σ) :
    (load storage k).state.storage = k.storage ∨
      (load storage k).state.storage = (storage.load k.base.name k.storage).state := by
  by_cases hmodel : k.base.model = .null
  · rw [load_of_absent hmodel]
    rcases hload : storage.load k.base.name k.storage with ⟨e | found, s, log⟩
    · rw [Action.bind_eq_of_error (onStorage_eq hload)]
      exact .inr rfl
    · rw [Action.bind_eq_of_ok (onStorage_eq hload)]
      refine .inr ?_
      dsimp only
      split
      · exact ((ends_adopt_storage _ _).bind fun _ _ ht => (Action.ends_write _).2 ht).state
      · rfl
  · rw [load_of_present hmodel]
    exact .inl rfl

/-- After a call, a storage holds what it held and, if the call is a save, the state of its
knowledge base. -/
theorem holds_perform {holds : σ → Document → Prop} (h : storage.Remembers holds) {op : Operation}
    {d : Document} (hd : holds (op.perform storage k).state.storage d) :
    holds k.storage d ∨ k.base.model ≠ .null ∧ d = k.base.state := by
  cases op with
  | save =>
    by_cases hmodel : k.base.model = .null
    · rw [Operation.perform, save_of_absent hmodel] at hd
      exact .inl hd
    · rw [Operation.perform, Storage.storage_save storage hmodel] at hd
      exact (h.save _ _ _ _ hd).imp id fun hd => ⟨hmodel, hd⟩
  | load =>
    rcases storage_load_cases storage k with hload | hload
    · rw [Operation.perform, hload] at hd
      exact .inl hd
    · rw [Operation.perform, hload] at hd
      exact .inl (h.load _ _ _ hd)
  | erase =>
    rw [Operation.perform, erase_storage] at hd
    exact .inl (h.drop _ _ _ hd)
  | reinitialize newModel newTraining =>
    rw [Operation.perform, reinitialize_storage] at hd
    exact .inl (h.drop _ _ _ hd)
  | setModel value => exact .inl hd
  | setTraining value => exact .inl hd

/-! ## What the calls keep -/

/-- Both parameters are there or neither is, and a trained knowledge base has both. -/
structure IsWhole (k : KnowledgeBase) : Prop where
  both : k.model = .null ↔ k.training = .null
  trained : k.trained.isTrue = true → k.model ≠ .null ∧ k.training ≠ .null

/-- A knowledge base without model parameters has nothing else either. -/
def IsModelFirst (k : KnowledgeBase) : Prop :=
  k.model = .null → k.training = .null ∧ k.trained.isTrue = false

/-- A knowledge base that was just created. -/
def IsNew (k : KnowledgeBase) : Prop := k = { name := k.name }

/-- A property that every turn but a torn one gives to a knowledge base, or leaves to it. -/
structure IsKept (P : KnowledgeBase → Prop) : Prop where
  emptied : ∀ k : KnowledgeBase, P k.emptied
  loaded : ∀ k saved : KnowledgeBase, saved.model ≠ .null → P saved → P (k.loaded saved)
  renewed : ∀ (k : KnowledgeBase) (model training : Document), model ≠ .null → training ≠ .null →
    P { k.emptied with model := model, training := training }

theorem isKept_isWhole : IsKept IsWhole where
  emptied _ := ⟨Iff.rfl, fun h => by cases h⟩
  loaded k saved hmodel hsaved :=
    ⟨hsaved.both, fun _ => ⟨hmodel, fun h => hmodel (hsaved.both.2 h)⟩⟩
  renewed k model training hmodel htraining :=
    ⟨⟨fun h => absurd h hmodel, fun h => absurd h htraining⟩, fun h => by cases h⟩

theorem isKept_isModelFirst : IsKept IsModelFirst where
  emptied _ _ := ⟨rfl, rfl⟩
  loaded _ _ hmodel _ h := absurd h hmodel
  renewed _ _ _ hmodel _ h := absurd h hmodel

/-- A load takes over what a state says, whoever saved it. -/
theorem loaded_congr {k saved saved' : KnowledgeBase} (h : saved'.state = saved.state) :
    k.loaded saved' = k.loaded saved := by
  simp only [state, Document.object.injEq, List.cons.injEq, Prod.mk.injEq, true_and,
    and_true] at h
  rw [loaded, loaded, h.1, h.2]

theorem Turn.keeps {P : KnowledgeBase → Prop} (hP : IsKept P) {op : Operation} (hcall : op.IsCall)
    (htorn : op.IsTorn storage k → ∀ model, model ≠ .null → P { k.base.emptied with model := model })
    (hbase : P k.base)
    (hfound : ∀ d, (storage.load k.base.name k.storage).result = .ok (some d) →
      ∃ saved : KnowledgeBase, d = saved.state ∧ saved.model ≠ .null ∧ P saved)
    {base : KnowledgeBase} (h : Turn storage k op base) : P base := by
  cases h with
  | kept => exact hbase
  | emptied => exact hP.emptied k.base
  | loaded saved hload =>
    obtain ⟨saved', hstate, hmodel, hsaved⟩ := hfound _ hload
    rw [loaded_congr hstate]
    exact hP.loaded k.base saved' hmodel hsaved
  | renewed model training =>
    refine hP.renewed k.base model training ?_ ?_
    · rintro rfl
      exact hcall.1 rfl
    · rintro rfl
      exact hcall.2 rfl
  | torn model fault hdrop =>
    refine htorn ⟨hdrop⟩ model ?_
    rintro rfl
    exact hcall.1 rfl

end KnowledgeBase

/-! ## Courses of calls -/

namespace Sharing

open KnowledgeBase (IsKept IsWhole IsModelFirst)

variable {ι σ : Type} [DecidableEq ι] {storage : Storage σ} {holds : σ → Document → Prop}
  {P : KnowledgeBase → Prop} {k start : Sharing ι σ}
  {history : List (ι × KnowledgeBase.Operation)}

/-- The knowledge bases and their storage after some operations. -/
def after (storage : Storage σ) (start : Sharing ι σ)
    (history : List (ι × KnowledgeBase.Operation)) : Sharing ι σ :=
  (Course.run storage start history).now

theorem after_concat (storage : Storage σ) (start : Sharing ι σ)
    (history : List (ι × KnowledgeBase.Operation)) (e : ι × KnowledgeBase.Operation) :
    after storage start (history ++ [e]) =
      (perform storage e.1 e.2 (after storage start history)).state := by
  simp only [after, Course.run, List.foldl_append, List.foldl_cons, List.foldl_nil]
  rfl

/-- All knowledge bases have a property, and what their storage holds are states of such ones. -/
structure AllIn (P : KnowledgeBase → Prop) (holds : σ → Document → Prop) (k : Sharing ι σ) :
    Prop where
  bases : ∀ i, P (k.bases i)
  held : ∀ d, holds k.storage d →
    ∃ saved : KnowledgeBase, d = saved.state ∧ saved.model ≠ .null ∧ P saved

/-- A call keeps a property of all knowledge bases, if it is not torn or the property stands that. -/
theorem AllIn.perform (h : AllIn P holds k) (hP : IsKept P) (hstorage : storage.Remembers holds)
    {i : ι} {op : KnowledgeBase.Operation} (hcall : op.IsCall)
    (htorn : op.IsTorn storage (k.view i) →
      ∀ model, model ≠ .null → P { (k.bases i).emptied with model := model }) :
    AllIn P holds (perform storage i op k).state := by
  have hfound : ∀ d, (storage.load (k.bases i).name k.storage).result = .ok (some d) →
      ∃ saved : KnowledgeBase, d = saved.state ∧ saved.model ≠ .null ∧ P saved :=
    fun d hd => h.held d (hstorage.found _ _ d hd)
  have hturn : KnowledgeBase.Turn storage (k.view i) op (op.perform storage (k.view i)).state.base :=
    KnowledgeBase.turn_perform hcall fun d hd => (hfound d hd).imp fun _ hsaved => hsaved.1
  constructor
  · intro j
    show P (Function.update k.bases i (op.perform storage (k.view i)).state.base j)
    by_cases hj : j = i
    · subst hj
      rw [Function.update_self]
      exact hturn.keeps hP hcall htorn (h.bases j) hfound
    · rw [Function.update_of_ne hj]
      exact h.bases j
  · intro d hd
    rcases KnowledgeBase.holds_perform (k := k.view i) hstorage hd with hd | ⟨hmodel, rfl⟩
    · exact h.held d hd
    · exact ⟨k.bases i, rfl, hmodel, h.bases i⟩

/-- A property that the calls keep holds after every call, up to the first torn one that it does not
stand. -/
theorem keeps_run (hP : IsKept P) (hstorage : storage.Remembers holds)
    (hstart : AllIn P holds start) (hcalls : ∀ e ∈ history, e.2.IsCall)
    (htorn : ∀ before e, before ++ [e] <+: history →
      e.2.IsTorn storage ((after storage start before).view e.1) →
        ∀ (k : KnowledgeBase) model, model ≠ .null → P { k.emptied with model := model }) :
    ∀ before, before <+: history → AllIn P holds (after storage start before) := by
  intro before
  induction before using List.reverseRecOn with
  | nil => exact fun _ => hstart
  | append_singleton before e ih =>
    intro hbefore
    have hprefix : before <+: history := (List.prefix_append before [e]).trans hbefore
    have hcall : e.2.IsCall := hcalls e (hbefore.subset (by simp))
    rw [after_concat]
    exact (ih hprefix).perform hP hstorage hcall fun h => htorn before e hbefore h _

/-- A torn call leaves the model parameters without training parameters, and untrained. -/
theorem half_of_isTorn {i : ι} {op : KnowledgeBase.Operation} (hcall : op.IsCall)
    (h : op.IsTorn storage (k.view i)) :
    ((perform storage i op k).state.bases i).model ≠ .null ∧
      ((perform storage i op k).state.bases i).training = .null ∧
      ((perform storage i op k).state.bases i).trained = .bool false := by
  have hbase : (perform storage i op k).state.bases i =
      (op.perform storage (k.view i)).state.base := Function.update_self i _ k.bases
  rw [hbase]
  cases h with
  | intro hdrop =>
    rw [KnowledgeBase.Operation.perform, KnowledgeBase.reinitialize_of_ok hdrop]
    refine ⟨?_, rfl, rfl⟩
    rintro rfl
    exact hcall.1 rfl

omit [DecidableEq ι] in
theorem allIn_start (hnothing : ∀ d, ¬holds start.storage d) (hP : ∀ i, P (start.bases i)) :
    AllIn P holds start := ⟨hP, fun d hd => absurd hd (hnothing d)⟩

/-- Along every course of calls on knowledge bases that begin with nothing, all of them are whole
after every call exactly if no call is torn. A torn call leaves the model parameters without training
parameters, and whatever the calls, no knowledge base has training parameters, or is trained, without
model parameters. -/
theorem whole_iff_untorn (hstorage : storage.Remembers holds)
    (hnothing : ∀ d, ¬holds start.storage d) (hnew : ∀ i, (start.bases i).IsNew)
    (hcalls : ∀ e ∈ history, e.2.IsCall) :
    ((∀ before, before <+: history → ∀ i, ((after storage start before).bases i).IsWhole) ↔
      ∀ before e, before ++ [e] <+: history →
        ¬e.2.IsTorn storage ((after storage start before).view e.1)) ∧
    (∀ before e, before ++ [e] <+: history →
      e.2.IsTorn storage ((after storage start before).view e.1) →
        ((after storage start (before ++ [e])).bases e.1).model ≠ .null ∧
        ((after storage start (before ++ [e])).bases e.1).training = .null ∧
        ((after storage start (before ++ [e])).bases e.1).trained = .bool false) ∧
    ∀ before, before <+: history → ∀ i, ((after storage start before).bases i).IsModelFirst := by
  have hhalf : ∀ before e, before ++ [e] <+: history →
      e.2.IsTorn storage ((after storage start before).view e.1) → _ := fun before e hbefore h =>
    half_of_isTorn (hcalls e (hbefore.subset (by simp))) h
  refine ⟨⟨fun hwhole before e hbefore htorn => ?_, fun huntorn before hbefore i => ?_⟩, ?_, ?_⟩
  · obtain ⟨hmodel, htraining, -⟩ := hhalf before e hbefore htorn
    rw [← after_concat] at hmodel htraining
    exact hmodel ((hwhole _ hbefore e.1).both.2 htraining)
  · have hstart : AllIn IsWhole holds start := allIn_start hnothing fun i => by
      rw [hnew i]
      exact ⟨Iff.rfl, fun h => by cases h⟩
    exact (keeps_run KnowledgeBase.isKept_isWhole hstorage hstart hcalls
      (fun before e hbefore htorn => absurd htorn (huntorn before e hbefore)) before hbefore).bases i
  · intro before e hbefore htorn
    rw [after_concat]
    exact hhalf before e hbefore htorn
  · intro before hbefore i
    have hstart : AllIn IsModelFirst holds start := allIn_start hnothing fun i => by
      rw [hnew i]
      exact fun _ => ⟨rfl, rfl⟩
    exact (keeps_run KnowledgeBase.isKept_isModelFirst hstorage hstart hcalls
      (fun _ _ _ _ _ _ hmodel h => absurd h hmodel) before hbefore).bases i

/-- Parameters are made, saved and loaded; then new model parameters cannot be made. -/
def renewals : List (Bool × KnowledgeBase.Operation) :=
  [(false, KnowledgeBase.Operation.reinitialize (.ok (.int 1)) (.ok (.int 2))), (false, .save),
    (true, .load), (false, KnowledgeBase.Operation.reinitialize
      (.error (.scripted "ValueError" ⟨[]⟩)) (.ok (.int 3)))]

theorem whole_iff_untorn_renewals :
    (Storage.inFolder Codec.plain Storage.sampleFolder).Remembers
        (FileSystem.Holds Codec.plain) ∧
      (∀ d, ¬FileSystem.Holds Codec.plain Storage.sampleFiles d) ∧ (∀ i, (twins i).IsNew) ∧
      (∀ e ∈ renewals, e.2.IsCall) ∧
      ∀ before, before <+: renewals → ∀ i, ((after
        (Storage.inFolder Codec.plain Storage.sampleFolder)
        ⟨twins, Storage.sampleFiles⟩ before).bases i).IsWhole := by
  have hstorage := Storage.remembers_inFolder Codec.plain_isFaithful Storage.sampleFolder
  have hnothing : ∀ d, ¬FileSystem.Holds Codec.plain Storage.sampleFiles d := by
    rintro d ⟨place, b, hnode, -⟩
    simp only [FileSystem.node?, Storage.sampleFiles] at hnode
    grind
  have hcalls : ∀ e ∈ renewals, e.2.IsCall := by
    simp [renewals, KnowledgeBase.Operation.IsCall]
  have hnew : ∀ i, (Sharing.mk twins (Storage.sampleFiles : FileSystem Document)).bases i |>.IsNew :=
    fun _ => rfl
  obtain ⟨hwhole, -, -⟩ := whole_iff_untorn hstorage hnothing hnew hcalls
  refine ⟨hstorage, hnothing, hnew, hcalls, hwhole.2 fun before e hbefore htorn => ?_⟩
  have hmem : e ∈ renewals := hbefore.subset (by simp)
  simp only [renewals, List.mem_cons, List.not_mem_nil, or_false] at hmem
  rcases hmem with rfl | rfl | rfl | rfl <;> cases htorn

/-- New model parameters are made, and new training parameters cannot be. Then what there is is saved,
and loaded by the other knowledge base. -/
def tornRenewal : List (Bool × KnowledgeBase.Operation) :=
  [(false, KnowledgeBase.Operation.reinitialize (.ok (.int 1))
      (.error (.scripted "ValueError" ⟨[]⟩))), (false, .save), (true, .load)]

/-- A torn call leaves a knowledge base with half of its parameters, and a save and a load hand them
to another one, which then counts as trained. -/
theorem not_whole_of_torn :
    (Storage.inMemory Codec.plain).Remembers (Storage.Table.Holds Codec.plain) ∧
      (∀ d, ¬Storage.Table.Holds Codec.plain [] d) ∧ (∀ i, (twins i).IsNew) ∧
      (∀ e ∈ tornRenewal, e.2.IsCall) ∧
      ¬((after (Storage.inMemory Codec.plain) ⟨twins, []⟩ (tornRenewal.take 1)).bases
        false).IsWhole ∧
      (after (Storage.inMemory Codec.plain) ⟨twins, []⟩ tornRenewal).bases true =
        { name := Text.ofString "model", trained := .bool true, model := .int 1 } := by
  refine ⟨Storage.remembers_inMemory Codec.plain_isFaithful, ?_, fun _ => rfl, ?_, ?_, rfl⟩
  · rintro d ⟨name, b, hget, -⟩
    cases hget
  · simp [tornRenewal, KnowledgeBase.Operation.IsCall]
  · intro hwhole
    have hmodel := hwhole.both.2 rfl
    cases hmodel

end Sharing

end LinearPrograms
