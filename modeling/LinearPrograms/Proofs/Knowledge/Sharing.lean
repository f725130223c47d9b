import LinearPrograms.Knowledge.Base
import LinearPrograms.Proofs.Action.Ending
import LinearPrograms.Proofs.Knowledge.Storages
import Mathlib.Logic.Function.Basic

/-!
# Knowledge bases that share a storage

Any number of knowledge bases work on one storage in memory, in turns. A save that succeeds, and
every erasing, leaves a `Mark` on the name of its knowledge base, and a `Course` keeps the latest
mark on each name beside the state.

What the table holds for a name is the encoding of the state that the latest mark has saved, if it
is a save (`Course.Tells`). One equation says how an operation changes the table
(`storage_perform`), so every step keeps that (`Course.Tells.step`), and with it every course
(`Course.tells_run`). After any course the knowledge bases therefore act as clients of one map from
names to states (`Sharing.actsAsMap`).
-/

namespace LinearPrograms

theorem Document.isPresent_eq_false {d : Document} : d.isPresent = false ↔ d = .null := by
  cases d <;> simp [isPresent]

theorem Document.isPresent_eq_true {d : Document} : d.isPresent = true ↔ d ≠ .null := by
  cases d <;> simp [isPresent]

namespace KnowledgeBase

/-- What is done with a knowledge base. The new parameters of a reinitialization may fail to be
made. -/
inductive Operation where
  | save
  | load
  | erase
  | reinitialize (newModel newTraining : Except Fault Document)
  | setModel (value : Document)
  | setTraining (value : Document)

/-- What an operation settles about what is kept under the name of its knowledge base. -/
inductive Mark where
  | saved (base : KnowledgeBase)
  | cleared

namespace Operation

variable {σ : Type}

def perform (storage : Storage σ) : Operation → Action (Stored σ) Unit
  | save => KnowledgeBase.save storage
  | load => KnowledgeBase.load storage
  | erase => KnowledgeBase.erase storage
  | reinitialize newModel newTraining => KnowledgeBase.reinitialize storage newModel newTraining
  | setModel value => update fun k => { k with model := value }
  | setTraining value => update fun k => { k with training := value }

/-- The mark that an operation leaves: a save does if it succeeds, and a reinitialization has erased
what was kept, even if it fails later. -/
def mark? (storage : Storage σ) (k : Stored σ) : Operation → Option Mark
  | save => if (KnowledgeBase.save storage k).result.isOk then some (.saved k.base) else none
  | erase => some .cleared
  | reinitialize _ _ => some .cleared
  | _ => none

end Operation

/-- A knowledge base after it has loaded the parameters of another one. -/
def loaded (k saved : KnowledgeBase) : KnowledgeBase :=
  { k with model := saved.model, training := saved.training, trained := .bool true }

/-! ## What the operations do -/

section
variable {β : Type} {codec : Codec β} {k : Stored (Storage.Table β)}

theorem onStorage_eq {σ α : Type} {x : Action σ α} {k : Stored σ} {r : Except Fault α} {s : σ}
    {log : List LogEntry} (h : x k.storage = ⟨r, s, log⟩) :
    onStorage x k = ⟨r, { k with storage := s }, log⟩ := by
  simp only [onStorage, Action.onPart, h]

theorem save_of_absent {σ : Type} {storage : Storage σ} {k : Stored σ} (h : k.base.model = .null) :
    KnowledgeBase.save storage k = ⟨.error (.knowledge .empty), k, []⟩ := by
  rw [KnowledgeBase.save, Action.read_bind, h]
  rfl

theorem save_of_present {σ : Type} {storage : Storage σ} {k : Stored σ}
    (h : k.base.model ≠ .null) :
    KnowledgeBase.save storage k =
      (onStorage (storage.save k.base.name k.base.state) >>= fun _ =>
        note "Saved" k.base.name) k := by
  rw [KnowledgeBase.save, Action.read_bind, if_pos (Document.isPresent_eq_true.2 h)]

theorem load_of_present {σ : Type} {storage : Storage σ} {k : Stored σ} (h : k.base.model ≠ .null) :
    KnowledgeBase.load storage k = ⟨.ok (), k, []⟩ := by
  rw [KnowledgeBase.load, Action.read_bind, if_pos (Document.isPresent_eq_true.2 h)]
  rfl

/-- A load of parameters that are not there asks the storage, and adopts what it finds. -/
theorem load_of_absent {σ : Type} {storage : Storage σ} {k : Stored σ} (h : k.base.model = .null) :
    KnowledgeBase.load storage k =
      (onStorage (storage.load k.base.name) >>= fun found =>
        if (found.getD .null).isPresent then do
          adopt (found.getD .null)
          note "Loaded" k.base.name
        else Action.fail (.knowledge .notLoadable)) k := by
  rw [KnowledgeBase.load, Action.read_bind, h]
  rfl

/-- A save of parameters that can be encoded puts them into the table under its name. -/
theorem save_of_encodes (h : k.base.model ≠ .null) (hstate : codec.Encodes k.base.state) :
    ∃ log, KnowledgeBase.save (Storage.inMemory codec) k =
      ⟨.ok (), { k with storage := k.storage.put k.base.name (codec.encode k.base.state).output },
        log⟩ := by
  rw [save_of_present h,
    Action.bind_eq_of_ok (onStorage_eq (Storage.inMemory_save_of_encodes hstate k.storage))]
  exact ⟨_, rfl⟩

theorem save_of_fault {fault : Fault} (h : k.base.model ≠ .null)
    (hstate : (codec.encode k.base.state).fault = some fault) :
    KnowledgeBase.save (Storage.inMemory codec) k = ⟨.error fault, k, []⟩ := by
  rw [save_of_present h]
  exact Action.bind_eq_of_error (onStorage_eq (Storage.inMemory_save_of_fault hstate k.storage))

theorem ends_adopt {σ : Type} (k : Stored σ) (saved : KnowledgeBase) :
    (adopt saved.state : Action (Stored σ) Unit).Ends k
      (fun _ t => t = { k with base := k.base.loaded saved }) fun _ _ => False := by
  have htraining : fieldOf saved.state trainingKey = .ok saved.training := rfl
  have hmodel : fieldOf saved.state modelKey = .ok saved.model := rfl
  simp [adopt, update, htraining, hmodel, loaded]

/-- A load of a saved state takes over its parameters, and the knowledge base counts as trained. -/
theorem ends_load_of_saved {saved : KnowledgeBase} (h : k.base.model = .null)
    (hsaved : Storage.decoded codec (k.storage.get? k.base.name) = .ok (some saved.state)) :
    (KnowledgeBase.load (Storage.inMemory codec)).Ends k
      (fun _ t => t = { k with base := k.base.loaded saved }) fun _ _ => False := by
  have hfound : (Storage.inMemory codec).load k.base.name k.storage =
      ⟨.ok (some saved.state), k.storage, []⟩ := by
    simp [Storage.inMemory, hsaved]
  have hstate : saved.state.isPresent = true := rfl
  unfold KnowledgeBase.load
  simp only [Action.ends_bind, Action.ends_read, Document.isPresent_eq_false.2 h,
    Bool.false_eq_true, if_false, onStorage, Action.ends_onPart, Action.ends_of_ok hfound,
    Option.getD_some, hstate, if_true]
  apply (ends_adopt _ saved).imp
  intro _ t ht
  exact ht

/-- A load of a name under which nothing is kept is refused, and nothing changes. -/
theorem load_of_nothing (h : k.base.model = .null)
    (hnothing : k.storage.get? k.base.name = none) :
    KnowledgeBase.load (Storage.inMemory codec) k = ⟨.error (.knowledge .notLoadable), k, []⟩ := by
  have hload : (Storage.inMemory codec).load k.base.name k.storage = ⟨.ok none, k.storage, []⟩ := by
    simp only [Storage.inMemory, hnothing, Storage.decoded]
  rw [load_of_absent h, Action.bind_eq_of_ok (onStorage_eq hload)]
  rfl

theorem ends_adopt_storage {σ : Type} (state : Document) (k : Stored σ) :
    (adopt state : Action (Stored σ) Unit).Ends k (fun _ t => t.storage = k.storage)
      fun _ t => t.storage = k.storage := by
  simp [adopt, update]

theorem ends_inMemory_load (codec : Codec β) (name : Text) (t : Storage.Table β) :
    ((Storage.inMemory codec).load name).Ends t (fun _ u => u = t) fun _ u => u = t := by
  unfold Action.Ends
  split
  · rfl
  · rfl

/-- Only the knowledge base itself is changed by a load. -/
theorem storage_load (codec : Codec β) (k : Stored (Storage.Table β)) :
    (KnowledgeBase.load (Storage.inMemory codec) k).state.storage = k.storage := by
  have hends : (KnowledgeBase.load (Storage.inMemory codec)).Ends k
      (fun _ t => t.storage = k.storage) fun _ t => t.storage = k.storage := by
    unfold KnowledgeBase.load
    simp only [Action.ends_bind, Action.ends_read, Action.ends_ite]
    refine ⟨fun _ => rfl, fun _ => ?_⟩
    simp only [onStorage, Action.ends_onPart]
    apply (ends_inMemory_load codec k.base.name k.storage).imp
    intro found t ht
    subst ht
    constructor
    · intro _
      exact ends_adopt_storage _ _
    · intro _
      exact rfl
  exact hends.state

theorem storage_erase (codec : Codec β) (k : Stored (Storage.Table β)) :
    (KnowledgeBase.erase (Storage.inMemory codec) k).state.storage =
      k.storage.erase k.base.name := rfl

theorem storage_reinitialize (codec : Codec β) (newModel newTraining : Except Fault Document)
    (k : Stored (Storage.Table β)) :
    (KnowledgeBase.reinitialize (Storage.inMemory codec) newModel newTraining k).state.storage =
      k.storage.erase k.base.name := by
  cases newModel <;> cases newTraining <;> rfl

end

/-! ## What an operation does to the table -/

namespace Mark

variable {β : Type}

/-- What the table holds for a name with this mark. -/
def held (codec : Codec β) : Mark → Option β
  | saved base => some (codec.encode base.state).output
  | cleared => none

/-- The table after an operation that leaves the mark on a name. -/
def applied (codec : Codec β) (name : Text) (t : Storage.Table β) : Mark → Storage.Table β
  | saved base => t.put name (codec.encode base.state).output
  | cleared => t.erase name

theorem get?_applied (codec : Codec β) (name q : Text) (t : Storage.Table β) (m : Mark) :
    (m.applied codec name t).get? q = if q = name then m.held codec else t.get? q := by
  cases m with
  | saved base => exact Storage.Table.get?_put t name q _
  | cleared => exact Storage.Table.get?_erase t name q

end Mark

namespace Operation

variable {β : Type} {codec : Codec β}

theorem mark?_save_of_encodes {k : Stored (Storage.Table β)} (h : k.base.model ≠ .null)
    (hstate : codec.Encodes k.base.state) :
    save.mark? (Storage.inMemory codec) k = some (.saved k.base) := by
  obtain ⟨log, hsave⟩ := save_of_encodes h hstate
  simp only [mark?, hsave]
  rfl

theorem mark?_save_of_error {k : Stored (Storage.Table β)} {fault : Fault}
    (h : KnowledgeBase.save (Storage.inMemory codec) k = ⟨.error fault, k, []⟩) :
    save.mark? (Storage.inMemory codec) k = none := by
  simp only [mark?, h]
  rfl

/-- A save without model parameters, and one whose state cannot be encoded, leave everything. -/
theorem save_cases (codec : Codec β) (k : Stored (Storage.Table β)) :
    (k.base.model ≠ .null ∧ codec.Encodes k.base.state) ∨
      ∃ fault, KnowledgeBase.save (Storage.inMemory codec) k = ⟨.error fault, k, []⟩ := by
  by_cases hmodel : k.base.model = .null
  · exact .inr ⟨_, save_of_absent hmodel⟩
  · cases hstate : (codec.encode k.base.state).fault with
    | none => exact .inl ⟨hmodel, hstate⟩
    | some fault => exact .inr ⟨fault, save_of_fault hmodel hstate⟩

/-- What an operation changes in the table, its mark says. -/
theorem storage_perform (codec : Codec β) (op : Operation) (k : Stored (Storage.Table β)) :
    (op.perform (Storage.inMemory codec) k).state.storage =
      match op.mark? (Storage.inMemory codec) k with
      | some m => m.applied codec k.base.name k.storage
      | none => k.storage := by
  cases op with
  | save =>
    obtain ⟨hmodel, hstate⟩ | ⟨fault, hfailed⟩ := save_cases codec k
    · obtain ⟨log, hsave⟩ := save_of_encodes hmodel hstate
      rw [mark?_save_of_encodes hmodel hstate, perform, hsave]
      rfl
    · rw [mark?_save_of_error hfailed, perform, hfailed]
  | load => exact storage_load codec k
  | erase => exact storage_erase codec k
  | reinitialize newModel newTraining => exact storage_reinitialize codec newModel newTraining k
  | setModel value => rfl
  | setTraining value => rfl

/-- A mark of a save is left on a state that can be encoded. -/
theorem encodes_of_mark? {op : Operation} {k : Stored (Storage.Table β)} {base : KnowledgeBase}
    (h : op.mark? (Storage.inMemory codec) k = some (.saved base)) :
    codec.Encodes base.state := by
  cases op with
  | save =>
    obtain ⟨hmodel, hstate⟩ | ⟨fault, hfailed⟩ := save_cases codec k
    · rw [mark?_save_of_encodes hmodel hstate] at h
      cases h
      exact hstate
    · rw [mark?_save_of_error hfailed] at h
      cases h
  | load => cases h
  | erase => cases h
  | reinitialize newModel newTraining => cases h
  | setModel value => cases h
  | setTraining value => cases h

end Operation

end KnowledgeBase

/-! ## Knowledge bases in turns -/

/-- Knowledge bases that share a storage. -/
structure Sharing (ι σ : Type) where
  bases : ι → KnowledgeBase
  storage : σ

namespace Sharing

open KnowledgeBase (Stored Mark)

variable {ι σ : Type} [DecidableEq ι]

/-- One of the knowledge bases, with the storage. -/
def view (i : ι) (k : Sharing ι σ) : Stored σ := ⟨k.bases i, k.storage⟩

def put (i : ι) (one : Stored σ) (k : Sharing ι σ) : Sharing ι σ :=
  ⟨Function.update k.bases i one.base, one.storage⟩

/-- An operation on one of the knowledge bases. -/
def perform (storage : Storage σ) (i : ι) (op : KnowledgeBase.Operation) :
    Action (Sharing ι σ) Unit := Action.onPart (view i) (put i) (op.perform storage)

/-- Knowledge bases in the course of their operations, with the latest mark on each name. -/
structure Course (ι σ : Type) where
  now : Sharing ι σ
  latest : Text → Option Mark

namespace Course

def step (storage : Storage σ) (c : Course ι σ) (e : ι × KnowledgeBase.Operation) : Course ι σ where
  now := (perform storage e.1 e.2 c.now).state
  latest :=
    match e.2.mark? storage (c.now.view e.1) with
    | some m => Function.update c.latest (c.now.bases e.1).name (some m)
    | none => c.latest

/-- The operations of a history, one after the other, on knowledge bases and an unmarked storage. -/
def run (storage : Storage σ) (start : Sharing ι σ) (history : List (ι × KnowledgeBase.Operation)) :
    Course ι σ :=
  history.foldl (step storage) ⟨start, fun _ => none⟩

variable {β : Type} {codec : Codec β} {c : Course ι (Storage.Table β)}

/-- The table holds the states that the latest marks have saved, and nothing else. -/
structure Tells (codec : Codec β) (c : Course ι (Storage.Table β)) : Prop where
  held : ∀ name, c.now.storage.get? name = (c.latest name).bind (Mark.held codec)
  encodes : ∀ name base, c.latest name = some (.saved base) → codec.Encodes base.state

theorem Tells.step (h : c.Tells codec) (e : ι × KnowledgeBase.Operation) :
    (c.step (Storage.inMemory codec) e).Tells codec := by
  have hstorage : (c.step (Storage.inMemory codec) e).now.storage = _ :=
    e.2.storage_perform codec (c.now.view e.1)
  cases hmark : e.2.mark? (Storage.inMemory codec) (c.now.view e.1) with
  | none =>
    have hlatest : (c.step (Storage.inMemory codec) e).latest = c.latest := by
      simp only [Course.step, hmark]
    rw [hmark] at hstorage
    constructor
    · intro name
      rw [hstorage, hlatest]
      exact h.held name
    · intro name base
      rw [hlatest]
      exact h.encodes name base
  | some m =>
    have hlatest : (c.step (Storage.inMemory codec) e).latest =
        Function.update c.latest (c.now.bases e.1).name (some m) := by
      simp only [Course.step, hmark]
    rw [hmark] at hstorage
    constructor
    · intro name
      rw [hstorage, hlatest]
      refine (Mark.get?_applied codec _ name _ m).trans ?_
      by_cases hname : name = (c.now.bases e.1).name
      · rw [hname, Function.update_self]
        exact if_pos rfl
      · rw [Function.update_of_ne hname]
        exact (if_neg hname).trans (h.held name)
    · intro name base
      rw [hlatest]
      by_cases hname : name = (c.now.bases e.1).name
      · rw [hname, Function.update_self]
        intro hsaved
        cases hsaved
        exact KnowledgeBase.Operation.encodes_of_mark? hmark
      · rw [Function.update_of_ne hname]
        exact h.encodes name base

/-- Along every history, the table holds what was saved last. -/
theorem tells_run (codec : Codec β) (bases : ι → KnowledgeBase)
    (history : List (ι × KnowledgeBase.Operation)) :
    (run (Storage.inMemory codec) ⟨bases, []⟩ history).Tells codec := by
  have hstart : Tells codec (⟨⟨bases, []⟩, fun _ => none⟩ : Course ι (Storage.Table β)) :=
    ⟨fun _ => rfl, fun _ _ h => by cases h⟩
  unfold run
  generalize (⟨⟨bases, []⟩, fun _ => none⟩ : Course ι (Storage.Table β)) = c at hstart
  induction history generalizing c with
  | nil => exact hstart
  | cons e rest ih => exact ih _ (hstart.step e)

end Course

/-! ## One map from names to states -/

theorem put_view (i : ι) (k : Sharing ι σ) : k.put i (k.view i) = k := by
  simp [put, view]

theorem perform_of_eq {storage : Storage σ} {i : ι} {op : KnowledgeBase.Operation}
    {k : Sharing ι σ} {result : Except Fault Unit} {log : List LogEntry}
    (h : op.perform storage (k.view i) = ⟨result, k.view i, log⟩) :
    perform storage i op k = ⟨result, k, log⟩ := by
  simp only [perform, Action.onPart, h]
  rw [put_view]

theorem ends_perform {storage : Storage σ} {i : ι} {op : KnowledgeBase.Operation}
    {k : Sharing ι σ} {Q : Unit → Sharing ι σ → Prop} {E : Fault → Sharing ι σ → Prop} :
    (perform storage i op).Ends k Q E ↔
      (op.perform storage).Ends (k.view i) (fun a t => Q a (k.put i t))
        fun e t => E e (k.put i t) := Iff.rfl

/-- The knowledge bases act as clients of one map, whose states are those of the latest marks. -/
structure ActsAsMap {β : Type} (codec : Codec β) (k : Sharing ι (Storage.Table β))
    (latest : Text → Option Mark) : Prop where
  /-- A load where a save came last takes over the parameters of that save, and changes no more. -/
  loadSaved : ∀ i base, (k.bases i).model = .null → latest (k.bases i).name = some (.saved base) →
    (perform (Storage.inMemory codec) i .load k).result = .ok () ∧
      (perform (Storage.inMemory codec) i .load k).state =
        { k with bases := Function.update k.bases i ((k.bases i).loaded base) }
  /-- Any other load of absent parameters is refused, and changes nothing. -/
  loadOther : ∀ i, (k.bases i).model = .null →
    (∀ base, latest (k.bases i).name ≠ some (.saved base)) →
      perform (Storage.inMemory codec) i .load k = ⟨.error (.knowledge .notLoadable), k, []⟩
  /-- Parameters that are there stay. -/
  loadPresent : ∀ i, (k.bases i).model ≠ .null →
    perform (Storage.inMemory codec) i .load k = ⟨.ok (), k, []⟩
  saveAbsent : ∀ i, (k.bases i).model = .null →
    perform (Storage.inMemory codec) i .save k = ⟨.error (.knowledge .empty), k, []⟩
  savePresent : ∀ i, (k.bases i).model ≠ .null → codec.Encodes (k.bases i).state →
    (perform (Storage.inMemory codec) i .save k).result = .ok ()
  erase : ∀ i, (perform (Storage.inMemory codec) i .erase k).result = .ok ()
  /-- A reinitialization succeeds if both new parameters can be made. -/
  reinitialize : ∀ i op model training,
    op = KnowledgeBase.Operation.reinitialize (.ok model) (.ok training) →
      (perform (Storage.inMemory codec) i op k).result = .ok ()
  /-- An operation under one name leaves what is kept under another one. -/
  otherNames : ∀ i op name, name ≠ (k.bases i).name →
    (perform (Storage.inMemory codec) i op k).state.storage.get? name = k.storage.get? name
  /-- An operation on one knowledge base leaves the others. -/
  otherBases : ∀ i op j, j ≠ i →
    (perform (Storage.inMemory codec) i op k).state.bases j = k.bases j

variable {β : Type} {codec : Codec β} {k : Sharing ι (Storage.Table β)}

theorem get?_perform_of_ne (i : ι) (op : KnowledgeBase.Operation) {name : Text}
    (hne : name ≠ (k.bases i).name) :
    (perform (Storage.inMemory codec) i op k).state.storage.get? name = k.storage.get? name := by
  have hstorage : (perform (Storage.inMemory codec) i op k).state.storage = _ :=
    op.storage_perform codec (k.view i)
  rw [hstorage]
  split
  · next m hmark => exact (Mark.get?_applied codec _ name _ m).trans (if_neg hne)
  · rfl

/-- After any history, the knowledge bases that share a storage, empty at first, act as clients of
one map from names to the states that were saved last. -/
theorem actsAsMap (hcodec : codec.RoundTrips) (bases : ι → KnowledgeBase)
    (history : List (ι × KnowledgeBase.Operation)) :
    ActsAsMap codec (Course.run (Storage.inMemory codec) ⟨bases, []⟩ history).now
      (Course.run (Storage.inMemory codec) ⟨bases, []⟩ history).latest := by
  have htells := Course.tells_run codec bases history
  generalize Course.run (Storage.inMemory codec) ⟨bases, []⟩ history = c at htells
  constructor
  case loadSaved =>
    intro i base hmodel hlatest
    have hdecoded : Storage.decoded codec (c.now.storage.get? (c.now.bases i).name) =
        .ok (some base.state) := by
      rw [htells.held, hlatest]
      exact congrArg (Except.map some) (hcodec base.state (htells.encodes _ base hlatest))
    have hends : (perform (Storage.inMemory codec) i .load).Ends c.now
        (fun _ t => t = c.now.put i ⟨(c.now.bases i).loaded base, c.now.storage⟩)
        fun _ _ => False := by
      rw [ends_perform]
      apply (KnowledgeBase.ends_load_of_saved (k := c.now.view i) hmodel hdecoded).imp
      intro _ t ht
      rw [ht]
      rfl
    obtain ⟨⟨⟩, hresult, hstate⟩ := hends.exists_result
    exact ⟨hresult, hstate⟩
  case loadOther =>
    intro i hmodel hother
    have hnothing : c.now.storage.get? (c.now.bases i).name = none := by
      rw [htells.held]
      cases hlatest : c.latest (c.now.bases i).name with
      | none => rfl
      | some m =>
        cases m with
        | saved base => exact absurd hlatest (hother base)
        | cleared => rfl
    exact perform_of_eq (KnowledgeBase.load_of_nothing hmodel hnothing)
  case loadPresent =>
    intro i hmodel
    exact perform_of_eq (KnowledgeBase.load_of_present hmodel)
  case saveAbsent =>
    intro i hmodel
    exact perform_of_eq (KnowledgeBase.save_of_absent hmodel)
  case savePresent =>
    intro i hmodel hstate
    obtain ⟨log, hsave⟩ := KnowledgeBase.save_of_encodes (k := c.now.view i) hmodel hstate
    exact congrArg Reply.result hsave
  case erase =>
    intro i
    rfl
  case reinitialize =>
    intro i op model training hop
    rw [hop]
    rfl
  case otherNames =>
    intro i op name hne
    exact get?_perform_of_ne i op hne
  case otherBases =>
    intro i op j hne
    exact Function.update_of_ne hne _ _

/-- Two knowledge bases of one name. -/
def twins : Bool → KnowledgeBase := fun _ => { name := Text.ofString "model" }

/-- The first of two knowledge bases is given parameters and saves them. -/
def savedByOne : Course Bool (Storage.Table Document) :=
  Course.run (Storage.inMemory Codec.plain) ⟨twins, []⟩
    [(false, .setModel (.int 1)), (false, .save)]

/-- What one of them saves, the other loads. -/
theorem actsAsMap_twins :
    Codec.plain.RoundTrips ∧ ActsAsMap Codec.plain savedByOne.now savedByOne.latest ∧
      (perform (Storage.inMemory Codec.plain) true .load savedByOne.now).state.bases true =
        { name := Text.ofString "model", trained := .bool true, model := .int 1 } := by
  have hacts : ActsAsMap Codec.plain savedByOne.now savedByOne.latest :=
    actsAsMap Codec.plain_roundTrips twins _
  obtain ⟨-, hstate⟩ := hacts.loadSaved true { name := Text.ofString "model", model := .int 1 }
    rfl rfl
  refine ⟨Codec.plain_roundTrips, hacts, ?_⟩
  rw [hstate]
  rfl

end Sharing

end LinearPrograms
