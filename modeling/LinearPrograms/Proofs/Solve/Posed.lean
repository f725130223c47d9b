import LinearPrograms.Proofs.Solve.Admission
import LinearPrograms.Proofs.Solve.Formulating

/-!
# The formulation that a request comes to

`Request.Shaped r c cs` says that a request maximizes `c` subject to constraints `cs` that fit it, and
`Request.Valid r c cs` also that there are numbers where numbers belong: the scaling mode is an
integer, and an array with one part per variable has parts that can be taken. `Request.posed r c cs`
is the formulation that such a request comes to, written down from the request alone.

On every engine that keeps a formulation, a formulation that succeeds leaves this one and nothing
else, and only a request that is not valid makes it fail (`ends_formulate_posed`). The edits of a
session that is known as a whole (`Session.Stands`) are followed by their effects, of which there is
at most one (`Session.stands_edit_of_unique`).
-/

namespace LinearPrograms

namespace Document

/-- The scalar that a value is read as, and indeterminate if it is read as none. -/
def scalar (v : Document) : Scalar := v.toScalar.toOption.getD .nan

/-- A number that can be a lower bound: far enough down, or one that a scalar holds. -/
def IsLower (v : Document) : Prop :=
  ∃ x, v.number? = some x ∧
    (x.le (.finite (-Formulation.unboundedFrom)) = true ∨ ∃ y, v.toScalar = .ok y)

/-- A number that can be an upper bound: far enough up, or one that a scalar holds. -/
def IsUpper (v : Document) : Prop :=
  ∃ x, v.number? = some x ∧
    (Scalar.le (.finite Formulation.unboundedFrom) x = true ∨ ∃ y, v.toScalar = .ok y)

theorem scalar_of_toScalar {v : Document} {x : Scalar} (h : v.toScalar = .ok x) : v.scalar = x := by
  rw [scalar, h]
  rfl

end Document

namespace Request

/-- The lower bound that a value sets, as an engine keeps it. -/
def lowerEntry (v : Document) : Scalar :=
  if v.number?.any fun x => x.le (.finite (-Formulation.unboundedFrom)) then .negInf else v.scalar

/-- The upper bound that a value sets, as an engine keeps it. -/
def upperEntry (v : Document) : Scalar :=
  if v.number?.any fun x => Scalar.le (.finite Formulation.unboundedFrom) x then .posInf
  else v.scalar

/-- One entry per variable: what an array sets, and a default where it does not count. -/
def entries {γ : Type} (d : Document) (n : Nat) (default : γ) (set : Document → γ) : List γ :=
  (List.range n).map fun j => (counted d n j).elim default set

/-- The scaling of the first run; a mode that is missing leaves that of a new formulation. -/
def scalingOf (mode : Document) : Int := mode.toInt.toOption.getD Formulation.defaultScaling

/-- The formulation of the request to maximize `c` subject to `cs`. -/
def posed (r : Request) (c : List Scalar) (cs : List Constraint) : Formulation where
  columns := c.length
  maximize := true
  verbosity := .int 0
  scaling := scalingOf r.scalingMode
  objective := c
  lower := entries r.lowerBounds c.length .zero lowerEntry
  upper := entries r.upperBounds c.length .posInf upperEntry
  integer := entries r.integerVariables c.length false Document.isTrue
  rows := cs.map Constraint.body
  relations := cs.map Constraint.relation
  rhs := cs.map Constraint.rhs

/-- An array is missing or has a length, and if it has one part per variable, each is in `P`. -/
def Supplies (d : Document) (n : Nat) (P : Document → Prop) : Prop :=
  d.isPresent = true →
    ∃ k, d.length? = some k ∧ (k = n → ∀ i < n, ∃ v, part d i = .ok v ∧ P v)

/-- A request to maximize `c` subject to `cs`, whatever its arrays and its scaling mode are. -/
structure Shaped (r : Request) (c : List Scalar) (cs : List Constraint) : Prop where
  objective : ∃ ds, r.objective = .list ds ∧ Document.toScalars ds = .ok c
  nonempty : c ≠ []
  constraints : r.constraints = cs.map .constraint
  length : ∀ k ∈ cs, k.body.length = c.length

/-- A request to maximize `c` subject to `cs`, with numbers where numbers belong. -/
structure Valid (r : Request) (c : List Scalar) (cs : List Constraint) : Prop where
  objective : ∃ ds, r.objective = .list ds ∧ Document.toScalars ds = .ok c
  nonempty : c ≠ []
  constraints : r.constraints = cs.map .constraint
  length : ∀ k ∈ cs, k.body.length = c.length
  scaling : r.scalingMode.isPresent = true → ∃ m, r.scalingMode.toInt = .ok m
  lower : Supplies r.lowerBounds c.length Document.IsLower
  upper : Supplies r.upperBounds c.length Document.IsUpper
  integer : Supplies r.integerVariables c.length fun _ => True

theorem Valid.shaped {r : Request} {c : List Scalar} {cs : List Constraint} (hr : r.Valid c cs) :
    r.Shaped c cs := { hr with }

/-- A request in shape is admitted. -/
theorem Shaped.check {r : Request} {c : List Scalar} {cs : List Constraint} (hr : r.Shaped c cs) :
    r.check = .ok (c.length, cs) := by
  obtain ⟨ds, hobjective, hc⟩ := hr.objective
  exact check_of_length hobjective (Document.forall₂_of_toScalars hc).length_eq
    (mt List.length_eq_zero_iff.1 hr.nonempty) hr.constraints hr.length

namespace Supplies

variable {d : Document} {n : Nat} {P : Document → Prop}

theorem length_ne_error (h : Supplies d n P) (hd : d.isPresent = true) (e : ConversionFault) :
    d.length ≠ .error e := by
  obtain ⟨k, hk, -⟩ := h hd
  rw [Document.length, hk]
  exact fun h => by cases h

theorem hasLength_ne_error (h : Supplies d n P) (e : Fault) : hasLength d n ≠ .error e := by
  unfold hasLength
  split
  · rename_i hd
    cases hlength : d.length with
    | error x => exact absurd hlength (h.length_ne_error hd x)
    | ok k => exact fun h => by cases h
  · exact fun h => by cases h

theorem isPresent_of_length {k : Nat} (h : d.length? = some k) : d.isPresent = true := by
  cases d with
  | null => cases h
  | _ => rfl

theorem part_of_length (h : Supplies d n P) (hn : d.length? = some n) {i : Nat} (hi : i < n) :
    ∃ v, part d i = .ok v ∧ P v := by
  obtain ⟨k, hk, hparts⟩ := h (isPresent_of_length hn)
  exact hparts (Option.some.inj (hk.symm.trans hn)) i hi

theorem part_ne_error (h : Supplies d n P) (hn : d.length? = some n) {i : Nat} (hi : i < n)
    (e : Fault) : part d i ≠ .error e := by
  obtain ⟨v, hv, -⟩ := h.part_of_length hn hi
  rw [hv]
  exact fun h => by cases h

theorem of_counted (h : Supplies d n P) {i : Nat} (hi : i < n) {v : Document}
    (hv : counted d n i = some v) : P v := by
  unfold counted at hv
  split at hv
  · rename_i hd
    obtain ⟨w, hw, hP⟩ := h.part_of_length hd.2 hi
    rw [hw] at hv
    obtain rfl : w = v := Option.some.inj hv
    exact hP
  · cases hv

end Supplies

end Request

/-! ## Edits whose effect is known -/

namespace Formulation

variable {f : Formulation}

/-- Which values are taken as bounds, told for both sides at once: far out a number is taken for an
infinity, and elsewhere it is taken if a scalar holds it. -/
theorem bound_eq_ok {bound : Except ConversionFault Scalar} {isFar : Scalar → Bool}
    {infinite b : Scalar} {v : Document}
    (hnumber : ∀ x, v.number? = some x → bound = if isFar x then .ok infinite else v.toScalar)
    (hother : v.number? = none → bound ≠ .ok b) :
    bound = .ok b ↔
      (∃ x, v.number? = some x ∧ (isFar x = true ∨ ∃ y, v.toScalar = .ok y)) ∧
        b = if v.number?.any isFar then infinite else v.scalar := by
  cases hx : v.number? with
  | none => exact iff_of_false (hother hx) fun ⟨⟨x, hnone, _⟩, _⟩ => by cases hnone
  | some x =>
    rw [hnumber x hx, Option.any_some]
    by_cases hfar : isFar x = true
    · rw [if_pos hfar, if_pos hfar]
      constructor
      · rintro ⟨⟩
        exact ⟨⟨x, rfl, .inl hfar⟩, rfl⟩
      · rintro ⟨-, rfl⟩
        rfl
    · rw [if_neg hfar, if_neg hfar]
      constructor
      · intro hb
        exact ⟨⟨x, rfl, .inr ⟨b, hb⟩⟩, (Document.scalar_of_toScalar hb).symm⟩
      · rintro ⟨⟨x', hsame, hheld⟩, rfl⟩
        obtain rfl := Option.some.inj hsame
        obtain ⟨y, hy⟩ := hheld.resolve_left hfar
        rw [Document.scalar_of_toScalar hy, hy]

theorem lowerBound_eq_ok {v : Document} {b : Scalar} :
    lowerBound v = .ok b ↔ v.IsLower ∧ b = Request.lowerEntry v :=
  bound_eq_ok (fun _ => lowerBound_of_number) lowerBound_ne_ok

theorem upperBound_eq_ok {v : Document} {b : Scalar} :
    upperBound v = .ok b ↔ v.IsUpper ∧ b = Request.upperEntry v :=
  bound_eq_ok (fun _ => upperBound_of_number) upperBound_ne_ok

theorem position_of_lt {k : Nat} (h : k < f.columns) : f.position (.int (k + 1)) = .ok k :=
  (position_int k).trans (if_pos h)

/-- An edit that takes a bound puts it at the position of its column. -/
theorem put_bound_iff {bound : Except ConversionFault Scalar} {P : Prop} {x : Scalar}
    (put : Nat → Scalar → Formulation) (hbound : ∀ b, bound = .ok b ↔ P ∧ b = x) {k : Nat}
    (hk : k < f.columns) {g : Formulation} :
    (∃ b j, bound = .ok b ∧ f.position (.int (k + 1)) = .ok j ∧ g = put j b) ↔
      P ∧ g = put k x := by
  constructor
  · rintro ⟨b, j, hb, hj, rfl⟩
    obtain ⟨hP, rfl⟩ := (hbound b).1 hb
    obtain rfl := Except.ok.inj ((position_of_lt hk).symm.trans hj)
    exact ⟨hP, rfl⟩
  · rintro ⟨hP, rfl⟩
    exact ⟨x, k, (hbound x).2 ⟨hP, rfl⟩, position_of_lt hk, rfl⟩

theorem effect_lower_iff {k : Nat} (hk : k < f.columns) {v : Document} {g : Formulation} :
    (Edit.lower (.int (k + 1)) v).Effect f g ↔
      v.IsLower ∧ g = { f with lower := f.lower.set k (Request.lowerEntry v) } :=
  put_bound_iff (fun j b => { f with lower := f.lower.set j b }) (fun _ => lowerBound_eq_ok) hk

theorem effect_upper_iff {k : Nat} (hk : k < f.columns) {v : Document} {g : Formulation} :
    (Edit.upper (.int (k + 1)) v).Effect f g ↔
      v.IsUpper ∧ g = { f with upper := f.upper.set k (Request.upperEntry v) } :=
  put_bound_iff (fun j b => { f with upper := f.upper.set j b }) (fun _ => upperBound_eq_ok) hk

theorem effect_integer_iff {k : Nat} (hk : k < f.columns) {v : Document} {g : Formulation} :
    (Request.integerEdit (.int (k + 1)) v).Effect f g ↔
      True ∧ g = { f with integer := f.integer.set k v.isTrue } := by
  constructor
  · rintro ⟨j, hj, rfl⟩
    obtain rfl := Except.ok.inj ((position_of_lt hk).symm.trans hj)
    exact ⟨trivial, rfl⟩
  · rintro ⟨-, rfl⟩
    exact ⟨k, position_of_lt hk, rfl⟩

end Formulation

theorem Edit.Effect.unique {e : Edit} {f g g' : Formulation} (h : e.Effect f g)
    (h' : e.Effect f g') : g' = g :=
  (Prod.mk.inj ((Formulation.edit_eq_ok.2 h').symm.trans (Formulation.edit_eq_ok.2 h))).2

/-- Is the call a run? -/
def Event.isRun : Event → Bool
  | .solved => true
  | _ => false

namespace Session

variable {β : Type} {runner : Runner β} {initial : β}

/-- The problem of a session is not released, and this is all that it keeps; the engine received so
many runs. -/
def Stands (f : Formulation) (solution : Option Solution) (b : β) (runs : Nat)
    (s : Session (LoadedProblem β)) : Prop :=
  s.state = { formulation := f, solution := solution, backend := b } ∧
    s.events.countP Event.isRun = runs

/-- The engine received so many runs, and they left its backend so. -/
def Ran (runs : Nat) (b : β) (t : Session (LoadedProblem β)) : Prop :=
  t.events.countP Event.isRun = runs ∧ t.state.backend = b

section
variable {f g : Formulation} {solution : Option Solution} {b : β} {runs : Nat}
  {s : Session (LoadedProblem β)} {e : Edit}

theorem Stands.ran (h : s.Stands f solution b runs) : s.Ran runs b := ⟨h.2, by rw [h.1]⟩

/-- The release of the problem is no run and leaves the backend as it is. -/
theorem Ran.released (h : s.Ran runs b) :
    Ran runs b ⟨(LoadedProblem.release s.state).state, s.events ++ [.released]⟩ := by
  refine ⟨?_, h.2⟩
  rw [List.countP_append, h.1]
  rfl

/-- An edit that has one effect if any has this effect, or it fails and runs nothing. -/
theorem stands_edit_of_unique (hs : s.Stands f solution b runs)
    (h : ∀ g', e.Effect f g' → g' = g) :
    (edit (.ofRunner runner initial) e).Ends s (fun _ t => t.Stands g solution b runs)
      fun _ t => (∀ g', ¬e.Effect f g') ∧ t.Ran runs b := by
  obtain ⟨hstate, hruns⟩ := hs
  have hcount : (s.events ++ [Event.edited e]).countP Event.isRun = runs := by
    rw [List.countP_append, hruns]
    rfl
  have hedit : (Engine.ofRunner runner initial).answer (.edited e) s.state = _ :=
    LoadedProblem.edit_of_alive (by rw [hstate]) e
  rw [edit, ends_call, Action.Ends, hedit, hstate]
  dsimp only
  cases he : (f.edit e).1 with
  | ok u =>
    obtain rfl := h _ (Formulation.effect_of_edit (Prod.ext he rfl))
    exact ⟨rfl, hcount⟩
  | error fault =>
    refine ⟨fun g' hg' => ?_, hcount, rfl⟩
    rw [Formulation.edit_eq_ok.2 hg'] at he
    cases he

theorem stands_edit {E : Fault → Session (LoadedProblem β) → Prop}
    (hs : s.Stands f solution b runs) (h : e.Effect f g) :
    (edit (.ofRunner runner initial) e).Ends s (fun _ t => t.Stands g solution b runs) E :=
  (stands_edit_of_unique hs fun _ => h.unique).weaken fun _ _ he => absurd h (he.1 g)

end

end Session

/-! ## The steps of a formulation -/

namespace Request

variable {β : Type} {runner : Runner β} {initial : β} {solution : Option Solution} {b : β}
  {runs : Nat} {s : Session (LoadedProblem β)} {E : Fault → Session (LoadedProblem β) → Prop}

theorem map_range_set {γ : Type} (a : Nat → γ) (n k : Nat) (y : γ) :
    ((List.range n).map a).set k y = (List.range n).map fun j => if j = k then y else a j := by
  apply List.ext_getElem (by simp)
  intro j h1 h2
  simp only [List.getElem_set, List.getElem_map, List.getElem_range]
  by_cases h : k = j
  · simp [h]
  · simp [h, Ne.symm h]

/-- Edits of all columns fill a list of a formulation with the entries of the array, unless the array
does not supply what they need. -/
theorem stands_editColumns {γ : Type} {F : List γ → Formulation} {d : Document} {n : Nat}
    {P : Document → Prop} {toEdit : Document → Document → Edit} {default : γ} {set : Document → γ}
    (heffect : ∀ k < n, ∀ v xs g, (toEdit (.int (k + 1)) v).Effect (F xs) g ↔
      P v ∧ g = F (xs.set k (set v)))
    (hs : s.Stands (F (List.replicate n default)) solution b runs) :
    (editColumns (.ofRunner runner initial) d n toEdit).Ends s
      (fun _ t => t.Stands (F (entries d n default set)) solution b runs)
      fun _ t => ¬Supplies d n P ∧ t.Ran runs b := by
  refine ends_editColumns
    (S := fun a t => t.Stands (F ((List.range n).map a)) solution b runs)
    (fun s e hs he => ⟨fun hd => hd.hasLength_ne_error e he, hs.ran⟩)
    (fun hn k hk _ s e hs he => ⟨fun hd => hd.part_ne_error hn hk e he, hs.ran⟩) ?_ ?_ ?_
  · intro k hk v a t hv ht
    have h : ∀ g, (toEdit (.int (k + 1)) v).Effect (F ((List.range n).map a)) g ↔
        P v ∧ g = F ((List.range n).map fun j => if j = k then set v else a j) := by
      intro g
      rw [heffect k hk, map_range_set]
    refine (Session.stands_edit_of_unique ht fun g hg => ((h g).1 hg).2).weaken fun _ u hu => ?_
    exact ⟨fun hd => hu.1 _ ((h _).2 ⟨hd.of_counted hk hv, rfl⟩), hu.2⟩
  · intro a a' t haa' ht
    have hmap : (List.range n).map a = (List.range n).map a' :=
      List.map_congr_left fun j hj => haa' j (List.mem_range.1 hj)
    rwa [← hmap]
  · rwa [List.map_const', List.length_range]

section
variable {f : Formulation} {d : Document} {n : Nat} (hn : f.columns = n)
include hn

theorem stands_lower (hf : f.lower = List.replicate n .zero) (hs : s.Stands f solution b runs) :
    (editColumns (.ofRunner runner initial) d n .lower).Ends s
      (fun _ t => t.Stands { f with lower := entries d n .zero lowerEntry } solution b runs)
      fun _ t => ¬Supplies d n Document.IsLower ∧ t.Ran runs b :=
  stands_editColumns (F := fun xs => { f with lower := xs })
    (fun _ hk _ xs _ => Formulation.effect_lower_iff (f := { f with lower := xs }) (hn ▸ hk))
    (by rwa [← hf])

theorem stands_upper (hf : f.upper = List.replicate n .posInf) (hs : s.Stands f solution b runs) :
    (editColumns (.ofRunner runner initial) d n .upper).Ends s
      (fun _ t => t.Stands { f with upper := entries d n .posInf upperEntry } solution b runs)
      fun _ t => ¬Supplies d n Document.IsUpper ∧ t.Ran runs b :=
  stands_editColumns (F := fun xs => { f with upper := xs })
    (fun _ hk _ xs _ => Formulation.effect_upper_iff (f := { f with upper := xs }) (hn ▸ hk))
    (by rwa [← hf])

theorem stands_integer (hf : f.integer = List.replicate n false)
    (hs : s.Stands f solution b runs) :
    (editColumns (.ofRunner runner initial) d n integerEdit).Ends s
      (fun _ t => t.Stands { f with integer := entries d n false Document.isTrue } solution b runs)
      fun _ t => ¬Supplies d n (fun _ => True) ∧ t.Ran runs b :=
  stands_editColumns (F := fun xs => { f with integer := xs })
    (fun _ hk _ xs _ => Formulation.effect_integer_iff (f := { f with integer := xs }) (hn ▸ hk))
    (by rwa [← hf])

end

/-- The rows of the constraints follow the rows that are there. -/
theorem stands_addRows :
    ∀ (cs : List Constraint) {f : Formulation} {s : Session (LoadedProblem β)},
      s.Stands f solution b runs → (∀ k ∈ cs, k.body.length = f.columns) →
      (addRows (.ofRunner runner initial) cs).Ends s
        (fun _ t => t.Stands { f with
          rows := f.rows ++ cs.map Constraint.body
          relations := f.relations ++ cs.map Constraint.relation
          rhs := f.rhs ++ cs.map Constraint.rhs } solution b runs) E
  | [], f, s, hs, _ => by
    simp only [List.map_nil, List.append_nil]
    exact hs
  | k :: cs, f, s, hs, hlen => by
    have heffect : (Edit.constraint (.ofScalars (.zero :: k.body)) (.int k.relation.code)
        (.float k.rhs)).Effect f { f with
          rows := f.rows ++ [k.body], relations := f.relations ++ [k.relation],
          rhs := f.rhs ++ [k.rhs] } :=
      ⟨k.body, k.relation, k.rhs, Formulation.unpadded_of_length (hlen k (.head cs)),
        Formulation.relationOf_code k.relation, rfl, rfl⟩
    rw [addRows, addRow, show Document.ofScalars k.body = .list (k.body.map .float) from rfl,
      paddedRow_of_toScalars (Document.toScalars_float k.body), Action.ofExcept_ok_bind]
    refine (Session.stands_edit hs heffect).bind fun _ t ht => ?_
    have ih := stands_addRows cs ht fun k' hk' => hlen k' (.tail k hk')
    simpa only [List.append_assoc, List.map_cons, List.singleton_append] using ih

/-- A note on the length of an array leaves a session as it stands, unless there is no length. -/
theorem stands_noteLength {f : Formulation} {name : String} {d : Document} {n : Nat}
    {P : Document → Prop} (hs : s.Stands f solution b runs) :
    (noteLength name d n).Ends s (fun _ t => t.Stands f solution b runs)
      fun _ t => ¬Supplies d n P ∧ t.Ran runs b :=
  ends_noteLength (fun e hd he => ⟨fun h => h.length_ne_error hd e he, hs.ran⟩) hs

/-- A request in shape is formulated as it is posed, or it is not valid and nothing is run. -/
theorem ends_formulate_posed {r : Request} {c : List Scalar} {cs : List Constraint}
    (hr : r.Shaped c cs) (hs : s.Stands (.ofSize 0 c.length) solution b runs) :
    (formulate (.ofRunner runner initial) r c.length cs).Ends s
      (fun _ t => t.Stands (r.posed c cs) solution b runs)
      fun _ t => ¬r.Valid c cs ∧ t.Ran runs b := by
  obtain ⟨ds, hobjective, hc⟩ := hr.objective
  rw [formulate, hobjective, paddedRow_of_toScalars hc]
  refine (Session.stands_edit (e := .verbosity (.int 0)) hs ⟨_, rfl, rfl⟩).bind fun _ s hs => ?_
  refine (Session.stands_edit (e := .maximize) hs rfl).bind fun _ s hs => ?_
  rw [Action.ofExcept_ok_bind]
  refine (Session.stands_edit (e := .objective (.ofScalars (.zero :: c))) hs
    ⟨c, Formulation.unpadded_of_length rfl, rfl⟩).bind fun _ s hs => ?_
  -- a missing mode reads as the default, so the scaling is as posed whether it is set or not
  refine Action.ends_optional (P := fun t => t.Stands { Formulation.ofSize 0 c.length with
      maximize := true, objective := c, scaling := scalingOf r.scalingMode } solution b runs)
    (fun hmode => ?_) (fun hmode => ?_) fun _ s hs => ?_
  · have hdefault : scalingOf r.scalingMode = Formulation.defaultScaling := by
      cases hm : r.scalingMode with
      | null => rfl
      | _ => simp [hm, Document.isPresent] at hmode
    rwa [hdefault]
  · refine (Session.stands_edit_of_unique (e := .scaling r.scalingMode) hs ?_).weaken ?_
    · rintro g ⟨m, hm, rfl⟩
      have hscaling : scalingOf r.scalingMode = m := by rw [scalingOf, hm]; rfl
      rw [hscaling]
      rfl
    · rintro e t ⟨hnone, hran⟩
      refine ⟨fun hvalid => ?_, hran⟩
      obtain ⟨m, hm⟩ := hvalid.scaling hmode
      exact hnone _ ⟨m, hm, rfl⟩
  have hlower : ∀ (e : Fault) (t : Session (LoadedProblem β)),
      ¬Supplies r.lowerBounds c.length Document.IsLower ∧ t.Ran runs b →
        ¬r.Valid c cs ∧ t.Ran runs b := fun _ _ h => ⟨fun hvalid => h.1 hvalid.lower, h.2⟩
  have hupper : ∀ (e : Fault) (t : Session (LoadedProblem β)),
      ¬Supplies r.upperBounds c.length Document.IsUpper ∧ t.Ran runs b →
        ¬r.Valid c cs ∧ t.Ran runs b := fun _ _ h => ⟨fun hvalid => h.1 hvalid.upper, h.2⟩
  have hinteger : ∀ (e : Fault) (t : Session (LoadedProblem β)),
      ¬Supplies r.integerVariables c.length (fun _ => True) ∧ t.Ran runs b →
        ¬r.Valid c cs ∧ t.Ran runs b := fun _ _ h => ⟨fun hvalid => h.1 hvalid.integer, h.2⟩
  refine ((stands_noteLength hs).weaken hlower).bind fun _ s hs => ?_
  refine ((stands_noteLength hs).weaken hupper).bind fun _ s hs => ?_
  refine ((stands_noteLength hs).weaken hinteger).bind fun _ s hs => ?_
  refine ((stands_lower rfl rfl hs).weaken hlower).bind fun _ s hs => ?_
  refine ((stands_upper rfl rfl hs).weaken hupper).bind fun _ s hs => ?_
  refine ((stands_integer rfl rfl hs).weaken hinteger).bind fun _ s hs => ?_
  refine (stands_addRows cs hs hr.length).bind fun _ s hs => ?_
  exact hs

/-- A valid request is formulated as it is posed, and no step of that fails. -/
theorem formulates_posed {r : Request} {c : List Scalar} {cs : List Constraint}
    (hr : r.Valid c cs) (hs : s.Stands (.ofSize 0 c.length) solution b runs) :
    (formulate (.ofRunner runner initial) r c.length cs).Ends s
      (fun _ t => t.Stands (r.posed c cs) solution b runs) E :=
  (ends_formulate_posed hr.shaped hs).weaken fun _ _ h => absurd hr h.1

end Request

end LinearPrograms
