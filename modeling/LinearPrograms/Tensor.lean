import LinearPrograms.Document.Number

/-!
# Tensors

A `Tensor` is an array of scalars with any number of dimensions. Nested lists become a tensor if all
lists at one depth have one length; a list without items is as deep as the array goes, and the empty
value counts as indeterminate.
-/

namespace LinearPrograms

/-- Scalars in row order with the length of each dimension. -/
structure Tensor where
  shape : List Nat
  entries : List Scalar
  deriving DecidableEq, Inhabited

namespace Tensor

def dimensionLimit : Nat := 64

/-- What is known about the shape of nested lists while they are gone through, depth first: the
lengths met on the way down to the first item, and the number of dimensions that all agree on. -/
structure Survey where
  lengths : List Nat
  dimensions : Nat
  settled : Bool
  ragged : Bool

namespace Survey

def start : Survey := ⟨[], dimensionLimit, false, false⟩

/-- The survey after an item that is no list, `depth` lists down. -/
def item (depth : Nat) (s : Survey) : Survey :=
  if s.dimensions < depth then { s with settled := true, ragged := true }
  else if s.dimensions = depth then { s with settled := true }
  else { s with dimensions := depth, ragged := s.ragged || s.settled, settled := true }

/-- The survey after the head of a list of `size` items, `depth` lists down, and whether its items
still count. -/
def list (depth size : Nat) (s : Survey) : Survey × Bool :=
  if s.dimensions < depth + 1 then ({ s with ragged := true }, false)
  else if s.settled then
    if s.lengths[depth]? = some size then
      if size = 0 then ({ s with dimensions := depth + 1 }, false) else (s, true)
    else ({ s with dimensions := depth, ragged := true }, false)
  else if size = 0 then
    (⟨s.lengths ++ [0], depth + 1, true, s.ragged⟩, false)
  else ({ s with lengths := s.lengths ++ [size] }, true)

end Survey

mutual

/-- The survey after a value `depth` lists down. -/
def survey (depth : Nat) (s : Survey) : Document → Survey
  | .list xs =>
    let (s, go) := s.list depth xs.length
    if go then surveyItems (depth + 1) s xs else s
  | _ => s.item depth

def surveyItems (depth : Nat) (s : Survey) : List Document → Survey
  | [] => s
  | x :: rest => surveyItems depth (survey depth s x) rest

end

mutual

def leaves : Document → List Document
  | .list xs => leavesOf xs
  | d => [d]

def leavesOf : List Document → List Document
  | [] => []
  | x :: rest => leaves x ++ leavesOf rest

end

/-- An entry of an array: the empty value is indeterminate. -/
def entry : Document → Except ConversionFault Scalar
  | .null => .ok .nan
  | d => d.toScalar

def ofDocument (d : Document) : Except Fault Tensor := do
  let s := survey 0 .start d
  let shape := s.lengths.take s.dimensions
  if s.ragged then
    if s.dimensions = dimensionLimit then throw (.shape (.tooDeep dimensionLimit))
    else throw (.shape (.ragged shape))
  let entries ← ((leaves d).mapM entry).mapError .conversion
  return ⟨shape, entries⟩

def ofScalars (xs : List Scalar) : Tensor := ⟨[xs.length], xs⟩

/-- The entries as nested lists, `size` of them under each entry of the first dimension. -/
def nested : List Nat → List Scalar → Document
  | [], xs => (xs.head?.map Document.float).getD .null
  | n :: rest, xs =>
    let size := rest.foldl (· * ·) 1
    .list ((List.range n).map fun i => nested rest ((xs.drop (i * size)).take size))

def toDocument (t : Tensor) : Document := nested t.shape t.entries

/-- The shape without leading dimensions of length one, down to `rank` dimensions. -/
def stripped (rank : Nat) : List Nat → List Nat
  | 1 :: rest => if rank < (1 :: rest).length then stripped rank rest else 1 :: rest
  | shape => shape

/-- The `n` entries that an array fills a row of length `n` with: a single entry is repeated, and
leading dimensions of length one do not count. -/
def spread (n : Nat) (t : Tensor) : Except ShapeFault (List Scalar) :=
  match stripped 1 t.shape with
  | [] => .ok (List.replicate n (t.entries.headD .nan))
  | [k] =>
    if k = n then .ok t.entries
    else if k = 1 then .ok (List.replicate n (t.entries.headD .nan))
    else .error (.notBroadcast [k] [n])
  | shape => .error (.notBroadcast shape [n])

/-- The entries of a row behind one zero, so that the first of them is at index one. -/
def padded (t : Tensor) : Except ShapeFault (List Scalar) :=
  match t.shape with
  | [] => .error .unsized
  | n :: _ => (t.spread n).map (Scalar.zero :: ·)

/-- The entries of a row of `n` behind the one at index zero, which is ignored. -/
def unpadded (n : Nat) (t : Tensor) : Except ShapeFault (List Scalar) :=
  if t.shape = [n + 1] then .ok (t.entries.drop 1) else .error (.paddedRow (n + 1) t.shape)

end Tensor

end LinearPrograms
