import LinearPrograms.Fault
import LinearPrograms.Numeral

/-!
# Documents as numbers

`toScalar` reads a value as a scalar and `toInt` as an integer: a truth value counts as one or zero,
a text is read as a numeral, and a fraction loses its digits after the point. `number?` is the
number that a value already is, without any rounding; comparisons go by it.
-/

namespace LinearPrograms.Document

def scalarOfInt (i : Int) : Except ConversionFault Scalar :=
  let x := Rounding.nearest i
  if x.isFinite then .ok x else .error .integerTooLarge

def toScalar : Document → Except ConversionFault Scalar
  | bool b => .ok (if b then .one else .zero)
  | int i => scalarOfInt i
  | float x => .ok x
  | text t =>
    match Numeral.scalar? t with
    | some x => .ok x
    | none => .error (.badNumeral t)
  | d => .error (.notNumber d.kindName)

def truncated : Scalar → Except ConversionFault Int
  | .nan => .error .nanToInteger
  | .posInf | .negInf => .error .infinityToInteger
  | .negZero => .ok 0
  | .finite q => .ok (q.num.tdiv q.den)

def toInt : Document → Except ConversionFault Int
  | bool b => .ok (if b then 1 else 0)
  | int i => .ok i
  | float x => truncated x
  | text t =>
    match Numeral.integer t with
    | .ok i => .ok i
    | .error .malformed => .error (.badInteger t)
    | .error (.tooManyDigits count) => .error (.tooManyDigits count)
  | d => .error (.notInteger d.kindName)

/-- The number that the value is, exactly; a truth value is one or zero. -/
def number? : Document → Option Scalar
  | bool b => some (if b then .one else .zero)
  | int i => some (.finite i)
  | float x => some x
  | _ => none

def isInteger (d : Document) (i : Int) : Bool :=
  match d.number? with
  | some x => x.equals (.finite i)
  | none => false

mutual

/-- Can the value be shown in a message? An integer of more than `Numeral.digitLimit` digits cannot,
nor can a value that holds one. -/
def isWritable : Document → Bool
  | int i => decide (i.natAbs < Nat.pow 10 Numeral.digitLimit)
  | list xs => areWritable xs
  | object fs => areWritableFields fs
  | null | bool _ | float _ | text _ => true

def areWritable : List Document → Bool
  | [] => true
  | x :: rest => isWritable x && areWritable rest

def areWritableFields : List (Text × Document) → Bool
  | [] => true
  | (_, v) :: rest => isWritable v && areWritableFields rest

end

/-- The fault whose message shows a value, or that of showing it. -/
def showing (value : Document) (fault : Fault) : Fault :=
  if value.isWritable then fault else .conversion .tooManyDigitsToWrite

/-- Is `left` at most `right`, where both must be numbers? The kinds name the refused operands in
the order in which they are written. -/
def atMost (comparison : String) (left right : Document) : Except ConversionFault Bool :=
  match left.number?, right.number? with
  | some x, some y => .ok (x.le y)
  | _, _ => .error (.notOrdered comparison left.kindName right.kindName)

/-- Each value of a list read as a scalar, up to the first that is none. -/
def toScalars (ds : List Document) : Except ConversionFault (List Scalar) := ds.mapM toScalar

def parts (d : Document) : Except ConversionFault (List Document) :=
  match d.parts? with
  | some ds => .ok ds
  | none => .error (.notIterable d.kindName)

/-- The number of parts of a value, which must have some kind of parts. -/
def length (d : Document) : Except ConversionFault Nat :=
  match d.length? with
  | some n => .ok n
  | none => .error (.noLength d.kindName)

/-- A value that can be a key in a table: neither a list nor an object. -/
def asKey (d : Document) : Except ConversionFault Document :=
  match d with
  | list _ | object _ => .error (.unhashable d.kindName)
  | _ => .ok d

end LinearPrograms.Document
