import LinearPrograms.Document.Number
import LinearPrograms.Text.UpperCase

/-!
# Relations

The three relations of a constraint, their codes and their spellings. `Relation.parse` reads a
relation from any value; a text is read without the blanks at its ends and in either case. A value
that names none is shown in the fault, unless it is too long to be.
-/

namespace LinearPrograms

/-- How the two sides of a constraint relate. -/
inductive Relation where
  | le
  | ge
  | eq
  deriving DecidableEq, Inhabited

namespace Relation

/-- All relations in the order of their codes. -/
def all : List Relation := [le, ge, eq]

def code : Relation → Int
  | le => 1
  | ge => 2
  | eq => 3

def symbol : Relation → String
  | le => "<="
  | ge => ">="
  | eq => "="

def name : Relation → String
  | le => "LE"
  | ge => "GE"
  | eq => "EQ"

def ofCode? (i : Int) : Option Relation := all.find? fun r => r.code = i

/-- The spellings of a relation: operators and its name. -/
def spellings : Relation → List String
  | le => ["<=", "=<", "LE"]
  | ge => [">=", "=>", "GE"]
  | eq => ["=", "==", "EQ"]

/-- The relation that a text spells. -/
def ofText? (t : Text) : Option Relation :=
  let key := t.strip.upper
  all.find? fun r => r.spellings.any fun s => Text.ofString s = key

/-- The relation that a value names; a number names it by its integer part. -/
def parse (value : Document) : Except Fault Relation :=
  let unknown := value.showing (.input (.unknownRelation value))
  match value with
  | .text t => (ofText? t).elim (.error unknown) .ok
  | .bool _ => .error unknown
  | d =>
    match d.toInt with
    | .ok i => (ofCode? i).elim (.error unknown) .ok
    | .error fault => .error (if fault.isOverflow then .conversion fault else unknown)

/-- A relation is taken as it is, and any other value is parsed. -/
def ofArgument : Relation ⊕ Document → Except Fault Relation
  | .inl r => .ok r
  | .inr value => parse value

def ofValue (value : Document) : Except Fault Relation :=
  (all.find? fun r => value.isInteger r.code).elim
    (.error (value.showing (.notRelation value))) .ok

end Relation

end LinearPrograms
