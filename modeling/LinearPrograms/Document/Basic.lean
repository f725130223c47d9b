import LinearPrograms.Scalar.Show
import LinearPrograms.Text.Quoted

/-!
# Documents

A `Document` is a value as callers and files hand it over, before it is known what it is meant to
be: the empty value, a truth value, an integer, a scalar, a text, a list, or an object whose fields
keep the order in which their keys first occur.
-/

namespace LinearPrograms

/-- A value of a document. -/
inductive Document where
  | null
  | bool (value : Bool)
  | int (value : Int)
  | float (value : Scalar)
  | text (value : Text)
  | list (items : List Document)
  | object (fields : List (Text × Document))
  deriving Inhabited

namespace Document

def ofString (s : String) : Document := text (Text.ofString s)

def ofScalars (xs : List Scalar) : Document := list (xs.map float)

def kindName : Document → String
  | null => "NoneType"
  | bool _ => "bool"
  | int _ => "int"
  | float _ => "float"
  | text _ => "str"
  | list _ => "list"
  | object _ => "dict"

def isPresent : Document → Bool
  | null => false
  | _ => true

/-- Does the value count as true? The empty value, zero and whatever has no parts do not. -/
def isTrue : Document → Bool
  | null => false
  | bool b => b
  | int i => i != 0
  | float x => !x.isZero
  | text t => !t.isEmpty
  | list xs => !xs.isEmpty
  | object fs => !fs.isEmpty

def length? : Document → Option Nat
  | text t => some t.length
  | list xs => some xs.length
  | object fs => some fs.length
  | _ => none

/-- The parts of a value in order: characters of a text, items of a list, keys of an object. -/
def parts? : Document → Option (List Document)
  | text t => some (t.pieces.map text)
  | list xs => some xs
  | object fs => some (fs.map fun f => text f.1)
  | _ => none

def lookup (key : Text) : List (Text × Document) → Option Document
  | [] => none
  | (k, v) :: rest => if k = key then some v else lookup key rest

/-- The list of fields with a value put under a key: in its place if it is there, else at the end.
-/
def store (key : Text) (value : Document) : List (Text × Document) → List (Text × Document)
  | [] => [(key, value)]
  | (k, v) :: rest => if k = key then (k, value) :: rest else (k, v) :: store key value rest

def field? (d : Document) (key : String) : Option Document :=
  match d with
  | object fs => lookup (Text.ofString key) fs
  | _ => none

/-- The value of a field that may be missing, which is the same as being empty. -/
def fieldOrNull (d : Document) (key : String) : Document := (d.field? key).getD null

/-- The parts of a bracketed form, separated by commas. -/
def commaSeparated : List String → String := String.intercalate ", "

mutual

/-- The value as messages show it inside other values: texts are quoted. -/
def quoted : Document → String
  | null => "None"
  | bool b => if b then "True" else "False"
  | int i => toString i
  | float x => x.render
  | text t => t.quoted
  | list xs => "[" ++ commaSeparated (quotedItems xs) ++ "]"
  | object fs => "\x7b" ++ commaSeparated (quotedFields fs) ++ "\x7d"

def quotedItems : List Document → List String
  | [] => []
  | x :: rest => quoted x :: quotedItems rest

def quotedFields : List (Text × Document) → List String
  | [] => []
  | (k, v) :: rest => (k.quoted ++ ": " ++ quoted v) :: quotedFields rest

end

/-- The value as messages show it on its own: a text stands for itself. -/
def shown : Document → String
  | text t => t.toString
  | d => d.quoted

end Document

end LinearPrograms
