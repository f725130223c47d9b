import LinearPrograms.Document.Number

/-!
# Reading JSON

`Json.read` reads a document from code points. It also takes `NaN`, `Infinity` and `-Infinity` for
numbers; an object keeps a repeated key once, in its first place and with its last value. A number
with a fraction or an exponent is a scalar, any other an integer. The first flaw stops the reading:
a syntax error with its offset, an integer with too many digits, or lists and objects nested too
deeply.

How deeply they may be nested is up to the machine that reads: each list and each object takes some
of the room that it has for calls. `Json.readWithin` reads with any limit. `Json.nestingLimit` is an
assumption about the machine: it has room for a thousand calls, of which a few are under way when the
reading begins.
-/

namespace LinearPrograms.Json

/-- Why code points are not a document. -/
inductive Flaw where
  | malformed (problem : String) (offset : Nat)
  | tooManyDigits (count : Nat)
  | tooNested (kind : String)

/-- A place in the input: its offset, and the code points from there on. -/
structure Cursor where
  offset : Nat
  rest : List Nat

/-- How deeply lists and objects may be nested, as far as is assumed of the machine. -/
def nestingLimit : Nat := 985

def isBlank (c : Nat) : Bool := c == 0x20 || c == 0x09 || c == 0x0a || c == 0x0d

def isDigit (c : Nat) : Bool := 0x30 ≤ c && c ≤ 0x39

namespace Cursor

/-- The place after `count` code points. -/
def advance (count : Nat) (c : Cursor) : Cursor := ⟨c.offset + count, c.rest.drop count⟩

def skip (c : Cursor) : Cursor := c.advance (c.rest.takeWhile isBlank).length

def startsWith (c : Cursor) (s : String) : Bool := (Text.ofString s).points.isPrefixOf c.rest

def malformed (c : Cursor) (problem : String) : Flaw := .malformed problem c.offset

end Cursor

/-! ## Strings -/

def hexValue? (c : Nat) : Option Nat :=
  if isDigit c then some (c - 0x30)
  else if 0x61 ≤ c && c ≤ 0x66 then some (c - 0x57)
  else if 0x41 ≤ c && c ≤ 0x46 then some (c - 0x37)
  else none

def hexValue4? (a b c d : Nat) : Option Nat := do
  return (((← hexValue? a) * 16 + (← hexValue? b)) * 16 + (← hexValue? c)) * 16 + (← hexValue? d)

def shortEscape? (c : Nat) : Option Nat :=
  if c = 0x22 || c = 0x5c || c = 0x2f then some c
  else if c = 0x62 then some 0x08
  else if c = 0x66 then some 0x0c
  else if c = 0x6e then some 0x0a
  else if c = 0x72 then some 0x0d
  else if c = 0x74 then some 0x09
  else none

/-- Is the value the first half of a surrogate pair? -/
def isHighSurrogate (u : Nat) : Bool := 0xd800 ≤ u && u ≤ 0xdbff

/-- Is the value the second half of a surrogate pair? -/
def isLowSurrogate (u : Nat) : Bool := 0xdc00 ≤ u && u ≤ 0xdfff

def pairValue (high low : Nat) : Nat := 0x10000 + (high - 0xd800) * 1024 + (low - 0xdc00)

/-- The code point that an escape with hexadecimal digits stands for, and the number of code points
that it takes after the letter `u`. The two halves of a surrogate pair are one code point. -/
def longEscape (offset : Nat) : List Nat → Except Flaw (Nat × Nat)
  | a :: b :: c :: d :: next :: rest => do
    let invalid := Flaw.malformed "Invalid \\uXXXX escape"
    let some unit := hexValue4? a b c d | throw (invalid offset)
    match next :: rest with
    | 0x5c :: 0x75 :: e :: f :: g :: h :: _ :: _ =>
      if isHighSurrogate unit then
        let some second := hexValue4? e f g h | throw (invalid (offset + 6))
        if isLowSurrogate second then return (pairValue unit second, 10)
      return (unit, 4)
    | _ => return (unit, 4)
  | _ => .error (.malformed "Invalid \\uXXXX escape" offset)

/-- The code points of a string up to its closing quote, and the place after it. The string began at
offset `start`, and what is read of it stands in `before`, last one first; `fuel` bounds its
length. -/
def stringFrom (start : Nat) :
    (fuel : Nat) → (before : List Nat) → Cursor → Except Flaw (Text × Cursor)
  | 0, _, _ => .error (.malformed "Unterminated string starting at" start)
  | fuel + 1, before, c =>
    match c.rest with
    | [] => .error (.malformed "Unterminated string starting at" start)
    | 0x22 :: _ => .ok (⟨before.reverse⟩, c.advance 1)
    | [0x5c] => .error (.malformed "Unterminated string starting at" start)
    | 0x5c :: 0x75 :: rest => do
      let (point, taken) ← longEscape (c.offset + 1) rest
      stringFrom start fuel (point :: before) (c.advance (2 + taken))
    | 0x5c :: letter :: _ =>
      match shortEscape? letter with
      | some point => stringFrom start fuel (point :: before) (c.advance 2)
      | none => .error (c.malformed "Invalid \\escape")
    | point :: _ =>
      if point < 0x20 then .error (c.malformed "Invalid control character at")
      else stringFrom start fuel (point :: before) (c.advance 1)

def string (c : Cursor) : Except Flaw (Text × Cursor) :=
  stringFrom c.offset c.rest.length [] (c.advance 1)

/-! ## Numbers -/

def exponentLength : List Nat → Nat
  | mark :: rest =>
    if mark = 0x65 || mark = 0x45 then
      let sign :=
        match rest with
        | s :: _ => if s = 0x2b || s = 0x2d then 1 else 0
        | [] => 0
      let digits := ((rest.drop sign).takeWhile isDigit).length
      if digits = 0 then 0 else 1 + sign + digits
    else 0
  | [] => 0

def fractionLength : List Nat → Nat
  | 0x2e :: rest =>
    let digits := (rest.takeWhile isDigit).length
    if digits = 0 then 0 else 1 + digits
  | _ => 0

/-- The number of digits before a fraction: a zero stands alone. -/
def wholeLength : List Nat → Nat
  | 0x30 :: _ => 1
  | cs => (cs.takeWhile isDigit).length

def characters (cs : List Nat) : List Char := cs.map Text.character

/-- The number at this place, if there is one, and the place after it. -/
def number? (c : Cursor) : Option (Except Flaw Document × Cursor) :=
  let sign := if c.rest.head? = some 0x2d then 1 else 0
  let unsigned := c.rest.drop sign
  let whole := wholeLength unsigned
  if whole = 0 then none
  else
    let fraction := fractionLength (unsigned.drop whole)
    let exponent := exponentLength (unsigned.drop (whole + fraction))
    let size := whole + fraction + exponent
    let after := c.advance (sign + size)
    if fraction + exponent = 0 then
      if Numeral.digitLimit < whole then some (.error (.tooManyDigits whole), after)
      else
        let value := Numeral.digitsValue 0 (characters (unsigned.take whole))
        some (.ok (.int (if sign = 1 then -(value : Int) else value)), after)
    else
      let value := (Numeral.magnitude? (characters (unsigned.take size))).getD .zero
      some (.ok (.float (value.negateIf (sign == 1))), after)

/-! ## Documents -/

/-- The names that stand for a value. -/
def names : List (String × Document) :=
  [("null", .null), ("true", .bool true), ("false", .bool false), ("NaN", .float .nan),
   ("Infinity", .float .posInf), ("-Infinity", .float .negInf)]

/-- The value that is no string, list or object at this place, and the place after it. -/
def atom (c : Cursor) : Except Flaw (Document × Cursor) :=
  match names.find? fun entry => c.startsWith entry.1 with
  | some entry => .ok (entry.2, c.advance entry.1.length)
  | none =>
    match number? c with
    | some (.ok d, after) => .ok (d, after)
    | some (.error flaw, _) => .error flaw
    | none => .error (c.malformed "Expecting value")

mutual

/-- The value at this place, inside `depth` of at most `limit` lists and objects, and the place after
it. -/
def value (limit depth : Nat) : (fuel : Nat) → Cursor → Except Flaw (Document × Cursor)
  | 0, c => .error (c.malformed "Expecting value")
  | fuel + 1, c =>
    match c.rest with
    | 0x22 :: _ => do
      let (t, after) ← string c
      return (.text t, after)
    | 0x5b :: _ => do
      if limit ≤ depth then throw (.tooNested "array")
      let inside := (c.advance 1).skip
      if inside.rest.head? = some 0x5d then return (.list [], inside.advance 1)
      let (items, after) ← items limit (depth + 1) fuel [] inside
      return (.list items, after)
    | 0x7b :: _ => do
      if limit ≤ depth then throw (.tooNested "object")
      let inside := (c.advance 1).skip
      if inside.rest.head? = some 0x7d then return (.object [], inside.advance 1)
      let (fields, after) ← fields limit (depth + 1) fuel [] inside
      return (.object fields, after)
    | _ => atom c

/-- The items of a list from this place to its end, after the items in `before`, last one first. -/
def items (limit depth : Nat) :
    (fuel : Nat) → (before : List Document) → Cursor → Except Flaw (List Document × Cursor)
  | 0, _, c => .error (c.malformed "Expecting value")
  | fuel + 1, before, c => do
    let (item, after) ← value limit depth fuel c
    let after := after.skip
    match after.rest with
    | 0x5d :: _ => return ((item :: before).reverse, after.advance 1)
    | 0x2c :: _ => items limit depth fuel (item :: before) (after.advance 1).skip
    | _ => throw (after.malformed "Expecting ',' delimiter")

/-- The fields of an object from this place to its end, after the fields in `before`. -/
def fields (limit depth : Nat) :
    (fuel : Nat) → (before : List (Text × Document)) → Cursor →
      Except Flaw (List (Text × Document) × Cursor)
  | 0, _, c => .error (c.malformed "Expecting value")
  | fuel + 1, before, c => do
    if c.rest.head? ≠ some 0x22 then
      throw (c.malformed "Expecting property name enclosed in double quotes")
    let (key, afterKey) ← string c
    let colon := afterKey.skip
    if colon.rest.head? ≠ some 0x3a then throw (colon.malformed "Expecting ':' delimiter")
    let (item, after) ← value limit depth fuel (colon.advance 1).skip
    let after := after.skip
    let known := Document.store key item before
    match after.rest with
    | 0x7d :: _ => return (known, after.advance 1)
    | 0x2c :: _ => fields limit depth fuel known (after.advance 1).skip
    | _ => throw (after.malformed "Expecting ',' delimiter")

end

/-- The document that the code points are, with lists and objects nested at most `limit` deep. -/
def readWithin (limit : Nat) (points : List Nat) : Except Flaw Document := do
  if points.head? = some 0xfeff then
    throw (.malformed "Unexpected UTF-8 BOM (decode using utf-8-sig)" 0)
  let (d, after) ← value limit 0 (2 * points.length + 2) (Cursor.mk 0 points).skip
  let rest := after.skip
  if rest.rest.isEmpty then return d else throw (rest.malformed "Extra data")

def read (points : List Nat) : Except Flaw Document := readWithin nestingLimit points

def position (points : List Nat) (offset : Nat) : Nat × Nat :=
  let before := points.take offset
  (before.count 0x0a + 1, (before.reverse.takeWhile (· != 0x0a)).length + 1)

end LinearPrograms.Json
