import LinearPrograms.Text.Blank
import LinearPrograms.Text.Digit
import LinearPrograms.Scalar.Rounding

/-!
# Numerals

Reading the written form of a number. A numeral may stand between blanks, its digits may come from
any script, and one underscore may stand between two digits. `Numeral.scalar?` reads a decimal with
optional fraction and exponent, or the name of an infinity or of the indeterminate value;
`Numeral.integer` reads an integer of at most `digitLimit` digits.
-/

namespace LinearPrograms.Numeral

/-- The greatest number of digits of an integer that is read from a text. -/
def digitLimit : Nat := 4300

/-- Why a text is not read as an integer. -/
inductive Flaw where
  | malformed
  | tooManyDigits (count : Nat)

/-- A code point of a numeral with digits and blanks of every script in their basic form. -/
def plainPoint (c : Nat) : Nat :=
  if c < 0x7f then c
  else if Text.isBlank c then 0x20
  else match Text.digitValue? c with
    | some d => 0x30 + d
    | none => 0xfffd

def isPadding (c : Nat) : Bool := c == 0x20 || (0x09 ≤ c && c ≤ 0x0d)

def plain (t : Text) : List Char :=
  let points := t.points.map plainPoint
  let trimmed := ((points.dropWhile isPadding).reverse.dropWhile isPadding).reverse
  trimmed.map Text.character

/-- The characters without underscores, if each of these stands between two digits; `previous` is
the character before them. -/
def withoutUnderscores? (previous : Char) : List Char → Option (List Char)
  | [] => if previous = '_' then none else some []
  | c :: rest =>
    if c = '_' then
      if previous.isDigit then withoutUnderscores? c rest else none
    else if previous = '_' && !c.isDigit then none
    else (withoutUnderscores? c rest).map (c :: ·)

/-- The value of a run of digits that follow digits of the value `value`. -/
def digitsValue (value : Nat) (cs : List Char) : Nat :=
  cs.foldl (fun v c => 10 * v + (c.toNat - 0x30)) value

def splitSign : List Char → Bool × List Char
  | '-' :: rest => (true, rest)
  | '+' :: rest => (false, rest)
  | cs => (false, cs)

/-- The nearest double to `digits · 10^exponent`. A magnitude beyond every double, or below all of
them, is told by the place of the first digit. -/
def scale (digits : List Char) (exponent : Int) : Scalar :=
  let significant := digits.dropWhile (· == '0')
  let place : Int := significant.length + exponent
  if significant.isEmpty then .zero
  else if 310 < place then .posInf
  else if place < -330 then .zero
  else Rounding.nearest (digitsValue 0 significant * powerOf 10 exponent)

/-- The exponent that ends a decimal: none, or the mark `e`, a sign and digits. -/
def exponent? : List Char → Option Int
  | [] => some 0
  | mark :: rest =>
    let (negative, ds) := splitSign rest
    if (mark == 'e' || mark == 'E') && !ds.isEmpty && ds.all Char.isDigit then
      some (if negative then -(digitsValue 0 ds : Int) else digitsValue 0 ds)
    else none

def magnitude? (cs : List Char) : Option Scalar :=
  let whole := cs.takeWhile Char.isDigit
  let afterWhole := cs.dropWhile Char.isDigit
  let (fraction, tail) :=
    match afterWhole with
    | '.' :: rest => (rest.takeWhile Char.isDigit, rest.dropWhile Char.isDigit)
    | rest => ([], rest)
  if whole.isEmpty && fraction.isEmpty then none
  else (exponent? tail).map fun e => scale (whole ++ fraction) (e - fraction.length)

def named? (cs : List Char) : Option Scalar :=
  let name := String.ofList (cs.map Char.toLower)
  if name = "inf" || name = "infinity" then some .posInf
  else if name = "nan" then some .nan
  else none

def scalar? (t : Text) : Option Scalar := do
  let cs ← withoutUnderscores? ' ' (plain t)
  let (negative, unsigned) := splitSign cs
  let x ← (named? unsigned).orElse fun _ => magnitude? unsigned
  return x.negateIf negative

def integer (t : Text) : Except Flaw Int :=
  let (negative, unsigned) := splitSign (plain t)
  match withoutUnderscores? ' ' unsigned with
  | none => .error .malformed
  | some ds =>
    if ds.isEmpty || !ds.all Char.isDigit then .error .malformed
    else if digitLimit < ds.length then .error (.tooManyDigits ds.length)
    else .ok (if negative then -(digitsValue 0 ds : Int) else digitsValue 0 ds)

end LinearPrograms.Numeral
