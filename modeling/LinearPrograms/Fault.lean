import LinearPrograms.Document.Basic

/-!
# Faults

What can go wrong, by cause, and the message that says so. Each family belongs to one part of the
library: turning values into numbers, shapes of arrays, the input of a solve, problem documents,
settings, engines and backends, files, and knowledge bases.
-/

namespace LinearPrograms

/-- A value is not what a place asks for. -/
inductive ConversionFault where
  | notNumber (kind : String)
  | notInteger (kind : String)
  | badNumeral (t : Text)
  | badInteger (t : Text)
  | tooManyDigits (count : Nat)
  | tooManyDigitsToWrite
  | integerTooLarge
  | infinityToInteger
  | nanToInteger
  | notIterable (kind : String)
  | noLength (kind : String)
  | notOrdered (comparison left right : String)
  | unhashable (kind : String)
  | noBits (operator left right : String)
  | unknownFormat (code kind : String)
  | noFormat (kind : String)

/-- The shape of an array is not what a place asks for. -/
inductive ShapeFault where
  | unsized
  | negativeDimension
  | ragged (shape : List Nat)
  | tooDeep (limit : Nat)
  | notBroadcast (source target : List Nat)
  | paddedRow (length : Nat) (shape : List Nat)
  | scalarProduct
  | notScalar
  | productLength (left right : Nat)
  | outOfAxis (index size : Nat)
  | badIndex

/-- The input of a solve is refused. -/
inductive InputFault where
  | unknownRelation (value : Document)
  | emptyObjective
  | notConstraint (index : Nat) (kind : String)
  | bodyLength (index length expected : Nat)

/-- A problem document is refused. -/
inductive FormatFault where
  | notObject
  | missing (key : String)
  | notList (key : String)
  | notNumbers (key : String)
  | emptyObjective
  | constraintNotObject (index : Nat)
  | constraintMissing (index : Nat) (keys : List String)
  | constraintRelation (index : Nat) (value : Document)
  | constraintRhs (index : Nat)
  | integerFlags
  | scalingMode
  | json (path : String) (problem : String) (line column offset : Nat)

/-- Settings are refused. -/
inductive SettingsFault where
  | unknown (names : List Text)
  | scaling (name : String) (value : Text)

/-- An engine refuses a call. -/
inductive EngineFault where
  | negativeSize (rows columns : Int)
  | verbosity (level : Document)
  | column (index : Document) (columns : Nat)
  | relationCode (value : Document)
  | deleted
  | noSolution
  | noBackend
  | noRunLeft
  | missingField (name : String)

/-- A backend refuses the model it was handed. -/
inductive BackendFault where
  | invalidData (block : String)
  | noColumns
  | modelRefused
  | statusRefused

/-- An operation of the file system fails. -/
inductive FileFault where
  | notFound (path : Text)
  | notDirectory (path : Text)
  | isDirectory (path : Text)
  | nameTooLong (path : Text)
  | alreadyThere (path : Text)
  | nullByte
  | undecodable (octet : Option Nat) (first last : Nat) (reason : String)
  | unencodable (point first last : Nat)

/-- A knowledge base or its storage refuses an operation. -/
inductive KnowledgeFault where
  | empty
  | notLoadable
  | missingKey (key : String)
  | notSubscriptable (kind : String)
  | badSubscript (message : String)
  | notContainer
  | damaged

/-- Anything that can go wrong. -/
inductive Fault where
  | conversion (cause : ConversionFault)
  | shape (cause : ShapeFault)
  | input (cause : InputFault)
  | format (cause : FormatFault)
  | settings (cause : SettingsFault)
  | engine (cause : EngineFault)
  | backend (cause : BackendFault)
  | file (cause : FileFault)
  | knowledge (cause : KnowledgeFault)
  | unknownEngine (name : Document)
  | unsolved (status : Int) (statusText : String)
  | notRelation (value : Document)
  | frozenField (name : Text)
  | missingPosition (index : Nat)
  | tooNested (kind : String)
  | scripted (kind : String) (message : Text)

namespace ConversionFault

/-- Is the value a number, but out of the range of what it is turned into? -/
def isOverflow : ConversionFault → Bool
  | integerTooLarge | infinityToInteger => true
  | _ => false

/-- The first 200 characters of a text. -/
def cut (s : String) : String := String.ofList (s.toList.take 200)

def message : ConversionFault → String
  | notNumber kind => s!"float() argument must be a string or a real number, not '{kind}'"
  | notInteger kind =>
    s!"int() argument must be a string, a bytes-like object or a real number, not '{kind}'"
  | badNumeral t => "could not convert string to float: " ++ t.quoted
  | badInteger t => "invalid literal for int() with base 10: " ++ cut t.quoted
  | tooManyDigits count =>
    s!"Exceeds the limit (4300 digits) for integer string conversion: value has {count} digits; " ++
      "use sys.set_int_max_str_digits() to increase the limit"
  | tooManyDigitsToWrite =>
    "Exceeds the limit (4300 digits) for integer string conversion; " ++
      "use sys.set_int_max_str_digits() to increase the limit"
  | integerTooLarge => "int too large to convert to float"
  | infinityToInteger => "cannot convert float infinity to integer"
  | nanToInteger => "cannot convert float NaN to integer"
  | notIterable kind => s!"'{kind}' object is not iterable"
  | noLength kind => s!"object of type '{kind}' has no len()"
  | notOrdered comparison left right =>
    s!"'{comparison}' not supported between instances of '{left}' and '{right}'"
  | unhashable kind => s!"unhashable type: '{kind}'"
  | noBits operator left right =>
    s!"unsupported operand type(s) for {operator}: '{left}' and '{right}'"
  | unknownFormat code kind => s!"Unknown format code '{code}' for object of type '{kind}'"
  | noFormat kind => s!"unsupported format string passed to {kind}.__format__"

end ConversionFault

namespace ShapeFault

/-- The lengths of a shape as messages show them, a single one with a comma behind it. -/
def shapeText (separator : String) : List Nat → String
  | [n] => s!"({n},)"
  | ns => "(" ++ separator.intercalate (ns.map toString) ++ ")"

def message : ShapeFault → String
  | unsized => "len() of unsized object"
  | negativeDimension => "negative dimensions are not allowed"
  | ragged shape =>
    "setting an array element with a sequence. The requested array has an inhomogeneous shape " ++
      s!"after {shape.length} dimensions. The detected shape was " ++ shapeText ", " shape ++
      " + inhomogeneous part."
  | tooDeep limit =>
    "setting an array element with a sequence. The requested array would exceed the maximum " ++
      s!"number of dimension of {limit}."
  | notBroadcast source target =>
    "could not broadcast input array from shape " ++ shapeText "," source ++ " into shape " ++
      shapeText "," target
  | paddedRow length shape =>
    s!"Expected a padded row of length {length}, got shape " ++ shapeText ", " shape
  | scalarProduct =>
    "matmul: Input operand 1 does not have enough dimensions (has 0, gufunc core with signature " ++
      "(n?,k),(k,m?)->(n?,m?) requires 1)"
  | notScalar => "only 0-dimensional arrays can be converted to Python scalars"
  | productLength left right =>
    "matmul: Input operand 1 has a mismatch in its core dimension 0, with gufunc signature " ++
      s!"(n?,k),(k,m?)->(n?,m?) (size {right} is different from {left})"
  | outOfAxis index size => s!"index {index} is out of bounds for axis 0 with size {size}"
  | badIndex =>
    "only integers, slices (\x60:\x60), ellipsis (\x60...\x60), numpy.newaxis (\x60None\x60) and " ++
      "integer or boolean arrays are valid indices"

end ShapeFault

def InputFault.message : InputFault → String
  | unknownRelation value => "Unknown constraint relation: " ++ value.quoted
  | emptyObjective => "The objective must have at least one coefficient"
  | notConstraint index kind => s!"Constraint {index} is a {kind}, expected LPConstraint"
  | bodyLength index length expected =>
    s!"Constraint {index} has {length} coefficients, expected {expected}"

def FormatFault.message : FormatFault → String
  | notObject => "The problem must be a JSON object"
  | missing key => s!"Missing '{key}'"
  | notList key => s!"'{key}' must be a list"
  | notNumbers key => s!"'{key}' must contain only numbers"
  | emptyObjective => "'objective' must not be empty"
  | constraintNotObject index => s!"Constraint {index} must be an object"
  | constraintMissing index keys => s!"Constraint {index} is missing " ++ ", ".intercalate keys
  | constraintRelation index value =>
    s!"Constraint {index}: " ++ (InputFault.unknownRelation value).message
  | constraintRhs index => s!"Constraint {index}: 'rhs' must be a number"
  | integerFlags => "'integer' must be a list of booleans"
  | scalingMode => "'scaling_mode' must be an integer"
  | json path problem line column offset =>
    s!"{path}: invalid JSON ({problem}: line {line} column {column} (char {offset}))"

def SettingsFault.message : SettingsFault → String
  | unknown names => "Unknown solver settings: " ++ (Text.join ", " names).toString
  | scaling name value => s!"{name} must be an integer scaling mode, got " ++ value.quoted

def EngineFault.message : EngineFault → String
  | negativeSize rows columns => s!"rows and columns must be non-negative, got {rows}x{columns}"
  | verbosity level => "Unknown verbosity level: " ++ level.shown
  | column index columns => "Column " ++ index.shown ++ s!" out of range 1..{columns}"
  | relationCode value => "Unknown constraint relation: " ++ value.shown
  | deleted => "The problem instance has been deleted"
  | noSolution => "No solution available; solve() did not succeed"
  | noBackend => "no backend"
  | noRunLeft => "pop from empty list"
  | missingField name => name

/-- The message that tells the cause; a backend that gives none leaves it empty. -/
def BackendFault.message : BackendFault → String
  | invalidData block =>
    s!"Invalid input for linprog: {block} must not contain values inf, nan, or None"
  | noColumns =>
    "Invalid input for linprog: c must be a 1-D array and must not have more than one " ++
      "non-singleton dimension"
  | modelRefused => ""
  | statusRefused => ""

def FileFault.message : FileFault → String
  | notFound path => "[Errno 2] No such file or directory: " ++ path.quoted
  | notDirectory path => "[Errno 20] Not a directory: " ++ path.quoted
  | isDirectory path => "[Errno 21] Is a directory: " ++ path.quoted
  | nameTooLong path => "[Errno 36] File name too long: " ++ path.quoted
  | alreadyThere path => "[Errno 17] File exists: " ++ path.quoted
  | nullByte => "embedded null byte"
  | undecodable octet first last reason =>
    match octet with
    | some b =>
      "'utf-8' codec can't decode byte 0x" ++ String.ofList (Text.hex 2 b) ++
        s!" in position {first}: {reason}"
    | none => s!"'utf-8' codec can't decode bytes in position {first}-{last}: {reason}"
  | unencodable point first last =>
    if first = last then
      "'utf-8' codec can't encode character '\\u" ++ String.ofList (Text.hex 4 point) ++
        s!"' in position {first}: surrogates not allowed"
    else
      s!"'utf-8' codec can't encode characters in position {first}-{last}: surrogates not allowed"

def KnowledgeFault.message : KnowledgeFault → String
  | empty => "Can not store an empty KnowledgeBase."
  | notLoadable => "The KnowledgeBase could not be loaded."
  | missingKey key => s!"'{key}'"
  | notSubscriptable kind => s!"'{kind}' object is not subscriptable"
  | badSubscript text => text
  | notContainer => "argument of type 'PickleFileStorage' is not iterable"
  | damaged => "Ran out of input"

def Fault.message : Fault → Text
  | conversion cause => Text.ofString cause.message
  | shape cause => Text.ofString cause.message
  | input cause => Text.ofString cause.message
  | format cause => Text.ofString cause.message
  | settings cause => Text.ofString cause.message
  | engine cause => Text.ofString cause.message
  | backend cause => Text.ofString cause.message
  | file cause => Text.ofString cause.message
  | knowledge cause => Text.ofString cause.message
  | unknownEngine name => Text.ofString ("Unknown solver engine: " ++ name.shown)
  | unsolved status statusText => Text.ofString s!"LPSolver: {statusText} (status {status})"
  | notRelation value => Text.ofString (value.quoted ++ " is not a valid Relation")
  | frozenField name => Text.ofString ("cannot assign to field " ++ name.quoted)
  | missingPosition index => Text.ofString (toString index)
  | tooNested kind =>
    Text.ofString
      s!"maximum recursion depth exceeded while decoding a JSON {kind} from a unicode string"
  | scripted _ text => text

end LinearPrograms
