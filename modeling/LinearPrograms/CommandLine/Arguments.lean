import LinearPrograms.Numeral
import LinearPrograms.Text.Quoted

/-!
# Arguments

The arguments of the command line: one operand, the problem file, and options anywhere around it.
The long name of an option may be cut short as long as one option only is meant, its value may
follow an equals sign, and options of one letter without a value may share a dash. After two dashes
alone every argument is an operand. `Arguments.parse` first tells options from operands and then
takes them in order; the first thing that is wrong is told.
-/

namespace LinearPrograms

/-- The options. -/
inductive Flag where
  | help
  | engine
  | scaling
  | json
  | verbose
  deriving DecidableEq, Inhabited

namespace Flag

/-- The spellings of all options, in the order in which they are searched. -/
def spellings : List (String × Flag) :=
  [("-h", help), ("--help", help), ("--engine", engine), ("--scaling", scaling), ("--json", json),
   ("-v", verbose), ("--verbose", verbose)]

def takesValue : Flag → Bool
  | engine | scaling => true
  | _ => false

def title (f : Flag) : String :=
  "/".intercalate ((spellings.filter fun s => s.2 = f).map Prod.fst)

def ofText? (t : Text) : Option Flag :=
  (spellings.find? fun s => Text.ofString s.1 = t).map Prod.snd

end Flag

/-- The values of an engine option. -/
def engineNames : List String := ["cbc", "highs"]

/-- What is wrong with arguments. -/
inductive Misuse where
  | ambiguous (argument : Text) (spellings : List String)
  | needsValue (flag : Flag)
  | ignoredValue (flag : Flag) (value : Text)
  | unknownEngine (value : Text)
  | notInteger (value : Text)
  | noProblem
  | unrecognized (arguments : List Text)

def Misuse.message : Misuse → String
  | ambiguous argument spellings =>
    s!"ambiguous option: {argument} could match " ++ ", ".intercalate spellings
  | needsValue flag => s!"argument {flag.title}: expected one argument"
  | ignoredValue flag value =>
    s!"argument {flag.title}: ignored explicit argument {value.quoted}"
  | unknownEngine value =>
    s!"argument --engine: invalid choice: {value.quoted} (choose from " ++
      ", ".intercalate (engineNames.map fun name => (Text.ofString name).quoted) ++ ")"
  | notInteger value => s!"argument --scaling: invalid int value: {value.quoted}"
  | noProblem => "the following arguments are required: problem"
  | unrecognized arguments => "unrecognized arguments: " ++ (Text.join " " arguments).toString

/-- An option as an argument gives it: its spelling, whether an equals sign follows, and the text
that is attached. -/
structure OptionUse where
  flag : Flag
  spelling : String
  equals : Bool
  attached : Option Text

/-- An argument, told apart. -/
inductive Argument where
  | operand (t : Text)
  | separator
  | option (t : Text) (use : Option OptionUse)

namespace Argument

def text : Argument → Text
  | operand t | option t _ => t
  | separator => Text.ofString "--"

def isOption : Argument → Bool
  | option .. => true
  | _ => false

/-- The code points before and after the first equals sign, if there is one. -/
def splitEquals (t : Text) : Text × Option Text :=
  let before := t.points.takeWhile (· != 0x3d)
  match t.points.drop before.length with
  | _ :: after => (⟨before⟩, some ⟨after⟩)
  | [] => (⟨before⟩, none)

def allDigits (cs : List Nat) : Bool :=
  !cs.isEmpty && cs.all fun c => (Text.digitValue? c).isSome

def isNegativeNumber (t : Text) : Bool :=
  match t.points with
  | 0x2d :: cs =>
    let cs := if cs.getLast? = some 0x0a then cs.dropLast else cs
    let whole := cs.takeWhile fun c => c != 0x2e
    match cs.drop whole.length with
    | [] => allDigits whole
    | _ :: fraction => (whole.isEmpty || allDigits whole) && allDigits fraction
  | _ => false

def candidates (t : Text) : List OptionUse :=
  match t.points with
  | 0x2d :: 0x2d :: _ =>
    let (start, value) := splitEquals t
    (Flag.spellings.filter fun s => start.points.isPrefixOf (Text.ofString s.1).points).map
      fun s => ⟨s.2, s.1, value.isSome, value⟩
  | a :: b :: rest =>
    (Flag.spellings.filterMap fun s =>
      if Text.ofString s.1 = ⟨[a, b]⟩ then some ⟨s.2, s.1, false, some ⟨rest⟩⟩
      else if t.points.isPrefixOf (Text.ofString s.1).points then some ⟨s.2, s.1, false, none⟩
      else none)
  | _ => []

def assigned? (t : Text) : Option OptionUse :=
  match splitEquals t with
  | (name, some value) =>
    (Flag.spellings.find? fun s => Text.ofString s.1 = name).map
      fun s => ⟨s.2, s.1, true, some value⟩
  | _ => none

def exact (t : Text) : Option OptionUse :=
  (Flag.spellings.find? fun s => Text.ofString s.1 = t).map fun s => ⟨s.2, s.1, false, none⟩

def classify (t : Text) : Except Misuse Argument :=
  if t.points.head? ≠ some 0x2d then .ok (operand t)
  else
    match exact t with
    | some use => .ok (option t (some use))
    | none =>
      if t.length = 1 then .ok (operand t)
      else
        match assigned? t with
        | some use => .ok (option t (some use))
        | none =>
          match candidates t with
          | [use] => .ok (option t (some use))
          | [] =>
            if isNegativeNumber t || t.points.contains 0x20 then .ok (operand t)
            else .ok (option t none)
          | several => .error (.ambiguous t (several.map OptionUse.spelling))

def classifyAll : List Text → Except Misuse (List Argument)
  | [] => .ok []
  | t :: rest =>
    if t = Text.ofString "--" then .ok (separator :: rest.map operand)
    else do return (← classify t) :: (← classifyAll rest)

end Argument

/-- The arguments of the command line. -/
structure Arguments where
  problem : Text
  engine : Option Text := none
  scaling : Option Int := none
  json : Bool := false
  verbose : Bool := false
  deriving DecidableEq, Inhabited

/-- Why there is nothing to do: help was asked for, or the arguments are wrong. -/
inductive Stop where
  | help
  | misuse (cause : Misuse)

namespace Arguments

/-- What was taken so far: the problem, if it was met, and what nobody asked for. -/
structure Taken where
  problem : Option Text := none
  options : Arguments := { problem := ⟨[]⟩ }
  extras : List Text := []

namespace Taken

def plain (t : Taken) : Flag → Except Stop Taken
  | .help => .error .help
  | .json => .ok { t with options := { t.options with json := true } }
  | .verbose => .ok { t with options := { t.options with verbose := true } }
  | f => .error (.misuse (.needsValue f))

def valued (t : Taken) (f : Flag) (value : Text) : Except Stop Taken :=
  match f with
  | .engine =>
    if engineNames.any fun name => Text.ofString name = value then
      .ok { t with options := { t.options with engine := some value } }
    else .error (.misuse (.unknownEngine value))
  | .scaling =>
    match Numeral.integer value with
    | .ok i => .ok { t with options := { t.options with scaling := some i } }
    | .error _ => .error (.misuse (.notInteger value))
  | f => .error (.misuse (.ignoredValue f value))

end Taken

/-- The options of one letter that share a dash: `flag` was read, and letters follow. What is no
option goes with the extras, with a dash of its own. -/
def bundled (flag : Flag) : (letters : List Nat) → Except Misuse (List Flag × List Text)
  | [] => .ok ([flag], [])
  | 0x3d :: value => .error (.ignoredValue flag ⟨value⟩)
  | 0x2d :: rest => .error (.ignoredValue flag ⟨0x2d :: rest⟩)
  | c :: rest =>
    match Flag.ofText? ⟨[0x2d, c]⟩ with
    | none => .ok ([flag], [⟨0x2d :: c :: rest⟩])
    | some next => do
      let (flags, extras) ← bundled next rest
      return (flag :: flags, extras)

def takeAttached (t : Taken) (use : OptionUse) (attached : Text) : Except Stop Taken :=
  if use.flag.takesValue then t.valued use.flag attached
  else if use.spelling.length = 2 && !use.equals then do
    let (flags, extras) ← (bundled use.flag attached.points).mapError .misuse
    flags.foldlM Taken.plain { t with extras := t.extras ++ extras }
  else .error (.misuse (.ignoredValue use.flag attached))

def takeOperands (t : Taken) (rest : List Argument) : Taken :=
  let extra := fun (more : List Argument) => t.extras ++ more.map Argument.text
  match t.problem, rest with
  | none, .separator :: .operand p :: more => { t with problem := some p, extras := extra more }
  | none, .operand p :: .separator :: more => { t with problem := some p, extras := extra more }
  | none, .operand p :: more => { t with problem := some p, extras := extra more }
  | _, more => { t with extras := extra more }

def take (t : Taken) : List Argument → Except Stop Taken
  | [] => .ok t
  | .option text none :: rest => take { t with extras := t.extras ++ [text] } rest
  | .option _ (some use) :: rest =>
    match use.attached with
    | some attached => do take (← takeAttached t use attached) rest
    | none =>
      if use.flag.takesValue then
        match rest with
        | .operand value :: more => do take (← t.valued use.flag value) more
        | _ => .error (.misuse (.needsValue use.flag))
      else do take (← t.plain use.flag) rest
  | first :: rest =>
    if rest.any Argument.isOption then
      match t.problem with
      | none => take { t with problem := some first.text } rest
      | some _ => take { t with extras := t.extras ++ [first.text] } rest
    else .ok (takeOperands t (first :: rest))

def parse (texts : List Text) : Except Stop Arguments := do
  let arguments ← (Argument.classifyAll texts).mapError .misuse
  let taken ← take {} arguments
  match taken.problem with
  | none => throw (.misuse .noProblem)
  | some problem =>
    if taken.extras.isEmpty then return { taken.options with problem := problem }
    else throw (.misuse (.unrecognized taken.extras))

end Arguments

end LinearPrograms
