import Sortie.Number.Written
import Sortie.Settings

namespace Sortie.CommandLine

/-- What the arguments ask for. Each option may be given once. -/
structure Options where
  /-- The file that describes the mission. -/
  mission : String
  /-- The file with the spacecraft classes. -/
  catalog : Option String := none
  /-- The most steps. -/
  ticks : Nat := 36000
  /-- The milliseconds of a step. -/
  dt : Scalar := 1000 / 60
  /-- Takes the place of the settings' difficulty. -/
  difficulty : Option Difficulty := none
  /-- Takes the place of the settings' quality. -/
  quality : Option Quality := none

/-- One argument, or an option with its value, which stands beside it or after an equals sign. -/
inductive Argument where
  | bare (text : String)
  | option (name value : String)

/-- Whether an argument that stands alone is an option. A lone dash is not. -/
def isOption (argument : String) : Bool :=
  match argument.toList with
  | '-' :: _ :: _ => true
  | _ => false

/-- The text before the first equals sign and the text after it. -/
def splitValue? : List Char → Option (List Char × List Char)
  | [] => none
  | '=' :: rest => some ([], rest)
  | first :: rest => (splitValue? rest).map fun (name, value) => (first :: name, value)

/-- The names of the options. -/
def optionNames : List String := ["--catalog", "--ticks", "--dt", "--difficulty", "--quality"]

/-- Takes options and their values together. After two dashes nothing is an option. -/
def group : List String → Option (List Argument)
  | [] => some []
  | argument :: rest =>
    if argument = "--" then some (rest.map .bare)
    else if ¬ isOption argument then (group rest).map (.bare argument :: ·)
    else
      match splitValue? argument.toList with
      | some (name, value) =>
        (group rest).map (.option (String.ofList name) (String.ofList value) :: ·)
      | none =>
        match rest with
        | [] => none
        | value :: rest =>
          if isOption value then none
          else (group rest).map (.option argument value :: ·)

def bareTexts (arguments : List Argument) : List String :=
  arguments.filterMap fun
    | .bare text => some text
    | .option _ _ => none

/-- The values given for an option. -/
def valuesOf (name : String) (arguments : List Argument) : List String :=
  arguments.filterMap fun
    | .bare _ => none
    | .option other value => if other = name then some value else none

/-- Whether every option is a known one. -/
def knowsAll (arguments : List Argument) : Bool :=
  arguments.all fun
    | .bare _ => true
    | .option name _ => optionNames.contains name

/-- The value of an option that may be missing, as `read` understands it. -/
def valueOf {α : Type} (name : String) (read : String → Option α) (arguments : List Argument) :
    Option (Option α) :=
  match valuesOf name arguments with
  | [] => some none
  | [value] => (read value).map some
  | _ => none

/-- A path is not empty. -/
def path? (text : String) : Option String := if text.isEmpty then none else some text

/-- A count below `2 ^ 64`, possibly with a plus sign. -/
def count? (text : String) : Option Nat :=
  let digits := match text.toList with
    | '+' :: rest => rest
    | digits => digits
  if digits.isEmpty ∨ ¬ digits.all Char.isDigit then none
  else
    let value := Number.Written.valueOfDigits digits
    if value < UInt64.size then some value else none

/-- A number as it is written by hand. -/
def scalar? (text : String) : Option Scalar :=
  (Number.Format.single.ofText? text).map fun bits => Float32.ofBits bits.toUInt32

/-- The options that arguments stand for, unless they are misused. -/
def Options.ofArguments? (arguments : List String) : Option Options := do
  let arguments ← group arguments
  if ¬ knowsAll arguments then none
  let mission ← match bareTexts arguments with
    | [mission] => path? mission
    | _ => none
  let catalog ← valueOf "--catalog" path? arguments
  let ticks ← valueOf "--ticks" count? arguments
  let dt ← valueOf "--dt" scalar? arguments
  let difficulty ← valueOf "--difficulty" Difficulty.ofText? arguments
  let quality ← valueOf "--quality" Quality.ofText? arguments
  let defaults : Options := { mission }
  return { mission, catalog, ticks := ticks.getD defaults.ticks, dt := dt.getD defaults.dt,
           difficulty, quality }

end Sortie.CommandLine
