/-!
# Command line options

Options have a long name, `--name`, and may have a short one, `-n`. An option either is a mere flag
or takes a value: `--name VALUE`, `--name=VALUE`, `-n VALUE`, `-nVALUE` or `-n=VALUE`. Short flags
may be written together.

* `OptionSpec` : an option that a command knows;
* `parseOptions?` : the options given in a list of arguments, in order. Nothing if an argument is no
  known option, lacks its value, or has one that it does not take.
* `Given` : looking options up; an option given twice is refused by `distinct`.
-/

namespace SurveyTables

/-- An option that a command knows. -/
structure OptionSpec where
  long : String
  short : Option Char
  takesValue : Bool
  deriving DecidableEq, Repr

abbrev Given := List (String × Option String)

namespace OptionSpec

/-- The known option with this long name. -/
def findLong? (specs : List OptionSpec) (name : List Char) : Option OptionSpec :=
  specs.find? fun s => decide (s.long.toList = name)

/-- The known option with this short name. -/
def findShort? (specs : List OptionSpec) (c : Char) : Option OptionSpec :=
  specs.find? fun s => decide (s.short = some c)

end OptionSpec

/-- What an argument gives: options, and perhaps one more whose value is the next argument. -/
structure ArgumentReading where
  given : Given
  pending : Option String

/-- The name before an equals sign, and the value after it, if there is one. -/
def splitAtEquals : List Char → List Char × Option (List Char)
  | [] => ([], none)
  | c :: r =>
    if c = '=' then ([], some r) else (c :: (splitAtEquals r).1, (splitAtEquals r).2)

/-- A long option without its dashes. -/
def readLong? (specs : List OptionSpec) (s : List Char) : Option ArgumentReading := do
  let spec ← OptionSpec.findLong? specs (splitAtEquals s).1
  match spec.takesValue, (splitAtEquals s).2 with
  | true, some v => some ⟨[(spec.long, some (String.ofList v))], none⟩
  | true, none => some ⟨[], some spec.long⟩
  | false, none => some ⟨[(spec.long, none)], none⟩
  | false, some _ => none

/-- Short options without their dash: flags, and perhaps last one with a value, which the rest of
the argument is, an equals sign in front left out. -/
def readShort? (specs : List OptionSpec) : List Char → Option ArgumentReading
  | [] => some ⟨[], none⟩
  | c :: r => do
    let spec ← OptionSpec.findShort? specs c
    if spec.takesValue then
      match r with
      | [] => some ⟨[], some spec.long⟩
      | '=' :: v => some ⟨[(spec.long, some (String.ofList v))], none⟩
      | v => some ⟨[(spec.long, some (String.ofList v))], none⟩
    else
      let rest ← readShort? specs r
      some ⟨(spec.long, none) :: rest.given, rest.pending⟩

/-- The argument looks like an option. -/
def looksLikeOption (a : String) : Bool :=
  match a.toList with
  | '-' :: _ :: _ => true
  | _ => false

/-- The options that an argument gives. -/
def readArgument? (specs : List OptionSpec) (a : String) : Option ArgumentReading :=
  match a.toList with
  | '-' :: '-' :: c :: r => readLong? specs (c :: r)
  | '-' :: c :: r => if c = '-' then none else readShort? specs (c :: r)
  | _ => none

def parseOptions? (specs : List OptionSpec) : List String → Option Given
  | [] => some []
  | ["--"] => some []
  | a :: rest =>
    match readArgument? specs a with
    | none => none
    | some reading =>
      match reading.pending, rest with
      | none, rest => (parseOptions? specs rest).map (reading.given ++ ·)
      | some _, [] => none
      | some name, v :: rest =>
        if looksLikeOption v then none
        else (parseOptions? specs rest).map (reading.given ++ (name, some v) :: ·)

namespace Given

def distinct (g : Given) : Bool := decide ((g.map Prod.fst).Nodup)

/-- The flag is given. -/
def has (g : Given) (name : String) : Bool := (g.map Prod.fst).contains name

/-- The value of an option. -/
def value? (g : Given) (name : String) : Option String := (g.lookup name).join

end Given

end SurveyTables
