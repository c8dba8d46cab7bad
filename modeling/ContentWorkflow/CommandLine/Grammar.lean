import ContentWorkflow.Text.Numeral

/-!
# The grammar of a command line

A command is either a group of commands or takes arguments. Arguments are positional, or options
named by `--name`. A value follows its option or is attached to it by `=`, and only an attached
value may begin with a dash. A word `--` makes all words behind it positional.

A value is judged when the next argument begins, or at the end of the line: so of several faults
the one that is met first is reported, save that a word that fits nowhere is reported at once.
-/

namespace ContentWorkflow.CommandLine

/-- Why a command line is refused. -/
inductive LineFault where
  | unknownArgument
  | valueValidation
  | invalidValue
  | tooManyValues
  | argumentConflict
  | missingRequiredArgument
  | invalidSubcommand
  | missingSubcommand
  | displayHelp
  | displayHelpOnMissingArgumentOrSubcommand
  deriving DecidableEq

/-- The name of the kind of fault. -/
def LineFault.name : LineFault → String
  | .unknownArgument => "UnknownArgument"
  | .valueValidation => "ValueValidation"
  | .invalidValue => "InvalidValue"
  | .tooManyValues => "TooManyValues"
  | .argumentConflict => "ArgumentConflict"
  | .missingRequiredArgument => "MissingRequiredArgument"
  | .invalidSubcommand => "InvalidSubcommand"
  | .missingSubcommand => "MissingSubcommand"
  | .displayHelp => "DisplayHelp"
  | .displayHelpOnMissingArgumentOrSubcommand => "DisplayHelpOnMissingArgumentOrSubcommand"

/-- What a value has to be. -/
inductive ValueKind where
  | text
  | integer
  | natural
  | oneOf (names : List String)
  deriving DecidableEq

/-- What is wrong with the value. -/
def ValueKind.fault? (kind : ValueKind) (value : String) : Option LineFault :=
  match kind with
  | .text => none
  | .integer => if (Numeral.word? value).isSome then none else some .valueValidation
  | .natural => if (Numeral.unsignedWord? value).isSome then none else some .valueValidation
  | .oneOf names => if value ∈ names then none else some .invalidValue

/-- What an argument does with its values. -/
inductive Effect where
  /-- One value, given once. -/
  | set (kind : ValueKind)
  /-- Any number of values, each of which may be a list with commas. -/
  | extend (kind : ValueKind) (commas : Bool)
  /-- No value, given once. -/
  | flag
  /-- No value, given any number of times. -/
  | count
  /-- Help is asked for. -/
  | help
  deriving DecidableEq

/-- The argument takes a value. -/
def Effect.takesValue : Effect → Bool
  | .set _ | .extend _ _ => true
  | .flag | .count | .help => false

/-- An argument, positional or named by an option. -/
structure Argument where
  name : String
  letter : Option Char
  effect : Effect
  required : Bool
  deriving DecidableEq

namespace Argument

/-- A positional argument that must be given. -/
def positional (name : String) (kind : ValueKind) : Argument :=
  ⟨name, none, .set kind, true⟩

/-- Positional arguments at the end, any number of them. -/
def rest (name : String) (kind : ValueKind) : Argument :=
  ⟨name, none, .extend kind false, false⟩

/-- An option with a value. -/
def option (name : String) (kind : ValueKind) : Argument :=
  ⟨name, none, .set kind, false⟩

/-- An option without a value. -/
def flag (name : String) : Argument :=
  ⟨name, none, .flag, false⟩

/-- The option that every command has. -/
def help : Argument :=
  ⟨"help", some 'h', .help, false⟩

end Argument

/-- The arguments of a command. -/
structure Signature where
  positionals : List Argument
  options : List Argument
  /-- The command says how it is used where nothing is given. -/
  helpWhenBare : Bool
  deriving DecidableEq

/-- The option with the name. -/
def Signature.named? (signature : Signature) (name : String) : Option Argument :=
  (signature.options ++ [Argument.help]).find? (·.name = name)

/-- The option with the letter. -/
def Signature.lettered? (signature : Signature) (letter : Char) : Option Argument :=
  (signature.options ++ [Argument.help]).find? (·.letter = some letter)

/-- A command by its arguments, and by its own commands where it is a group. -/
inductive CommandSpec where
  | single (signature : Signature)
  | group (signature : Signature) (commands : List (String × CommandSpec))

namespace CommandSpec

/-- The arguments of the command. -/
def signature : CommandSpec → Signature
  | .single signature => signature
  | .group signature _ => signature

/-- The command is a group. -/
def isGroup : CommandSpec → Bool
  | .single _ => false
  | .group _ _ => true

/-- The command of the group with the name. Every group has a command that explains it. -/
def child? (spec : CommandSpec) (name : String) : Option CommandSpec :=
  match spec with
  | .single _ => none
  | .group _ commands =>
      if name = "help" then some (.single ⟨[], [], false⟩) else commands.lookup name

/-- What becomes of a call for help on the command that the words name. -/
def helpOn : CommandSpec → List String → LineFault
  | _, [] => .displayHelp
  | spec, word :: rest =>
      match spec.child? word with
      | none => .invalidSubcommand
      | some child => child.helpOn rest

end CommandSpec

/-- The values given for each argument of a command. -/
abbrev Values : Type :=
  List (String × List String)

/-- How far the words of a command are read. -/
structure Reading where
  values : Values
  /-- An argument whose values are not judged yet. -/
  pending : Option (Argument × List String)
  /-- The pending argument is an option that has no value yet. -/
  awaiting : Bool
  /-- Every word is positional from here on. -/
  trailing : Bool
  /-- The number of positional arguments that were begun and cannot go on. -/
  position : Nat

namespace Reading

/-- Nothing is read yet. -/
def start : Reading :=
  ⟨[], none, false, false, 0⟩

/-- The values of the argument are judged and taken. -/
def take (reading : Reading) (argument : Argument) (given : List String) :
    Except LineFault Reading :=
  let before := reading.values.lookup argument.name
  let others := reading.values.filter (·.1 ≠ argument.name)
  let keep (values : List String) : Reading :=
    { reading with values := others ++ [(argument.name, values)] }
  match argument.effect with
  | .help => .error .displayHelp
  | .flag => if before.isSome then .error .argumentConflict else .ok (keep ["true"])
  | .count => .ok (keep ("true" :: before.getD []))
  | .set kind =>
      if given.isEmpty then .error .invalidValue
      else if before.isSome then .error .argumentConflict
      else match given.findSome? kind.fault? with
        | some fault => .error fault
        | none => .ok (keep given)
  | .extend kind commas =>
      if given.isEmpty then .error .invalidValue
      else
        -- an empty piece between two commas is a value too
        let values := if commas then given.flatMap fun value => value.splitOn "," else given
        match values.findSome? kind.fault? with
        | some fault => .error fault
        | none => .ok (keep (before.getD [] ++ values))

/-- The pending argument is judged and taken. -/
def settle (reading : Reading) : Except LineFault Reading :=
  match reading.pending with
  | none => .ok reading
  | some (argument, given) =>
      { reading with pending := none, awaiting := false }.take argument given

/-- An option begins, with the value attached to it. -/
def beginOption (reading : Reading) (argument : Argument) (attached : Option String) :
    Except LineFault Reading := do
  match argument.effect.takesValue, attached with
  | true, some value => (← reading.settle).take argument [value]
  | true, none => return { ← reading.settle with pending := some (argument, []), awaiting := true }
  | false, some _ => throw .tooManyValues
  | false, none => (← reading.settle).take argument []

/-- The letters of a word after a single dash. -/
def readLetters (signature : Signature) : List Char → Reading → Except LineFault Reading
  | [], reading => .ok reading
  | letter :: rest, reading =>
      match signature.lettered? letter with
      | none => .error .unknownArgument
      | some argument =>
          if argument.effect.takesValue then
            match rest with
            | [] => reading.beginOption argument none
            | '=' :: value => reading.beginOption argument (some (String.ofList value))
            | value => reading.beginOption argument (some (String.ofList value))
          else do
            readLetters signature rest (← reading.beginOption argument none)

/-- The word cannot be an argument of the command. -/
def misplaced (spec : CommandSpec) (reading : Reading) (word : String) : LineFault :=
  if spec.isGroup && !(reading.trailing && (spec.child? word).isSome) then .invalidSubcommand
  else .unknownArgument

/-- A positional word. -/
def readPositional (spec : CommandSpec) (word : String) (reading : Reading) :
    Except LineFault Reading := do
  match spec.signature.positionals[reading.position]? with
  | none => throw (reading.misplaced spec word)
  | some argument =>
      match argument.effect, reading.pending with
      | .extend _ _, some (pending, given) =>
          if pending = argument then
            return { reading with pending := some (argument, given ++ [word]) }
          else return { ← reading.settle with pending := some (argument, [word]) }
      | .extend _ _, none => return { reading with pending := some (argument, [word]) }
      | _, _ =>
          return { ← reading.settle with
            pending := some (argument, [word]), position := reading.position + 1 }

/-- The name and the attached value of an option. -/
def splitAttached (text : List Char) : String × Option String :=
  let name := String.ofList (text.takeWhile (· ≠ '='))
  match text.dropWhile (· ≠ '=') with
  | [] => (name, none)
  | _ :: value => (name, some (String.ofList value))

/-- A word that is not the name of a command. -/
def readWord (spec : CommandSpec) (word : String) (reading : Reading) :
    Except LineFault Reading :=
  if reading.trailing then reading.readPositional spec word
  else match word.toList with
    | ['-', '-'] => .ok { reading with trailing := true }
    | '-' :: '-' :: text =>
        let (name, attached) := splitAttached text
        match spec.signature.named? name with
        | none => .error .unknownArgument
        | some argument => reading.beginOption argument attached
    | '-' :: first :: rest => readLetters spec.signature (first :: rest) reading
    | _ =>
        match reading.awaiting, reading.pending with
        | true, some (argument, given) =>
            .ok { reading with pending := some (argument, given ++ [word]), awaiting := false }
        | _, _ => reading.readPositional spec word

/-- Nothing is missing where the words of the command end. The flag tells whether a command of the
group follows. -/
def conclude (spec : CommandSpec) (followed : Bool) (reading : Reading) :
    Except LineFault Values := do
  let reading ← reading.settle
  let signature := spec.signature
  -- a dash pair alone counts as nothing given
  if !followed && signature.helpWhenBare && reading.values.isEmpty then
    throw .displayHelpOnMissingArgumentOrSubcommand
  if !followed && spec.isGroup then
    throw .missingSubcommand
  let demanded := (signature.positionals ++ signature.options).filter (·.required)
  if demanded.all fun argument => (reading.values.lookup argument.name).isSome then
    return reading.values
  throw .missingRequiredArgument

end Reading

/-- A command line that was understood: the names of the commands from the outermost one, and the
values given for each of them. -/
structure ParsedLine where
  path : List String
  values : Values

/-- The groups that were left for a command of theirs are concluded, the innermost first. -/
def concludeOuter : List (CommandSpec × Reading) → Except LineFault Values
  | [] => .ok []
  | (spec, reading) :: outer => do
      let values ← reading.conclude spec true
      return values ++ (← concludeOuter outer)

/-- The words are read as a call of the command, inside the groups that were left for it. -/
def readWords (spec : CommandSpec) (reading : Reading) (path : List String)
    (outer : List (CommandSpec × Reading)) : List String → Except LineFault ParsedLine
  | [] => do
      let values ← reading.conclude spec false
      return ⟨path, values ++ (← concludeOuter outer)⟩
  | word :: rest =>
      -- the value of an option and the words behind a dash pair are no names of commands
      match if reading.trailing || reading.awaiting then none else spec.child? word with
      | some child =>
          if word = "help" then .error (spec.helpOn rest)
          else readWords child .start (path ++ [word]) ((spec, reading) :: outer) rest
      | none => do
          readWords spec (← reading.readWord spec word) path outer rest

/-- The words as a call of the command. -/
def CommandSpec.parse (spec : CommandSpec) (words : List String) : Except LineFault ParsedLine :=
  readWords spec .start [] [] words

end ContentWorkflow.CommandLine
