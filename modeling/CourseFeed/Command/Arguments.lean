/-!
# Arguments of commands

A command has options, which have a name and perhaps a letter, and operands. Its arguments are read
from left to right: `--name value`, `--name=value`, `-lvalue`, `-l value` or `-l=value` for an
option with a value, `--name` or `-l` for one without, and the letters of several options in one
argument, of which only the last may have a value. What follows `--` are operands. A value that
stands in an argument of its own must not look like an option.

**`Signature.read`** gives the options and operands, or says why to stop: help was asked for, or the
arguments are misused.
-/

namespace CourseFeed.Command

/-- What an option takes. -/
inductive OptionKind where
  /-- Nothing. -/
  | flag
  /-- The path of a file. -/
  | path
  /-- A text, each time the option is given. -/
  | texts
  deriving Repr, DecidableEq

/-- An option of a command. -/
structure Choice where
  name : String
  letter : Option Char
  kind : OptionKind
  deriving Repr, DecidableEq

/-- What the operands of a command are. -/
inductive Operands where
  /-- Paths of files, at most some number of them. -/
  | paths (most : Nat)
  | texts
  deriving Repr, DecidableEq

/-- The options and operands of a command. -/
structure Signature where
  choices : List Choice
  operands : Operands
  deriving Repr, DecidableEq

/-- How arguments can be misused. -/
inductive Misuse where
  | noCommand
  | unknownCommand (name : String)
  | unknownOption (argument : String)
  | valueMissing (name : String)
  | valueUnwanted (name : String)
  | emptyPath (name : String)
  | repeated (name : String)
  | conflict (one other : String)
  | operandMissing (name : String)
  | operandUnwanted (operand : String)
  deriving Repr, DecidableEq

/-- The wording of a misuse. -/
def Misuse.message : Misuse → String
  | .noCommand => "a command is needed"
  | .unknownCommand name => "unknown command '" ++ name ++ "'"
  | .unknownOption argument => "unknown option '" ++ argument ++ "'"
  | .valueMissing name => "option '" ++ name ++ "' needs a value"
  | .valueUnwanted name => "option '" ++ name ++ "' takes no value"
  | .emptyPath name => "the path of '" ++ name ++ "' is empty"
  | .repeated name => "option '" ++ name ++ "' is given more than once"
  | .conflict one other => "options '" ++ one ++ "' and '" ++ other ++ "' exclude each other"
  | .operandMissing name => "'" ++ name ++ "' is missing"
  | .operandUnwanted operand => "unwanted operand '" ++ operand ++ "'"

/-- Why reading arguments stops. -/
inductive Stop where
  | help
  | version
  | misuse (cause : Misuse)
  deriving Repr, DecidableEq

/-- The options and operands that were given. A flag has an empty value. -/
structure Given where
  options : List (String × String)
  operands : List String
  deriving Repr, DecidableEq

namespace Given

/-- Nothing given. -/
def empty : Given := ⟨[], []⟩

/-- The values of an option. -/
def values (g : Given) (name : String) : List String :=
  (g.options.filter fun o => o.1 == name).map Prod.snd

/-- The value of an option that is given at most once. -/
def value? (g : Given) (name : String) : Option String := (g.values name).head?

/-- Whether an option was given. -/
def has (g : Given) (name : String) : Bool := (g.value? name).isSome

/-- Refuses two options that exclude each other. -/
def exclude (g : Given) (one other : String) : Except Stop Unit :=
  if g.has one && g.has other then .error (.misuse (.conflict one other)) else .ok ()

end Given

/-- Takes an option. -/
def Choice.take (o : Choice) (value : String) (g : Given) : Except Stop Given :=
  if o.kind = .path ∧ value.isEmpty then .error (.misuse (.emptyPath o.name))
  else if o.kind ≠ .texts ∧ g.has o.name then .error (.misuse (.repeated o.name))
  else .ok { g with options := g.options ++ [(o.name, value)] }

/-- Whether an argument looks like options rather than like a value. -/
def isOption (argument : List Char) : Bool := argument.head? = some '-' && argument ≠ ['-']

namespace Signature

/-- Takes an operand. -/
def takeOperand (s : Signature) (g : Given) (operand : String) : Except Stop Given :=
  let taken := { g with operands := g.operands ++ [operand] }
  match s.operands with
  | .texts => .ok taken
  | .paths most =>
    if most ≤ g.operands.length then .error (.misuse (.operandUnwanted operand))
    else if operand.isEmpty then .error (.misuse (.emptyPath operand))
    else .ok taken

/-- Reads the letters of options. An option that still needs a value is given back. -/
def readLetters (s : Signature) (g : Given) : List Char → Except Stop (Given × Option Choice)
  | [] => .ok (g, none)
  | letter :: rest =>
    if letter = 'h' then .error .help
    else
      match s.choices.find? fun o => o.letter == some letter with
      | none => .error (.misuse (.unknownOption (String.ofList ['-', letter])))
      | some o =>
        if o.kind = .flag then do readLetters s (← o.take "" g) rest
        else
          match rest with
          | [] => .ok (g, some o)
          | '=' :: value => do return (← o.take (String.ofList value) g, none)
          | value => do return (← o.take (String.ofList value) g, none)

/-- Reads an option by its name, which may have a value after an equals sign. An option that still
    needs a value is given back. -/
def readNamed (s : Signature) (g : Given) (text : List Char) :
    Except Stop (Given × Option Choice) :=
  let name := String.ofList (text.takeWhile (· ≠ '='))
  let value := (text.dropWhile (· ≠ '=')).tail?.map String.ofList
  if name = "help" then
    .error (if value.isSome then .misuse (.valueUnwanted name) else .help)
  else
    match s.choices.find? fun o => o.name == name with
    | none => .error (.misuse (.unknownOption ("--" ++ name)))
    | some o =>
      match o.kind, value with
      | .flag, none => do return (← o.take "" g, none)
      | .flag, some _ => .error (.misuse (.valueUnwanted name))
      | _, none => .ok (g, some o)
      | _, some value => do return (← o.take value g, none)

/-- Reads one argument. An option that still needs a value is given back. -/
def readArgument (s : Signature) (g : Given) (argument : String) :
    Except Stop (Given × Option Choice) :=
  if isOption argument.toList then
    match argument.toList with
    | '-' :: '-' :: text => s.readNamed g text
    | text => s.readLetters g text.tail
  else do return (← s.takeOperand g argument, none)

/-- Reads the arguments behind those that gave `g`. -/
def readFrom (s : Signature) (g : Given) : List String → Except Stop Given
  | [] => .ok g
  | argument :: rest =>
    if argument = "--" then rest.foldlM s.takeOperand g
    else
      match s.readArgument g argument with
      | .error stop => .error stop
      | .ok (g, none) => readFrom s g rest
      | .ok (g, some o) =>
        match rest with
        | [] => .error (.misuse (.valueMissing o.name))
        | value :: rest =>
          if isOption value.toList then .error (.misuse (.valueMissing o.name))
          else
            match o.take value g with
            | .error stop => .error stop
            | .ok g => readFrom s g rest

/-- Reads the arguments of a command. -/
def read (s : Signature) (arguments : List String) : Except Stop Given :=
  s.readFrom .empty arguments

end Signature

end CourseFeed.Command
