import CourseFeed.Command.Arguments
import CourseFeed.Reconcile.Files
import CourseFeed.Settings.Basic

/-!
# Requests

What the program is asked to do. **`Request.parse`** reads a request off the arguments of the
program: a command and what belongs to it.
-/

namespace CourseFeed.Command

/-- To export a catalog. -/
structure ExportRequest where
  /-- The path of stored settings. -/
  config : Option String
  /-- The settings laid over the stored ones. -/
  overrides : Settings
  verbose : Bool
  deriving Repr, DecidableEq

/-- To reconcile two feeds. -/
structure DiffRequest where
  old : String
  new : String
  sinks : DiffSinks
  options : DiffOptions
  verbose : Bool
  logFile : Option String
  deriving Repr, DecidableEq

/-- What the program is asked to do. -/
inductive Request where
  | exportCatalog (request : ExportRequest)
  | diff (request : DiffRequest)
  | checkFilters (expressions : List String)
  deriving Repr, DecidableEq

/-- The options and operands of an export. -/
def exportSignature : Signature where
  choices :=
    [ ⟨"config", some 'c', .path⟩, ⟨"filter", some 'f', .texts⟩, ⟨"update", none, .flag⟩,
      ⟨"delete", none, .flag⟩, ⟨"rollover", none, .flag⟩, ⟨"output", some 'o', .path⟩,
      ⟨"log-file", none, .path⟩, ⟨"verbose", some 'v', .flag⟩ ]
  operands := .paths 1

/-- The options and operands of reconciling. -/
def diffSignature : Signature where
  choices :=
    [ ⟨"create", none, .path⟩, ⟨"delete", none, .path⟩, ⟨"update", none, .path⟩,
      ⟨"rollover", none, .flag⟩, ⟨"verbose", some 'v', .flag⟩, ⟨"log-file", none, .path⟩ ]
  operands := .paths 2

/-- The operands of checking filters. -/
def checkSignature : Signature where
  choices := []
  operands := .texts

/-- The operation that the flags of an export ask for. -/
def operationOf (g : Given) : Option Operation :=
  if g.has "delete" then some .delete
  else if g.has "rollover" then some .rollover
  else if g.has "update" then some .update
  else none

/-- The name and the version of the program. -/
def versionText : String := "cl-cli 0.1.0\n"

/-- How the program is used. -/
def usageText : String :=
  "Usage: cl-cli export [-c CONFIG] [-f FILTER]... [--update | --delete | --rollover]\n" ++
  "                     [-o OUTPUT] [--log-file LOG] [-v] [CATALOG]\n" ++
  "       cl-cli diff [--create FILE] [--delete FILE] [--update FILE] [--rollover]\n" ++
  "                   [--log-file LOG] [-v] OLD NEW\n" ++
  "       cl-cli check-filter EXPRESSION...\n"

namespace Request

/-- Reads the request for an export. -/
def parseExport (arguments : List String) : Except Stop Request := do
  let g ← exportSignature.read arguments
  g.exclude "update" "delete"
  g.exclude "update" "rollover"
  g.exclude "delete" "rollover"
  return .exportCatalog
    { config := g.value? "config"
      overrides :=
        { catalog := g.operands.head?
          output := g.value? "output"
          logFile := g.value? "log-file"
          filters := g.values "filter"
          operation := operationOf g }
      verbose := g.has "verbose" }

/-- Reads the request for reconciling. -/
def parseDiff (arguments : List String) : Except Stop Request := do
  let g ← diffSignature.read arguments
  match g.operands with
  | [old, new] =>
    return .diff
      { old := old
        new := new
        sinks := ⟨g.value? "create", g.value? "delete", g.value? "update"⟩
        options := ⟨g.has "rollover"⟩
        verbose := g.has "verbose"
        logFile := g.value? "log-file" }
  | [] => .error (.misuse (.operandMissing "old"))
  | _ => .error (.misuse (.operandMissing "new"))

/-- Reads the request for checking filters. -/
def parseCheck (arguments : List String) : Except Stop Request := do
  let g ← checkSignature.read arguments
  match g.operands with
  | [] => .error (.misuse (.operandMissing "expression"))
  | expressions => return .checkFilters expressions

/-- The names of the commands. -/
def names : List String := ["export", "diff", "check-filter"]

/-- Reads the names for which help is wanted. -/
def parseHelp : List String → Except Stop Request
  | [] => .error .help
  | [name] =>
    .error (if (names ++ ["help"]).contains name then .help else .misuse (.unknownCommand name))
  | _ :: name :: _ => .error (.misuse (.unknownCommand name))

/-- Reads an argument where a command should stand. -/
def parseOther (argument : String) : Except Stop Request :=
  if argument = "--help" then .error .help
  else if argument = "--version" then .error .version
  else
    match argument.toList with
    | '-' :: 'h' :: _ => .error .help
    | '-' :: 'V' :: _ => .error .version
    | _ =>
      .error (.misuse
        (if isOption argument.toList then .unknownOption argument else .unknownCommand argument))

/-- Reads the request that the arguments of the program make. -/
def parse : List String → Except Stop Request
  | [] => .error (.misuse .noCommand)
  | "export" :: arguments => parseExport arguments
  | "diff" :: arguments => parseDiff arguments
  | "check-filter" :: arguments => parseCheck arguments
  | "help" :: arguments => parseHelp arguments
  | argument :: _ => parseOther argument

end Request

end CourseFeed.Command
