import SourceAtlas.Command.Arguments

/-! The commands of the program and how they are asked for. -/
namespace SourceAtlas

inductive Command where
  | serve (port : Option Nat) (host : Option String) (interval : Option Nat)
  | index
  | search (terms : List String) (limit offset : Nat)
  | impact (path direction : String) (maxDepth : Option Nat) (relations : List String)
  | clear
  deriving DecidableEq, Repr

structure Invocation where
  root : String
  verbose : Bool
  command : Command
  deriving DecidableEq, Repr

namespace Command

def programName : String := "taproot"

def programVersion : String := "0.1.0"

def usage : String :=
  "Usage: taproot [--verbose] [--root DIRECTORY] COMMAND\n\n" ++
    "  serve [--port PORT] [--host HOST] [--interval SECONDS]\n" ++
    "  index\n" ++
    "  search TERMS... [--limit N] [--offset N]\n" ++
    "  impact PATH [--direction DIRECTION] [--max-depth N] [--relation RELATION]...\n" ++
    "  clear"

def anyText (_ : String) : Bool := true

def number? (limit : Nat) (text : String) : Option Nat := (Text.readDecimal limit text).toOption

/-- Numbers of these options may carry a minus sign, which leaves zero. -/
def signedNumber? (limit : Nat) (text : String) : Option Nat :=
  match text.toList with
  | '-' :: c :: rest =>
    if c = '+' then none else (number? limit (String.ofList (c :: rest))).filter (· = 0)
  | _ => number? limit text

def valueOption (long : String) (accepts : String → Bool) : OptionSpec :=
  ⟨long, none, .value false accepts⟩

/-- Options that stand in front of the command or behind it. -/
def sharedOptions : List OptionSpec :=
  [⟨"verbose", some 'v', .flag⟩, ⟨"root", some 'r', .value false (· ≠ "")⟩, ⟨"help", some 'h', .help⟩]

def programOptions : List OptionSpec := ⟨"version", some 'V', .version⟩ :: sharedOptions

def serveOptions : List OptionSpec :=
  [⟨"port", some 'p', .value false fun t => (signedNumber? Text.limit16 t).isSome⟩,
    valueOption "host" anyText,
    valueOption "interval" fun t => (number? Text.limit64 t).isSome]

def searchOptions : List OptionSpec :=
  [valueOption "limit" fun t => (number? Text.limit64 t).isSome,
    valueOption "offset" fun t => (number? Text.limit64 t).isSome]

def impactOptions : List OptionSpec :=
  [valueOption "direction" anyText,
    valueOption "max-depth" fun t => (signedNumber? Text.limit32 t).isSome,
    ⟨"relation", none, .value true anyText⟩]

/-- Reads the arguments behind the name of a command. -/
def ofArguments (name : String) (arguments : List String) : Except Stop (Arguments × Command) := do
  if name = "serve" then
    let a ← Arguments.read (serveOptions ++ sharedOptions) (some 0) .none arguments
    return (a, .serve ((a.value? "port").bind (signedNumber? Text.limit16)) (a.value? "host")
      ((a.value? "interval").bind (number? Text.limit64)))
  else if name = "index" then
    return (← Arguments.read sharedOptions (some 0) .none arguments, .index)
  else if name = "search" then
    let a ← Arguments.read (searchOptions ++ sharedOptions) none .none arguments
    if a.words.isEmpty then throw .refused
    else
      return (a, .search a.words (((a.value? "limit").bind (number? Text.limit64)).getD 20)
        (((a.value? "offset").bind (number? Text.limit64)).getD 0))
  else if name = "impact" then
    let a ← Arguments.read (impactOptions ++ sharedOptions) (some 1) .none arguments
    match a.words with
    | [path] =>
      return (a, .impact path ((a.value? "direction").getD "incoming")
        ((a.value? "max-depth").bind (signedNumber? Text.limit32)) (a.values "relation"))
    | _ => throw .refused
  else if name = "clear" then
    return (← Arguments.read sharedOptions (some 0) .none arguments, .clear)
  else if name = "help" then throw .help
  else throw .refused

end Command

/-- Reads a whole command line. An option behind the command counts before one in front of it. -/
def Invocation.ofArguments (arguments : List String) : Except Stop Invocation := do
  let (before, rest) := Arguments.splitAtWord Command.programOptions arguments
  let outer ← Arguments.read Command.programOptions none .none before
  match rest with
  | [] => throw .refused
  | name :: rest =>
    let (inner, command) ← Command.ofArguments name rest
    let root := (inner.value? "root").getD ((outer.value? "root").getD ".")
    return ⟨root, outer.has "verbose" || inner.has "verbose", command⟩

end SourceAtlas
