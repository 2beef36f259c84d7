import SourceAtlas.Text.Decimal
import SourceAtlas.Text.Split

/-! Arguments of a command line: long and short options, their values, and words. Options may stand
anywhere, short ones may share a dash, and behind a double dash everything is a word. -/
namespace SourceAtlas

/-- What an option does when it is given. -/
inductive OptionRole where
  /-- It is noted, once. -/
  | flag
  /-- It takes a value that passes the test. -/
  | value (repeatable : Bool) (accepts : String → Bool)
  /-- It ends the reading. -/
  | help
  | version

structure OptionSpec where
  long : String
  short : Option Char
  role : OptionRole

/-- Why no command is run. -/
inductive Stop where
  | refused
  | help
  | version
  deriving DecidableEq, Repr

/-- What has been read of one level of arguments. -/
structure Arguments where
  options : List (String × String)
  words : List String
  deriving DecidableEq, Repr

namespace Arguments

def none : Arguments := ⟨[], []⟩

def values (a : Arguments) (long : String) : List String :=
  (a.options.filter (·.1 = long)).map (·.2)

def value? (a : Arguments) (long : String) : Option String := (a.values long).getLast?

def has (a : Arguments) (long : String) : Bool := a.options.any (·.1 = long)

def note (a : Arguments) (long value : String) : Arguments :=
  { a with options := a.options ++ [(long, value)] }

/-- An option without a value. -/
def addFlag (a : Arguments) (spec : OptionSpec) : Except Stop Arguments :=
  match spec.role with
  | .help => .error .help
  | .version => .error .version
  | .value .. => .error .refused
  | .flag => if a.has spec.long then .error .refused else .ok (a.note spec.long "")

def addValue (a : Arguments) (spec : OptionSpec) (value : String) : Except Stop Arguments :=
  match spec.role with
  | .value repeatable accepts =>
    if (a.has spec.long && !repeatable) || !accepts value then .error .refused
    else .ok (a.note spec.long value)
  | _ => .error .refused

def takesValue (spec : OptionSpec) : Bool :=
  match spec.role with
  | .value .. => true
  | _ => false

/-- Short options that share a dash. The last may take what follows as its value, or else wait for the
next argument. -/
def addShort (specs : List OptionSpec) (a : Arguments) :
    List Char → Except Stop (Arguments × Option OptionSpec)
  | [] => .ok (a, .none)
  | c :: rest =>
    match specs.find? (·.short = some c) with
    | .none => .error .refused
    | some spec =>
      if takesValue spec then
        match rest with
        | [] => .ok (a, some spec)
        | '=' :: value => (a.addValue spec (String.ofList value)).map (·, .none)
        | value => (a.addValue spec (String.ofList value)).map (·, .none)
      else
        match a.addFlag spec with
        | .ok a => addShort specs a rest
        | .error stop => .error stop

/-- A long option, with its value behind an equals sign or in the next argument. -/
def addLong (specs : List OptionSpec) (a : Arguments) (text : List Char) :
    Except Stop (Arguments × Option OptionSpec) :=
  match specs.find? (·.long.toList = text.takeWhile (· ≠ '=')) with
  | .none => .error .refused
  | some spec =>
    match text.dropWhile (· ≠ '=') with
    | _ :: value => (a.addValue spec (String.ofList value)).map (·, .none)
    | [] =>
      if takesValue spec then .ok (a, some spec) else (a.addFlag spec).map (·, .none)

/-- Whether an argument can only be an option. A single dash is a word. -/
def isOption (argument : String) : Bool :=
  match argument.toList with
  | '-' :: _ :: _ => true
  | _ => false

def addWord (most : Option Nat) (a : Arguments) (word : String) : Except Stop Arguments :=
  if most.any (· ≤ a.words.length) then .error .refused
  else .ok { a with words := a.words ++ [word] }

/-- Reads all arguments; at most so many words may be among them. -/
def read (specs : List OptionSpec) (most : Option Nat) (a : Arguments) :
    List String → Except Stop Arguments
  | [] => .ok a
  | argument :: rest =>
    if argument = "--" then rest.foldlM (addWord most) a
    else if isOption argument then
      let added := match argument.toList with
        | '-' :: '-' :: text => addLong specs a text
        | _ :: text => addShort specs a text
        | [] => .error .refused
      match added with
      | .error stop => .error stop
      | .ok (a, .none) => read specs most a rest
      | .ok (a, some spec) =>
        match rest with
        | [] => .error .refused
        | value :: rest =>
          if isOption value then .error .refused
          else
            match a.addValue spec value with
            | .ok a => read specs most a rest
            | .error stop => .error stop
    else
      match addWord most a argument with
      | .ok a => read specs most a rest
      | .error stop => .error stop

/-- The arguments from the first word on, and those in front of it. -/
def splitAtWord (specs : List OptionSpec) : List String → List String × List String
  | [] => ([], [])
  | argument :: rest =>
    if argument = "--" ∨ !isOption argument then ([], argument :: rest)
    else
      let waits := match argument.toList with
        | '-' :: '-' :: text => addLong specs none text
        | _ :: text => addShort specs none text
        | [] => .error .refused
      match waits, rest with
      | .ok (_, some _), value :: rest =>
        let (before, after) := splitAtWord specs rest
        (argument :: value :: before, after)
      | _, rest =>
        let (before, after) := splitAtWord specs rest
        (argument :: before, after)

end Arguments

end SourceAtlas
