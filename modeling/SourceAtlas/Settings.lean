import SourceAtlas.Build.Config
import SourceAtlas.Settings.Environment
import SourceAtlas.SourceTree
import SourceAtlas.Text.Decimal
import SourceAtlas.Toml.Document

/-! Settings come in layers: defaults, the configuration file at the root of the tree, the environment,
and at last the options of a command. -/
namespace SourceAtlas

structure Settings where
  build : BuildConfig
  host : String
  port : Nat
  /-- The depth of impact queries that give none, and the most any may ask for. -/
  maxDepthCap : Nat
  /-- Seconds between rebuilds; 0 means none but those that are asked for. -/
  intervalSecs : Nat
  /-- Whether what is built is stored. -/
  persist : Bool
  deriving DecidableEq, Repr

inductive SettingsFault where
  | unreadable (path : String)
  | invalidFile (path : String)
  | notPort (value : String)
  | notNumber (name value : String)
  deriving DecidableEq, Repr

def SettingsFault.message : SettingsFault → String
  | .unreadable path => "failed to read " ++ path
  | .invalidFile path => "invalid " ++ path
  | .notPort value => "TAPROOT_PORT is not a port: " ++ value
  | .notNumber name value => name ++ " is not a number: " ++ value

namespace Settings

def default : Settings where
  build := .default
  host := "127.0.0.1"
  port := 7890
  maxDepthCap := 512
  intervalSecs := 0
  persist := true

/-- Seconds between rebuilds, if there are to be any. -/
def interval? (s : Settings) : Option Nat := if s.intervalSecs = 0 then none else some s.intervalSecs

def fileName : String := "taproot.toml"

def hostVariable : String := "TAPROOT_HOST"

def portVariable : String := "TAPROOT_PORT"

def intervalVariable : String := "TAPROOT_REBUILD_INTERVAL_SECS"

def depthVariable : String := "TAPROOT_MAX_DEPTH_CAP"

/-- The variables that settings are taken from. -/
def variableNames : List String := [hostVariable, portVariable, intervalVariable, depthVariable]

open Toml (Value)

/-- Reads one field of a section; a field that is not there keeps its value. -/
def field {α : Type} (names : List String) (name : String) (read? : Value → Option α) (old : α)
    (section? : Value) : Option α := do
  match ← section?.part? (names.map (·.toList)) name.toList with
  | some value => read? value
  | none => return old

def buildNames : List String := ["exclude", "max_file_size", "respect_gitignore", "parser_workers"]

def readBuild (old : BuildConfig) (v : Value) : Option BuildConfig := do
  return {
    exclude := ← field buildNames "exclude" Value.texts? old.exclude v
    maxFileSize := .ofNat
      (← field buildNames "max_file_size" (Value.natBelow? Text.limit64) old.maxFileSize.toNat v)
    respectIgnoreFiles :=
      ← field buildNames "respect_gitignore" Value.flag? old.respectIgnoreFiles v
    parserWorkers := .ofNat
      (← field buildNames "parser_workers" (Value.natBelow? Text.limit64) old.parserWorkers.toNat
        v) }

/-- Every section is about some of the settings. -/
def readSection (s : Settings) (name : List Char) (v : Value) : Option Settings :=
  if name = "build".toList then do
    return { s with build := ← readBuild s.build v }
  else if name = "server".toList then do
    return { s with
      host := ← field ["host", "port"] "host" Value.text? s.host v
      port := ← field ["host", "port"] "port" (Value.natBelow? Text.limit16) s.port v }
  else if name = "query".toList then do
    return { s with
      maxDepthCap :=
        ← field ["max_depth_cap"] "max_depth_cap" (Value.natBelow? Text.limit32) s.maxDepthCap v }
  else if name = "rebuild".toList then do
    let names := ["interval_secs", "persist"]
    return { s with
      intervalSecs := ← field names "interval_secs" (Value.natBelow? Text.limit64) s.intervalSecs v
      persist := ← field names "persist" Value.flag? s.persist v }
  else none

/-- The settings that a configuration file writes over the defaults. -/
def ofText? (text : String) : Option Settings := do
  match ← Toml.ofText? text with
  | .table _ entries => entries.foldlM (fun s (name, v) => s.readSection name v) default
  | _ => none

/-- A variable that holds a number, if it is set. -/
def numberFrom (env : Environment) (name : String) (limit old : Nat)
    (fault : String → SettingsFault) : Except SettingsFault Nat :=
  match env.get? name with
  | none => .ok old
  | some text =>
    match Text.readDecimal limit text with
    | .ok n => .ok n
    | .error _ => .error (fault text)

/-- The first variable that holds no number, in the order port, interval, depth, is the fault. -/
def applyEnvironment (s : Settings) (env : Environment) : Except SettingsFault Settings := do
  let port ← numberFrom env portVariable Text.limit16 s.port .notPort
  let intervalSecs ← numberFrom env intervalVariable Text.limit64 s.intervalSecs
    (.notNumber intervalVariable)
  let maxDepthCap ← numberFrom env depthVariable Text.limit32 s.maxDepthCap
    (.notNumber depthVariable)
  return { s with host := (env.get? hostVariable).getD s.host, port, intervalSecs, maxDepthCap }

/-- The settings of the configuration file, or the defaults if there is no such file. `root` is what
the root is called in messages. -/
def ofTree (t : SourceTree) (root : String) : Except SettingsFault Settings :=
  let path := root ++ "/" ++ fileName
  match t.data? fileName with
  | none | some (.unknown _) => .ok default
  | some (.unreadable ..) => .error (.unreadable path)
  | some (.readable bytes) =>
    match Text.ofUtf8? bytes with
    | none => .error (.unreadable path)
    | some text =>
      match ofText? text with
      | some s => .ok s
      | none => .error (.invalidFile path)

def load (t : SourceTree) (root : String) (env : Environment) : Except SettingsFault Settings := do
  (← ofTree t root).applyEnvironment env

end Settings

end SourceAtlas
