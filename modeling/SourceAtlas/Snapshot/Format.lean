import SourceAtlas.Hash.Sip
import SourceAtlas.TextMap

/-! Binary formats. A format writes values as bytes and reads one value from the front of a byte
list, leaving what follows. Words are little-endian at full width, and every list, text and map
opens with its length as a 64-bit word. -/
namespace SourceAtlas

structure Format (α : Type) where
  encode : α → Bytes
  decode : Bytes → Option (α × Bytes)

namespace Format

variable {α β γ : Type}

/-- A format of `β` through another type: `back?` refuses what no `β` is written as. -/
def through (f : Format α) (into : β → α) (back? : α → Option β) : Format β where
  encode b := f.encode (into b)
  decode bytes := do
    let (a, rest) ← f.decode bytes
    return (← back? a, rest)

def byte : Format UInt8 where
  encode b := [b]
  decode
    | [] => none
    | b :: rest => some (b, rest)

def u32 : Format UInt32 where
  encode n := (List.range 4).map fun i => (n >>> (UInt32.ofNat (8 * i))).toUInt8
  decode
    | b0 :: b1 :: b2 :: b3 :: rest => some ((Hash.word [b0, b1, b2, b3]).toUInt32, rest)
    | _ => none

def u64 : Format UInt64 where
  encode := Hash.littleEndian64
  decode
    | b0 :: b1 :: b2 :: b3 :: b4 :: b5 :: b6 :: b7 :: rest =>
      some (Hash.word [b0, b1, b2, b3, b4, b5, b6, b7], rest)
    | _ => none

/-- One byte, 0 or 1. -/
def bool : Format Bool :=
  byte.through (fun b => if b then 1 else 0) fun n =>
    if n = 0 then some false else if n = 1 then some true else none

def pair (f : Format α) (g : Format β) : Format (α × β) where
  encode x := f.encode x.1 ++ g.encode x.2
  decode bytes := do
    let (a, rest) ← f.decode bytes
    let (b, rest) ← g.decode rest
    return ((a, b), rest)

/-- A byte that tells whether a value follows. -/
def option (f : Format α) : Format (Option α) where
  encode
    | none => bool.encode false
    | some a => bool.encode true ++ f.encode a
  decode bytes := do
    let (present, rest) ← bool.decode bytes
    if present then
      let (a, rest) ← f.decode rest
      return (some a, rest)
    else return (none, rest)

def decodeMany (f : Format α) : Nat → Bytes → Option (List α × Bytes)
  | 0, bytes => some ([], bytes)
  | n + 1, bytes => do
    let (a, rest) ← f.decode bytes
    let (as, rest) ← f.decodeMany n rest
    return (a :: as, rest)

def list (f : Format α) : Format (List α) where
  encode xs := u64.encode (UInt64.ofNat xs.length) ++ xs.flatMap f.encode
  decode bytes := do
    let (n, rest) ← u64.decode bytes
    f.decodeMany n.toNat rest

def text : Format String where
  encode s := u64.encode (UInt64.ofNat (Text.utf8 s).length) ++ Text.utf8 s
  decode bytes := do
    let (n, rest) ← u64.decode bytes
    let body := rest.take n.toNat
    if body.length = n.toNat then return (← Text.ofUtf8? body, rest.drop n.toNat) else none

/-- Of entries with the same key the last counts. -/
def map (f : Format α) : Format (TextMap α) :=
  (list (pair text f)).through (·.entries) fun entries => some (TextMap.ofList entries)

/-- The position in a list of all values, as a 32-bit word. -/
def choice [DecidableEq α] (all : List α) : Format α :=
  u32.through (fun a => UInt32.ofNat (all.idxOf a)) fun n => all[n.toNat]?

end Format

end SourceAtlas
