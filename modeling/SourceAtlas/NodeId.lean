import SourceAtlas.Hash.Sip
import SourceAtlas.Text.Hex

/-! Identity of nodes and contents. A node id is a 64-bit hash of what kind of thing the node is and
of its path, so an unchanged tree gives the same ids again; it is written as 16 lower case
hexadecimal digits. A fingerprint is the same hash of a file's bytes. -/
namespace SourceAtlas

inductive NodeKind where
  | file | symbol | external
  deriving DecidableEq, Repr

namespace NodeKind

def index : NodeKind → UInt64
  | .file => 0 | .symbol => 1 | .external => 2

def name : NodeKind → String
  | .file => "file" | .symbol => "symbol" | .external => "external"

def all : List NodeKind := [.file, .symbol, .external]

end NodeKind

structure NodeId where
  val : UInt64
  deriving DecidableEq, Repr, Hashable, Inhabited

namespace NodeId

def of (kind : NodeKind) (path : String) : NodeId :=
  ⟨Hash.sip13 (Hash.littleEndian64 kind.index ++ Text.utf8 path ++ [0xff])⟩

def toText (id : NodeId) : String := String.ofList (Text.Hex.render 16 id.val.toNat)

/-- Exactly the texts that `toText` writes. -/
def ofText? (s : String) : Option NodeId :=
  if s.toList.length = 16 then (Text.Hex.read? s.toList).map fun n => ⟨UInt64.ofNat n⟩ else none

end NodeId

structure Fingerprint where
  val : UInt64
  deriving DecidableEq, Repr, Inhabited

def Fingerprint.of (content : Bytes) : Fingerprint :=
  ⟨Hash.sip13 (Hash.littleEndian64 (UInt64.ofNat content.length) ++ content)⟩

end SourceAtlas
