import SourceAtlas.Fault
import SourceAtlas.Snapshot.Cache
import SourceAtlas.SourceTree.Walk

/-! The stored snapshot of a tree, a file in a directory of its own below the root. It is written
beside its place and then moved there. -/
namespace SourceAtlas.SourceTree

def snapshotPath : String := cacheDirectory ++ "/snapshot.bin"

def stagingPath : String := snapshotPath ++ ".tmp"

/-- Stores a snapshot. If something is in the way, the tree is left with what was done so far. -/
def save (t : SourceTree) (s : Snapshot) : SourceTree × Option Fault :=
  match t.makeDirectory? cacheDirectory with
  | none => (t, some .inputOutput)
  | some t =>
    match t.put? stagingPath (.readable s.toBytes) with
    | none => (t, some .inputOutput)
    | some t =>
      match t.rename? stagingPath snapshotPath with
      | none => (t, some .inputOutput)
      | some t => (t, none)

/-- The stored snapshot, if there is one and it can be read. -/
def load (t : SourceTree) : Except Fault (Option Snapshot) :=
  match t.content? snapshotPath with
  | some bytes => Snapshot.ofBytes? bytes
  | none => if t.exists? snapshotPath then .error .inputOutput else .ok none

/-- Removes the directory of the stored snapshot, if there is one. -/
def clear (t : SourceTree) : Except Fault SourceTree :=
  match t.data? cacheDirectory with
  | some _ => .error .inputOutput
  | none => .ok (t.remove cacheDirectory)

end SourceAtlas.SourceTree
