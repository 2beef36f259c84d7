import SourceAtlas.Http.Router
import SourceAtlas.Main
import SourceAtlas.Proofs.Build.BlastRadius
import SourceAtlas.Proofs.Build.Cached
import SourceAtlas.Proofs.Build.Failure
import SourceAtlas.Proofs.Diff.Touched
import SourceAtlas.Proofs.Extraction.Links
import SourceAtlas.Proofs.Extraction.Nested
import SourceAtlas.Proofs.Language
import SourceAtlas.Proofs.NodeId
import SourceAtlas.Proofs.Path.Join
import SourceAtlas.Proofs.Query
import SourceAtlas.Proofs.Rebuild.Persistence
import SourceAtlas.Proofs.Resolve.Absolute
import SourceAtlas.Proofs.Resolve.Upwards
import SourceAtlas.Proofs.Search.Documentation
import SourceAtlas.Proofs.Search.Partition
import SourceAtlas.Proofs.Snapshot.Acceptance
import SourceAtlas.Proofs.Snapshot.Limits
import SourceAtlas.Proofs.Snapshot.Truncation
import SourceAtlas.Proofs.UseTree.Comments
import SourceAtlas.UseTree
