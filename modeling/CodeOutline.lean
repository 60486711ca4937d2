import CodeOutline.Main
import CodeOutline.Expectation
import CodeOutline.Proofs.Diff.Balance
import CodeOutline.Proofs.Diff.Mirror
import CodeOutline.Proofs.Forest.Walk
import CodeOutline.Proofs.Outline.CanonicalPaths
import CodeOutline.Proofs.Outline.Legality
import CodeOutline.Proofs.Outline.Parents
import CodeOutline.Proofs.Outline.Reopening
import CodeOutline.Proofs.Diff.Leftovers
import CodeOutline.Proofs.Diff.Likeness
import CodeOutline.Proofs.Forest.Reordering
import CodeOutline.Proofs.Diff.ReorderedForest
import CodeOutline.Proofs.Outline.Reordering
import CodeOutline.Proofs.Statement.FileNames
import CodeOutline.Proofs.Statement.Forms
import CodeOutline.Proofs.Outline.Accounting
import CodeOutline.Proofs.Text.SmallLetters
import CodeOutline.Proofs.Statement.Subjects
import CodeOutline.Proofs.Outline.Contents
import CodeOutline.Proofs.Outline.Modifications
import CodeOutline.Proofs.Diff.Transfer
import CodeOutline.Proofs.Outline.Relocations
import CodeOutline.Proofs.Forest.Rings
import CodeOutline.Proofs.Outline.Identities
import CodeOutline.Proofs.Outline.Moves
import CodeOutline.Proofs.Snapshot.Origins
import CodeOutline.Proofs.Snapshot.Relocations
import CodeOutline.Proofs.Forest.Visits
import CodeOutline.Proofs.Path.Segments
import CodeOutline.Proofs.Snapshot.Places
import CodeOutline.Proofs.Snapshot.Charts
import CodeOutline.Proofs.Snapshot.Structure
import CodeOutline.Proofs.Snapshot.FilePaths
import CodeOutline.Proofs.Outline.Spacing
import CodeOutline.Proofs.Outline.Omitting
import CodeOutline.Proofs.Snapshot.Reformatting
import CodeOutline.Proofs.Snapshot.Cutting
import CodeOutline.Proofs.Snapshot.Dependents
import CodeOutline.Proofs.Forest.Ownership
import CodeOutline.Proofs.Forest.Drawing
import CodeOutline.Proofs.Token.Covering
import CodeOutline.Proofs.Token.Rereading
import CodeOutline.Proofs.Statement.Recognition
import CodeOutline.Proofs.Text.Joined
import CodeOutline.Proofs.Forest.Shapes
import CodeOutline.Proofs.Snapshot.DirectoryShapes
import CodeOutline.Proofs.Diff.Refactorings
import CodeOutline.Proofs.Diff.Renderings
import CodeOutline.Proofs.Command.Statuses
import CodeOutline.Proofs.Settings.Documents
import CodeOutline.Proofs.Diff.SimilarNames
