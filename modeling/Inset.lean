import Inset.Contribution.Reading
import Inset.FileTree.Access
import Inset.Grammar.Reading
import Inset.Main
import Inset.Proofs.Command.BuildThenCheck
import Inset.Proofs.Command.UpToDate
import Inset.Proofs.Generated.Idempotence
import Inset.Proofs.Generated.Containment
import Inset.Proofs.Generated.Reading
import Inset.Proofs.Generated.Failure
import Inset.Proofs.Manifest.Acceptance
import Inset.Proofs.Generated.Fragment
import Inset.Proofs.Generated.Staleness
import Inset.Proofs.Grammar.Groups
import Inset.Proofs.Grammar.Format
import Inset.Proofs.Command.StartingPoint
import Inset.Proofs.Command.Printing
import Inset.Proofs.Generated.Nesting
import Inset.Proofs.Manifest.Layout
import Inset.Proofs.Generated.Paths
import Inset.Proofs.Generated.Scopes
import Inset.Proofs.Manifest.Written
import Inset.Proofs.Grammar.Marker
import Inset.Proofs.Generated.Below
import Inset.Proofs.Generated.Outcome
import Inset.Proofs.FileTree.Alike
import Inset.Proofs.Generated.Skipping
import Inset.Proofs.Generated.Comparison
import Inset.Proofs.Command.NearestManifest
import Inset.Proofs.Command.CleanedPaths
