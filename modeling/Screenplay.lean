import Screenplay.Main
import Screenplay.Proofs.Command.Billing
import Screenplay.Proofs.Command.Output
import Screenplay.Proofs.Command.Quotes
import Screenplay.Proofs.Command.Stops
import Screenplay.Proofs.Config.Ranges
import Screenplay.Proofs.Files.Changes
import Screenplay.Proofs.Files.Writing
import Screenplay.Proofs.Generation.Attempts
import Screenplay.Proofs.Generation.Backoff
import Screenplay.Proofs.Generation.Fences
import Screenplay.Proofs.Generation.Pacing
import Screenplay.Proofs.Generation.Prompts
import Screenplay.Proofs.Generation.Tiers
import Screenplay.Proofs.Playbook.Containment
import Screenplay.Proofs.Playbook.Context
import Screenplay.Proofs.Playbook.Lines
import Screenplay.Proofs.Playbook.Literal
import Screenplay.Proofs.Playbook.Scanner
import Screenplay.Proofs.Playbook.Screenshot
import Screenplay.Proofs.Playbook.Source
import Screenplay.Proofs.Report.Batches
import Screenplay.Proofs.Report.FileNames
import Screenplay.Proofs.Report.Placement
import Screenplay.Proofs.Selection.Keywords
import Screenplay.Proofs.Selection.Ranking
import Screenplay.Proofs.Selection.Scoring
import Screenplay.Proofs.Spec.RoundTrip
import Screenplay.Proofs.Template.Boundaries
import Screenplay.Proofs.Template.Environment
import Screenplay.Proofs.Template.Legible
import Screenplay.Proofs.Template.NormalForm
import Screenplay.Proofs.Template.Printing
import Screenplay.Proofs.Template.References
import Screenplay.Proofs.Template.Resolution
import Screenplay.Proofs.Template.Tiling
