import Switchboard.Hub.Gallery
import Switchboard.Hub.Session
import Switchboard.Main
import Switchboard.Proofs.CommandLine.Modes
import Switchboard.Proofs.Document.Agreement
import Switchboard.Proofs.Document.Origin
import Switchboard.Proofs.Hub.ClosedLoop
import Switchboard.Proofs.Hub.Directory
import Switchboard.Proofs.Publication.Repetition
import Switchboard.Proofs.Hub.Outcome
import Switchboard.Proofs.Hub.Provenance
import Switchboard.Proofs.CommandLine.DryRun
import Switchboard.Proofs.Document.Growth
import Switchboard.Proofs.Roster.Canonical
import Switchboard.Proofs.Text.Indentation
import Switchboard.Proofs.Roster.Remarks
import Switchboard.Proofs.Document.LineEnds
import Switchboard.Proofs.CommandLine.ReportData
import Switchboard.Proofs.Summary
import Switchboard.Proofs.Hub.Ranking
