import Emend.Main
import Emend.RuleFile.Writer
import Emend.Proofs.Scan.Meaning
import Emend.Proofs.Disk.Changes
import Emend.Proofs.Pipeline.Compilation
import Emend.Proofs.Disk.Temporary
import Emend.Proofs.Disk.Parent
import Emend.Proofs.Revision.Actions
import Emend.Proofs.Revision.Course
import Emend.Proofs.Revision.WriteBack
import Emend.Proofs.Revision.SourceKept
import Emend.Proofs.Pipeline.Composition
import Emend.Proofs.Pipeline.Inert
import Emend.Proofs.Template.Grammar
import Emend.Proofs.Template.Parsing
import Emend.Proofs.Disk.Backup
import Emend.Proofs.Pipeline.Independence
import Emend.Proofs.Pipeline.Log
import Emend.Proofs.Revision.Delivered
import Emend.Proofs.Revision.Gate
import Emend.Proofs.Revision.DryRun
import Emend.Proofs.RuleFile.RoundTrip
import Emend.Proofs.Scan.Bytes
import Emend.Proofs.Scan.Progress
import Emend.Proofs.Pattern.Search
import Emend.Proofs.Scan.Unterminated
import Emend.Proofs.Revision.History
import Emend.Proofs.Report.Entries
import Emend.Proofs.Cli.Console
import Emend.Proofs.Report.RoundTrip
import Emend.Proofs.Rule.Compiled
import Emend.Proofs.Scan.Modes
import Emend.Proofs.Revision.PutBack
import Emend.Proofs.Revision.WriteModes
import Emend.Proofs.RuleFile.Forms
import Emend.Proofs.Template.Composition
import Emend.Proofs.Template.Faults
import Emend.Proofs.Template.Writing
import Emend.Proofs.Template.Drafts
import Emend.Proofs.Pattern.Locality
import Emend.Proofs.Scan.Seams
import Emend.Proofs.Scan.Expansion
import Emend.Proofs.Revision.LoadSave
