import GuidAudit.Main
import GuidAudit.Proofs.Accounting
import GuidAudit.Proofs.Annotation
import GuidAudit.Proofs.Comments
import GuidAudit.Proofs.Continuation
import GuidAudit.Proofs.Declaration
import GuidAudit.Proofs.Detection
import GuidAudit.Proofs.Excerpt
import GuidAudit.Proofs.Frame
import GuidAudit.Proofs.Gate
import GuidAudit.Proofs.HeaderList
import GuidAudit.Proofs.History
import GuidAudit.Proofs.KeyForms
import GuidAudit.Proofs.KeyScope
import GuidAudit.Proofs.Layout
import GuidAudit.Proofs.MoreKeys
import GuidAudit.Proofs.Presentation
import GuidAudit.Proofs.Reading
import GuidAudit.Proofs.Shadowing
import GuidAudit.Proofs.StructHeader
import GuidAudit.Proofs.SuppressionFile
import GuidAudit.Proofs.Template
import GuidAudit.Proofs.TextReport
import GuidAudit.Proofs.UnusedKeys
