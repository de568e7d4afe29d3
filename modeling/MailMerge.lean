import MailMerge.Context.Sample
import MailMerge.Main
import MailMerge.Proofs.Command.Output
import MailMerge.Proofs.Context.Documents
import MailMerge.Proofs.Context.Leaves
import MailMerge.Proofs.Decimal.Display
import MailMerge.Proofs.Directive.Suggestion
import MailMerge.Proofs.Forms.Endpoint
import MailMerge.Proofs.Forms.Genuine
import MailMerge.Proofs.Render.Dependence
import MailMerge.Proofs.Render.EmptyTargets
import MailMerge.Proofs.Render.Interrupted
import MailMerge.Proofs.Render.Offline
import MailMerge.Proofs.Render.Reordered
import MailMerge.Proofs.Render.ShownText
import MailMerge.Proofs.Render.Spelling
import MailMerge.Proofs.Render.Timing
import MailMerge.Proofs.Tree.ReadBack
import MailMerge.Proofs.Tree.Replace
import MailMerge.Render.Record
