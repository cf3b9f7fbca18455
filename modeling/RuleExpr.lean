import RuleExpr.Dialect.Json
import RuleExpr.Memo.Session
import RuleExpr.Rule.Build
import RuleExpr.Rule.Display
import RuleExpr.Rule.Json
import RuleExpr.Proofs.Unsupported
import RuleExpr.Proofs.Quotation
import RuleExpr.Proofs.Meaning
import RuleExpr.Proofs.Bounds
import RuleExpr.Proofs.Admission
import RuleExpr.Proofs.Lookups
import RuleExpr.Proofs.Transparency
import RuleExpr.Proofs.Snapshot
import RuleExpr.Proofs.Masking
import RuleExpr.Proofs.Locality
import RuleExpr.Proofs.RoundTrip
import RuleExpr.Proofs.Editing
import RuleExpr.Proofs.Forms
import RuleExpr.Proofs.Justification
import RuleExpr.Proofs.Log
import RuleExpr.Proofs.Balance
import RuleExpr.Proofs.Composition
import RuleExpr.Proofs.Ranges
import RuleExpr.Proofs.Padding
import RuleExpr.Proofs.NormalForm
import RuleExpr.Proofs.Reordering
import RuleExpr.Proofs.Calendar
import RuleExpr.Proofs.Settings
import RuleExpr.Proofs.Display
import RuleExpr.Proofs.History
import RuleExpr.Proofs.Unquoting
