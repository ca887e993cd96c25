import AnnotatedSql.Config.File
import AnnotatedSql.Context
import AnnotatedSql.Schema.Report
import AnnotatedSql.Proofs.Compiler.ProbeReply
import AnnotatedSql.Proofs.Markup.RoundTrip
import AnnotatedSql.Proofs.Schema.Consistency
import AnnotatedSql.Proofs.Schema.Loading
import AnnotatedSql.Proofs.Compiler.Course
import AnnotatedSql.Proofs.Compiler.FailurePolicy
import AnnotatedSql.Proofs.Markup.LineNumbers
import AnnotatedSql.Proofs.Compiler.ProbeTrace
import AnnotatedSql.Proofs.Schema.Lookup
import AnnotatedSql.Proofs.Directive.Reconciliation
import AnnotatedSql.Proofs.Compiler.TokenIndependence
import AnnotatedSql.Proofs.Sqlite.RowIdentifier
import AnnotatedSql.Proofs.Compiler.DocumentsInTurn
import AnnotatedSql.Proofs.Markup.Seam
import AnnotatedSql.Proofs.Wildcard.SelectList
import AnnotatedSql.Proofs.Compiler.ReducedBody
import AnnotatedSql.Proofs.Schema.Resolution
import AnnotatedSql.Proofs.Sqlite.ForeignKeyRows
import AnnotatedSql.Proofs.Statement.Definitions
import AnnotatedSql.Proofs.Compiler.StatementFiles
import AnnotatedSql.Proofs.Markup.PlainText
import AnnotatedSql.Proofs.Sqlite.TypeParts
import AnnotatedSql.Proofs.Compiler.LeadingVerb
import AnnotatedSql.Proofs.Wildcard.SentinelIdentifier
