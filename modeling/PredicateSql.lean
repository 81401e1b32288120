import PredicateSql.Catalog
import PredicateSql.Condition
import PredicateSql.Condition.Eval
import PredicateSql.Database
import PredicateSql.Demo
import PredicateSql.EvalError
import PredicateSql.Expr
import PredicateSql.Expr.Dependence
import PredicateSql.Expr.Eval
import PredicateSql.Filter
import PredicateSql.Fragment
import PredicateSql.Lowering
import PredicateSql.Operator
import PredicateSql.QueryError
import PredicateSql.Report
import PredicateSql.Row
import PredicateSql.Run
import PredicateSql.Select
import PredicateSql.Select.Parser
import PredicateSql.Session
import PredicateSql.Text.Alphabetic
import PredicateSql.Text.Blank
import PredicateSql.Text.Hidden
import PredicateSql.Text.Integer
import PredicateSql.Text.Numeric
import PredicateSql.Text.Quoted
import PredicateSql.Text.Ranges
import PredicateSql.Token
import PredicateSql.Token.Lexer
import PredicateSql.Value
import PredicateSql.Proofs.Outcomes
import PredicateSql.Proofs.Grammar
import PredicateSql.Proofs.Placeholders
import PredicateSql.Proofs.FilterText
import PredicateSql.Proofs.LoweringRules
import PredicateSql.Proofs.Residue
import PredicateSql.Proofs.StatementText
import PredicateSql.Proofs.RowValues
import PredicateSql.Proofs.Comparisons
import PredicateSql.Proofs.TypeSafety
import PredicateSql.Proofs.Store
import PredicateSql.Proofs.HostAgreement
import PredicateSql.Proofs.Confinement
import PredicateSql.Proofs.ParserSound
import PredicateSql.Proofs.Sentences
import PredicateSql.Proofs.Bounds
import PredicateSql.Proofs.DatabaseRuns
import PredicateSql.Proofs.SessionRuns
import PredicateSql.Proofs.Building
import PredicateSql.Proofs.Spelling
import PredicateSql.Proofs.Subtrees
import PredicateSql.Proofs.Folding
import PredicateSql.Proofs.LoweringFailures
import PredicateSql.Proofs.Lookups
import PredicateSql.Proofs.Dependence
import PredicateSql.Proofs.Completions
import PredicateSql.Proofs.Numbering
import PredicateSql.Proofs.Mirror
import PredicateSql.Proofs.Lines
import PredicateSql.Proofs.Literals
import PredicateSql.Proofs.Wrapping
import PredicateSql.Proofs.Notes
import PredicateSql.Proofs.DemoEntries
import PredicateSql.Proofs.DemoRuns
import PredicateSql.Proofs.Attempt
import PredicateSql.Proofs.Cursor
import PredicateSql.Proofs.Scanner
import PredicateSql.Proofs.Progress
