import RoutePattern.Main
import RoutePattern.Site
import RoutePattern.Proofs.CaseFold
import RoutePattern.Proofs.Expr.Ways
import RoutePattern.Proofs.Expr.Leads
import RoutePattern.Proofs.Expr.Distinct
import RoutePattern.Proofs.Expr.Marked
import RoutePattern.Proofs.Expr.Ends
import RoutePattern.Proofs.Expr.Backtracking
import RoutePattern.Proofs.Expr.Search
import RoutePattern.Proofs.Expr.Coverage
import RoutePattern.Proofs.Expr.Thorough
import RoutePattern.Proofs.CharSet.Bracket
import RoutePattern.Proofs.Expr.Reading
import RoutePattern.Proofs.Expr.Language
import RoutePattern.Proofs.Token.Expression
import RoutePattern.Proofs.Token.Reading
import RoutePattern.Proofs.Token.Program
import RoutePattern.Proofs.Token.Plain
import RoutePattern.Proofs.Token.Language
import RoutePattern.Proofs.Pattern.Acceptance
import RoutePattern.Proofs.Text.Split
import RoutePattern.Proofs.Token.Capture
import RoutePattern.Proofs.Params
import RoutePattern.Proofs.Builder
import RoutePattern.Proofs.Value
import RoutePattern.Proofs.Pattern.Rebuilding
import RoutePattern.Proofs.Token.Apart
import RoutePattern.Proofs.Token.FirstWay
import RoutePattern.Proofs.Pattern.RoundTrip
import RoutePattern.Proofs.Text.Percent
import RoutePattern.Proofs.Pattern.Url
import RoutePattern.Proofs.Site.Ledger
import RoutePattern.Proofs.Expr.Renumber
import RoutePattern.Proofs.Expr.Alternatives
import RoutePattern.Proofs.Token.Alternation
import RoutePattern.Proofs.Pattern.Alternation
import RoutePattern.Proofs.Expr.Body
import RoutePattern.Proofs.Expr.Within
import RoutePattern.Proofs.Expr.Fragment
import RoutePattern.Proofs.Token.Fragments
import RoutePattern.Proofs.Pattern.Captures
import RoutePattern.Proofs.Lexeme.Rendering
import RoutePattern.Proofs.Token.Grammar
import RoutePattern.Proofs.Token.Phrase
import RoutePattern.Proofs.Pattern.Reverse
import RoutePattern.Proofs.Site.Reverse
import RoutePattern.Proofs.Site.Sharing
import RoutePattern.Proofs.Pattern.Naming
import RoutePattern.Proofs.Pattern.Compiling
import RoutePattern.Proofs.Pattern.Quoted
import RoutePattern.Proofs.Expr.Inert
import RoutePattern.Proofs.Expr.Numbering
import RoutePattern.Proofs.Matcher.Legible
import RoutePattern.Proofs.Matcher.Expression
import RoutePattern.Proofs.Lexeme.Bracket
import RoutePattern.Proofs.Lexeme.Step
import RoutePattern.Proofs.Token.Shorthand
import RoutePattern.Proofs.Token.Written
import RoutePattern.Proofs.Token.Conservation
import RoutePattern.Proofs.Token.Canonical
import RoutePattern.Proofs.Params.Order
import RoutePattern.Proofs.Site.Codecs
import RoutePattern.Proofs.Builder.Checks
import RoutePattern.Proofs.Pattern.Shape
import RoutePattern.Proofs.Lexeme.Fragment
import RoutePattern.Proofs.CommandLine.Assignments
import RoutePattern.Proofs.Config.Routes
import RoutePattern.Proofs.Text.Escape
