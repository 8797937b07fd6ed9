import SchemaPattern.Expr.Text
import SchemaPattern.Regex
import SchemaPattern.Proofs.CharSet.Normal
import SchemaPattern.Proofs.CharSet.Folding
import SchemaPattern.Proofs.Escape
import SchemaPattern.Proofs.Host.Reading
import SchemaPattern.Proofs.Host.Class
import SchemaPattern.Proofs.Lookahead
import SchemaPattern.Proofs.Parser.Run
import SchemaPattern.Proofs.Grammar
import SchemaPattern.Proofs.GroupSet
import SchemaPattern.Proofs.Parser.Moves
import SchemaPattern.Proofs.Parser.Completeness
import SchemaPattern.Proofs.Parser.Soundness
import SchemaPattern.Proofs.Nesting
import SchemaPattern.Proofs.Parser.Reach
import SchemaPattern.Proofs.Lexer.Items
import SchemaPattern.Proofs.Parser.BackReference
import SchemaPattern.Proofs.GroupMarks
import SchemaPattern.Proofs.Parser.Escapes
import SchemaPattern.Proofs.ClassText
import SchemaPattern.Proofs.Host.Adding
import SchemaPattern.Proofs.Host.Image
import SchemaPattern.Proofs.Host.Atoms
import SchemaPattern.Proofs.Flags
import SchemaPattern.Proofs.HostText
import SchemaPattern.Proofs.Lexer.Spelling
import SchemaPattern.Proofs.Lexer.Words
import SchemaPattern.Proofs.Lexer.Shifted
import SchemaPattern.Proofs.Parser.Append
import SchemaPattern.Proofs.Parser.Likeness
import SchemaPattern.Proofs.Concatenation
import SchemaPattern.Proofs.LiteralMode
import SchemaPattern.Proofs.Spacing
import SchemaPattern.Proofs.Host.Alike
import SchemaPattern.Proofs.CaseBlind
import SchemaPattern.Proofs.Host.References
import SchemaPattern.Proofs.Lexer.Places
import SchemaPattern.Proofs.Parser.Faults
import SchemaPattern.Proofs.Parser.Places
import SchemaPattern.Proofs.WellFormed
import SchemaPattern.Proofs.LexicalFaults
import SchemaPattern.Proofs.Dialects
import SchemaPattern.Proofs.Checked.Lexer
import SchemaPattern.Proofs.Checked.Parser
import SchemaPattern.Proofs.CharSet.Algebra
import SchemaPattern.Proofs.Lexer.Modes
import SchemaPattern.Proofs.TokenRows
import SchemaPattern.Proofs.Lexer.Layout
import SchemaPattern.Proofs.Tiling
import SchemaPattern.Proofs.Lexer.FaultPlaces
import SchemaPattern.Proofs.Parser.Constructs
import SchemaPattern.Proofs.LinesAndColumns
import SchemaPattern.Proofs.EndOfPattern
import SchemaPattern.Proofs.FaultText
import SchemaPattern.Proofs.Calls
import SchemaPattern.Proofs.MatchingFlags
import SchemaPattern.Proofs.Bounds
import SchemaPattern.Proofs.Numeral
import SchemaPattern.Proofs.Text.Quoted
import SchemaPattern.Proofs.Text.Forms
import SchemaPattern.Proofs.Text.Expressions
import SchemaPattern.Proofs.Text.Reading
import SchemaPattern.Proofs.UniqueText
