import BlockLanguage.Main
import BlockLanguage.Program.WellFormed
import BlockLanguage.Proofs.Parser.StatementGrammar
import BlockLanguage.Proofs.Printing.Site
import BlockLanguage.Proofs.Statement.Shape
import BlockLanguage.Statement.Grammar
import BlockLanguage.Workbench.Action
import BlockLanguage.Proofs.Parser.Ceiling
import BlockLanguage.Proofs.RoundTrip.Statement
import BlockLanguage.Program.Grammar
import BlockLanguage.Proofs.NameMap
import BlockLanguage.Proofs.Parser.ProgramGrammar
import BlockLanguage.Proofs.Parser.Source
import BlockLanguage.Program.Site
import BlockLanguage.Proofs.Printing.Program
import BlockLanguage.Proofs.RoundTrip.Program
import BlockLanguage.Proofs.Parser.Prompt
import BlockLanguage.Proofs.Parser.Completion
import BlockLanguage.Proofs.Parser.StatementOutcome
import BlockLanguage.Proofs.Parser.ProgramOutcome
import BlockLanguage.Proofs.Parser.DefinitionLoop
import BlockLanguage.Proofs.Parser.Extension
import BlockLanguage.Proofs.Parser.FaultPosition
import BlockLanguage.Proofs.Parser.Safety
import BlockLanguage.Proofs.Workbench.Work
import BlockLanguage.Proofs.Workbench.Programs
import BlockLanguage.Proofs.Parser.LimitComparison
import BlockLanguage.Proofs.Token.ByteScan
import BlockLanguage.Proofs.Workbench.Attainable
import BlockLanguage.Proofs.Workbench.Balance
import BlockLanguage.Proofs.Parser.LineChange
import BlockLanguage.Proofs.Token.Spacing
import BlockLanguage.Proofs.Text.ByteOrder
import BlockLanguage.Proofs.Program.Enumeration
import BlockLanguage.Proofs.Parser.DefinitionOrder
import BlockLanguage.Proofs.Parser.Sequence
import BlockLanguage.Proofs.Program.Precondition
import BlockLanguage.Proofs.Statement.Inverse
import BlockLanguage.Proofs.Printing.Unambiguity
import BlockLanguage.Proofs.Parser.Descent
import BlockLanguage.Proofs.Printing.Indentation
import BlockLanguage.Proofs.Token.IdentifierLanguage
