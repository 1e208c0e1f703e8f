import SyntaxBridge.Main
import SyntaxBridge.Diagnostics.Log
import SyntaxBridge.Grammar.Untyped
import SyntaxBridge.Swift.Sources
import SyntaxBridge.Record.Dispatch
import SyntaxBridge.Record.Store
import SyntaxBridge.Grammar.Analysis
import SyntaxBridge.Grammar.Source
import SyntaxBridge.Text.Case
import SyntaxBridge.Text.Utf8
import SyntaxBridge.Proofs.Grammar.Partition
import SyntaxBridge.Proofs.Grammar.Category
import SyntaxBridge.Proofs.Grammar.Relocation
import SyntaxBridge.Proofs.Text.Lines
import SyntaxBridge.Proofs.Grammar.Relocation.Analysis
import SyntaxBridge.Proofs.Grammar.Numbering
import SyntaxBridge.Proofs.Swift.Relocation
import SyntaxBridge.Proofs.Grammar.DroppedLine
import SyntaxBridge.Proofs.Swift.Block
import SyntaxBridge.Proofs.Text.Start
import SyntaxBridge.Proofs.Swift.AbstractSyntax
import SyntaxBridge.Proofs.Swift.Bridge
import SyntaxBridge.Proofs.Swift.CaseAgreement
import SyntaxBridge.Proofs.Swift.Definition
import SyntaxBridge.Proofs.Swift.Name
import SyntaxBridge.Proofs.Swift.TypeDeclaration
import SyntaxBridge.Proofs.Swift.Known
import SyntaxBridge.Proofs.Swift.Reference
import SyntaxBridge.Proofs.Swift.Closure
import SyntaxBridge.Proofs.Grammar.Graph
import SyntaxBridge.Proofs.Grammar.Boxing
import SyntaxBridge.Proofs.Grammar.LabelledRule
import SyntaxBridge.Proofs.Grammar.LineByLine
import SyntaxBridge.Proofs.CommandLine.Program
import SyntaxBridge.Proofs.Swift.Indent
import SyntaxBridge.Proofs.Grammar.ListCategory
import SyntaxBridge.Proofs.Swift.Interleaving
import SyntaxBridge.Proofs.Swift.WellIndented
import SyntaxBridge.Proofs.Swift.CaseCollision
import SyntaxBridge.Proofs.Grammar.Ident
import SyntaxBridge.Proofs.Compile.Diagnostics
import SyntaxBridge.Proofs.Compile.Recompile
import SyntaxBridge.Proofs.Record.Schema
import SyntaxBridge.Proofs.Record.Rule
import SyntaxBridge.Proofs.Record.Make
import SyntaxBridge.Proofs.Swift.FlatName
import SyntaxBridge.Proofs.Swift.DeclaredTypes
import SyntaxBridge.Proofs.Grammar.Search
import SyntaxBridge.Proofs.Grammar.Scanner
import SyntaxBridge.Proofs.Grammar.Shorthand
import SyntaxBridge.Proofs.Grammar.ExtraCases
import SyntaxBridge.Proofs.Swift.ExtraCaseLines
import SyntaxBridge.Proofs.Grammar.ShorthandSymbols
import SyntaxBridge.Proofs.Grammar.Spelling
import SyntaxBridge.Proofs.Swift.MemberName
import SyntaxBridge.Proofs.Swift.LegalCase
import SyntaxBridge.Proofs.Swift.ParseFunction
import SyntaxBridge.Proofs.Grammar.ReadCategories
import SyntaxBridge.Proofs.Swift.BlockWriter
import SyntaxBridge.Proofs.Record.Dispatch
