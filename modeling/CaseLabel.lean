import CaseLabel.Argument.Shape
import CaseLabel.Document.Argument
import CaseLabel.Session
import CaseLabel.Style.Description
import CaseLabel.Proofs.Decimal.Spelling
import CaseLabel.Proofs.Subscript.Spelling
import CaseLabel.Proofs.Placeholder.Grammar
import CaseLabel.Proofs.Placeholder.Bracketed
import CaseLabel.Proofs.Template.Occurrence
import CaseLabel.Proofs.Template.Outline
import CaseLabel.Proofs.Template.Filling
import CaseLabel.Proofs.Subscript.Resolution
import CaseLabel.Proofs.Text.Printable
import CaseLabel.Proofs.Argument.Printable
import CaseLabel.Proofs.Style.Setting
import CaseLabel.Proofs.Style.Printable
import CaseLabel.Proofs.Template.Recognition
import CaseLabel.Proofs.Template.Concatenation
import CaseLabel.Proofs.Template.Loop
import CaseLabel.Proofs.Template.Range
import CaseLabel.Proofs.Template.Agreement
import CaseLabel.Proofs.Template.Extension
import CaseLabel.Proofs.Template.Relevance
import CaseLabel.Proofs.Argument.Places
import CaseLabel.Proofs.Argument.ScalarEquality
import CaseLabel.Proofs.Template.Trace
import CaseLabel.Proofs.Template.Respelling
import CaseLabel.Proofs.Style.Pieces
import CaseLabel.Proofs.Style.Substitution
import CaseLabel.Proofs.Style.Rules
import CaseLabel.Proofs.Style.Emptiness
import CaseLabel.Proofs.Argument.Decoding
import CaseLabel.Proofs.Subscript.Reading
import CaseLabel.Proofs.Subscript.Addressing
import CaseLabel.Proofs.Text.Category
import CaseLabel.Proofs.Text.Passes
import CaseLabel.Proofs.Text.Escapes
import CaseLabel.Proofs.Text.Quoted
import CaseLabel.Proofs.Text.Stability
import CaseLabel.Proofs.Style.Reading
import CaseLabel.Proofs.Argument.Equality
import CaseLabel.Proofs.Style.Distinction
import CaseLabel.Proofs.Document.Conversion
import CaseLabel.Proofs.Document.Members
import CaseLabel.Proofs.Document.Values
import CaseLabel.Proofs.Document.Text
import CaseLabel.Proofs.Document.Reordering
import CaseLabel.Proofs.Decimal.FloatText
import CaseLabel.Proofs.Style.FloatsApart
import CaseLabel.Proofs.Session
