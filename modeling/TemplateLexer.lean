import TemplateLexer.Expression.Given
import TemplateLexer.Json.Reader
import TemplateLexer.Record.Reader
import TemplateLexer.Report.Given
import TemplateLexer.Selection.Query
import TemplateLexer.Session
import TemplateLexer.TokenStream.Tape
import TemplateLexer.Proofs.Outcome
import TemplateLexer.Proofs.Editing
import TemplateLexer.Proofs.Cut
import TemplateLexer.Proofs.Blocks
import TemplateLexer.Proofs.Coverage
import TemplateLexer.Proofs.Siblings
import TemplateLexer.Proofs.NodeContent
import TemplateLexer.Proofs.KnownPlaceholders
import TemplateLexer.Proofs.Namespaced
import TemplateLexer.Proofs.Sections
import TemplateLexer.Proofs.Lossless
import TemplateLexer.Proofs.Shielded
import TemplateLexer.Proofs.Embedded
import TemplateLexer.Proofs.Paths
import TemplateLexer.Proofs.CachedTemplates
import TemplateLexer.Proofs.Contained
import TemplateLexer.Proofs.TapeRuns
import TemplateLexer.Proofs.TextBytes
import TemplateLexer.Proofs.Sessions
import TemplateLexer.Proofs.ScannerCalls
import TemplateLexer.Proofs.Declarations
import TemplateLexer.Proofs.ContentOrder
import TemplateLexer.Proofs.Lines
import TemplateLexer.Proofs.TextChunks
import TemplateLexer.Proofs.ClosedSites
import TemplateLexer.Proofs.Directives
import TemplateLexer.Proofs.Classification
import TemplateLexer.Proofs.Selections
import TemplateLexer.Proofs.RecordTexts
import TemplateLexer.Proofs.AuthoredNames
import TemplateLexer.Proofs.WrittenPlaceholders
import TemplateLexer.Proofs.AlikeDocuments
import TemplateLexer.Proofs.EncodedTexts
import TemplateLexer.Proofs.Headings
import TemplateLexer.Proofs.FoundHeadings
import TemplateLexer.Proofs.DeclaredTexts
