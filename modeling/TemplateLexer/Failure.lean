import TemplateLexer.Report
import TemplateLexer.Text.Encoding
/-!
What can go wrong, by cause. Failures of lexing and loading and misuse of streams have a report.
-/

set_option autoImplicit false

namespace TemplateLexer

/-- Why a document cannot be loaded. -/
inductive LoadFault where
  | illFormed
  | unknownEncoding (name : String)
  /-- The encoding lacks a character. -/
  | unencodable (name : String) (reach : Text.Reach)
  deriving DecidableEq, Repr

/-- Why a record of a stream or token cannot be read or written. -/
inductive RecordFault where
  | notFrozen
  | noShape
  | unknownShape (quoted : String)
  | unknownKind (quoted : String)
  | notStream (shape : String)
  deriving DecidableEq, Repr

inductive Failure where
  | unclosedExpression (spot : Spot)
  | unresolvedPlaceholder (id : String) (spot : Spot)
  | ambiguousNamespace (uri : Json)
  | unreadable (fault : LoadFault) (line : Int) (file : Option String)
  | pushOnFrozen
  | replayBeforeFreeze
  | badRecord (fault : RecordFault)
  | badValue
  | badType
  | badPattern
  | badQuery
  | badJson
  /-- Nested deeper than there is room for. -/
  | tooDeep
  /-- A text that the declared encoding is not made for. -/
  | unsuitableText
  | outOfRange
  /-- A path that is cut inside a character. -/
  | unreadablePath
  | noSuchName
  | notAnObject
  | noSuchFile
  | isDirectory
  | notDirectory
  | nameTooLong
  deriving Repr

def LoadFault.message : LoadFault → String
  | illFormed => ""
  | unknownEncoding name => "Unknown encoding '" ++ name ++ "' in XML declaration"
  | unencodable name reach =>
    let reason := match reach with
      | .below n => "ordinal not in range(" ++ toString n ++ ")"
      | .bytes => "character maps to <undefined>"
      | .sets => "illegal multibyte sequence"
    "Text cannot be encoded as declared (" ++ name ++ "): " ++ reason

def RecordFault.message : RecordFault → String
  | notFrozen => "Only frozen token streams can be serialized"
  | noShape => "Missing '_type' field in serialized token"
  | unknownShape quoted => "Unknown token class: " ++ quoted
  | unknownKind quoted => "Unknown token type: " ++ quoted
  | notStream shape => "Expected TokenStream, got " ++ shape

namespace Failure

def report? : Failure → Option Report
  | unclosedExpression spot =>
    some (.atSpot .malformedExpression
      (.str "Expression opened with '\x7b%' is never closed") spot)
  | unresolvedPlaceholder id spot => some (.atSpot .unresolvedPlaceholder (.str id) spot)
  | ambiguousNamespace uri => some (.atSpot .ambiguousNamespace uri .unknown)
  | unreadable fault line file =>
    some (.atSpot .documentLoad (.str fault.message) ⟨none, some line, file⟩)
  | pushOnFrozen =>
    some (.atSpot .streamFrozen (.str "Cannot push onto a frozen token stream") .unknown)
  | replayBeforeFreeze =>
    some (.atSpot .streamFrozen (.str "Only frozen streams can be replayed") .unknown)
  | _ => none

end Failure

end TemplateLexer
