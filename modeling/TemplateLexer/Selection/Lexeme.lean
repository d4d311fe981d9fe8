import TemplateLexer.Markup.Chars

set_option autoImplicit false

namespace TemplateLexer.Query

inductive Mark where
  | opening
  | closing
  | openingTest
  | closingTest
  | dot
  | at
  | comma
  | colons
  | star
  | slash
  | slashes
  | bar
  | equals
  deriving DecidableEq, Repr

/-- A lexeme. What is none, such as a literal without an end, or a character that no document has,
is stray. -/
inductive Lexeme where
  | literal (s : String)
  | name (s : String)
  | mark (m : Mark)
  | stray
  deriving DecidableEq, Repr

/-- What a reader of lexemes is in the midst of; characters are kept newest first. -/
inductive Scan where
  | between
  | inName (read : List Char)
  | inLiteral (quote : Char) (read : List Char)
  | afterSlash
  | afterColon
  deriving DecidableEq, Repr

def Mark.of? : Char → Option Mark
  | '(' => some .opening
  | ')' => some .closing
  | '[' => some .openingTest
  | ']' => some .closingTest
  | '.' => some .dot
  | '@' => some .at
  | ',' => some .comma
  | '*' => some .star
  | '|' => some .bar
  | '=' => some .equals
  | _ => none

namespace Scan

def start (c : Char) : List Lexeme × Scan :=
  if c == '\'' || c == '"' then ([], .inLiteral c [])
  else if c == '/' then ([], .afterSlash)
  else if c == ':' then ([], .afterColon)
  else if Markup.startsPart c then ([], .inName [c])
  else if Markup.isBlank c then ([], .between)
  else
    match Mark.of? c with
    | some m => ([.mark m], .between)
    | none => ([.stray], .between)

def finish : Scan → List Lexeme
  | between => []
  | inName read => [.name (String.ofList read.reverse)]
  | inLiteral _ _ => [.stray]
  | afterSlash => [.mark .slash]
  | afterColon => [.stray]

def turn (s : Scan) (c : Char) : List Lexeme × Scan := (s.finish ++ (start c).1, (start c).2)

def step : Scan → Char → List Lexeme × Scan
  | between, c => start c
  | inName read, c =>
    if Markup.inPart c then ([], .inName (c :: read)) else (inName read).turn c
  | inLiteral quote read, c =>
    if c == quote then ([.literal (String.ofList read.reverse)], .between)
    else (if Markup.isChar c.toNat then [] else [.stray], .inLiteral quote (c :: read))
  | afterSlash, c => if c == '/' then ([.mark .slashes], .between) else afterSlash.turn c
  | afterColon, c => if c == ':' then ([.mark .colons], .between) else afterColon.turn c

def run : Scan → List Char → List Lexeme × Scan
  | s, [] => ([], s)
  | s, c :: cs => ((s.step c).1 ++ ((s.step c).2.run cs).1, ((s.step c).2.run cs).2)

end Scan

def lexemes (text : String) : List Lexeme :=
  (Scan.between.run text.toList).1 ++ (Scan.between.run text.toList).2.finish

end TemplateLexer.Query
