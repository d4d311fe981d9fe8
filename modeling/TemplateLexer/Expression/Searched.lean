import TemplateLexer.Expression.Run
import TemplateLexer.Pattern.Reader
import TemplateLexer.Pattern.Search
/-!
The pattern of expression text, and the runs that are found by searching for it. A literal goes on
over an escaped quote if it can; the pattern finds out by trying.
-/

set_option autoImplicit false

namespace TemplateLexer

namespace Pattern

def inOrder (parts : List Pattern) : Pattern := parts.foldl both empty

def among (negated : Bool) (cs : List Char) : Pattern :=
  oneOf negated (cs.map fun c => .between c c)

/-- A character that is neither the quote nor a backslash, an escaped quote of either kind, or a
backslash. -/
def literalItem (quote other : Char) : Pattern :=
  either (inOrder [among true [quote, '\\']])
    (either (inOrder [char '\\', among false [quote, other]]) (inOrder [char '\\']))

def literal (quote other : Char) : Pattern :=
  inOrder [char quote, star (literalItem quote other), char quote]

def delimiter : Pattern :=
  either (inOrder [char '{', char '%']) (inOrder [char '%', char '}'])

def expressionRun : Pattern :=
  either (inOrder [literal '\'' '"'])
    (either (inOrder [literal '"' '\'']) (inOrder [delimiter]))

-- The pattern as it is written.
example :
    read? ("('(?:[^'\\\\]|\\\\['\"]|\\\\)*')" ++ "|(\"(?:[^\"\\\\]|\\\\[\"']|\\\\)*\")"
      ++ "|(\\\x7b%|%\\\x7d)") = some (false, expressionRun) := by
  decide +kernel

end Pattern

namespace Piece

def kindOf (text : List Char) : RunKind :=
  if text = ['{', '%'] then .opens
  else if text = ['%', '}'] then .closes
  else if text.head? = some '\'' then .singleQuoted
  else .doubleQuoted

def between (skipped : List Char) : List Piece :=
  if skipped.isEmpty then [] else [⟨.characters, skipped⟩]

/-- The pieces of a text from a place on, by searching for the pattern from the end of one match to
the next one. -/
def searched (before : Nat) (cs : List Char) : List Piece :=
  if cs.isEmpty then []
  else
    match _h : Pattern.expressionRun.find? false before cs with
    | none => [⟨.characters, cs⟩]
    | some f =>
      between f.skipped ++ ⟨kindOf f.matched, f.matched⟩ :: searched f.last.before f.last.rest
  termination_by cs.length
  decreasing_by exact Pattern.length_of_find? rfl _h

end Piece

end TemplateLexer
