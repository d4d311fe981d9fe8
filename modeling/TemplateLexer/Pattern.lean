import TemplateLexer.Text.Blank
import TemplateLexer.Text.Case
import TemplateLexer.Text.Word
/-!
Patterns that tell directive comments from others. A pattern holds of a text when it matches
somewhere in it. The dot matches line breaks too; `$` matches at the end and before a line break
that ends the text.
-/

set_option autoImplicit false

namespace TemplateLexer

/-- One member of a character class. -/
inductive CharRange where
  | between (first last : Char)
  | blank
  | notBlank
  | digit
  | notDigit
  | word
  | notWord
  deriving DecidableEq, Repr

inductive Pattern where
  | empty
  | any
  | oneOf (negated : Bool) (members : List CharRange)
  | start
  | stop
  | both (first second : Pattern)
  | either (left right : Pattern)
  | star (item : Pattern)
  | ahead (negated : Bool) (item : Pattern)
  deriving DecidableEq, Repr

namespace Pattern

def char (c : Char) : Pattern := oneOf false [.between c c]

def opt (p : Pattern) : Pattern := either p empty

def veryEnd : Pattern := ahead true any

def copies (p : Pattern) : (count : Nat) → Pattern
  | 0 => empty
  | count + 1 => both p (copies p count)

def atMost (p : Pattern) : (count : Nat) → Pattern
  | 0 => empty
  | count + 1 => opt (both p (atMost p count))

def times (p : Pattern) : (least : Nat) → (most : Option Nat) → Pattern
  | 0, none => star p
  | least, none => both (copies p least) (star p)
  | least, some most => both (copies p least) (atMost p (most - least))

end Pattern

/-- A place in a text: how many characters come before it, and those that follow. -/
structure TextPlace where
  before : Nat
  rest : List Char
  deriving DecidableEq, Repr

namespace CharRange

def holds (anyCase : Bool) (c : Char) : CharRange → Bool
  | blank => Text.isBlank c
  | notBlank => !Text.isBlank c
  | digit => Text.isDigit c
  | notDigit => !Text.isDigit c
  | word => Text.isWord c
  | notWord => !Text.isWord c
  | between first last =>
    let within (d : Char) := first ≤ d && d ≤ last
    within c || (anyCase && (Text.spellings c).any within)

end CharRange

namespace Pattern

def repeated (step : (TextPlace → Bool) → TextPlace → Bool) :
    (fuel : Nat) → (next : TextPlace → Bool) → TextPlace → Bool
  | 0, next, p => next p
  | fuel + 1, next, p =>
    next p || step (fun q => p.before < q.before && repeated step fuel next q) p

def run (anyCase : Bool) : Pattern → (next : TextPlace → Bool) → TextPlace → Bool
  | empty, next, p => next p
  | any, next, p =>
    match p.rest with
    | [] => false
    | _ :: rest => next ⟨p.before + 1, rest⟩
  | oneOf negated members, next, p =>
    match p.rest with
    | [] => false
    | c :: rest =>
      (members.any (CharRange.holds anyCase c)) != negated && next ⟨p.before + 1, rest⟩
  | start, next, p => p.before == 0 && next p
  | stop, next, p => (p.rest == [] || p.rest == ['\n']) && next p
  | both first second, next, p => first.run anyCase (second.run anyCase next) p
  | either left right, next, p => left.run anyCase next p || right.run anyCase next p
  | star item, next, p => repeated (item.run anyCase) p.rest.length next p
  | ahead negated item, next, p => item.run anyCase (fun _ => true) p != negated && next p

def foundFrom (anyCase : Bool) (pattern : Pattern) (before : Nat) : List Char → Bool
  | [] => pattern.run anyCase (fun _ => true) ⟨before, []⟩
  | c :: rest =>
    pattern.run anyCase (fun _ => true) ⟨before, c :: rest⟩
      || foundFrom anyCase pattern (before + 1) rest

end Pattern

/-- What tells some texts from others. -/
structure Matcher where
  holds : String → Bool

def Pattern.matcher (anyCase : Bool) (pattern : Pattern) : Matcher where
  holds text := pattern.foundFrom anyCase 0 text.toList

end TemplateLexer
