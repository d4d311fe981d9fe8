import TemplateLexer.Json.Order
/-!
The written form of JSON values: keys in order, all characters beyond printable ASCII escaped, on
one line or indented by a text for each level.
-/

set_option autoImplicit false

namespace TemplateLexer.Json

def hexDigit (n : Nat) : Char := Nat.digitChar n

def unitEscape (n : Nat) : List Char :=
  ['\\', 'u', hexDigit (n / 4096 % 16), hexDigit (n / 256 % 16), hexDigit (n / 16 % 16),
    hexDigit (n % 16)]

def escapeChar (c : Char) : List Char :=
  if c = '"' then ['\\', '"']
  else if c = '\\' then ['\\', '\\']
  else if c = '\n' then ['\\', 'n']
  else if c = '\r' then ['\\', 'r']
  else if c = '\t' then ['\\', 't']
  else if c = '\x08' then ['\\', 'b']
  else if c = '\x0c' then ['\\', 'f']
  else if ' ' ≤ c ∧ c ≤ '~' then [c]
  else if c.toNat < 0x10000 then unitEscape c.toNat
  else
    let n := c.toNat - 0x10000
    unitEscape (0xd800 + n / 1024) ++ unitEscape (0xdc00 + n % 1024)

def quoteChars (s : String) : List Char :=
  '"' :: s.toList.flatMap escapeChar ++ ['"']

def sortEntries {α : Type} (entries : List (String × α)) : List (String × α) :=
  sortBy (fun e f => e.1 < f.1) entries

abbrev Layout := Option String

namespace Layout

def blanks (width : Nat) : Layout := some (String.ofList (List.replicate width ' '))

def read? : Json → Option Layout
  | null => some none
  | int n => some (blanks n.toNat)
  | bool b => some (blanks b.toNat)
  | str s => some (some s)
  | _ => none

end Layout

def lineStart : Layout → Nat → List Char
  | none, _ => []
  | some front, level => '\n' :: (List.replicate level front.toList).flatten

def separator : Layout → List Char
  | none => [',', ' ']
  | some _ => [',']

def bracket (layout : Layout) (level : Nat) (left right : Char) (items : List (List Char)) :
    List Char :=
  if items.isEmpty then [left, right]
  else
    let gap := separator layout ++ lineStart layout (level + 1)
    [left] ++ lineStart layout (level + 1) ++ gap.intercalate items
      ++ lineStart layout level ++ [right]

mutual

def writeAt (layout : Layout) (level : Nat) : Json → List Char
  | null => ['n', 'u', 'l', 'l']
  | bool true => ['t', 'r', 'u', 'e']
  | bool false => ['f', 'a', 'l', 's', 'e']
  | int n => (toString n).toList
  | decimal text => text.toList
  | str s => quoteChars s
  | arr items => bracket layout level '[' ']' (writeItems layout (level + 1) items)
  | obj entries =>
    let parts := sortEntries (writeEntries layout (level + 1) entries)
    bracket layout level '\x7b' '\x7d'
      (parts.map fun (k, v) => quoteChars k ++ [':', ' '] ++ v)

def writeItems (layout : Layout) (level : Nat) : List Json → List (List Char)
  | [] => []
  | x :: xs => writeAt layout level x :: writeItems layout level xs

def writeEntries (layout : Layout) (level : Nat) :
    List (String × Json) → List (String × List Char)
  | [] => []
  | (k, v) :: rest => (k, writeAt layout level v) :: writeEntries layout level rest

end

def text (layout : Layout) (j : Json) : String := String.ofList (writeAt layout 0 j)

end TemplateLexer.Json
