import TemplateLexer.Markup.Doctype

set_option autoImplicit false

namespace TemplateLexer.Markup

def namedChar? : String → Option Char
  | "lt" => some '<'
  | "gt" => some '>'
  | "amp" => some '&'
  | "quot" => some '"'
  | "apos" => some '\''
  | _ => none

def isReferenceDigit (hex : Bool) (c : Char) : Bool :=
  c.isDigit || (hex && (('a' ≤ c && c ≤ 'f') || ('A' ≤ c && c ≤ 'F')))

def digitsValue (hex : Bool) (digits : List Char) : Nat :=
  digits.foldl (fun n c =>
    n * (if hex then 16 else 10)
      + if c.isDigit then c.toNat - '0'.toNat else c.toLower.toNat - 'a'.toNat + 10) 0

def charOfDigits? (hex : Bool) (digits : List Char) : Option Char :=
  let n := digitsValue hex digits
  if !digits.isEmpty && isChar n then some (Char.ofNat n) else none

def addText (s : String) : List Chunk → List Chunk
  | .text t :: rest => .text (t ++ s) :: rest
  | rest => if s.isEmpty then rest else .text s :: rest

/-- Cuts a text at its references to entities, and reads the other references; `plain` says what
becomes of the characters that stand for themselves. There is nothing if an ampersand begins no
reference. -/
def chunksOf? (plain : Char → Char) : (fuel : Nat) → (done : List Chunk) → List Char →
    Option (List Chunk)
  | 0, _, _ => none
  | _, done, [] => some done.reverse
  | fuel + 1, done, '&' :: '#' :: cs =>
    let hex := cs.head? == some 'x'
    let cs := if hex then cs.drop 1 else cs
    match cs.dropWhile (isReferenceDigit hex),
        charOfDigits? hex (cs.takeWhile (isReferenceDigit hex)) with
    | ';' :: rest, some c => chunksOf? plain fuel (addText (String.singleton c) done) rest
    | _, _ => none
  | fuel + 1, done, '&' :: cs =>
    match name? cs with
    | some (n, ';' :: rest) =>
      match namedChar? (String.ofList n) with
      | some c => chunksOf? plain fuel (addText (String.singleton c) done) rest
      | none => chunksOf? plain fuel (.reference (String.ofList n) :: done) rest
    | _ => none
  | fuel + 1, done, c :: cs =>
    chunksOf? plain fuel (addText (String.singleton (plain c)) done) cs

def Entity.chunks? (plain : Char → Char) (e : Entity) : Option (List Chunk) :=
  match e.value with
  | .literal _ value => chunksOf? plain (value.length + 1) [] value.toList
  | _ => none

def Entity.size (e : Entity) : Nat :=
  match e.value with
  | .literal _ value => value.utf8ByteSize
  | _ => 0

def expansion (items : List DoctypeItem) : (fuel : Nat) → (name : String) → String
  | 0, _ => ""
  | fuel + 1, name =>
    match (entityIn? items false name).bind (·.chunks? id) with
    | some chunks =>
      String.join (chunks.map fun
        | .text s => s
        | .reference n => expansion items fuel n)
    | none => ""

end TemplateLexer.Markup
