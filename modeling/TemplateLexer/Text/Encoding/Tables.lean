import TemplateLexer.Text.Charset

set_option autoImplicit false

namespace TemplateLexer.Text.Tables

def bytesOf (count n : Nat) : List UInt8 :=
  ((List.range count).map fun i => UInt8.ofNat (n / Nat.pow 256 i)).reverse

/-- The bytes of a character in the first set that has it; the first set has numbers of `count`
bytes. -/
def encodeChar? (count : Nat) (c : Char) : List Charset → Option (List UInt8)
  | [] => none
  | s :: more =>
    match s.codeOf? c with
    | some code => some (bytesOf count code)
    | none => encodeChar? (count + 1) c more

/-- What stands at the front of bytes. -/
inductive Front where
  | char (c : Char) (rest : List UInt8)
  | short
  | wrong

/-- Reads one character; `code` is the number that the bytes before it make. -/
def front (code : Nat) : List Charset → List UInt8 → Front
  | [], _ => .wrong
  | s :: _, [] => if s.hasRow code then .short else .wrong
  | s :: more, b :: bs =>
    let code := code * 256 + b.toNat
    match s.charOf? code with
    | some c => .char c bs
    | none => front code more bs

def decode (sets : List Charset) : (fuel : Nat) → List UInt8 → Option (List Char)
  | 0, _ => none
  | _, [] => some []
  | fuel + 1, bs =>
    match front 0 sets bs with
    | .char c rest => (decode sets fuel rest).map (c :: ·)
    | .short => some ['\x00']
    | .wrong => none

end TemplateLexer.Text.Tables
