import TemplateLexer.Text.Encoding.Unicode

set_option autoImplicit false

namespace TemplateLexer.Text.Utf7

def letters : List Char :=
  "ABCDEFGHIJKLMNOPQRSTUVWXYZabcdefghijklmnopqrstuvwxyz0123456789+/".toList

def isLetter (c : Char) : Bool := letters.contains c

def isDirect (c : Char) : Bool :=
  c == ' ' || c == '\t' || c == '\n' || c == '\r'
    || ('!' ≤ c && c ≤ '\x7d' && c != '+' && c != '\\')

def letter (n : Nat) : Char := letters.getD n 'A'

def bits (width n : Nat) : List Bool :=
  ((List.range width).map fun i => n / Nat.pow 2 i % 2 == 1).reverse

def value (bs : List Bool) : Nat := bs.foldl (fun n b => 2 * n + if b then 1 else 0) 0

def writeBits : (fuel : Nat) → List Bool → List Char
  | 0, _ => []
  | _, [] => []
  | fuel + 1, bs =>
    let six := bs.take 6
    letter (value (six ++ List.replicate (6 - six.length) false)) :: writeBits fuel (bs.drop 6)

def writeShifted (cs : List Char) : List Char :=
  let bs := cs.flatMap fun c => (Unicode.units c).flatMap (bits 16)
  writeBits bs.length bs

def write : (fuel : Nat) → List Char → List Char
  | 0, _ => []
  | _, [] => []
  | fuel + 1, '+' :: cs => '+' :: '-' :: write fuel cs
  | fuel + 1, c :: cs =>
    if isDirect c then c :: write fuel cs
    else
      let stretch := (c :: cs).takeWhile fun d => !isDirect d
      let rest := (c :: cs).dropWhile fun d => !isDirect d
      let stop := match rest with
        | d :: _ => if isLetter d || d == '-' then ['-'] else []
        | [] => ['-']
      '+' :: writeShifted stretch ++ stop ++ write fuel rest

def encode (cs : List Char) : List UInt8 :=
  (write (cs.length + 1) cs).map fun c => UInt8.ofNat c.toNat

/-- The units of whole groups of sixteen bits; fewer than six bits may remain, all zero. -/
def readUnits : (fuel : Nat) → List Bool → Option (List Nat)
  | 0, _ => none
  | fuel + 1, bs =>
    if bs.length < 16 then if bs.length < 6 && bs.all (! ·) then some [] else none
    else (readUnits fuel (bs.drop 16)).map (value (bs.take 16) :: ·)

def readShifted (stretch : List Char) : Option (List Char) :=
  let bs := stretch.flatMap fun c => bits 6 (letters.idxOf c)
  (readUnits (bs.length + 1) bs).bind Unicode.joinHalves

def read : (fuel : Nat) → List Char → Option (List Char)
  | 0, _ => none
  | _, [] => some []
  | fuel + 1, '+' :: '-' :: cs => (read fuel cs).map ('+' :: ·)
  | fuel + 1, '+' :: cs => do
    let s ← readShifted (cs.takeWhile isLetter)
    let rest := match cs.dropWhile isLetter with
      | '-' :: rest => rest
      | rest => rest
    return s ++ (← read fuel rest)
  | fuel + 1, c :: cs => if isDirect c then (read fuel cs).map (c :: ·) else none

def decode (bs : List UInt8) : Option (List Char) :=
  read (bs.length + 1) (bs.map fun b => Char.ofNat b.toNat)

end TemplateLexer.Text.Utf7
