set_option autoImplicit false

namespace TemplateLexer.Text.Spelled

def hex (count n : Nat) : List Char :=
  ((List.range count).map fun i => Nat.digitChar (n / Nat.pow 16 i % 16)).reverse

def far (c : Char) : List Char :=
  if c.toNat < 0x10000 then '\\' :: 'u' :: hex 4 c.toNat else '\\' :: 'U' :: hex 8 c.toNat

def spell (c : Char) : List Char :=
  match c with
  | '\\' => ['\\', '\\']
  | '\t' => ['\\', 't']
  | '\n' => ['\\', 'n']
  | '\r' => ['\\', 'r']
  | c =>
    if ' ' ≤ c && c ≤ '~' then [c]
    else if c.toNat < 256 then '\\' :: 'x' :: hex 2 c.toNat
    else far c

/-- A character of a text in which only those beyond the first 256 are spelled. -/
def spellFar (c : Char) : List Char := if c.toNat < 256 then [c] else far c

def bytes (cs : List Char) : List UInt8 := cs.map fun c => UInt8.ofNat c.toNat

end TemplateLexer.Text.Spelled
