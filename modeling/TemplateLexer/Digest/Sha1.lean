import TemplateLexer.Digest.Block

set_option autoImplicit false

namespace TemplateLexer.Digest.Sha1

abbrev Word := BitVec 32

structure State where
  a : Word
  b : Word
  c : Word
  d : Word
  e : Word

def start : State := ⟨0x67452301, 0xefcdab89, 0x98badcfe, 0x10325476, 0xc3d2e1f0⟩

def mix (round : Nat) (s : State) : Word × Word :=
  match round / 20 with
  | 0 => ((s.b &&& s.c) ||| (~~~s.b &&& s.d), 0x5a827999)
  | 1 => (s.b ^^^ s.c ^^^ s.d, 0x6ed9eba1)
  | 2 => ((s.b &&& s.c) ||| (s.b &&& s.d) ||| (s.c &&& s.d), 0x8f1bbcdc)
  | _ => (s.b ^^^ s.c ^^^ s.d, 0xca62c1d6)

def following (window : List Word) : Word :=
  (window.getD 13 0 ^^^ window.getD 8 0 ^^^ window.getD 2 0 ^^^ window.getD 0 0).rotateLeft 1

def round (acc : State × List Word) (i : Nat) : State × List Word :=
  let (s, window) := acc
  let (f, k) := mix i s
  let sum := s.a.rotateLeft 5 + f + s.e + k + window.getD 0 0
  (⟨sum, s.a, s.b.rotateLeft 30, s.c, s.d⟩, window.drop 1 ++ [following window])

def absorb (s : State) (block : List Word) : State :=
  let t := ((List.range 80).foldl round (s, block)).1
  ⟨s.a + t.a, s.b + t.b, s.c + t.c, s.d + t.d, s.e + t.e⟩

def digest (message : List UInt8) : List UInt8 :=
  let s := (blocks .highFirst 4 message).foldl absorb start
  wordBytes .highFirst [s.a, s.b, s.c, s.d, s.e]

end TemplateLexer.Digest.Sha1
