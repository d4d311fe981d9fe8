import TemplateLexer.Text.Encoding.Gb18030
import TemplateLexer.Text.Encoding.Punycode
import TemplateLexer.Text.Encoding.Spelled
import TemplateLexer.Text.Encoding.Switching
import TemplateLexer.Text.Encoding.Utf7
/-!
Encodings of text as bytes. Encoding refuses a text with a character beyond the encoding. Decoding
gives nothing if bytes are wrong; where a text ends too early, or bytes of the encoding in units of
one byte are wrong, the null character, which no document may hold, is put and decoding stops.
-/

set_option autoImplicit false

namespace TemplateLexer.Text

inductive Encoding where
  | utf7
  | utf8
  | utf16 (order : ByteOrder)
  | utf32 (order : ByteOrder)
  | gb18030
  /-- One byte for each of the characters with the lowest numbers. -/
  | lowest (count : Nat)
  /-- The n-th set has the characters of n bytes. -/
  | tables (sets : List Charset)
  | announced (ascii : Announced) (sets : List Announced)
  | switched (s : Switched)
  /-- Characters beyond one byte are spelled, or all but the printable ones of ASCII. -/
  | spelled (all : Bool)
  | punycode
  /-- For names of hosts: parts between points that are neither empty nor long. -/
  | hostNames
  /-- Has no text at all. -/
  | nothing
  deriving DecidableEq, Repr

/-- Which characters an encoding has: those below a number, those of a table of bytes, or those of
other sets. -/
inductive Reach where
  | below (count : Nat)
  | bytes
  | sets
  deriving DecidableEq, Repr

/-- Why a text cannot be put into bytes: a character has none, with the text before it, or the text
as a whole is not of the kind. -/
inductive Refusal where
  | character (front : List Char) (reach : Reach)
  | text
  deriving DecidableEq, Repr

namespace Encoding

def encodeEach (reach : Reach) (bytes? : Char → Option (List UInt8)) (cs : List Char) :
    Except Refusal (List UInt8) :=
  match cs.dropWhile fun c => (bytes? c).isSome with
  | [] => .ok (cs.flatMap fun c => (bytes? c).getD [])
  | _ => .error (.character (cs.takeWhile fun c => (bytes? c).isSome) reach)

def ofSets (r : Except (List Char) (List UInt8)) : Except Refusal (List UInt8) :=
  match r with
  | .ok bs => .ok bs
  | .error front => .error (.character front .sets)

def longestPart : Nat := 64

def parts (cs : List Char) : List (List Char) :=
  cs.foldr (fun c ps =>
    match ps with
    | p :: ps => if c == '.' then [] :: p :: ps else (c :: p) :: ps
    | [] => [[c]]) [[]]

def isPart (p : List Char) : Bool := !p.isEmpty && p.length < longestPart

/-- All parts but the last are not empty. -/
def isHostName (cs : List Char) : Bool :=
  let ps := parts cs
  ps.dropLast.all isPart && ps.all fun p => p.length < longestPart

def encode (e : Encoding) (cs : List Char) : Except Refusal (List UInt8) :=
  match e with
  | utf7 => .ok (Utf7.encode cs)
  | utf8 => .ok (String.ofList cs).toUTF8.toList
  | utf16 order => .ok (Unicode.encode16 order cs)
  | utf32 order => .ok (Unicode.encode32 order cs)
  | gb18030 => .ok (Gb18030.encode cs)
  | lowest count =>
    encodeEach (.below count)
      (fun c => if c.toNat < count then some [UInt8.ofNat c.toNat] else none) cs
  | tables sets =>
    let reach : Reach := if sets.length == 1 then .bytes else .sets
    encodeEach reach (fun c => Tables.encodeChar? 1 c sets) cs
  | announced ascii sets => ofSets (Announced.encode ascii sets ascii cs)
  | switched s => ofSets (s.encode false false cs)
  | spelled true => .ok (Spelled.bytes (cs.flatMap Spelled.spell))
  | spelled false => .ok (Spelled.bytes (cs.flatMap Spelled.spellFar))
  | punycode => .ok (Spelled.bytes (Punycode.encode cs))
  | hostNames =>
    if isHostName cs then .ok (Spelled.bytes (cs.filter fun c => c.toNat < 128))
    else .error .text
  | nothing => .error .text

/-- The characters of bytes, without a mark in front. -/
def decode (e : Encoding) (bs : List UInt8) : Option (List Char) :=
  match e with
  | utf7 => Utf7.decode bs
  | utf8 => some (Unicode.decode8 bs)
  | utf16 order => Unicode.decode16 order bs
  | utf32 order => Unicode.decode32 order bs
  | gb18030 => Gb18030.decode (bs.length + 1) bs
  | lowest count =>
    if bs.all fun b => b.toNat < count then some (bs.map fun b => Char.ofNat b.toNat) else none
  | tables sets => Tables.decode sets (bs.length + 1) bs
  | announced ascii sets => Announced.decode (ascii :: sets) (bs.length + 1) ascii bs
  | switched s => s.decode (bs.length + 1) false bs
  | spelled _ | punycode | hostNames | nothing => none

end Encoding

end TemplateLexer.Text
