import TemplateLexer.Text.Encoding.Tables

set_option autoImplicit false

namespace TemplateLexer.Text

/-- A set with the bytes that announce it, and how many bytes its numbers take. -/
structure Announced where
  sign : List UInt8
  width : Nat
  set : Charset
  deriving DecidableEq, Repr

namespace Announced

def switchTo (next current : Announced) : List UInt8 :=
  if next.sign == current.sign then [] else next.sign

/-- The bytes of characters; ASCII is the first set. -/
def encode (ascii : Announced) (sets : List Announced) (current : Announced) :
    List Char → Except (List Char) (List UInt8)
  | [] => .ok (ascii.switchTo current)
  | c :: cs =>
    let used := if c.toNat < 128 then some ascii else sets.find? fun a => (a.set.codeOf? c).isSome
    match used with
    | none => .error []
    | some a =>
      match encode ascii sets a cs with
      | .error front => .error (c :: front)
      | .ok bs =>
        .ok (a.switchTo current
          ++ Tables.bytesOf a.width ((a.set.codeOf? c).getD c.toNat) ++ bs)

def decode (sets : List Announced) :
    (fuel : Nat) → (current : Announced) → List UInt8 → Option (List Char)
  | 0, _, _ => none
  | _, _, [] => some []
  | fuel + 1, current, b :: bs =>
    match sets.find? fun a => a.sign.isPrefixOf (b :: bs) with
    | some a => decode sets fuel a ((b :: bs).drop a.sign.length)
    | none =>
      if b == 10 || b == 13 then (decode sets fuel current bs).map (Char.ofNat b.toNat :: ·)
      else if (b :: bs).length < current.width then some ['\x00']
      else
        let code := ((b :: bs).take current.width).foldl (fun n b => n * 256 + b.toNat) 0
        match current.set.charOf? code with
        | some c => (decode sets fuel current ((b :: bs).drop current.width)).map (c :: ·)
        | none => none

end Announced

/-- A set that is switched on and off. The header comes once, before it is first switched on. A
character of ASCII may have a form of its own. -/
structure Switched where
  header : List UInt8
  on : List UInt8
  off : List UInt8
  set : Charset
  own : List (Char × List UInt8)
  deriving DecidableEq, Repr

namespace Switched

/-- The bytes of characters; `begun` tells whether the header was written, and `inside` whether the
set is on. -/
def encode (s : Switched) (begun inside : Bool) : List Char → Except (List Char) (List UInt8)
  | [] => .ok (if inside then s.off else [])
  | c :: cs =>
    if c.toNat < 128 then
      match encode s begun false cs with
      | .error front => .error (c :: front)
      | .ok bs =>
        .ok ((if inside then s.off else [])
          ++ ((s.own.lookup c).getD [UInt8.ofNat c.toNat]) ++ bs)
    else
      match s.set.codeOf? c with
      | none => .error []
      | some code =>
        match encode s true true cs with
        | .error front => .error (c :: front)
        | .ok bs =>
          .ok ((if begun then [] else s.header) ++ (if inside then [] else s.on)
            ++ Tables.bytesOf 2 code ++ bs)

/-- The bytes after a sign that is not empty. -/
def after? (sign bs : List UInt8) : Option (List UInt8) :=
  if !sign.isEmpty && sign.isPrefixOf bs then some (bs.drop sign.length) else none

def decode (s : Switched) : (fuel : Nat) → (inside : Bool) → List UInt8 → Option (List Char)
  | 0, _, _ => none
  | _, _, [] => some []
  | fuel + 1, inside, b :: bs =>
    match after? s.header (b :: bs), after? s.on (b :: bs), after? s.off (b :: bs) with
    | some rest, _, _ => decode s fuel inside rest
    | none, some rest, _ => decode s fuel true rest
    | none, none, some rest => decode s fuel false rest
    | none, none, none =>
      if inside then
        match bs with
        | d :: rest =>
          match s.set.charOf? (b.toNat * 256 + d.toNat) with
          | some c => (decode s fuel inside rest).map (c :: ·)
          | none => none
        | [] => some ['\x00']
      else
        match s.own.find? fun (_, form) => form.isPrefixOf (b :: bs) with
        | some (c, form) => (decode s fuel inside ((b :: bs).drop form.length)).map (c :: ·)
        | none =>
          if b < 128 then (decode s fuel inside bs).map (Char.ofNat b.toNat :: ·) else none

end Switched

end TemplateLexer.Text
