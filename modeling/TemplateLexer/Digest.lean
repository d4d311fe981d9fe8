import TemplateLexer.Digest.Md5
import TemplateLexer.Digest.Sha1
import TemplateLexer.Digest.Sha2

set_option autoImplicit false

namespace TemplateLexer

/-- What makes bytes of other bytes. -/
structure Digest where
  bytes : List UInt8 → List UInt8

namespace Digest

def md5 : Digest := ⟨Md5.digest⟩

def sha1 : Digest := ⟨Sha1.digest⟩

def sha224 : Digest := ⟨Sha2.digest Sha2.family32 Sha2.start224 28⟩

def sha256 : Digest := ⟨Sha2.digest Sha2.family32 Sha2.start256 32⟩

def sha384 : Digest := ⟨Sha2.digest Sha2.family64 Sha2.start384 48⟩

def sha512 : Digest := ⟨Sha2.digest Sha2.family64 Sha2.start512 64⟩

/-- Why a name has no digest: nothing goes by it, or what does can be of any length. -/
inductive Unnamed where
  | unknown
  | anyLength

/-- Names are read without regard to case. -/
def named (name : String) : Except Unnamed Digest :=
  match name.toLower with
  | "md5" => .ok md5
  | "sha1" => .ok sha1
  | "sha224" => .ok sha224
  | "sha256" => .ok sha256
  | "sha384" => .ok sha384
  | "sha512" => .ok sha512
  | "shake_128" | "shake_256" => .error .anyLength
  | _ => .error .unknown

def hexPair (b : UInt8) : List Char :=
  [Nat.digitChar (b.toNat / 16), Nat.digitChar (b.toNat % 16)]

def hex (d : Digest) (s : String) : String :=
  String.ofList ((d.bytes s.toUTF8.toList).flatMap hexPair)

def truncated (s : String) (count : Option Int) : String :=
  match count with
  | none => s
  | some n =>
    let cs := s.toList
    if 0 ≤ n then String.ofList (cs.take n.toNat)
    else String.ofList (cs.take (cs.length - n.natAbs))

end Digest

end TemplateLexer
