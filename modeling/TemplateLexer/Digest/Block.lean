set_option autoImplicit false

namespace TemplateLexer.Digest

/-- The order of the bytes of a word. -/
inductive ByteOrder where
  | highFirst
  | lowFirst
  deriving DecidableEq, Repr

def lowBytes : (count : Nat) → Nat → List UInt8
  | 0, _ => []
  | count + 1, n => UInt8.ofNat n :: lowBytes count (n / 256)

def numberBytes (order : ByteOrder) (count n : Nat) : List UInt8 :=
  match order with
  | .lowFirst => lowBytes count n
  | .highFirst => (lowBytes count n).reverse

def numberOf (order : ByteOrder) (bytes : List UInt8) : Nat :=
  match order with
  | .highFirst => bytes.foldl (fun n b => n * 256 + b.toNat) 0
  | .lowFirst => bytes.foldr (fun b n => n * 256 + b.toNat) 0

/-- Cuts a list into parts of one size; the last part may be shorter. -/
def parts {α : Type} (size : Nat) : (fuel : Nat) → List α → List (List α)
  | 0, _ => []
  | _, [] => []
  | fuel + 1, xs => xs.take size :: parts size fuel (xs.drop size)

def chunks {α : Type} (size : Nat) (xs : List α) : List (List α) := parts size xs.length xs

/-- A block has sixteen words of `width` bytes; the length takes two words. -/
def padded (order : ByteOrder) (width : Nat) (message : List UInt8) : List UInt8 :=
  let block := 16 * width
  let field := 2 * width
  let used := (message.length + 1 + field) % block
  let zeros := (block - used) % block
  message ++ 0x80 :: List.replicate zeros 0 ++ numberBytes order field (8 * message.length)

def blocks (order : ByteOrder) (width : Nat) (message : List UInt8) :
    List (List (BitVec (8 * width))) :=
  (chunks (16 * width) (padded order width message)).map fun block =>
    (chunks width block).map fun bytes => BitVec.ofNat _ (numberOf order bytes)

def wordBytes {w : Nat} (order : ByteOrder) (words : List (BitVec w)) : List UInt8 :=
  words.flatMap fun word => numberBytes order (w / 8) word.toNat

end TemplateLexer.Digest
