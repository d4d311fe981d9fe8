set_option autoImplicit false

namespace TemplateLexer.Text

inductive ByteOrder where
  | lowFirst
  | highFirst
  deriving DecidableEq, Repr

namespace ByteOrder

def bytes (order : ByteOrder) (count n : Nat) : List UInt8 :=
  let low := (List.range count).map fun i => UInt8.ofNat (n / Nat.pow 256 i)
  match order with
  | lowFirst => low
  | highFirst => low.reverse

def value (order : ByteOrder) (bs : List UInt8) : Nat :=
  let high := match order with
    | lowFirst => bs.reverse
    | highFirst => bs
  high.foldl (fun n b => n * 256 + b.toNat) 0

end ByteOrder

namespace Unicode

def mark : Char := '\ufeff'

def units (c : Char) : List Nat :=
  let n := c.toNat
  if n < 0x10000 then [n] else [0xd800 + (n - 0x10000) / 0x400, 0xdc00 + (n - 0x10000) % 0x400]

def encode16 (order : ByteOrder) (cs : List Char) : List UInt8 :=
  cs.flatMap fun c => (units c).flatMap (order.bytes 2)

def encode32 (order : ByteOrder) (cs : List Char) : List UInt8 :=
  cs.flatMap fun c => order.bytes 4 c.toNat

def isTail (b : UInt8) : Bool := 0x80 ≤ b && b < 0xc0

def tail (b : UInt8) : Nat := b.toNat % 64

/-- A character that begins with a byte beyond ASCII, and how many of the following bytes belong
to it; only the shortest form counts. -/
def longChar? (a : UInt8) (more : List UInt8) : Option (Char × Nat) :=
  let count := if a < 0xc2 then 0 else if a < 0xe0 then 1 else if a < 0xf0 then 2
    else if a < 0xf5 then 3 else 0
  let tails := more.take count
  let lead := a.toNat % (if count = 1 then 32 else if count = 2 then 16 else 8)
  let n := tails.foldl (fun n b => n * 64 + tail b) lead
  let least := if count = 1 then 0x80 else if count = 2 then 0x800 else 0x10000
  if 0 < count && tails.length == count && tails.all isTail && least ≤ n && n < 0x110000
      && !(0xd800 ≤ n && n < 0xe000) then
    some (Char.ofNat n, count)
  else none

def decode8 (bs : List UInt8) : List Char :=
  match bs with
  | [] => []
  | b :: rest =>
    if b < 0x80 then Char.ofNat b.toNat :: decode8 rest
    else
      match longChar? b rest with
      | some (c, count) => c :: decode8 (rest.drop count)
      | none => ['\x00']
  termination_by bs.length
  decreasing_by
  · simp
  · simp only [List.length_drop, List.length_cons]; omega

def isHighHalf (n : Nat) : Bool := 0xd800 ≤ n && n < 0xdc00

def isLowHalf (n : Nat) : Bool := 0xdc00 ≤ n && n < 0xe000

/-- The numbers that two or four bytes each make; what remains at the end is too short. -/
def numbers (order : ByteOrder) (count : Nat) : (fuel : Nat) → List UInt8 → List Nat × Bool
  | 0, bs => ([], bs.isEmpty)
  | fuel + 1, bs =>
    if bs.length < count then ([], bs.isEmpty)
    else
      let (rest, whole) := numbers order count fuel (bs.drop count)
      (order.value (bs.take count) :: rest, whole)

def joinHalves : List Nat → Option (List Char)
  | [] => some []
  | n :: rest =>
    if isHighHalf n then
      match rest with
      | m :: rest =>
        if isLowHalf m then
          (joinHalves rest).map
            (Char.ofNat (0x10000 + (n - 0xd800) * 0x400 + (m - 0xdc00)) :: ·)
        else none
      | [] => some ['\x00']
    else if isLowHalf n then none
    else (joinHalves rest).map (Char.ofNat n :: ·)

def ended (whole : Bool) : List Char := if whole then [] else ['\x00']

def decode16 (order : ByteOrder) (bs : List UInt8) : Option (List Char) :=
  let (units, whole) := numbers order 2 (bs.length + 1) bs
  (joinHalves units).map (· ++ ended whole)

def decode32 (order : ByteOrder) (bs : List UInt8) : Option (List Char) :=
  let (points, whole) := numbers order 4 (bs.length + 1) bs
  if points.all Nat.isValidChar then some (points.map Char.ofNat ++ ended whole) else none

end Unicode

end TemplateLexer.Text
