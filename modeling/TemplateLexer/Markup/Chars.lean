set_option autoImplicit false

namespace TemplateLexer.Markup

def isBlank (c : Char) : Bool := c == ' ' || c == '\t' || c == '\n' || c == '\r'

def isChar (n : Nat) : Bool :=
  n == 0x9 || n == 0xa || n == 0xd || (0x20 ≤ n && n ≤ 0xd7ff) || (0xe000 ≤ n && n ≤ 0xfffd)
    || (0x10000 ≤ n && n ≤ 0x10ffff)

def inAny (ranges : List (Nat × Nat)) (n : Nat) : Bool :=
  ranges.any fun (first, last) => first ≤ n && n ≤ last

/-- Code points that begin a part of a name; the colon, which joins two parts, is apart. -/
def nameStartRanges : List (Nat × Nat) :=
  [(0x61, 0x7a), (0x41, 0x5a), (0x5f, 0x5f), (0xc0, 0xd6), (0xd8, 0xf6), (0xf8, 0x2ff),
    (0x370, 0x37d), (0x37f, 0x1fff), (0x200c, 0x200d), (0x2070, 0x218f), (0x2c00, 0x2fef),
    (0x3001, 0xd7ff), (0xf900, 0xfdcf), (0xfdf0, 0xfffd), (0x10000, 0xeffff)]

def nameMoreRanges : List (Nat × Nat) :=
  [(0x2d, 0x2e), (0x30, 0x39), (0xb7, 0xb7), (0x300, 0x36f), (0x203f, 0x2040)]

def startsPart (c : Char) : Bool := inAny nameStartRanges c.toNat

def inPart (c : Char) : Bool := startsPart c || inAny nameMoreRanges c.toNat

/-- A name without a colon. -/
def isPart : List Char → Bool
  | [] => false
  | c :: cs => startsPart c && cs.all inPart

def part? : List Char → Option (List Char × List Char)
  | [] => none
  | c :: cs => if startsPart c then some (c :: cs.takeWhile inPart, cs.dropWhile inPart) else none

def startsName (c : Char) : Bool := c == ':' || startsPart c

def inName (c : Char) : Bool := c == ':' || inPart c

def name? : List Char → Option (List Char × List Char)
  | [] => none
  | c :: cs => if startsName c then some (c :: cs.takeWhile inName, cs.dropWhile inName) else none

theorem inName_of_name? {cs name rest : List Char} (h : name? cs = some (name, rest)) :
    ∀ c ∈ name, inName c = true := by
  cases cs with
  | nil => cases h
  | cons c cs =>
    rw [name?] at h
    split at h
    · rename_i hstart
      cases h
      intro d hd
      rcases List.mem_cons.1 hd with rfl | hd
      · simp only [startsName, Bool.or_eq_true] at hstart
        simp only [inName, inPart, Bool.or_eq_true]
        rcases hstart with hcolon | hpart
        · exact .inl hcolon
        · exact .inr (.inl hpart)
      · exact List.all_eq_true.1 List.all_takeWhile d hd
    · cases h

end TemplateLexer.Markup
