import TemplateLexer.Json.Basic
/-!
Reads JSON text. A key that comes twice has the last of its values. Control characters in strings,
trailing commas and anything after the value are refused. A reader may be bound in how deep it goes
and in how long a whole number is.
-/

set_option autoImplicit false

namespace TemplateLexer

/-- How many levels there is room for. -/
inductive Room where
  | endless
  | levels (n : Nat)
  deriving DecidableEq, Repr

def Room.below? : Room → Option Room
  | endless => some endless
  | levels 0 => none
  | levels (n + 1) => some (levels n)

namespace Json

structure Limits where
  /-- For arrays and objects in each other. -/
  room : Room
  /-- Of a whole number; none for any number of them. -/
  digits : Option Nat
  deriving DecidableEq, Repr

namespace Limits

def free : Limits := ⟨.endless, none⟩

def below? (l : Limits) : Option Limits := l.room.below?.map fun room => { l with room }

def excludes (l : Limits) : Json → Bool
  | int n => l.digits.any (· < (toString n.natAbs).length)
  | _ => false

end Limits

/-- Why a text is not read, by what comes first in it. -/
inductive Fault where
  | illFormed
  | tooLong
  | tooDeep
  deriving DecidableEq, Repr

def isBlank (c : Char) : Bool := c == ' ' || c == '\t' || c == '\n' || c == '\r'

def skipBlanks (cs : List Char) : List Char := cs.dropWhile isBlank

def hexValue (c : Char) : Option Nat :=
  if '0' ≤ c ∧ c ≤ '9' then some (c.toNat - '0'.toNat)
  else if 'a' ≤ c ∧ c ≤ 'f' then some (c.toNat - 'a'.toNat + 10)
  else if 'A' ≤ c ∧ c ≤ 'F' then some (c.toNat - 'A'.toNat + 10)
  else none

def unit? : List Char → Option (Nat × List Char)
  | a :: b :: c :: d :: rest => do
    let a ← hexValue a
    let b ← hexValue b
    let c ← hexValue c
    let d ← hexValue d
    some (((a * 16 + b) * 16 + c) * 16 + d, rest)
  | _ => none

/-- The character of an escaped unit; a high unit joins the low one that follows it. A unit that
stands alone becomes the replacement character. -/
def joinUnits (n : Nat) (rest : List Char) : Char × List Char :=
  if 0xd800 ≤ n ∧ n < 0xdc00 then
    match rest with
    | '\\' :: 'u' :: more =>
      match unit? more with
      | some (m, rest') =>
        if 0xdc00 ≤ m ∧ m < 0xe000 then
          (Char.ofNat (0x10000 + (n - 0xd800) * 1024 + (m - 0xdc00)), rest')
        else ('\ufffd', rest)
      | none => ('\ufffd', rest)
    | _ => ('\ufffd', rest)
  else if 0xdc00 ≤ n ∧ n < 0xe000 then ('\ufffd', rest)
  else (Char.ofNat n, rest)

def simpleEscape : Char → Option Char
  | '"' => some '"'
  | '\\' => some '\\'
  | '/' => some '/'
  | 'b' => some '\x08'
  | 'f' => some '\x0c'
  | 'n' => some '\n'
  | 'r' => some '\r'
  | 't' => some '\t'
  | _ => none

def stringFrom : (fuel : Nat) → (done : List Char) → List Char → Option (String × List Char)
  | 0, _, _ => none
  | _ + 1, done, '"' :: rest => some (String.ofList done.reverse, rest)
  | fuel + 1, done, '\\' :: 'u' :: rest => do
    let (n, rest) ← unit? rest
    let (c, rest) := joinUnits n rest
    stringFrom fuel (c :: done) rest
  | fuel + 1, done, '\\' :: c :: rest => do
    let c ← simpleEscape c
    stringFrom fuel (c :: done) rest
  | fuel + 1, done, c :: rest =>
    if c.toNat < 0x20 then none else stringFrom fuel (c :: done) rest
  | _ + 1, _, [] => none

def digits (cs : List Char) : List Char × List Char := cs.span Char.isDigit

def natOf (ds : List Char) : Nat := ds.foldl (fun n d => n * 10 + (d.toNat - '0'.toNat)) 0

def fraction : List Char → List Char × List Char
  | '.' :: rest =>
    match digits rest with
    | ([], _) => ([], '.' :: rest)
    | (ds, rest') => ('.' :: ds, rest')
  | cs => ([], cs)

def exponent : List Char → List Char × List Char
  | e :: rest =>
    if e = 'e' ∨ e = 'E' then
      let (sign, more) := match rest with
        | '+' :: more => (['+'], more)
        | '-' :: more => (['-'], more)
        | more => ([], more)
      match digits more with
      | ([], _) => ([], e :: rest)
      | (ds, rest') => (e :: sign ++ ds, rest')
    else ([], e :: rest)
  | [] => ([], [])

def numeralFrom (negative : Bool) (whole rest : List Char) : Json × List Char :=
  let (frac, rest) := fraction rest
  let (exp, rest) := exponent rest
  if frac.isEmpty && exp.isEmpty then
    let n : Int := natOf whole
    (int (if negative then -n else n), rest)
  else
    (decimal (String.ofList ((if negative then ['-'] else []) ++ whole ++ frac ++ exp)), rest)

def numeral (cs : List Char) : Option (Json × List Char) :=
  let (negative, rest) := match cs with
    | '-' :: rest => (true, rest)
    | rest => (false, rest)
  match rest with
  | '0' :: rest => some (numeralFrom negative ['0'] rest)
  | rest =>
    match digits rest with
    | ([], _) => none
    | (whole, rest) => some (numeralFrom negative whole rest)

def boundNumeral (limits : Limits) (cs : List Char) : Except Fault (Json × List Char) :=
  match numeral cs with
  | none => .error .illFormed
  | some (j, rest) => if limits.excludes j then .error .tooLong else .ok (j, rest)

mutual

def valueFrom : (fuel : Nat) → Limits → List Char → Except Fault (Json × List Char)
  | 0, _, _ => .error .illFormed
  | fuel + 1, limits, cs =>
    match cs with
    | '"' :: rest =>
      match stringFrom (rest.length + 1) [] rest with
      | none => .error .illFormed
      | some (s, rest) => .ok (str s, rest)
    | '[' :: rest =>
      match limits.below? with
      | none => .error .tooDeep
      | some limits =>
        match skipBlanks rest with
        | ']' :: rest => .ok (arr [], rest)
        | rest => itemsFrom fuel limits [] rest
    | '\x7b' :: rest =>
      match limits.below? with
      | none => .error .tooDeep
      | some limits =>
        match skipBlanks rest with
        | '\x7d' :: rest => .ok (obj [], rest)
        | rest => entriesFrom fuel limits [] rest
    | 'n' :: 'u' :: 'l' :: 'l' :: rest => .ok (null, rest)
    | 't' :: 'r' :: 'u' :: 'e' :: rest => .ok (bool true, rest)
    | 'f' :: 'a' :: 'l' :: 's' :: 'e' :: rest => .ok (bool false, rest)
    | 'N' :: 'a' :: 'N' :: rest => .ok (decimal "NaN", rest)
    | 'I' :: 'n' :: 'f' :: 'i' :: 'n' :: 'i' :: 't' :: 'y' :: rest =>
      .ok (decimal "Infinity", rest)
    | '-' :: 'I' :: 'n' :: 'f' :: 'i' :: 'n' :: 'i' :: 't' :: 'y' :: rest =>
      .ok (decimal "-Infinity", rest)
    | cs => boundNumeral limits cs

def itemsFrom : (fuel : Nat) → Limits → (done : List Json) → List Char →
    Except Fault (Json × List Char)
  | 0, _, _, _ => .error .illFormed
  | fuel + 1, limits, done, cs =>
    match valueFrom fuel limits cs with
    | .error e => .error e
    | .ok (v, rest) =>
      match skipBlanks rest with
      | ',' :: rest => itemsFrom fuel limits (v :: done) (skipBlanks rest)
      | ']' :: rest => .ok (arr (v :: done).reverse, rest)
      | _ => .error .illFormed

def entriesFrom : (fuel : Nat) → Limits → (done : List (String × Json)) → List Char →
    Except Fault (Json × List Char)
  | 0, _, _, _ => .error .illFormed
  | fuel + 1, limits, done, cs =>
    match cs with
    | '"' :: rest =>
      match stringFrom (rest.length + 1) [] rest with
      | none => .error .illFormed
      | some (k, rest) =>
        match skipBlanks rest with
        | ':' :: rest =>
          match valueFrom fuel limits (skipBlanks rest) with
          | .error e => .error e
          | .ok (v, rest) =>
            match skipBlanks rest with
            | ',' :: rest => entriesFrom fuel limits (putKey k v done) (skipBlanks rest)
            | '\x7d' :: rest => .ok (obj (putKey k v done), rest)
            | _ => .error .illFormed
        | _ => .error .illFormed
    | _ => .error .illFormed

end

def readWithin (limits : Limits) (s : String) : Except Fault Json :=
  let cs := skipBlanks s.toList
  match valueFrom (2 * cs.length + 2) limits cs with
  | .error e => .error e
  | .ok (v, rest) => if (skipBlanks rest).isEmpty then .ok v else .error .illFormed

end Json

end TemplateLexer
