/-!
References to resources, as far as namespaces need them: whether a text is one, and whether it is
absolute, that is, begins with a scheme. Every part is read as far as it goes, and gives what
remains.
-/

set_option autoImplicit false

namespace TemplateLexer.Markup.Uri

def isHexDigit (c : Char) : Bool :=
  c.isDigit || ('a' ≤ c && c ≤ 'f') || ('A' ≤ c && c ≤ 'F')

def isPlain (c : Char) : Bool := c.isAlphanum || "-._~!$&'()*+,;=".toList.contains c

def pass (more : List Char) : List Char → List Char
  | '%' :: a :: b :: cs =>
    if isHexDigit a && isHexDigit b then pass more cs else '%' :: a :: b :: cs
  | c :: cs => if c != '%' && (isPlain c || more.contains c) then pass more cs else c :: cs
  | [] => []

def scheme? : List Char → Option (List Char)
  | [] => none
  | c :: cs =>
    if !c.isAlpha then none
    else
      match cs.dropWhile fun d => d.isAlphanum || d == '+' || d == '-' || d == '.' with
      | ':' :: rest => some rest
      | _ => none

def user (cs : List Char) : List Char :=
  match pass [':'] cs with
  | '@' :: rest => rest
  | _ => cs

def largestOctet : Nat := 255

def octet? (cs : List Char) : Option (List Char) :=
  let digits := (cs.take 3).takeWhile Char.isDigit
  let value := digits.foldl (fun n c => n * 10 + (c.toNat - '0'.toNat)) 0
  if digits.isEmpty || largestOctet < value || (1 < digits.length && digits.head? == some '0') then
    none
  else some (cs.drop digits.length)

def point? : List Char → Option (List Char)
  | '.' :: cs => some cs
  | _ => none

def address? (cs : List Char) : Option (List Char) := do
  let cs ← (octet? cs).bind point?
  let cs ← (octet? cs).bind point?
  let cs ← (octet? cs).bind point?
  octet? cs

def host? : List Char → Option (List Char)
  | '[' :: cs =>
    match cs.dropWhile (· != ']') with
    | _ :: rest => some rest
    | [] => none
  | cs => some ((address? cs).getD (pass [] cs))

def largestPort : Nat := 2147483647

def port? : List Char → Option (List Char)
  | ':' :: cs =>
    let digits := cs.takeWhile Char.isDigit
    let value := digits.foldl (fun n c => n * 10 + (c.toNat - '0'.toNat)) 0
    if digits.isEmpty || largestPort < value then none else some (cs.dropWhile Char.isDigit)
  | cs => some cs

def segments (cs : List Char) : List Char :=
  match cs with
  | '/' :: _ => pass [':', '@', '/'] cs
  | cs => cs

/-- The first segment of a path that begins without a slash; a colon may stand in it after a scheme
only. -/
def firstSegment? (absolute : Bool) (cs : List Char) : Option (List Char) :=
  let rest := pass (if absolute then [':', '@'] else ['@']) cs
  if rest.length < cs.length then some rest
  else if cs.head? == some ':' then none
  else some cs

def hierarchy? (absolute : Bool) : List Char → Option (List Char)
  | '/' :: '/' :: cs => ((host? (user cs)).bind port?).map segments
  | '/' :: cs => some (segments ('/' :: cs))
  | cs => (firstSegment? absolute cs).map segments

def part (mark : Char) (more : List Char) : List Char → List Char
  | c :: cs => if c == mark then pass more cs else c :: cs
  | [] => []

def endsWell (cs : List Char) : Bool :=
  (part '#' [':', '@', '/', '?', '[', ']'] (part '?' [':', '@', '/', '?'] cs)).isEmpty

def isAbsolute (s : String) : Bool :=
  (((scheme? s.toList).bind (hierarchy? true)).map endsWell).getD false

def isRelative (s : String) : Bool := ((hierarchy? false s.toList).map endsWell).getD false

def isReference (s : String) : Bool := isAbsolute s || isRelative s

end TemplateLexer.Markup.Uri
