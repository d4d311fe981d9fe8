import TemplateLexer.Pattern
/-!
Reads the written form of patterns: alternatives, sequences, repetitions and their reluctant forms,
groups, looking ahead, classes, and `(?i)` at the start for any case. A pattern that is not closed,
or repeats nothing, is refused.
-/

set_option autoImplicit false

namespace TemplateLexer.Pattern

def escaped? (c : Char) : Option CharRange :=
  match c with
  | 's' => some .blank
  | 'S' => some .notBlank
  | 'd' => some .digit
  | 'D' => some .notDigit
  | 'w' => some .word
  | 'W' => some .notWord
  | 'n' => some (.between '\n' '\n')
  | 'r' => some (.between '\r' '\r')
  | 't' => some (.between '\t' '\t')
  | 'f' => some (.between '\x0c' '\x0c')
  | 'v' => some (.between '\x0b' '\x0b')
  | 'a' => some (.between '\x07' '\x07')
  | c => if c.isAlphanum then none else some (.between c c)

def classAtom? : List Char → Option (CharRange × List Char)
  | '\\' :: c :: rest => (escaped? c).map (·, rest)
  | '\\' :: [] => none
  | c :: rest => some (.between c c, rest)
  | [] => none

def rangeTo? (first : CharRange) (last : CharRange) : Option CharRange :=
  match first, last with
  | .between a _, .between b _ => if a ≤ b then some (.between a b) else none
  | _, _ => none

def classMembers : (fuel : Nat) → (members : List CharRange) → List Char →
    Option (List CharRange × List Char)
  | 0, _, _ => none
  | fuel + 1, members, cs =>
    match cs, members with
    | ']' :: rest, _ :: _ => some (members.reverse, rest)
    | cs, members => do
      let (first, rest) ← classAtom? cs
      match rest with
      | '-' :: ']' :: rest => some ((.between '-' '-' :: first :: members).reverse, rest)
      | '-' :: more =>
        let (last, rest) ← classAtom? more
        let member ← rangeTo? first last
        classMembers fuel (member :: members) rest
      | rest => classMembers fuel (first :: members) rest

def charClass? (cs : List Char) : Option (Pattern × List Char) :=
  match cs with
  | '^' :: rest => (classMembers (rest.length + 1) [] rest).map fun (ms, r) => (oneOf true ms, r)
  | rest => (classMembers (rest.length + 1) [] rest).map fun (ms, r) => (oneOf false ms, r)

/-- How often something is to be repeated. -/
structure Bounds where
  least : Nat
  most : Option Nat

def maxCount : Nat := 4294967295

def Bounds.isSound (b : Bounds) : Bool :=
  b.least < maxCount && b.most.all fun most => b.least ≤ most && most < maxCount

def count (cs : List Char) : Option Nat × List Char :=
  let (digits, rest) := cs.span fun c => '0' ≤ c && c ≤ '9'
  (if digits.isEmpty then none
    else some (digits.foldl (fun n c => 10 * n + (c.toNat - '0'.toNat)) 0), rest)

def bounds? (cs : List Char) : Option (Bounds × List Char) :=
  match count cs with
  | (some n, '}' :: rest) => some (⟨n, some n⟩, rest)
  | (least, ',' :: rest) =>
    match count rest with
    | (most, '}' :: rest) => some (⟨least.getD 0, most⟩, rest)
    | _ => none
  | _ => none

def repeats? : List Char → Option (Bounds × List Char)
  | '*' :: rest => some (⟨0, none⟩, rest)
  | '+' :: rest => some (⟨1, none⟩, rest)
  | '?' :: rest => some (⟨0, some 1⟩, rest)
  | '{' :: rest => bounds? rest
  | _ => none

def repetition? (item : Pattern) (cs : List Char) : Option (Pattern × List Char) :=
  match repeats? cs with
  | none => some (item, cs)
  | some (b, rest) =>
    if b.isSound then
      some (item.times b.least b.most, match rest with
        | '?' :: rest => rest
        | rest => rest)
    else none

mutual

def alternatives? : (fuel : Nat) → List Char → Option (Pattern × List Char)
  | 0, _ => none
  | fuel + 1, cs =>
    match sequence? fuel empty cs with
    | none => none
    | some (p, '|' :: rest) => (alternatives? fuel rest).map fun (q, r) => (either p q, r)
    | some (p, rest) => some (p, rest)

/-- A sequence after the part that is already read. Repetitions follow an atom: one may neither
follow another nor an anchor. -/
def sequence? : (fuel : Nat) → (done : Pattern) → List Char → Option (Pattern × List Char)
  | 0, _, _ => none
  | fuel + 1, done, cs =>
    match cs with
    | [] => some (done, [])
    | '|' :: _ | ')' :: _ => some (done, cs)
    | '^' :: rest | '\\' :: 'A' :: rest => sequence? fuel (both done start) rest
    | '$' :: rest => sequence? fuel (both done stop) rest
    | '\\' :: 'Z' :: rest => sequence? fuel (both done veryEnd) rest
    | cs =>
      if (repeats? cs).isSome then none
      else
        match atom? fuel cs with
        | none => none
        | some (item, rest) =>
          match repetition? item rest with
          | none => none
          | some (item, rest) => sequence? fuel (both done item) rest

def atom? : (fuel : Nat) → List Char → Option (Pattern × List Char)
  | 0, _ => none
  | fuel + 1, cs =>
    match cs with
    | '.' :: rest => some (any, rest)
    | '[' :: rest => charClass? rest
    | '\\' :: c :: rest => (escaped? c).map fun m => (oneOf false [m], rest)
    | '\\' :: [] => none
    | '(' :: '?' :: '!' :: rest => group? fuel (ahead true) rest
    | '(' :: '?' :: '=' :: rest => group? fuel (ahead false) rest
    | '(' :: '?' :: ':' :: rest => group? fuel id rest
    | '(' :: '?' :: _ => none
    | '(' :: rest => group? fuel id rest
    | c :: rest => some (char c, rest)
    | [] => none

def group? : (fuel : Nat) → (wrap : Pattern → Pattern) → List Char → Option (Pattern × List Char)
  | 0, _, _ => none
  | fuel + 1, wrap, cs =>
    match alternatives? fuel cs with
    | some (p, ')' :: rest) => some (wrap p, rest)
    | _ => none

end

end Pattern

def Pattern.read? (text : String) : Option (Bool × Pattern) :=
  let (anyCase, cs) := match text.toList with
    | '(' :: '?' :: 'i' :: ')' :: rest => (true, rest)
    | cs => (false, cs)
  match Pattern.alternatives? (4 * cs.length + 4) cs with
  | some (p, []) => some (anyCase, p)
  | _ => none

def Matcher.read? (text : String) : Option Matcher :=
  (Pattern.read? text).map fun (anyCase, pattern) => pattern.matcher anyCase

end TemplateLexer
