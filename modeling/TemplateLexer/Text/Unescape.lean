import TemplateLexer.Text.CharacterNames

set_option autoImplicit false

namespace TemplateLexer.Text

def replacement : Char := '\ufffd'

def westernBytes : List Char :=
  ['\u20ac', '\u0081', '\u201a', '\u0192', '\u201e', '\u2026', '\u2020', '\u2021',
    '\u02c6', '\u2030', '\u0160', '\u2039', '\u0152', '\u008d', '\u017d', '\u008f',
    '\u0090', '\u2018', '\u2019', '\u201c', '\u201d', '\u2022', '\u2013', '\u2014',
    '\u02dc', '\u2122', '\u0161', '\u203a', '\u0153', '\u009d', '\u017e', '\u0178']

def isBarred (n : Nat) : Bool :=
  (1 ≤ n && n ≤ 8) || n == 0xb || (0xe ≤ n && n ≤ 0x1f) || n == 0x7f
    || (0xfdd0 ≤ n && n ≤ 0xfdef) || n % 0x10000 == 0xfffe || n % 0x10000 == 0xffff

def numbered (n : Nat) : List Char :=
  if n == 0 then [replacement]
  else if 0x80 ≤ n && n ≤ 0x9f then (westernBytes[n - 0x80]?).toList
  else if (0xd800 ≤ n && n ≤ 0xdfff) || 0x10ffff < n then [replacement]
  else if isBarred n then []
  else [Char.ofNat n]

def isHexDigit (c : Char) : Bool :=
  c.isDigit || ('a' ≤ c && c ≤ 'f') || ('A' ≤ c && c ≤ 'F')

def hexDigitValue (c : Char) : Nat :=
  if c.isDigit then c.toNat - '0'.toNat else c.toLower.toNat - 'a'.toNat + 10

def readDigits (base : Nat) (digits : List Char) : Nat :=
  digits.foldl (fun n c => n * base + hexDigitValue c) 0

def withoutSemicolon : List Char → List Char
  | ';' :: cs => cs
  | cs => cs

def numberReference? (base : Nat) (isDigit : Char → Bool) (cs : List Char) :
    Option (List Char × List Char) :=
  let digits := cs.takeWhile isDigit
  if digits.isEmpty then none
  else some (numbered (readDigits base digits), withoutSemicolon (cs.dropWhile isDigit))

def isNameLetter (c : Char) : Bool :=
  !(c == '\t' || c == '\n' || c == '\x0c' || c == ' ' || c == '<' || c == '&' || c == '#'
    || c == ';')

def longestName : Nat := 32

def knownPart? (letters : List Char) : (size : Nat) → Option (List Char × List Char)
  | 0 | 1 => none
  | size + 1 =>
    match characterName? (String.ofList (letters.take (size + 1))) false with
    | some s => some (s.toList, letters.drop (size + 1))
    | none => knownPart? letters size

def nameReference? (cs : List Char) : Option (List Char × List Char) :=
  let letters := (cs.take longestName).takeWhile isNameLetter
  let rest := cs.drop letters.length
  let closed := rest.head? == some ';'
  match characterName? (String.ofList letters) closed with
  | some s => some (s.toList, withoutSemicolon rest)
  | none =>
    let size := if closed then letters.length else letters.length - 1
    (knownPart? letters size).map fun (s, more) => (s, more ++ rest)

def reference? : List Char → Option (List Char × List Char)
  | '#' :: 'x' :: cs => numberReference? 16 isHexDigit cs
  | '#' :: 'X' :: cs => numberReference? 16 isHexDigit cs
  | '#' :: cs => numberReference? 10 Char.isDigit cs
  | cs => nameReference? cs

/-- Reads as many characters as the fuel tells; references count as one. -/
def unescapeFrom : (fuel : Nat) → List Char → List Char
  | 0, cs => cs
  | _ + 1, [] => []
  | fuel + 1, c :: cs =>
    if c = '&' then
      match reference? cs with
      | some (s, rest) => s ++ unescapeFrom fuel rest
      | none => c :: unescapeFrom fuel cs
    else c :: unescapeFrom fuel cs

def unescape (cs : List Char) : List Char := unescapeFrom cs.length cs

theorem reference?_carriageReturn (cs : List Char) :
    reference? ('#' :: '1' :: '3' :: ';' :: cs) = some (['\r'], cs) := by
  rfl

theorem nameReference?_closed {name : List Char} {s : String}
    (hletters : name.all isNameLetter = true) (hlength : name.length ≤ longestName)
    (h : characterName? (String.ofList name) true = some s) (cs : List Char) :
    nameReference? (name ++ ';' :: cs) = some (s.toList, cs) := by
  have htake : ((name ++ ';' :: cs).take longestName).takeWhile isNameLetter = name := by
    have hfront : (name ++ ';' :: cs).take longestName
        = name ++ (';' :: cs).take (longestName - name.length) := by
      rw [List.take_append, List.take_of_length_le hlength]
    have hstop : ((';' :: cs).take (longestName - name.length)).takeWhile isNameLetter = [] := by
      cases longestName - name.length with
      | zero => rfl
      | succ k => exact List.takeWhile_cons_of_neg (by decide)
    rw [hfront, List.takeWhile_append_of_pos (List.all_eq_true.1 hletters), hstop, List.append_nil]
  rw [nameReference?, htake, List.drop_left]
  simp only [List.head?_cons, beq_self_eq_true, h, withoutSemicolon]

theorem reference?_of_head {cs : List Char} (h : cs.head? ≠ some '#') :
    reference? cs = nameReference? cs := by
  rw [reference?.eq_def]
  split <;> simp_all

theorem markupNames_facts : ∀ entry ∈ markupNames,
    (markupNames.find? fun (n, _) => n == entry.1) = some entry
      ∧ entry.1.toList.all isNameLetter = true ∧ entry.1.toList.length ≤ longestName
      ∧ entry.1.toList.head? ∉ [none, some '#'] := by
  decide

theorem reference?_markupName {name s : String} (h : (name, s) ∈ markupNames) (cs : List Char) :
    reference? (name.toList ++ ';' :: cs) = some (s.toList, cs) := by
  obtain ⟨hfind, hletters, hlength, hhead⟩ := markupNames_facts _ h
  have hknown : characterName? (String.ofList name.toList) true = some s := by
    rw [String.ofList_toList]
    exact characterName?_closed hfind
  have hnumber : (name.toList ++ ';' :: cs).head? ≠ some '#' := by
    rw [List.head?_append]
    cases hfirst : name.toList.head? with
    | none => exact absurd (by simp [hfirst]) hhead
    | some c => simpa [hfirst] using hhead
  rw [reference?_of_head hnumber]
  exact nameReference?_closed hletters hlength hknown cs

theorem unescapeFrom_cons {c : Char} (h : c ≠ '&') (fuel : Nat) (cs : List Char) :
    unescapeFrom (fuel + 1) (c :: cs) = c :: unescapeFrom fuel cs := by
  simp [unescapeFrom, h]

theorem unescapeFrom_reference {s rest cs : List Char} (h : reference? cs = some (s, rest))
    (fuel : Nat) : unescapeFrom (fuel + 1) ('&' :: cs) = s ++ unescapeFrom fuel rest := by
  simp [unescapeFrom, h]

end TemplateLexer.Text
