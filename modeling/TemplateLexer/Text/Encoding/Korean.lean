import TemplateLexer.Text.Charset.KsX1001
import TemplateLexer.Text.Encoding.Switching

set_option autoImplicit false

namespace TemplateLexer.Text.Korean

def common : Charset := Charset.ksX1001.moved 0x8080

def syllables : List Nat := (List.range 11172).map (0xac00 + ·)

def initialOf (syllable : Nat) : Nat := (syllable - 0xac00) / 588

def vowelOf (syllable : Nat) : Nat := (syllable - 0xac00) / 28 % 21

def finalOf (syllable : Nat) : Nat := (syllable - 0xac00) % 28

/-- Numbers of one list that are not in another one; both are in order. -/
def without : List Nat → List Nat → List Nat
  | [], _ => []
  | ns, [] => ns
  | n :: ns, m :: ms => if n = m then without ns ms else n :: without ns (m :: ms)

def commonSyllables : List Nat :=
  (Charset.ksX1001.runs.flatMap fun (_, chars) => chars.toList.map Char.toNat).filter fun n =>
    0xac00 ≤ n && n ≤ 0xd7a3

def otherSyllables : List Nat := without syllables commonSyllables

def runOf (code point : Nat) : Nat × String := (code, String.singleton (Char.ofNat point))

def columns (row : Nat) : List Nat :=
  (List.range 26).map (0x41 + ·) ++ (List.range 26).map (0x61 + ·)
    ++ (List.range (if row < 0xa1 then 126 else 32)).map (0x81 + ·)

def otherCodes : List Nat :=
  (List.range 70).flatMap fun i => (columns (0x81 + i)).map fun c => (0x81 + i) * 256 + c

def unified : Charset := ⟨List.zipWith runOf otherCodes otherSyllables⟩

def cp949 : List Charset := [.ascii, common.union unified]

def finalLetters : List Nat :=
  [0xd4, 0xa1, 0xa2, 0xa3, 0xa4, 0xa5, 0xa6, 0xa7, 0xa9, 0xaa, 0xab, 0xac, 0xad, 0xae, 0xaf, 0xb0,
    0xb1, 0xb2, 0xb4, 0xb5, 0xb6, 0xb7, 0xb8, 0xba, 0xbb, 0xbc, 0xbd, 0xbe]

def initialLetters : List Nat :=
  [0xa1, 0xa2, 0xa4, 0xa7, 0xa8, 0xa9, 0xb1, 0xb2, 0xb3, 0xb5, 0xb6, 0xb7, 0xb8, 0xb9, 0xba, 0xbb,
    0xbc, 0xbd, 0xbe]

def spelling (syllable : Nat) : Nat :=
  [0xd4, initialLetters.getD (initialOf syllable) 0, 0xbf + vowelOf syllable,
    finalLetters.getD (finalOf syllable) 0].foldl (fun n letter => n * 65536 + 0xa400 + letter) 0

def spelled : Charset := ⟨otherSyllables.map fun n => runOf (spelling n) n⟩

def eucKrRead : List Charset := [.ascii, common]

def eucKrWritten : List Charset :=
  [.ascii, common, .empty, .empty, .empty, .empty, .empty, spelled]

def vowels : List Nat :=
  [3, 4, 5, 6, 7, 10, 11, 12, 13, 14, 15, 18, 19, 20, 21, 22, 23, 26, 27, 28, 29]

def parts (initial vowel last : Nat) : Nat := 0x8000 + initial * 1024 + vowel * 32 + last

def composed (syllable : Nat) : Nat :=
  let last := finalOf syllable
  parts (initialOf syllable + 2) (vowels.getD (vowelOf syllable) 0)
    (if last < 17 then last + 1 else last + 2)

def initials : List Char :=
  ['ㄱ', 'ㄲ', 'ㄴ', 'ㄷ', 'ㄸ', 'ㄹ', 'ㅁ', 'ㅂ', 'ㅃ', 'ㅅ', 'ㅆ', 'ㅇ', 'ㅈ', 'ㅉ', 'ㅊ', 'ㅋ',
    'ㅌ', 'ㅍ', 'ㅎ']

def letters : Charset :=
  ⟨initials.zipIdx.map (fun (c, i) => runOf (parts (i + 2) 2 1) c.toNat)
    ++ vowels.zipIdx.map (fun (v, i) => runOf (parts 1 v 1) (0x314f + i))
    ++ [(parts 1 2 4, "ㄳ\ufffdㄵㄶ\ufffd\ufffdㄺㄻㄼㄽㄾㄿㅀ\ufffd\ufffd\ufffdㅄ")]⟩

def paired (code : Nat) : Nat :=
  let row := code / 256 - 0x21
  let place := row + (if code / 256 < 0x4a then 0x1b2 else 0x197)
  let column := code % 256 - 0x21 + if place % 2 = 1 then 0x5e else 0
  place / 2 * 256 + column + if column < 0x4e then 0x31 else 0x43

def symbols : Charset :=
  ⟨Charset.ksX1001.runs.filter fun (first, _) => first / 256 < 0x30 || 0x4a ≤ first / 256⟩

def combining : Charset :=
  (letters.union (symbols.renumbered paired)).union
    ⟨syllables.map fun n => runOf (composed n) n⟩

def johabRead : List Charset := [.ascii, combining]

def johabWritten : List Charset := [Charset.ascii.union ⟨[(0x5c, "₩")]⟩, combining]

def switched : Switched :=
  { header := [0x1b, 0x24, 0x29, 0x43], on := [0x0e], off := [0x0f], set := .ksX1001, own := [] }

end TemplateLexer.Text.Korean
