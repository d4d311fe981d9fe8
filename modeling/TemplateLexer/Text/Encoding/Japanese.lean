import TemplateLexer.Text.Charset.Cp932
import TemplateLexer.Text.Charset.JisX0208
import TemplateLexer.Text.Charset.JisX0212
import TemplateLexer.Text.Charset.JisX0213
import TemplateLexer.Text.Charset.KsX1001
import TemplateLexer.Text.Encoding.Chinese
import TemplateLexer.Text.Encoding.Switching

set_option autoImplicit false

namespace TemplateLexer.Text.Japanese

def shifted (code : Nat) : Nat :=
  let row := code / 256 - 0x21
  let column := code % 256 - 0x21
  let lead := row / 2 + (if row / 2 < 0x1f then 0x81 else 0xc1)
  let trail :=
    if row % 2 = 1 then column + 0x9f else if column < 0x3f then column + 0x40 else column + 0x41
  lead * 256 + trail

def shiftedSet : Charset := Charset.jisX0208.renumbered shifted

def halfWidth (first : Nat) : Charset :=
  ⟨[(first, String.ofList ((List.range 63).map fun i => Char.ofNat (0xff61 + i)))]⟩

def roman : Charset := ⟨[(0x5c, "¥"), (0x7e, "‾")]⟩

def oneByte : Charset := (Charset.ascii.union (halfWidth 0xa1)).union roman

def shiftJisWritten : List Charset := [oneByte, shiftedSet]

def shiftJisRead : List Charset :=
  [(roman.union .ascii).union (halfWidth 0xa1), shiftedSet]

def cp932 : List Charset :=
  [Charset.ascii.union (halfWidth 0xa1), Charset.cp932Rest.union shiftedSet]

def twoBytes : Charset := (Charset.jisX0208.moved 0x8080).union (halfWidth 0x8ea1)

def threeBytes : Charset := Charset.jisX0212.moved 0x8f8080

def eucJpWritten : List Charset := [Charset.ascii.union roman, twoBytes, threeBytes]

def eucJpRead : List Charset := [.ascii, twoBytes, threeBytes]

def jisX0213 (oneByte : Charset) : List Charset :=
  [oneByte, twoBytes.union .jisX0213First, threeBytes.union .jisX0213Second]

def escape (s : String) : List UInt8 := 0x1b :: s.toUTF8.toList

def ascii : Announced := ⟨escape "(B", 1, .ascii⟩

def jis : Announced := ⟨escape "$B", 2, .jisX0208⟩

def olderJis : Announced := ⟨escape "$@", 2, .jisX0208⟩

def further : Announced := ⟨escape "$(D", 2, .jisX0212⟩

def romanJis : Announced := ⟨escape "(J", 1, roman.union .ascii⟩

def korean : Announced := ⟨escape "$(C", 2, .ksX1001⟩

def chinese (sign : String) : Announced :=
  ⟨escape sign, 2, Chinese.gb2312.renumbered fun n => n - 0x8080⟩

def halfWidthJis : Announced := ⟨escape "(I", 1, halfWidth 0x21⟩

def firstPlane : Announced :=
  ⟨escape "$(O", 2, Charset.jisX0213First.renumbered fun n => n - 0x8080⟩

def secondPlane : Announced :=
  ⟨escape "$(P", 2, Charset.jisX0213Second.renumbered fun n => n - 0x8f8080⟩

def withPlanes : List Announced := [jis, further, firstPlane, secondPlane]

end TemplateLexer.Text.Japanese
