import TemplateLexer.Text.Charset.Big5
import TemplateLexer.Text.Charset.Gb2312
import TemplateLexer.Text.Charset.Gbk
import TemplateLexer.Text.Charset.Hkscs
import TemplateLexer.Text.Encoding.Switching

set_option autoImplicit false

namespace TemplateLexer.Text.Chinese

def gb2312 : Charset := Charset.gb2312Core.union .gb2312Marks

def eucCn : List Charset := [.ascii, gb2312]

def gbk : List Charset := [.ascii, Charset.gb2312Core.union .gbkExtension]

def cp936 : List Charset :=
  [Charset.ascii.union ⟨[(0x80, "€")]⟩, Charset.gb2312Core.union .gbkExtension]

def big5 : List Charset := [.ascii, Charset.big5Core.union .big5Rest]

def cp950Read : List Charset := [.ascii, Charset.big5Core.union .cp950Rest]

def cp950Alike : Charset :=
  ⟨[(0xa145, "•"), (0xa1c2, "‾"), (0xa1e3, "∼"), (0xa244, "¥"), (0xa246, "¢£")]⟩

def cp950Written : List Charset :=
  [.ascii, (Charset.big5Core.union .cp950Rest).union cp950Alike]

def big5Hkscs : List Charset := [.ascii, Charset.big5Core.union .hkscsRest]

/-- GB 2312 between marks that begin with a tilde; the tilde itself is written twice. -/
def hz : Switched :=
  { header := []
    on := "~\x7b".toUTF8.toList
    off := "~\x7d".toUTF8.toList
    set := gb2312.renumbered fun n => n - 0x8080
    own := [('~', "~~".toUTF8.toList)] }

end TemplateLexer.Text.Chinese
