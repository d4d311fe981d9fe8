import TemplateLexer.Failure
import TemplateLexer.Markup.Reader
import TemplateLexer.Text.Blank
import TemplateLexer.Text.Encoding.Declared
import TemplateLexer.Text.Word
/-!
Loads documents from texts and bytes. A text with a declaration is put into bytes in the encoding
that it declares and read as bytes; other texts are read as they are. Bytes are read in the encoding
that their first bytes show or else in the one that they declare.
-/

set_option autoImplicit false

namespace TemplateLexer

open Markup Text

/-- A template as it comes in. -/
inductive Source where
  | text (s : String)
  | bytes (bs : List UInt8)

namespace Source

/-- The text inside the first tag if a text begins with a declaration: up to the question mark
before the bracket that ends it. -/
def declarationBody? (s : String) : Option (List Char) :=
  match s.toList.dropWhile Text.isBlank with
  | '<' :: '?' :: 'x' :: 'm' :: 'l' :: cs =>
    let inside := cs.takeWhile (· != '>')
    let atEdge := !((inside.head?.map Text.isWord).getD false)
    let ended := (cs.dropWhile (· != '>')).head? == some '>'
    if atEdge && ended && inside.getLast? == some '?' then some inside else none
  | _ => none

def isEncodingChar (c : Char) : Bool := c.isAlphanum || c == '.' || c == '_' || c == '-'

def isQuote (c : Char) : Bool := c == '"' || c == '\''

def namedValue? (cs : List Char) : Option String :=
  match cs.dropWhile Text.isBlank with
  | '=' :: cs =>
    match cs.dropWhile Text.isBlank with
    | q :: cs =>
      let value := cs.takeWhile isEncodingChar
      match cs.dropWhile isEncodingChar with
      | r :: _ => if isQuote q && isQuote r && !value.isEmpty then some (String.ofList value)
        else none
      | [] => none
    | [] => none
  | _ => none

def encodingWord : List Char := "encoding".toList

/-- The first name of an encoding that is given in a text; `before` is the character in front. -/
def givenEncoding? (before : Char) : List Char → Option String
  | [] => none
  | c :: cs =>
    let here :=
      if !Text.isWord before && encodingWord.isPrefixOf (c :: cs) then
        namedValue? ((c :: cs).drop encodingWord.length)
      else none
    here.or (givenEncoding? c cs)

def startsValue (cs : List Char) : Bool :=
  match cs.dropWhile Text.isBlank with
  | '=' :: cs =>
    match cs.dropWhile Text.isBlank with
    | q :: cs => isQuote q && cs.any isQuote
    | [] => false
  | _ => false

def givesEncoding : List Char → Bool
  | [] => false
  | c :: cs =>
    let word := cs.dropWhile Text.isBlank
    (Text.isBlank c && encodingWord.isPrefixOf word && startsValue (word.drop encodingWord.length))
      || (c != '>' && givesEncoding cs)

/-- A text that declares an encoding although it does not begin as declarations do. -/
def declaresUnclosed (s : String) : Bool :=
  match s.toList with
  | '<' :: '?' :: 'x' :: 'm' :: 'l' :: c :: cs => c != '>' && givesEncoding cs
  | _ => false

/-- The encoding that is reported for a text without declaration: the narrowest that has its
widest character. -/
def widthEncoding (s : String) : String :=
  let widest := s.toList.foldl (fun n c => max n c.toNat) 0
  if widest < 0x80 then "UTF-8"
  else if widest < 0x100 then "ISO-8859-1"
  else if widest < 0x10000 then "UTF-16LE"
  else "UTF-32LE"

/-- What the first bytes of a document show: its encoding, the name that is reported if the document
declares none, and the one reported if it declares another; and the names that agree with the
encoding, if not all do. -/
structure Shown where
  encoding : Encoding
  undeclared : String
  name : String
  names : Option (List String)

namespace Shown

def utf8 : Shown := ⟨.utf8, "UTF-8", "UTF-8", some ["UTF-8", "UTF8"]⟩

def utf16Low : Shown :=
  ⟨.utf16 .lowFirst, "UTF-8", "UTF-16LE", some ["UTF-16", "UTF-16LE", "UTF16"]⟩

def utf16High : Shown :=
  ⟨.utf16 .highFirst, "UTF-8", "UTF-16BE", some ["UTF-16", "UTF-16BE", "UTF16"]⟩

def utf32Low : Shown := ⟨.utf32 .lowFirst, "UTF-32LE", "UTF-32LE", none⟩

def utf32High : Shown := ⟨.utf32 .highFirst, "UTF-32BE", "UTF-32BE", none⟩

def agrees (s : Shown) (name : String) : Bool :=
  (s.names.map (·.contains (DeclaredName.upper name))).getD true

def reported (s : Shown) (h : Reading.Heading) : String :=
  match h.encoding with
  | some name => if s.agrees name then name else s.name
  | none => s.undeclared

def judge (s : Shown) (name : String) : Reading.Verdict :=
  if s.agrees name then .accepted else .doubted

end Shown

def sniffed : List UInt8 → Option Shown × List UInt8
  | 0xff :: 0xfe :: 0x00 :: 0x00 :: bs => (some .utf32Low, bs)
  | 0x00 :: 0x00 :: 0xfe :: 0xff :: bs => (some .utf32High, bs)
  | bs@(0x00 :: 0x00 :: 0x00 :: 0x3c :: _) => (some .utf32High, bs)
  | bs@(0x3c :: 0x00 :: 0x00 :: 0x00 :: _) => (some .utf32Low, bs)
  | bs@(0x00 :: 0x3c :: 0x00 :: 0x3f :: _) => (some .utf16High, bs)
  | bs@(0x3c :: 0x00 :: 0x3f :: 0x00 :: _) => (some .utf16Low, bs)
  | 0xef :: 0xbb :: 0xbf :: b :: bs => (some .utf8, b :: bs)
  | 0xfe :: 0xff :: a :: b :: bs => (some .utf16High, a :: b :: bs)
  | 0xff :: 0xfe :: a :: b :: bs => (some .utf16Low, a :: b :: bs)
  | bs => (none, bs)

def declaredName? (bs : List UInt8) : Option String :=
  let cs := bs.map fun b => Char.ofNat b.toNat
  match Reading.heading (fun _ => .accepted) (.start cs) with
  | .ok (h, _) => h.encoding
  | .error _ => none

def declaredOr (other : String) (h : Reading.Heading) : String := h.encoding.getD other

def inDeclared? (bs : List UInt8) (name : String) : Option (List Char) :=
  (DeclaredName.encoding? name).bind (·.decode bs)

/-- Reads bytes that show no encoding. -/
def readDeclared (bs : List UInt8) : Except Nat Document :=
  let judge (name : String) : Reading.Verdict :=
    if (inDeclared? bs name).isSome then .accepted else .refused
  let cs := ((declaredName? bs).bind (inDeclared? bs)).getD (Unicode.decode8 bs)
  Document.read judge (declaredOr "UTF-8") cs

/-- The line that is reported if the bytes are not of the encoding that they show. -/
def firstLine : Nat := 1

def readBytes (bs : List UInt8) : Except Nat Document :=
  match sniffed bs with
  | (some s, rest) =>
    match s.encoding.decode rest with
    | some cs => Document.read s.judge s.reported cs
    | none => .error firstLine
  | (none, rest) => readDeclared rest

def readText (s : String) : Except Nat Document :=
  let cs := match s.toList with
    | '\ufeff' :: cs => cs
    | cs => cs
  Document.read (fun _ => .accepted) (fun _ => widthEncoding s) cs

/-- Loads a document; the file is named in failures only. -/
def load (source : Source) (file : Option String) : Except Failure Document :=
  let illFormed {α : Type} (line : Nat) : Except Failure α :=
    .error (.unreadable .illFormed line file)
  let ofBytes (bs : List UInt8) : Except Failure Document :=
    match readBytes bs with
    | .ok d => .ok d
    | .error line => illFormed line
  match source with
  | .bytes bs => ofBytes bs
  | .text s =>
    match declarationBody? s with
    | none =>
      if declaresUnclosed s then .error .badValue
      else
        match readText s with
        | .ok d => .ok d
        | .error line => illFormed line
    | some body =>
      let name := (givenEncoding? 'l' body).getD "utf-8"
      match WrittenForm.named? name with
      | none => .error (.unreadable (.unknownEncoding name) firstLine file)
      | some form =>
        match form.encode s with
        | .ok bs => ofBytes bs
        | .error .text => .error .unsuitableText
        | .error (.character front reach) =>
          .error (.unreadable (.unencodable name reach) (front.count '\n' + firstLine) file)

end Source

end TemplateLexer
