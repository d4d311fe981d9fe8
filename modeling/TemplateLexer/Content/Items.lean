import TemplateLexer.Markup.Printer
import TemplateLexer.Text.Word
/-!
The content of an element as items: text, sections of character data, and child nodes. The content
is printed with numbered stand-ins for its children, and cut where the stand-ins are found, so that
text comes as it is written, with its references read.
-/

set_option autoImplicit false

namespace TemplateLexer.Content

open Markup

/-- A piece of content; a section keeps its markup. -/
inductive Item where
  | text (s : String)
  | cdata (markup : String)
  | child (index : Nat)
  deriving DecidableEq, Repr

def standIn : String := "_plantilla-child_"

def printStandIn (index : Nat) : Node → List Char
  | .element tag _ =>
    '<' :: standIn.toList ++ tag.declarations.flatMap Declaration.print
      ++ (" n=\"" ++ toString index ++ "\"/>").toList
  | .comment _ => printComment (standIn ++ " " ++ toString index)
  | .instruction _ _ => printInstruction standIn (some (toString index))
  | .reference _ => printReference (standIn ++ toString index)
  | n => n.print

def printWithStandIns (index : Nat) : List Node → List Char
  | [] => []
  | n :: rest =>
    if n.isCharacters then n.print ++ printWithStandIns index rest
    else printStandIn index n ++ printWithStandIns (index + 1) rest

def numbered? (after : List Char) (cs : List Char) : Option (Nat × List Char) :=
  let digits := cs.takeWhile Text.isDigit
  let rest := cs.dropWhile Text.isDigit
  if digits.isEmpty || !after.isPrefixOf rest then none
  else some (Text.numberOf digits, rest.drop after.length)

def numberIn? (before : Char) : List Char → Option Nat
  | [] => none
  | c :: cs =>
    let here :=
      if !Text.isWord before && "n=\"".toList.isPrefixOf (c :: cs) then
        numbered? ['"'] ((c :: cs).drop 3)
      else none
    (here.map (·.1)).or (numberIn? c cs)

def elementNumber? (cs : List Char) : Option (Nat × List Char) :=
  let inside := cs.takeWhile (· != '>')
  let atEdge := !((cs.head?.map Text.isWord).getD false)
  match cs.dropWhile (· != '>') with
  | _ :: rest =>
    if atEdge && inside.getLast? == some '/' then (numberIn? '_' inside).map (·, rest) else none
  | [] => none

def after? (front : String) (cs : List Char) : Option (List Char) :=
  if front.toList.isPrefixOf cs then some (cs.drop front.length) else none

def standIn? (cs : List Char) : Option (Nat × List Char) :=
  ((after? ("<" ++ standIn) cs).bind elementNumber?)
    |>.or ((after? ("<!--" ++ standIn ++ " ") cs).bind (numbered? "-->".toList))
    |>.or ((after? ("<?" ++ standIn ++ " ") cs).bind (numbered? "?>".toList))
    |>.or ((after? ("&" ++ standIn) cs).bind (numbered? ";".toList))

def sectionStart : List Char := "<![CDATA[".toList

def sectionStop : List Char := "]]>".toList

def sectionEnd? : List Char → Option (List Char × List Char)
  | [] => none
  | c :: cs =>
    if sectionStop.isPrefixOf (c :: cs) then
      some (sectionStop, (c :: cs).drop sectionStop.length)
    else (sectionEnd? cs).map fun (body, rest) => (c :: body, rest)

def section? (cs : List Char) : Option (List Char × List Char) :=
  if sectionStart.isPrefixOf cs then
    (sectionEnd? (cs.drop sectionStart.length)).map fun (body, rest) =>
      (sectionStart ++ body, rest)
  else none

/-- A part between sections: what begins as a section is kept as markup even if it does not
end. -/
def plainItem (done : List Char) : List Item :=
  let cs := done.reverse
  if cs.isEmpty then []
  else if sectionStart.isPrefixOf cs then [.cdata (String.ofList cs)]
  else [.text (String.ofList (Text.unescape cs))]

/-- Cuts text into sections and what is between them; `done` has the text before, newest first. -/
def chunks : (fuel : Nat) → (done : List Char) → List Char → List Item
  | 0, done, _ => plainItem done
  | _, done, [] => plainItem done
  | fuel + 1, done, c :: cs =>
    match section? (c :: cs) with
    | some (s, rest) => plainItem done ++ .cdata (String.ofList s) :: chunks fuel [] rest
    | none => chunks fuel (c :: done) cs

def chunksOf (done : List Char) : List Item :=
  let cs := done.reverse
  chunks (cs.length + 1) [] cs

/-- Cuts printed content at its stand-ins; `done` has the text before, newest first. -/
def itemsFrom : (fuel : Nat) → (done : List Char) → List Char → List Item
  | 0, done, _ => chunksOf done
  | _, done, [] => chunksOf done
  | fuel + 1, done, c :: cs =>
    match standIn? (c :: cs) with
    | some (index, rest) => chunksOf done ++ .child index :: itemsFrom fuel [] rest
    | none => itemsFrom fuel (c :: done) cs

def items (e : Element) : List Item :=
  let cs := printWithStandIns 0 e.children
  itemsFrom (cs.length + 1) [] cs

end TemplateLexer.Content
