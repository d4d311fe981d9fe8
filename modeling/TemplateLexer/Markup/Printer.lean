import TemplateLexer.Markup.Scope
import TemplateLexer.Text.Unescape
/-!
The written form of markup. Characters that markup gives a meaning are written as references, and
reading the references gives them back. Declarations stand before attributes, and an element without
any node inside is one empty tag.
-/

set_option autoImplicit false

namespace TemplateLexer.Markup

def escapeTextChar (c : Char) : List Char :=
  match c with
  | '&' => "&amp;".toList
  | '<' => "&lt;".toList
  | '>' => "&gt;".toList
  | '\r' => "&#13;".toList
  | c => [c]

def escapeValueChar (c : Char) : List Char :=
  match c with
  | '&' => "&amp;".toList
  | '<' => "&lt;".toList
  | '>' => "&gt;".toList
  | '"' => "&quot;".toList
  | '\n' => "&#10;".toList
  | '\r' => "&#13;".toList
  | '\t' => "&#9;".toList
  | c => [c]

def escapeText (s : String) : List Char := s.toList.flatMap escapeTextChar

def escapeValue (s : String) : List Char := s.toList.flatMap escapeValueChar

namespace Declaration

def print (d : Declaration) : List Char :=
  let name := match d.qualifier with
    | some q => " xmlns:" ++ q
    | none => " xmlns"
  name.toList ++ '=' :: '"' :: escapeValue d.uri ++ ['"']

end Declaration

namespace Attribute

def printValue (value : List Chunk) : List Char :=
  value.flatMap fun
    | .text s => escapeValue s
    | .reference name => '&' :: name.toList ++ [';']

def print (a : Attribute) : List Char :=
  ' ' :: a.name.written.toList ++ '=' :: '"' :: printValue a.value ++ ['"']

end Attribute

/-- A tag without its closing bracket. -/
def Tag.print (t : Tag) : List Char :=
  '<' :: t.name.written.toList ++ t.declarations.flatMap Declaration.print
    ++ t.attributes.flatMap Attribute.print

def printCdata (s : String) : List Char := "<![CDATA[".toList ++ s.toList ++ "]]>".toList

def printComment (body : String) : List Char := "<!--".toList ++ body.toList ++ "-->".toList

def printInstruction (target : String) (data : Option String) : List Char :=
  let tail := match data with
    | some s => ' ' :: s.toList
    | none => []
  '<' :: '?' :: target.toList ++ tail ++ ['?', '>']

def printReference (name : String) : List Char := '&' :: name.toList ++ [';']

mutual

def Node.print : Node → List Char
  | .element tag children =>
    if children.isEmpty then tag.print ++ ['/', '>']
    else
      tag.print ++ '>' :: printAll children ++ '<' :: '/' :: tag.name.written.toList ++ ['>']
  | .text s => escapeText s
  | .cdata s => printCdata s
  | .comment body => printComment body
  | .instruction target data => printInstruction target data
  | .reference name => printReference name

def printAll : List Node → List Char
  | [] => []
  | n :: rest => n.print ++ printAll rest

end

theorem printAll_eq_flatMap (nodes : List Node) : printAll nodes = nodes.flatMap Node.print := by
  induction nodes with
  | nil => rfl
  | cons n nodes ih => rw [printAll, ih, List.flatMap_cons]

def Element.print (e : Element) : String := String.ofList e.node.print

/-- The content of an element without its own tags. -/
def Element.printContent (e : Element) : String := String.ofList (printAll e.children)

theorem unescapeFrom_escapeTextChar (c : Char) (fuel : Nat) (rest : List Char) :
    Text.unescapeFrom (fuel + 1) (escapeTextChar c ++ rest)
      = c :: Text.unescapeFrom fuel rest := by
  by_cases h1 : c = '&'
  · subst h1
    have hread : Text.reference? ("amp".toList ++ ';' :: rest) = some ("&".toList, rest) :=
      Text.reference?_markupName (by decide) rest
    exact Text.unescapeFrom_reference hread fuel
  by_cases h2 : c = '<'
  · subst h2
    have hread : Text.reference? ("lt".toList ++ ';' :: rest) = some ("<".toList, rest) :=
      Text.reference?_markupName (by decide) rest
    exact Text.unescapeFrom_reference hread fuel
  by_cases h3 : c = '>'
  · subst h3
    have hread : Text.reference? ("gt".toList ++ ';' :: rest) = some (">".toList, rest) :=
      Text.reference?_markupName (by decide) rest
    exact Text.unescapeFrom_reference hread fuel
  by_cases h4 : c = '\r'
  · subst h4
    exact Text.unescapeFrom_reference (Text.reference?_carriageReturn _) fuel
  have he : escapeTextChar c = [c] := by
    unfold escapeTextChar; split <;> simp_all
  rw [he, List.singleton_append, Text.unescapeFrom_cons h1]

theorem unescapeFrom_escapeText (s : List Char) (fuel : Nat) (h : s.length ≤ fuel) :
    Text.unescapeFrom fuel (s.flatMap escapeTextChar) = s := by
  induction s generalizing fuel with
  | nil => cases fuel <;> simp [Text.unescapeFrom]
  | cons c cs ih =>
    obtain ⟨fuel, rfl⟩ : ∃ n, fuel = n + 1 := ⟨fuel - 1, by simp at h; omega⟩
    rw [List.flatMap_cons, unescapeFrom_escapeTextChar, ih fuel (by simpa using h)]

theorem length_le_escapeTextChar (c : Char) : 1 ≤ (escapeTextChar c).length := by
  unfold escapeTextChar; split <;> simp

theorem length_le_escapeText (s : List Char) : s.length ≤ (s.flatMap escapeTextChar).length := by
  induction s with
  | nil => simp
  | cons c cs ih =>
    have := length_le_escapeTextChar c
    simp only [List.flatMap_cons, List.length_append, List.length_cons]
    omega

theorem unescape_escapeText (s : List Char) : Text.unescape (s.flatMap escapeTextChar) = s :=
  unescapeFrom_escapeText s _ (length_le_escapeText s)

end TemplateLexer.Markup
