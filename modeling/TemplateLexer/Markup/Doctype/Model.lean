set_option autoImplicit false

namespace TemplateLexer.Markup

/-- How often a member of a model may stand. -/
inductive Occurrence where
  | once
  | optional
  | any
  | several
  deriving DecidableEq, Repr

namespace Occurrence

def mark : Occurrence → String
  | once => ""
  | optional => "?"
  | any => "*"
  | several => "+"

def mayMiss : Occurrence → Bool
  | optional | any => true
  | _ => false

end Occurrence

inductive ContentModel where
  /-- Characters. -/
  | text (o : Occurrence)
  | element (name : String) (o : Occurrence)
  /-- A sequence or else a choice. -/
  | pair (sequence : Bool) (first rest : ContentModel) (o : Occurrence)
  deriving DecidableEq, Repr

namespace ContentModel

def occurrence : ContentModel → Occurrence
  | text o | element _ o | pair _ _ _ o => o

def withOccurrence (o : Occurrence) : ContentModel → ContentModel
  | text _ => text o
  | element name _ => element name o
  | pair sequence first rest _ => pair sequence first rest o

/-- Members in a row; a single one stands for itself. -/
def ofMembers (sequence : Bool) (first : ContentModel) : List ContentModel → ContentModel
  | [] => first
  | next :: rest => pair sequence first (ofMembers sequence next rest) .once

def relaxed (m : ContentModel) : ContentModel :=
  if m.occurrence.mayMiss then m.withOccurrence .once else m

def relaxMembers : ContentModel → ContentModel
  | pair false first rest o => pair false first.relaxed (relaxMembers rest).relaxed o
  | m => m

def memberMayMiss : ContentModel → Bool
  | pair false first rest _ =>
    first.occurrence.mayMiss || rest.occurrence.mayMiss || memberMayMiss rest
  | _ => false

def grouped (o : Occurrence) (m : ContentModel) : ContentModel :=
  match o with
  | .once => m
  | .optional =>
    m.withOccurrence (if m.occurrence = .several ∨ m.occurrence = .any then .any else .optional)
  | .any => (m.withOccurrence .any).relaxMembers
  | .several =>
    let times := if m.occurrence.mayMiss || m.memberMayMiss then .any else .several
    (m.withOccurrence times).relaxMembers

/-- The text of a member inside a group, without how often the whole may stand. Groups of the kind
around them need no brackets. -/
def body : ContentModel → String
  | text _ => "#PCDATA"
  | element name _ => name
  | pair sequence first rest _ =>
    inside sequence first ++ (if sequence then " , " else " | ") ++ inside sequence rest
where
  inside (sequence : Bool) : ContentModel → String
  | text o => "#PCDATA" ++ o.mark
  | element name o => name ++ o.mark
  | pair s first rest o =>
    let members := inside s first ++ (if s then " , " else " | ") ++ inside s rest
    if s == sequence && o == .once then members else "(" ++ members ++ ")" ++ o.mark

def print (m : ContentModel) : String := "(" ++ m.body ++ ")" ++ m.occurrence.mark

end ContentModel

/-- What an element may hold. -/
inductive ElementContent where
  | empty
  | anything
  | model (m : ContentModel)
  deriving DecidableEq, Repr

def ElementContent.print : ElementContent → String
  | empty => "EMPTY"
  | anything => "ANY"
  | model m => m.print

end TemplateLexer.Markup
