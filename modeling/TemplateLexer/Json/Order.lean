import TemplateLexer.Json.Basic

set_option autoImplicit false

namespace TemplateLexer.Json

def distinct (members : List Json) : List Json :=
  members.foldl (fun set x => if set.any x.same then set else set ++ [x]) []

def insertBy {α : Type} (less : α → α → Bool) (x : α) : List α → List α
  | [] => [x]
  | y :: rest => if less y x then y :: insertBy less x rest else x :: y :: rest

def sortBy {α : Type} (less : α → α → Bool) (l : List α) : List α := l.foldr (insertBy less) []

def numberLess (a b : Json) : Bool := a.number?.getD 0 < b.number?.getD 0

def textLess (a b : Json) : Bool := a.str?.getD "" < b.str?.getD ""

def sorted? (set : List Json) : Option (List Json) :=
  if set.length ≤ 1 then some set
  else if set.all (·.number?.isSome) then some (sortBy numberLess set)
  else if set.all (·.str?.isSome) then some (sortBy textLess set)
  else none

end TemplateLexer.Json
