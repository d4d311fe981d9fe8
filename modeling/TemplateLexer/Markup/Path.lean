import TemplateLexer.Markup.Node
/-!
Paths of elements. A step shows the name of an element, and its number if there are more of that
name beside it. A path is put together from its last step to its first, in a room that is widened
ahead of every step; what does not fit is cut off at the end. A cut inside a character leaves no
path.
-/

set_option autoImplicit false

namespace TemplateLexer.Markup

/-- Whether a path step counts another element as one of the same name. An element whose namespace
needs no qualifier is written as a star, which counts all elements. -/
def Name.countsAs (n other : Name) : Bool :=
  if n.uri.isSome && n.qualifier.isNone then true
  else n.base == other.base && n.uri.isSome == other.uri.isSome && n.qualifier == other.qualifier

def stepLimit : Nat := 98

def Name.step (n : Name) : List UInt8 :=
  match n.uri, n.qualifier with
  | some _, none => "*".toUTF8.toList
  | some _, some _ => n.written.toUTF8.toList.take stepLimit
  | none, _ => n.written.toUTF8.toList

def countLike (n : Name) (nodes : List Node) : Nat :=
  nodes.countP fun
    | .element tag _ => n.countsAs tag.name
    | _ => false

def stepBetween (before after : List Node) (n : Name) : List UInt8 :=
  let earlier := countLike n before
  let number :=
    if earlier = 0 ∧ countLike n after = 0 then "" else "[" ++ toString (earlier + 1) ++ "]"
  "/".toUTF8.toList ++ n.step ++ number.toUTF8.toList

/-- The room for a path, and the part of the path that is put together. -/
structure PathRoom where
  room : Nat
  written : List UInt8

namespace PathRoom

def start : PathRoom := ⟨500, []⟩

/-- How much of the room has to be free for a step that is not to widen it. -/
def margin : Nat := 120

def add (step : List UInt8) (p : PathRoom) : PathRoom :=
  let needed := p.written.length + margin
  let room := if p.room < needed then 2 * p.room + needed else p.room
  ⟨room, (step ++ p.written).take (room - 1)⟩

end PathRoom

namespace Element

def steps (e : Element) : Address → Option (List (List UInt8))
  | [] => some []
  | i :: rest =>
    match around i e.children with
    | some (before, .element tag children, run, after) =>
      (steps ⟨tag, children⟩ rest).map (stepBetween before (run ++ after) tag.name :: ·)
    | _ => none

def path? (root : Element) (a : Address) : Option String := do
  let steps ← root.steps a
  let all := stepBetween [] [] root.tag.name :: steps
  String.fromUTF8? ⟨(all.foldr PathRoom.add .start).written.toArray⟩

end Element

end TemplateLexer.Markup
