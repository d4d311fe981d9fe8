import TemplateLexer.Markup.Reader.Prolog
/-!
Reads the values of attributes. References to entities are kept, but what they put into the value is
checked: no tags, nothing from outside, and no entity inside itself.
-/

set_option autoImplicit false

namespace TemplateLexer.Markup.Reading

def valueAllowance : Reading Nat := do return nestingLimit - ((← get).outer.length + 1)

def isSettled (e : Entity) : Reading Bool := do
  let v ← standing e
  return v.fitsValues && (v.counted || (← get).declaring)

def entityChunks (plain : Char → Char) (e : Entity) : Reading (List Chunk) :=
  match e.value, e.chunks? plain with
  | .literal _ value, some chunks => if value.contains '<' then refuse else return chunks
  | _, _ => refuse

def checkEntity : (allowance : Nat) → Entity → Reading Unit
  | 0, _ => refuse
  | n + 1, e => do
    let size ← opening e do
      (← entityChunks id e).foldlM (fun size chunk => do
        match chunk with
        | .text _ => return size
        | .reference name =>
          match ← lookUp true name with
          | none => return size
          | some inner => do
            if !(← isSettled inner) then checkEntity n inner
            return size + (← standing inner).size + referenceSize) e.size
    let declaring := (← get).declaring
    changeStanding e fun v =>
      if declaring then { v with fitsValues := true }
      else { v with fitsValues := true, counted := true, size }

def settleContent : (fuel : Nat) → Entity → Reading Unit
  | 0, _ => return
  | fuel + 1, e => do
    if !(← standing e).fitsContent then
      changeStanding e fun v => { v with fitsContent := true }
      for chunk in (e.chunks? id).getD [] do
        match chunk with
        | .text _ => pure ()
        | .reference name =>
          match entityIn? (← get).items false name with
          | some inner => settleContent fuel inner
          | none => pure ()

def expandEntity : (allowance : Nat) → Entity → Reading String
  | 0, _ => refuse
  | n + 1, e => do
    count e.size
    opening e do
      (← entityChunks (fun c => if isBlank c then ' ' else c) e).foldlM (fun done chunk => do
        match chunk with
        | .text s => return done ++ s
        | .reference name =>
          match ← lookUp true name with
          | none => return done
          | some inner => return done ++ (← expandEntity n inner)) ""

/-- What the value is for: a namespace is expanded, other values keep references. -/
inductive ValueUse where
  | ordinary
  | namespaceName
  | default
  deriving DecidableEq, Repr

/-- A value so far, newest chunk first; whether it is at a blank, where more blanks add nothing if
blanks are collapsed. -/
structure ValueSoFar where
  chunks : List Chunk
  atBlank : Bool

namespace ValueSoFar

def add (collapse : Bool) (cs : List Char) (v : ValueSoFar) : ValueSoFar :=
  if !collapse then { v with chunks := addText (String.ofList cs) v.chunks }
  else
    cs.foldl (fun v c =>
      if c == ' ' && v.atBlank then v
      else ⟨addText (String.singleton c) v.chunks, c == ' '⟩) v

def refer (name : String) (v : ValueSoFar) : ValueSoFar := ⟨.reference name :: v.chunks, false⟩

/-- The chunks; a collapsed value does not end with a blank. -/
def finish (collapse : Bool) (v : ValueSoFar) : List Chunk :=
  let chunks := match v.chunks with
    | .text s :: rest =>
      if collapse && v.atBlank && s.endsWith " " then
        let front := (s.dropEnd 1).toString
        if front.isEmpty then rest else .text front :: rest
      else .text s :: rest
    | chunks => chunks
  chunks.reverse

end ValueSoFar

def valueReference (use : ValueUse) (collapse : Bool) (v : ValueSoFar) : Reading ValueSoFar := do
  let n ← referenceName
  match namedChar? n with
  | some c => return v.add collapse [c]
  | none =>
    match ← lookUp true n with
    | none => return v
    | some e => do
      if use = .namespaceName then
        return v.add collapse (← expandEntity (← valueAllowance) e).toList
      if !(← isSettled e) then checkEntity (← valueAllowance) e
      count (← standing e).size
      if use = .ordinary then settleContent ((← get).items.length + 1) e
      return v.refer n

/-- The value up to its closing quote. Breaks and tabs read as blanks, unless a reference names
them. -/
def valueChunks (use : ValueUse) (collapse : Bool) (quote : Char) : (fuel : Nat) → ValueSoFar →
    Reading (List Chunk)
  | 0, _ => refuse
  | fuel + 1, v => do
    let part ← takeTo fun cs =>
      match cs with
      | c :: _ => c == quote || c == '<' || c == '&'
      | [] => false
    let v := v.add collapse ((plainBreaks part).map fun c => if isBlank c then ' ' else c)
    if ← passes (String.ofList [quote]) then return v.finish collapse
    else if ← passes "&#" then
      let c ← charReference
      valueChunks use collapse quote fuel (v.add collapse [c])
    else if ← passes "&" then
      valueChunks use collapse quote fuel (← valueReference use collapse v)
    else refuse

def value (use : ValueUse) (collapse : Bool) : Reading (List Chunk) := do
  let quote ← needQuote
  if ← passes (String.ofList [quote]) then return [.text ""]
  valueChunks use collapse quote ((← rest).length + 1) ⟨[], true⟩

def writtenChunks (chunks : List Chunk) : String :=
  String.join (chunks.map fun
    | .text s => s.replace "&" "&#38;"
    | .reference n => "&" ++ n ++ ";")

end TemplateLexer.Markup.Reading
