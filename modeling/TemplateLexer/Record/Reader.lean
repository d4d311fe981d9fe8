import TemplateLexer.Json.Reader
import TemplateLexer.Record.Display
/-!
Reads records from JSON. Fields that a shape does not have are passed over, and missing ones have
their standard values; only the kind and the line of a token must be there. A field that is written
as a stream becomes one, whatever field it is. Every record in another one takes up room.
-/

set_option autoImplicit false

namespace TemplateLexer

def Json.Fault.failure : Json.Fault → Failure
  | illFormed => .badJson
  | tooLong => .badValue
  | tooDeep => .tooDeep

namespace Shape

def read (j : Json) : Except Failure Shape :=
  match j with
  | .str s =>
    match named? s with
    | some shape => .ok shape
    | none => .error (.badRecord (.unknownShape j.display))
  | .arr _ | .obj _ => .error .badType
  | j => .error (.badRecord (.unknownShape j.display))

end Shape

namespace TokenKind

def read (j : Json) : Except Failure TokenKind :=
  match j with
  | .str s =>
    match named? s with
    | some kind => .ok kind
    | none => .error (.badRecord (.unknownKind j.display))
  | .arr _ | .obj _ => .error .badType
  | j => .error (.badRecord (.unknownKind j.display))

end TokenKind

namespace Record

def isStream (j : Json) : Bool := (j.get? shapeKey).bind Json.str? == some streamShape

/-- What becomes of a value that is no object where a record should be. -/
def notRecord (room : Room) : Failure := if room.below?.isSome then .notAnObject else .tooDeep

/-- What a missing list of tokens and other values than arrays stand for, where there is some room
for tokens. -/
def noTokens (room : Room) : Option Json → Except Failure (List Record)
  | none => .ok []
  | some (.str "") => .ok []
  | some (.str _) => .error (notRecord room)
  | some (.obj []) => .ok []
  | some (.obj _) => .error (notRecord room)
  | some (.arr _) => .ok []
  | some _ => .error .badType

/-- Reads the fields of a shape in their order, each with the reading of its value if it is
written and is a stream. -/
def readFields (shape : Shape) (entries : List (String × Json))
    (streams : List (String × Except Failure Record)) : Except Failure (List (String × Record)) :=
  (("lineno", Json.null) :: ("source_file", .null) :: shape.fields).mapM fun (key, other) =>
    match lookupKey key streams with
    | some r => r.map fun r => (key, r)
    | none => .ok (key, .value ((lookupKey key entries).getD other))

def readToken (shape : Shape) (entries : List (String × Json))
    (streams : List (String × Except Failure Record)) : Except Failure Record := do
  let kind ← match lookupKey "type" entries with
    | some j => (TokenKind.read j).map some
    | none => .ok none
  let fields ← readFields shape entries streams
  match kind, lookupKey "lineno" entries with
  | some kind, some _ => .ok (token shape kind fields)
  | _, _ => .error .badType

mutual

def read (room : Room) : Json → Except Failure Record
  | .obj entries =>
    match room.below? with
    | none => .error .tooDeep
    | some room =>
      match lookupKey shapeKey entries with
      | none | some .null => .error (.badRecord .noShape)
      | some shape =>
        if shape.str? = some streamShape then do
          let tokens ← match readTokensEntry room entries with
            | some tokens => tokens
            | none => noTokens room (lookupKey "tokens" entries)
          .ok (.stream true ((lookupKey "source" entries).getD (.str "")) tokens)
        else do
          let shape ← Shape.read shape
          readToken shape entries (readStreams room entries)
  | _ => .error (notRecord room)

def readTokensEntry (room : Room) : List (String × Json) → Option (Except Failure (List Record))
  | [] => none
  | (k, j) :: rest =>
    if k = "tokens" then
      match j with
      | .arr items => some (readTokens room items)
      | _ => none
    else readTokensEntry room rest

def readTokens (room : Room) : List Json → Except Failure (List Record)
  | [] => .ok []
  | j :: rest => do
    let r ← read room j
    .ok (r :: (← readTokens room rest))

def readStreams (room : Room) : List (String × Json) → List (String × Except Failure Record)
  | [] => []
  | (k, j) :: rest =>
    if isStream j then (k, read room j) :: readStreams room rest else readStreams room rest

end

/-- What there is room for in the text of a record: values in values, and records in records. -/
structure Limits where
  values : Json.Limits
  records : Room
  deriving DecidableEq, Repr

def Limits.free : Limits := ⟨.free, .endless⟩

def readText (limits : Limits) (text : String) : Except Failure Record :=
  match Json.readWithin limits.values text with
  | .error e => .error e.failure
  | .ok j => do
    match ← read limits.records j with
    | .token shape _ _ => .error (.badRecord (.notStream shape.name))
    | r => .ok r

end Record

end TemplateLexer
