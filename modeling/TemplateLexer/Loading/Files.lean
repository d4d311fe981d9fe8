import TemplateLexer.Failure

set_option autoImplicit false

namespace TemplateLexer

def stepsOf (path : String) : List String :=
  (path.splitOn "/").filter fun s => s != "" && s != "."

def plainPath (path : String) : String :=
  let lead := if path.startsWith "/" then
      if path.startsWith "//" && !path.startsWith "///" then "//" else "/"
    else ""
  let body := "/".intercalate (stepsOf path)
  if lead.isEmpty && body.isEmpty then "." else lead ++ body

/-- Where a walk along a path has come to. -/
inductive Standing where
  /-- A directory above the one of the files. -/
  | above
  | directory (steps : List String)
  | file (bytes : List UInt8)

namespace Standing

def at? (files : List (List String × List UInt8)) (steps : List String) : Option Standing :=
  match files.lookup steps with
  | some bytes => some (.file bytes)
  | none => if files.any fun f => steps.isPrefixOf f.1 then some (.directory steps) else none

def nameLimit : Nat := 255

def step (files : List (List String × List UInt8)) (s : Standing) (name : String) :
    Except Failure Standing :=
  if s matches .file _ then .error .notDirectory
  else if nameLimit < name.utf8ByteSize then .error .nameTooLong
  else
    match s with
    | .directory steps =>
      if name == ".." then .ok (if steps.isEmpty then .above else .directory steps.dropLast)
      else
        match at? files (steps ++ [name]) with
        | some s => .ok s
        | none => .error .noSuchFile
    | s => if name == ".." then .ok s else .error .noSuchFile

end Standing

def pathLimit : Nat := 4096

def readFile (files : List (String × List UInt8)) (path : String) :
    Except Failure (List UInt8) :=
  if path.contains '\x00' then .error .badValue
  else if pathLimit ≤ path.utf8ByteSize then .error .nameTooLong
  else
    let known := files.reverse.map fun (p, bytes) => (stepsOf p, bytes)
    let start : Standing := if path.startsWith "/" then .above else .directory []
    match (stepsOf path).foldlM (Standing.step known) start with
    | .error f => .error f
    | .ok (.file bytes) => .ok bytes
    | .ok _ => .error .isDirectory

end TemplateLexer
