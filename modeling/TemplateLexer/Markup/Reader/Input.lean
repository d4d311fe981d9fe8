import TemplateLexer.Markup.Reference
/-!
What a reader of markup has in hand: the characters to come, the line, the texts of entities that it
is inside of, the declarations read so far, and what was remarked. A document is given up at the
first fatal fault; other faults are remarked and reading goes on. The line that is reported is that
of the first fault.
-/

set_option autoImplicit false

namespace TemplateLexer.Markup

inductive Severity where
  | warning
  | fault
  deriving DecidableEq, Repr

/-- The remarks that were made: the line of the first fault, the last remark, and how many of each
severity there are. -/
structure Remarks where
  faultLine : Option Nat
  last : Option Severity
  faults : Nat
  warnings : Nat
  deriving DecidableEq, Repr

namespace Remarks

def none : Remarks := ⟨.none, .none, 0, 0⟩

def limit : Nat := 100

def add (severity : Severity) (line : Nat) (r : Remarks) : Remarks :=
  match severity with
  | .warning =>
    if limit ≤ r.warnings then r
    else { r with last := some .warning, warnings := r.warnings + 1 }
  | .fault =>
    if limit ≤ r.faults then r
    else
      { r with
        faultLine := r.faultLine.or (some line)
        last := some .fault
        faults := r.faults + 1 }

/-- Whether the remarks refuse a document that was read to its end: a fault does, unless a
warning came after the last one. -/
def refuses (r : Remarks) : Bool := r.last == some .fault

end Remarks

abbrev EntityKey := Bool × String

def Entity.key (e : Entity) : EntityKey := (e.parameter, e.name)

/-- A text being read, from the place that was reached; an entity that it belongs to. -/
structure Excerpt where
  rest : List Char
  line : Nat
  entity : Option EntityKey
  deriving DecidableEq, Repr

/-- What became known of an entity by its uses: whether it is being read now, whether it can stand
in values, whether its size is known, whether it can stand in content, and the size that it has so
far with all that it refers to. -/
structure Standing where
  opened : Bool
  fitsValues : Bool
  counted : Bool
  fitsContent : Bool
  size : Nat
  deriving DecidableEq, Repr

def Standing.fresh : Standing := ⟨false, false, false, false, 0⟩

/-- The texts around `here` are nearest first, the declarations newest first. -/
structure Input where
  here : Excerpt
  outer : List Excerpt
  /-- The bytes of the whole document. -/
  size : Nat
  remarks : Remarks
  items : List DoctypeItem
  /-- Whether the document says that it needs no declarations from outside. -/
  standalone : Bool
  /-- Whether declarations may be missing: some are outside, or come from entities. -/
  incomplete : Bool
  /-- Whether declarations are being read. -/
  declaring : Bool
  standings : List (EntityKey × Standing)
  ids : List String
  /-- The size of the entities that the document itself refers to. -/
  referred : Nat

namespace Input

def bytes (cs : List Char) : Nat := cs.foldl (fun n c => n + c.utf8Size) 0

def start (cs : List Char) : Input :=
  { here := ⟨cs, 1, none⟩
    outer := []
    size := bytes cs
    remarks := .none
    items := []
    standalone := false
    incomplete := false
    declaring := false
    standings := []
    ids := []
    referred := 0 }

def line (s : Input) : Nat :=
  match s.outer with
  | o :: _ => o.line
  | [] => s.here.line

def reportedLine (s : Input) : Nat := s.remarks.faultLine.getD s.line

def consumed (s : Input) : Nat := s.size - bytes (s.outer.getLast?.getD s.here).rest

def standing (s : Input) (k : EntityKey) : Standing := (s.standings.lookup k).getD .fresh

def setStanding (k : EntityKey) (v : Standing) (s : Input) : Input :=
  { s with standings := (k, v) :: s.standings.filter (·.1 != k) }

end Input

/-- A step of reading; it fails with the line to report. -/
abbrev Reading := StateT Input (Except Nat)

namespace Reading

def refuse {α : Type} : Reading α := fun s => .error s.reportedLine

def remark (severity : Severity) : Reading Unit :=
  modify fun s => { s with remarks := s.remarks.add severity s.line }

def rest : Reading (List Char) := do return (← get).here.rest

def moveTo (front rest : List Char) : Reading Unit :=
  modify fun s => { s with here := { s.here with rest, line := s.here.line + front.count '\n' } }

def takeWhile (p : Char → Bool) : Reading (List Char) := do
  let cs ← rest
  let front := cs.takeWhile p
  moveTo front (cs.dropWhile p)
  return front

/-- Passes blanks; tells whether there were any. -/
def blanks : Reading Bool := do return !(← takeWhile isBlank).isEmpty

def needBlanks : Reading Unit := do
  if !(← blanks) then refuse

def sees (front : String) : Reading Bool := do return front.toList.isPrefixOf (← rest)

def passes (front : String) : Reading Bool := do
  let cs ← rest
  if front.toList.isPrefixOf cs then
    moveTo front.toList (cs.drop front.length)
    return true
  else return false

def need (front : String) : Reading Unit := do
  if !(← passes front) then refuse

def plainBreaks : List Char → List Char
  | '\r' :: '\n' :: cs => '\n' :: plainBreaks cs
  | '\r' :: cs => '\n' :: plainBreaks cs
  | c :: cs => c :: plainBreaks cs
  | [] => []

/-- Cuts before the first place where `stop` holds or a character may not stand. -/
def cutAt (stop : List Char → Bool) : (done : List Char) → List Char → List Char × List Char
  | done, [] => (done.reverse, [])
  | done, c :: cs =>
    if stop (c :: cs) || !isChar c.toNat then (done.reverse, c :: cs)
    else cutAt stop (c :: done) cs

/-- Takes the characters before the first place where `stop` holds; the text may end before. -/
def takeTo (stop : List Char → Bool) : Reading (List Char) := do
  let (front, after) := cutAt stop [] (← rest)
  moveTo front after
  match after with
  | [] => return front
  | cs => if stop cs then return front else refuse

def takeUntil (mark : String) : Reading String := do
  let body ← takeTo fun cs => mark.toList.isPrefixOf cs
  need mark
  return String.ofList (plainBreaks body)

def takeFront (recognise : List Char → Option (List Char × List Char)) :
    Reading (Option String) := do
  match recognise (← rest) with
  | some (front, after) => do
    moveTo front after
    return some (String.ofList front)
  | none => return none

/-- A name; its absence is fatal. -/
def name : Reading String := do
  match ← takeFront name? with
  | some n => return n
  | none => refuse

def quote? : Reading (Option Char) := do
  match ← rest with
  | '"' :: after => do
    moveTo ['"'] after
    return some '"'
  | '\'' :: after => do
    moveTo ['\''] after
    return some '\''
  | _ => return none

def needQuote : Reading Char := do
  match ← quote? with
  | some q => return q
  | none => refuse

/-- The value of a character reference after its number sign; it has to name a character. -/
def charReference : Reading Char := do
  let hex ← passes "x"
  let digits ← takeWhile (isReferenceDigit hex)
  need ";"
  match charOfDigits? hex digits with
  | some c => return c
  | none => refuse

def referenceName : Reading String := do
  let n ← name
  need ";"
  return n

def nestingLimit : Nat := 20

/-- Reads the text of an entity; what `step` leaves of it is dropped. -/
def within {α : Type} (e : Entity) (text : String) (step : Reading α) : Reading α := do
  if nestingLimit ≤ (← get).outer.length then refuse
  modify fun s => { s with here := ⟨text.toList, 1, some e.key⟩, outer := s.here :: s.outer }
  let a ← step
  modify fun s =>
    match s.outer with
    | here :: outer => { s with here, outer }
    | [] => s
  return a

def sizeAllowed : Nat := 1000000

def growthAllowed : Nat := 5

def referenceSize : Nat := 20

/-- Counts a reference to an entity of some size. The whole may not grow out of proportion. -/
def count (size : Nat) : Reading Unit := do
  let s ← get
  let check (total : Nat) : Reading Unit :=
    if sizeAllowed < total && s.consumed < total / growthAllowed then refuse else return
  match s.here.entity with
  | some k => do
    let v := s.standing k
    if v.counted then return
    let total := v.size + size + referenceSize
    set (s.setStanding k { v with size := total })
    check total
  | none => do
    let total := s.referred + size + referenceSize
    set { s with referred := total }
    check total

def standing (e : Entity) : Reading Standing := do return (← get).standing e.key

def changeStanding (e : Entity) (f : Standing → Standing) : Reading Unit :=
  modify fun s => s.setStanding e.key (f (s.standing e.key))

/-- Does a step while an entity counts as being read, which may not happen twice at a time. -/
def opening {α : Type} (e : Entity) (step : Reading α) : Reading α := do
  if (← standing e).opened then refuse
  changeStanding e fun v => { v with opened := true }
  let a ← step
  changeStanding e fun v => { v with opened := false }
  return a

def unexplained : Reading Unit := do
  let s ← get
  if s.standalone || !s.incomplete then refuse else remark .warning

/-- The entity of a name, which has to be fit for its use: one with a format of its own is not,
and one from outside cannot stand in values. -/
def lookUp (inValue : Bool) (n : String) : Reading (Option Entity) := do
  match entityIn? (← get).items false n with
  | none => do
    unexplained
    return none
  | some e =>
    match e.value with
    | .literal _ _ => return some e
    | .outside _ _ => if inValue then refuse else return some e
    | .formatted _ _ _ => refuse

end Reading

end TemplateLexer.Markup
