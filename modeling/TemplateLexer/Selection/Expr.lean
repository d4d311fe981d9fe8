import TemplateLexer.Selection.Lexeme
/-!
Expressions in the language of paths, as far as selections use it: literals, calls of functions,
comparisons, unions, and paths whose steps have tests. Operators bind the more tightly the higher
their level is, and group to the left.
-/

set_option autoImplicit false

namespace TemplateLexer.Query

inductive Operator where
  | or
  | and
  | equals
  | union
  deriving DecidableEq, Repr

inductive Function where
  | concat
  | contains
  | not
  | namespaceUri
  | localName
  deriving DecidableEq, Repr

inductive Axis where
  | child
  | attributes
  | parent
  | ancestor
  | descendant
  | descendantOrSelf
  deriving DecidableEq, Repr

/-- Which points on an axis a step takes: those that have a name, or texts. -/
inductive NodeTest where
  | any
  | text
  deriving DecidableEq, Repr

/-- Where a path starts: at the point where it is read, at the document, or anywhere in it. -/
inductive Start where
  | here
  | document
  | anywhere
  deriving DecidableEq, Repr

inductive Expr where
  | literal (s : String)
  | call (f : Function) (args : List Expr)
  | group (e : Expr)
  | binary (op : Operator) (left right : Expr)
  | here
  | first (start : Start) (axis : Axis) (test : NodeTest)
  | next (path : Expr) (far : Bool) (axis : Axis) (test : NodeTest)
  | filtered (path : Expr) (predicate : Expr)
  deriving Repr

namespace Operator

def level : Operator → Nat
  | or => 0
  | and => 1
  | equals => 2
  | union => 3

def lexeme : Operator → Lexeme
  | or => .name "or"
  | and => .name "and"
  | equals => .mark .equals
  | union => .mark .bar

def of? : Lexeme → Option Operator
  | .name "or" => some or
  | .name "and" => some and
  | .mark .equals => some equals
  | .mark .bar => some union
  | _ => none

end Operator

namespace Function

def name : Function → String
  | concat => "concat"
  | contains => "contains"
  | not => "not"
  | namespaceUri => "namespace-uri"
  | localName => "local-name"

def named? : String → Option Function
  | "concat" => some concat
  | "contains" => some contains
  | "not" => some not
  | "namespace-uri" => some namespaceUri
  | "local-name" => some localName
  | _ => none

end Function

namespace Axis

def lexemes : Axis → List Lexeme
  | child => []
  | attributes => [.mark .at]
  | parent => [.name "parent", .mark .colons]
  | ancestor => [.name "ancestor", .mark .colons]
  | descendant => [.name "descendant", .mark .colons]
  | descendantOrSelf => [.name "descendant-or-self", .mark .colons]

def named? : String → Option Axis
  | "child" => some child
  | "attribute" => some attributes
  | "parent" => some parent
  | "ancestor" => some ancestor
  | "descendant" => some descendant
  | "descendant-or-self" => some descendantOrSelf
  | _ => none

end Axis

def NodeTest.lexemes : NodeTest → List Lexeme
  | any => [.mark .star]
  | text => [.name "text", .mark .opening, .mark .closing]

def stepLexemes (axis : Axis) (test : NodeTest) : List Lexeme := axis.lexemes ++ test.lexemes

def Start.lexemes : Start → List Lexeme
  | here => []
  | document => [.mark .slash]
  | anywhere => [.mark .slashes]

namespace Expr

def isPath : Expr → Bool
  | first _ _ _ | next _ _ _ _ | filtered _ _ => true
  | _ => false

def isSet : Expr → Bool
  | here | first _ _ _ | next _ _ _ _ | filtered _ _ | binary .union _ _ => true
  | group e => e.isSet
  | _ => false

end Expr

def Operator.accepts (op : Operator) (left right : Expr) : Bool :=
  op != .union || (left.isSet && right.isSet)

def Function.accepts : Function → List Expr → Bool
  | concat, args => 2 ≤ args.length
  | contains, args => args.length == 2
  | not, args => args.length == 1
  | namespaceUri, args | localName, args => args.length ≤ 1 && args.all Expr.isSet

mutual

def Expr.lexemes : Expr → List Lexeme
  | .literal s => [.literal s]
  | .call f args => .name f.name :: .mark .opening :: (lexemesOf args ++ [.mark .closing])
  | .group e => .mark .opening :: (e.lexemes ++ [.mark .closing])
  | .binary op left right => left.lexemes ++ op.lexeme :: right.lexemes
  | .here => [.mark .dot]
  | .first start axis test => start.lexemes ++ stepLexemes axis test
  | .next path far axis test =>
    path.lexemes ++ .mark (if far then .slashes else .slash) :: stepLexemes axis test
  | .filtered path predicate =>
    path.lexemes ++ .mark .openingTest :: (predicate.lexemes ++ [.mark .closingTest])

def lexemesOf : List Expr → List Lexeme
  | [] => []
  | e :: rest => e.lexemes ++ moreLexemesOf rest

def moreLexemesOf : List Expr → List Lexeme
  | [] => []
  | e :: rest => .mark .comma :: (e.lexemes ++ moreLexemesOf rest)

end

section Reading

def axis? : List Lexeme → Option (Axis × List Lexeme)
  | .mark .at :: rest => some (.attributes, rest)
  | .name n :: .mark .colons :: rest => (Axis.named? n).map (·, rest)
  | rest => some (.child, rest)

def nodeTest? : List Lexeme → Option (NodeTest × List Lexeme)
  | .mark .star :: rest => some (.any, rest)
  | .name "text" :: .mark .opening :: .mark .closing :: rest => some (.text, rest)
  | _ => none

def step? (ls : List Lexeme) : Option (Axis × NodeTest × List Lexeme) := do
  let (axis, ls) ← axis? ls
  let (test, ls) ← nodeTest? ls
  return (axis, test, ls)

def start : List Lexeme → Start × List Lexeme
  | .mark .slash :: rest => (.document, rest)
  | .mark .slashes :: rest => (.anywhere, rest)
  | rest => (.here, rest)

def called? : List Lexeme → Option (Function × List Lexeme)
  | .name n :: .mark .opening :: rest => (Function.named? n).map (·, rest)
  | _ => none

mutual

/-- An expression at the front of some lexemes, made with operators of a level and above, and what
follows it. -/
def expr? : (fuel level : Nat) → List Lexeme → Option (Expr × List Lexeme)
  | 0, _, _ => none
  | fuel + 1, level, ls => do
    let (e, ls) ← operand? fuel ls
    operators? fuel level e ls

def operators? : (fuel level : Nat) → Expr → List Lexeme → Option (Expr × List Lexeme)
  | 0, _, _, _ => none
  | _ + 1, _, e, [] => some (e, [])
  | fuel + 1, level, e, l :: ls =>
    match Operator.of? l with
    | none => some (e, l :: ls)
    | some op =>
      if level ≤ op.level then do
        let (right, ls) ← expr? fuel (op.level + 1) ls
        if op.accepts e right then operators? fuel level (.binary op e right) ls else none
      else some (e, l :: ls)

def operand? : (fuel : Nat) → List Lexeme → Option (Expr × List Lexeme)
  | 0, _ => none
  | _ + 1, .literal s :: ls => some (.literal s, ls)
  | _ + 1, .mark .dot :: ls => some (.here, ls)
  | fuel + 1, .mark .opening :: ls => do
    match ← expr? fuel 0 ls with
    | (e, .mark .closing :: ls) => some (.group e, ls)
    | _ => none
  | fuel + 1, ls =>
    match called? ls with
    | some (f, ls) => do
      let (args, ls) ← arguments? fuel ls
      if f.accepts args then some (.call f args, ls) else none
    | none => do
      let (axis, test, rest) ← step? (start ls).2
      steps? fuel (.first (start ls).1 axis test) rest

def arguments? : (fuel : Nat) → List Lexeme → Option (List Expr × List Lexeme)
  | 0, _ => none
  | _ + 1, .mark .closing :: ls => some ([], ls)
  | fuel + 1, ls => do
    let (e, ls) ← expr? fuel 0 ls
    let (args, ls) ← moreArguments? fuel ls
    return (e :: args, ls)

def moreArguments? : (fuel : Nat) → List Lexeme → Option (List Expr × List Lexeme)
  | 0, _ => none
  | _ + 1, .mark .closing :: ls => some ([], ls)
  | fuel + 1, .mark .comma :: ls => do
    let (e, ls) ← expr? fuel 0 ls
    let (args, ls) ← moreArguments? fuel ls
    return (e :: args, ls)
  | _ + 1, _ => none

def steps? : (fuel : Nat) → Expr → List Lexeme → Option (Expr × List Lexeme)
  | 0, _, _ => none
  | fuel + 1, path, .mark .openingTest :: ls => do
    match ← expr? fuel 0 ls with
    | (predicate, .mark .closingTest :: ls) => steps? fuel (.filtered path predicate) ls
    | _ => none
  | fuel + 1, path, .mark .slash :: ls => do
    let (axis, test, ls) ← step? ls
    steps? fuel (.next path false axis test) ls
  | fuel + 1, path, .mark .slashes :: ls => do
    let (axis, test, ls) ← step? ls
    steps? fuel (.next path true axis test) ls
  | _ + 1, path, ls => some (path, ls)

end

def expression? (ls : List Lexeme) : Option Expr :=
  match expr? (3 * ls.length + 1) 0 ls with
  | some (e, []) => some e
  | _ => none

def read? (text : String) : Option Expr := expression? (lexemes text)

end Reading

section Lexemes

theorem exists_lexemes (e : Expr) : ∃ l ls, e.lexemes = l :: ls ∧ l ≠ .mark .closing := by
  cases e with
  | literal s => exact ⟨_, _, rfl, nofun⟩
  | call f args => exact ⟨_, _, rfl, nofun⟩
  | group e => exact ⟨_, _, rfl, nofun⟩
  | here => exact ⟨_, _, rfl, nofun⟩
  | first st axis test =>
    cases st <;> cases axis <;> cases test <;> exact ⟨_, _, rfl, nofun⟩
  | binary op left right =>
    obtain ⟨l, ls, h, hl⟩ := exists_lexemes left
    exact ⟨l, _, by rw [Expr.lexemes, h]; rfl, hl⟩
  | next path far axis test =>
    obtain ⟨l, ls, h, hl⟩ := exists_lexemes path
    exact ⟨l, _, by rw [Expr.lexemes, h]; rfl, hl⟩
  | filtered path predicate =>
    obtain ⟨l, ls, h, hl⟩ := exists_lexemes path
    exact ⟨l, _, by rw [Expr.lexemes, h]; rfl, hl⟩

theorem length_lexemes_pos (e : Expr) : 0 < e.lexemes.length := by
  obtain ⟨l, ls, h, -⟩ := exists_lexemes e
  rw [h]
  exact Nat.succ_pos _

end Lexemes

section Steps

variable {rest : List Lexeme}

theorem step?_stepLexemes (axis : Axis) (test : NodeTest) :
    step? (stepLexemes axis test ++ rest) = some (axis, test, rest) := by
  cases axis <;> cases test <;> rfl

theorem start_lexemes (st : Start) (axis : Axis) (test : NodeTest) :
    start (st.lexemes ++ stepLexemes axis test ++ rest) = (st, stepLexemes axis test ++ rest) := by
  cases st <;> cases axis <;> cases test <;> rfl

theorem operand?_first (fuel : Nat) (st : Start) (axis : Axis) (test : NodeTest) :
    operand? (fuel + 1) (st.lexemes ++ stepLexemes axis test ++ rest)
      = steps? fuel (.first st axis test) rest := by
  have hcalled : called? (st.lexemes ++ stepLexemes axis test ++ rest) = none := by
    cases st <;> cases axis <;> cases test <;> rfl
  rw [operand?, hcalled, start_lexemes]
  · simp [step?_stepLexemes]
  all_goals
    cases st <;> cases axis <;> cases test <;>
      simp [Start.lexemes, stepLexemes, Axis.lexemes, NodeTest.lexemes]

theorem expr?_succ {e : Expr} {fuel : Nat} {ls : List Lexeme} (low : Nat)
    (h : operand? fuel ls = some (e, rest)) :
    expr? (fuel + 1) low ls = operators? fuel low e rest := by
  rw [expr?, h]
  rfl

end Steps

end TemplateLexer.Query
