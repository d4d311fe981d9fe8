import TemplateLexer.Proofs.Outcome
import TemplateLexer.Proofs.QueryReading

set_option autoImplicit false

namespace TemplateLexer.Query

/-- Whether a text consists of characters that documents have. -/
def IsPlain (s : String) : Prop := ∀ c ∈ s.toList, Markup.isChar c.toNat = true

instance : DecidablePred IsPlain := fun s =>
  decidable_of_iff ((s.toList.all fun c => Markup.isChar c.toNat) = true) List.all_eq_true

section Pieces

theorem Scan.run_append (s : Scan) (cs ds : List Char) :
    s.run (cs ++ ds) = ((s.run cs).1 ++ ((s.run cs).2.run ds).1, ((s.run cs).2.run ds).2) := by
  induction cs generalizing s with
  | nil => rfl
  | cons c cs ih =>
    rw [List.cons_append, run, ih, run, List.append_assoc]

/-- The lexemes that a text is made of, none of which goes on behind it. -/
def Spells (text : String) (ls : List Lexeme) : Prop :=
  Scan.between.run text.toList = (ls, .between)

instance (text : String) (ls : List Lexeme) : Decidable (Spells text ls) :=
  inferInstanceAs (Decidable (_ = _))

variable {text more : String} {ls ms : List Lexeme}

theorem Spells.append (h : Spells text ls) (h' : Spells more ms) :
    Spells (text ++ more) (ls ++ ms) := by
  rw [Spells, String.toList_append, Scan.run_append, h, h']

theorem Spells.of_eq (h : Spells text ls) (heq : ls = ms) : Spells text ms := heq ▸ h

theorem Spells.lexemes (h : Spells text ls) : lexemes text = ls := by
  rw [Query.lexemes, h]
  exact List.append_nil ls

theorem run_inLiteral {q : Char} {read cs : List Char} (hplain : ∀ c ∈ cs, Markup.isChar c.toNat)
    (hq : q ∉ cs) : (Scan.inLiteral q read).run (cs ++ [q])
      = ([.literal (String.ofList (read.reverse ++ cs))], .between) := by
  induction cs generalizing read with
  | nil => simp [Scan.run, Scan.step]
  | cons c cs ih =>
    have hstep : (Scan.inLiteral q read).step c = ([], .inLiteral q (c :: read)) := by
      have hne : (c == q) = false := by simpa using fun h : c = q => hq (h ▸ List.mem_cons_self ..)
      simp [Scan.step, hne, hplain c (List.mem_cons_self ..)]
    rw [List.cons_append, Scan.run, hstep,
      ih (fun d hd => hplain d (List.mem_cons_of_mem _ hd)) fun h => hq (List.mem_cons_of_mem _ h)]
    simp

theorem spells_quoted {s : String} (hplain : IsPlain s) :
    ('\'' ∉ s.toList → Spells ("'" ++ s ++ "'") [.literal s])
      ∧ ('"' ∉ s.toList → Spells ("\"" ++ s ++ "\"") [.literal s]) := by
  have hquoted : ∀ q ∈ ['\'', '"'], q ∉ s.toList →
      Spells (String.ofList [q] ++ s ++ String.ofList [q]) [.literal s] := by
    intro q hquote hq
    have hstart : Scan.between.step q = ([], .inLiteral q []) := by
      simp only [List.mem_cons, List.not_mem_nil, or_false] at hquote
      rcases hquote with rfl | rfl <;> rfl
    rw [Spells]
    simp only [String.toList_append, String.toList_ofList, List.cons_append, List.nil_append,
      Scan.run, hstart, run_inLiteral hplain hq, List.reverse_nil, String.ofList_toList]
  exact ⟨hquoted '\'' (by decide), hquoted '"' (by decide)⟩

end Pieces

section Literals

def partsOf (s : String) : List String := (s.toList.splitOn '\'').map String.ofList

def literalExpr (s : String) : Expr :=
  if '\'' ∈ s.toList ∧ '"' ∈ s.toList then
    .call .concat (((partsOf s).map .literal).intersperse (.literal "'"))
  else .literal s

variable {s : String}

theorem mem_of_mem_splitOn {q c : Char} {cs part : List Char} (h : part ∈ cs.splitOn q)
    (hc : c ∈ part) : c ∈ cs ∧ c ≠ q := by
  induction cs generalizing part with
  | nil =>
    rw [List.splitOn_nil, List.mem_singleton] at h
    exact absurd (h ▸ hc) List.not_mem_nil
  | cons d cs ih =>
    obtain ⟨first, more, hsplit⟩ := List.exists_cons_of_ne_nil (List.splitOn_ne_nil q cs)
    rw [hsplit] at ih
    have hbehind : ∀ part ∈ first :: more, c ∈ part → c ∈ d :: cs ∧ c ≠ q := fun part hp hc =>
      (ih hp hc).imp_left (List.mem_cons_of_mem d)
    rw [List.splitOn_cons_eq_if_modifyHead, hsplit] at h
    split at h
    · rcases List.mem_cons.1 h with rfl | h
      · cases hc
      · exact hbehind part h hc
    · rename_i hd
      rcases List.mem_cons.1 h with rfl | h
      · rcases List.mem_cons.1 hc with rfl | hc
        · exact ⟨List.mem_cons_self .., by simpa using hd⟩
        · exact hbehind first (List.mem_cons_self ..) hc
      · exact hbehind part (List.mem_cons_of_mem _ h) hc

theorem isPlain_of_mem_partsOf (h : IsPlain s) {part : String} (hpart : part ∈ partsOf s) :
    IsPlain part ∧ '\'' ∉ part.toList := by
  obtain ⟨cs, hcs, rfl⟩ := List.mem_map.1 hpart
  rw [IsPlain, String.toList_ofList]
  exact ⟨fun c hc => h c (mem_of_mem_splitOn hcs hc).1, fun hq => (mem_of_mem_splitOn hcs hq).2 rfl⟩

theorem exists_partsOf (h : '\'' ∈ s.toList) :
    ∃ first second more, partsOf s = first :: second :: more := by
  obtain ⟨first, more, hsplit⟩ := List.exists_cons_of_ne_nil (List.splitOn_ne_nil '\'' s.toList)
  cases more with
  | nil =>
    have hback : ['\''].intercalate (s.toList.splitOn '\'') = s.toList :=
      List.intercalate_splitOn '\''
    rw [hsplit, List.intercalate_singleton] at hback
    have hfirst : first ∈ s.toList.splitOn '\'' := hsplit ▸ List.mem_singleton_self first
    exact absurd rfl (mem_of_mem_splitOn hfirst (hback ▸ h)).2
  | cons second more =>
    exact ⟨_, _, _, by rw [partsOf, hsplit]; rfl⟩

theorem spells_parts (first : String) (more : List String)
    (h : ∀ part ∈ first :: more, IsPlain part ∧ '\'' ∉ part.toList) :
    Spells (", \"'\", ".intercalate ((first :: more).map fun part => "'" ++ part ++ "'"))
      (lexemesOf (((first :: more).map .literal).intersperse (.literal "'"))) := by
  have hfirst : Spells ("'" ++ first ++ "'") [.literal first] :=
    (spells_quoted (h first (List.mem_cons_self ..)).1).1 (h first (List.mem_cons_self ..)).2
  induction more generalizing first with
  | nil => exact hfirst
  | cons second more ih =>
    have hsecond := h second (List.mem_cons_of_mem _ (List.mem_cons_self ..))
    have hquote : Spells ", \"'\", " [.mark .comma, .literal "'", .mark .comma] := by decide
    have hmore := ih second (fun part hp => h part (List.mem_cons_of_mem _ hp))
      ((spells_quoted hsecond.1).1 hsecond.2)
    have hall := (hfirst.append hquote).append hmore
    have hargs : moreLexemesOf (((second :: more).map .literal).intersperse (.literal "'"))
        = .mark .comma
          :: lexemesOf (((second :: more).map .literal).intersperse (.literal "'")) := by
      cases more <;> rfl
    rw [List.map_cons, List.map_cons, String.intercalate_cons_cons, List.map_cons, List.map_cons,
      List.intersperse_cons_cons, lexemesOf, moreLexemesOf, ← List.map_cons, hargs]
    simpa [Expr.lexemes] using hall

theorem spells_literal (h : IsPlain s) : Spells (literal s) (literalExpr s).lexemes := by
  rw [literal, String.contains_char_eq, String.contains_char_eq, literalExpr]
  by_cases hsingle : '\'' ∈ s.toList
  · by_cases hdouble : '"' ∈ s.toList
    · obtain ⟨first, second, more, hparts⟩ := exists_partsOf hsingle
      have hopening : Spells "concat(" [.name "concat", .mark .opening] := by decide
      have hclosing : Spells ")" [.mark .closing] := by decide
      have hall := (hopening.append (spells_parts first (second :: more) fun part hp =>
        isPlain_of_mem_partsOf h (hparts ▸ hp))).append hclosing
      rw [← hparts] at hall
      rw [if_neg (by simpa using hsingle), if_neg (by simpa using hdouble),
        if_pos ⟨hsingle, hdouble⟩]
      exact hall.of_eq (by simp [Expr.lexemes, Function.name])
    · rw [if_neg (by simpa using hsingle), if_pos (by simpa using hdouble),
        if_neg fun hboth => hdouble hboth.2]
      exact (spells_quoted h).2 hdouble
  · rw [if_pos (by simpa using hsingle), if_neg fun hboth => hsingle hboth.1]
    exact (spells_quoted h).1 hsingle

end Literals

/-- An expression that may stand anywhere, as a text writes it. -/
structure Says (text : String) (e : Expr) : Prop where
  spells : Spells text e.lexemes
  fits : ∀ level, e.fits level = true

section Tests

variable {s place : String} {e : Expr} {uris : List String}

theorem says_literal (h : IsPlain s) : Says (literal s) (literalExpr s) where
  spells := spells_literal h
  fits := by
    intro level
    rw [literalExpr]
    split
    · rename_i hquotes
      obtain ⟨first, second, more, hparts⟩ := exists_partsOf hquotes.1
      have hfit : ∀ parts : List String,
          fitAll ((parts.map .literal).intersperse (.literal "'")) = true := by
        intro parts
        induction parts with
        | nil => rfl
        | cons part parts ih =>
          cases parts with
          | nil => rfl
          | cons second parts => simpa [fitAll, Expr.fits] using ih
      rw [Expr.fits, hfit, Bool.and_true, hparts]
      simp [Function.accepts]
    · rfl

def comparisonExpr (place : Expr) (uri : String) : Expr :=
  .binary .equals (.call .namespaceUri [place]) (literalExpr uri)

/-- Comparisons with several namespaces, any of which may hold. -/
def anyExpr (place : Expr) (uri : String) (uris : List String) : Expr :=
  .group ((uris.map (comparisonExpr place)).foldl (.binary .or) (comparisonExpr place uri))

theorem spells_comparison (hplace : Spells place e.lexemes) {uri : String} (huri : IsPlain uri) :
    Spells (comparison place (literal uri)) (comparisonExpr e uri).lexemes := by
  have hopening : Spells "namespace-uri(" [.name "namespace-uri", .mark .opening] := by decide
  have hclosing : Spells ") = " [.mark .closing, .mark .equals] := by decide
  have hall := ((hopening.append hplace).append hclosing).append (spells_literal huri)
  unfold comparison
  exact hall.of_eq (by simp [comparisonExpr, Expr.lexemes, lexemesOf, moreLexemesOf, Function.name,
    Operator.lexeme])

theorem lexemes_foldl_or (first : Expr) (rest : List Expr) :
    (rest.foldl (.binary .or) first).lexemes
      = first.lexemes ++ rest.flatMap fun e => .name "or" :: e.lexemes := by
  induction rest generalizing first with
  | nil => simp
  | cons e rest ih =>
    rw [List.foldl_cons, ih]
    simp [Expr.lexemes, Operator.lexeme]

theorem fits_foldl_or {first : Expr} {rest : List Expr} (hfirst : first.fits 0 = true)
    (hrest : ∀ e ∈ rest, e.fits 1 = true) : (rest.foldl (.binary .or) first).fits 0 = true := by
  induction rest generalizing first with
  | nil => exact hfirst
  | cons e rest ih =>
    refine ih ?_ fun x hx => hrest x (List.mem_cons_of_mem _ hx)
    simp [Expr.fits, Operator.level, Operator.accepts, hfirst, hrest e (List.mem_cons_self ..)]

theorem spells_alternatives (hplace : Spells place e.lexemes) (uri : String) (uris : List String)
    (hplain : ∀ u ∈ uri :: uris, IsPlain u) :
    Spells (" or ".intercalate ((uri :: uris).map fun u => comparison place (literal u)))
      ((comparisonExpr e uri).lexemes
        ++ (uris.map (comparisonExpr e)).flatMap fun c => .name "or" :: c.lexemes) := by
  have hfirst := spells_comparison hplace (hplain uri (List.mem_cons_self ..))
  induction uris generalizing uri with
  | nil => simpa using hfirst
  | cons u uris ih =>
    have hor : Spells " or " [.name "or"] := by decide
    have hmore := ih u (fun v hv => hplain v (List.mem_cons_of_mem _ hv))
      (spells_comparison hplace (hplain u (by simp)))
    have hall := (hfirst.append hor).append hmore
    rw [List.map_cons, List.map_cons, String.intercalate_cons_cons]
    simpa using hall

/-- A test for namespaces is one expression in brackets. -/
theorem says_namespaceTest (hplace : Spells place e.lexemes) (hset : e.isSet = true)
    (hfits : e.fits 0 = true) {uri : String} (hplain : ∀ u ∈ uri :: uris, IsPlain u) :
    Says (namespaceTest (uri :: uris) [place]) (anyExpr e uri uris) where
  spells := by
    have htests : ((uri :: uris).flatMap fun u => [place].map fun p => comparison p (literal u))
        = (uri :: uris).map fun u => comparison place (literal u) := by
      rw [List.map_eq_flatMap]
      rfl
    have hopening : Spells "(" [.mark .opening] := by decide
    have hclosing : Spells ")" [.mark .closing] := by decide
    have hall := (hopening.append (spells_alternatives hplace uri uris hplain)).append hclosing
    rw [namespaceTest, htests, anyOf, anyExpr, Expr.lexemes, lexemes_foldl_or]
    simpa using hall
  fits := by
    intro level
    have hcomparison : ∀ u ∈ uri :: uris, ∀ level ≤ 2, (comparisonExpr e u).fits level = true := by
      intro u hu level hlevel
      simp [comparisonExpr, Expr.fits, fitAll, Function.accepts, Operator.accepts, Operator.level,
        hset, hfits, hlevel, (says_literal (hplain u hu)).fits]
    refine fits_foldl_or (hcomparison uri (List.mem_cons_self ..) 0 (Nat.zero_le 2)) fun c hc => ?_
    obtain ⟨u, hu, rfl⟩ := List.mem_map.1 hc
    exact hcomparison u (List.mem_cons_of_mem _ hu) 1 (by decide)

/-- The test for what is shielded, as an expression. -/
def rawExpr (uri base : String) : Expr :=
  .call .not [.filtered (.first .here .ancestor .any)
    (.binary .and (.binary .equals (.call .namespaceUri []) (literalExpr uri))
      (.binary .equals (.call .localName []) (literalExpr base)))]

theorem says_rawTest {uri base : String} (huri : IsPlain uri) (hbase : IsPlain base) :
    Says (rawTest (literal uri) (literal base)) (rawExpr uri base) where
  spells := by
    have hopening : Spells "not(ancestor::*[namespace-uri() = " [.name "not", .mark .opening,
        .name "ancestor", .mark .colons, .mark .star, .mark .openingTest, .name "namespace-uri",
        .mark .opening, .mark .closing, .mark .equals] := by decide
    have hand : Spells " and local-name() = " [.name "and", .name "local-name", .mark .opening,
        .mark .closing, .mark .equals] := by decide
    have hclosing : Spells "])" [.mark .closingTest, .mark .closing] := by decide
    have hall := (((hopening.append (spells_literal huri)).append hand).append
      (spells_literal hbase)).append hclosing
    unfold rawTest
    exact hall.of_eq (by simp [rawExpr, Expr.lexemes, lexemesOf, moreLexemesOf, Function.name,
      Operator.lexeme, Start.lexemes, stepLexemes, Axis.lexemes, NodeTest.lexemes])
  fits := by
    intro level
    simp [rawExpr, Expr.fits, fitAll, Function.accepts, Operator.accepts, Operator.level,
      Expr.isPath, (says_literal huri).fits, (says_literal hbase).fits]

/-- The test for delimiters, as an expression. -/
def delimiterExpr : Expr :=
  .group (.binary .or (.call .contains [.here, .literal "\x7b%"])
    (.call .contains [.here, .literal "%\x7d"]))

theorem says_expressionTest : Says expressionTest delimiterExpr where
  spells := by decide
  fits := fun _ => rfl

end Tests

/-- The tests that queries are made of, as expressions; there is none for a helper if nothing holds
helpers. -/
structure TestExprs where
  helper : Option Expr
  parentHelper : Option Expr
  raw : Expr

namespace TestExprs

/-- The tests for some namespaces, and for what shields its content. -/
def of (uris : List String) (uri base : String) : TestExprs :=
  { helper := uris.head?.map fun u => anyExpr .here u uris.tail
    parentHelper := uris.head?.map fun u => anyExpr (.first .here .parent .any) u uris.tail
    raw := rawExpr uri base }

def ownAttributes : Expr := .first .here .attributes .any

/-- Holds outside shielded content where a delimiter is. -/
def outside (t : TestExprs) : Expr := .binary .and t.raw delimiterExpr

def nodes (t : TestExprs) : Expr :=
  match t.helper with
  | none => .first .document .child .any
  | some h =>
    .binary .union (.binary .union (.first .document .child .any)
        (.filtered (.first .anywhere .child .any) (.binary .and h t.raw)))
      (.filtered (.next (.filtered (.first .anywhere .attributes .any) h) false .parent .any) t.raw)

def helperAttributes (t : TestExprs) : Option Expr := t.helper.map (.filtered ownAttributes)

def elementHelperExpressions (t : TestExprs) : Expr :=
  match t.helper with
  | none => .filtered ownAttributes delimiterExpr
  | some h => .filtered ownAttributes (.binary .and (.call .not [h]) delimiterExpr)

/-- The attributes of a node itself that are sites of it. -/
def ownExpressions (t : TestExprs) : Expr :=
  match t.parentHelper with
  | none => .filtered ownAttributes t.outside
  | some h =>
    .filtered ownAttributes
      (.binary .and (.binary .and (.call .not [h]) t.raw) delimiterExpr)

def nodeExpressions (t : TestExprs) : Expr :=
  .binary .union (.binary .union
      (.filtered (.next (.first .here .descendant .any) true .attributes .any) t.outside)
      t.ownExpressions)
    (.next (.filtered (.next (.first .here .descendantOrSelf .any) true .child .text) t.outside)
      false .parent .any)

def queries (t : TestExprs) : List (Option Expr) :=
  [some t.nodes, t.helperAttributes, some t.elementHelperExpressions, some t.nodeExpressions]

end TestExprs

/-- All queries that are made of some tests. -/
def Tests.queries (t : Tests) : List String :=
  [t.nodes, t.helperAttributes, t.elementHelperExpressions, t.nodeExpressions]

section Queries

variable {policy : Policy} {uris : List String} {uri base : String} {t : Tests}

theorem mapM_comparison (u : String) (places : List String) :
    ((places.map Json.str).mapM fun place => do
      return comparison place.bare (← literalOf (.str u)))
      = .ok (places.map fun place => comparison place (literal u)) := by
  rw [List.mapM_map]
  exact Except.mapM_eq_ok fun place _ => rfl

theorem namespaceTestOf_eq (uris places : List String) :
    namespaceTestOf (.arr (uris.map .str)) (.arr (places.map .str))
      = .ok (namespaceTest uris places) := by
  have htests : (uris.map Json.str).mapM (fun uri => do
      (← membersOf (.arr (places.map .str))).mapM fun place => do
        return comparison (Json.bare place) (← literalOf uri))
      = .ok (uris.map fun u => places.map fun place => comparison place (literal u)) := by
    rw [List.mapM_map]
    exact Except.mapM_eq_ok fun u _ => mapM_comparison u places
  have hall : namespaceTestOf (.arr (uris.map .str)) (.arr (places.map .str))
      = ((uris.map Json.str).mapM (fun uri => do
        (← membersOf (.arr (places.map .str))).mapM fun place => do
          return comparison (Json.bare place) (← literalOf uri))
        >>= fun tests => .ok (anyOf tests.flatten)) := rfl
  rw [hall, htests, namespaceTest, List.flatMap_def]
  rfl

theorem tests_of (huri : policy.rawUri = .str uri) (hbase : policy.rawBase = .str base)
    (uris : List String) : Tests.of (uris.map .str) policy
      = .ok ⟨namespaceTest uris ["."], namespaceTest uris ["parent::*"],
        rawTest (literal uri) (literal base)⟩ := by
  have htest : ∀ place, namespaceTestOf (.arr (uris.map .str)) (.arr [.str place])
      = .ok (namespaceTest uris [place]) := fun place => namespaceTestOf_eq uris [place]
  rw [Tests.of, htest, htest, huri, hbase]
  rfl

def SaysIfAny (text : String) : Option Expr → Prop
  | none => text.isEmpty = true
  | some e => text.isEmpty = false ∧ Says text e

/-- Tests and the expressions that they are read as. -/
structure Tests.Say (t : Tests) (x : TestExprs) : Prop where
  helper : SaysIfAny t.helper x.helper
  parentHelper : SaysIfAny t.parentHelper x.parentHelper
  raw : Says t.raw x.raw

theorem saysIfAny_namespaceTest {place : String} {e : Expr} (hplace : Spells place e.lexemes)
    (hset : e.isSet = true) (hfits : e.fits 0 = true) (hplain : ∀ u ∈ uris, IsPlain u) :
    SaysIfAny (namespaceTest uris [place]) (uris.head?.map fun u => anyExpr e u uris.tail) := by
  cases uris with
  | nil => rfl
  | cons u uris =>
    refine ⟨?_, says_namespaceTest hplace hset hfits hplain⟩
    simp [namespaceTest, anyOf]

theorem saysIfAny_helper (hplain : ∀ u ∈ uris, IsPlain u) :
    SaysIfAny (namespaceTest uris ["."]) (TestExprs.of uris uri base).helper :=
  saysIfAny_namespaceTest (by decide) rfl rfl hplain

theorem say_tests (hplain : ∀ v ∈ uri :: base :: uris, IsPlain v) :
    Tests.Say ⟨namespaceTest uris ["."], namespaceTest uris ["parent::*"],
      rawTest (literal uri) (literal base)⟩ (TestExprs.of uris uri base) := by
  simp only [List.forall_mem_cons] at hplain
  obtain ⟨huri, hbase, huris⟩ := hplain
  exact ⟨saysIfAny_helper huris, saysIfAny_namespaceTest (by decide) rfl rfl huris,
    says_rawTest huri hbase⟩

theorem spells_ownAttributes {text : String} {e : Expr} (htext : Spells text e.lexemes) :
    Spells ("@*[" ++ text ++ "]") (Expr.filtered TestExprs.ownAttributes e).lexemes := by
  have hopening : Spells "@*[" [.mark .at, .mark .star, .mark .openingTest] := by decide
  have hclosing : Spells "]" [.mark .closingTest] := by decide
  exact ((hopening.append htext).append hclosing).of_eq (by simp [TestExprs.ownAttributes,
    Expr.lexemes, Start.lexemes, stepLexemes, Axis.lexemes, NodeTest.lexemes])

theorem spells_otherAttributes {text more : String} {e e' : Expr} (htext : Spells text e.lexemes)
    (hmore : Spells more e'.lexemes) {e'' : Expr}
    (he : e''.lexemes = (Expr.call .not [e]).lexemes ++ .name "and" :: e'.lexemes) :
    Spells ("@*[not(" ++ text ++ ") and " ++ more ++ "]")
      (Expr.filtered TestExprs.ownAttributes e'').lexemes := by
  have hopening : Spells "@*[not(" [.mark .at, .mark .star, .mark .openingTest, .name "not",
      .mark .opening] := by decide
  have hand : Spells ") and " [.mark .closing, .name "and"] := by decide
  have hclosing : Spells "]" [.mark .closingTest] := by decide
  exact ((((hopening.append htext).append hand).append hmore).append hclosing).of_eq
    (by simp [TestExprs.ownAttributes, he, Expr.lexemes, lexemesOf, moreLexemesOf, Function.name,
      Start.lexemes, stepLexemes, Axis.lexemes, NodeTest.lexemes])

theorem spells_and {text more : String} {e e' : Expr} (htext : Spells text e.lexemes)
    (hmore : Spells more e'.lexemes) :
    Spells (text ++ " and " ++ more) (Expr.binary .and e e').lexemes := by
  have hand : Spells " and " [.name "and"] := by decide
  exact ((htext.append hand).append hmore).of_eq (by simp [Expr.lexemes, Operator.lexeme])

variable {x : TestExprs}

theorem read?_nodes (hhelper : SaysIfAny t.helper x.helper)
    (hraw : x.helper ≠ none → Says t.raw x.raw) : read? t.nodes = some x.nodes := by
  unfold Tests.nodes
  rw [TestExprs.nodes]
  cases hx : x.helper with
  | none =>
    rw [hx] at hhelper
    rw [if_pos (show t.helper.isEmpty = true from hhelper)]
    have hroot : lexemes "/*" = (Expr.first .document .child .any).lexemes := by decide
    exact read?_of_lexemes rfl hroot
  | some e =>
    rw [hx] at hhelper
    obtain ⟨hsome, hsaid⟩ := hhelper
    have hraw := hraw (hx ▸ Option.some_ne_none e)
    rw [hsome]
    refine read?_of_lexemes ?_ (Spells.lexemes ?_)
    · simp [Expr.fits, Operator.accepts, Operator.level, Expr.isSet, Expr.isPath, hsaid.fits,
        hraw.fits]
    · have hfirst : Spells "/* | //*[" [.mark .slash, .mark .star, .mark .bar, .mark .slashes,
          .mark .star, .mark .openingTest] := by decide
      have hand : Spells " and " [.name "and"] := by decide
      have hnext : Spells "] | //@*[" [.mark .closingTest, .mark .bar, .mark .slashes, .mark .at,
          .mark .star, .mark .openingTest] := by decide
      have hparent : Spells "]/parent::*[" [.mark .closingTest, .mark .slash, .name "parent",
          .mark .colons, .mark .star, .mark .openingTest] := by decide
      have hclosing : Spells "]" [.mark .closingTest] := by decide
      have hall := (((((((hfirst.append hsaid.spells).append hand).append hraw.spells).append
        hnext).append hsaid.spells).append hparent).append hraw.spells).append hclosing
      exact hall.of_eq (by simp [Expr.lexemes, Operator.lexeme, Start.lexemes, stepLexemes,
        Axis.lexemes, NodeTest.lexemes])

theorem read?_helperAttributes (hhelper : SaysIfAny t.helper x.helper) :
    read? t.helperAttributes = x.helperAttributes := by
  unfold Tests.helperAttributes
  rw [TestExprs.helperAttributes]
  cases hx : x.helper with
  | none =>
    rw [hx] at hhelper
    rw [if_pos (show t.helper.isEmpty = true from hhelper)]
    rfl
  | some e =>
    rw [hx] at hhelper
    obtain ⟨hsome, hsaid⟩ := hhelper
    rw [hsome]
    refine read?_of_lexemes ?_ (spells_ownAttributes hsaid.spells).lexemes
    simp [TestExprs.ownAttributes, Expr.fits, Expr.isPath, hsaid.fits]

theorem read?_elementHelperExpressions (hhelper : SaysIfAny t.helper x.helper) :
    read? t.elementHelperExpressions = some x.elementHelperExpressions := by
  unfold Tests.elementHelperExpressions
  rw [TestExprs.elementHelperExpressions]
  cases hx : x.helper with
  | none =>
    rw [hx] at hhelper
    rw [if_pos (show t.helper.isEmpty = true from hhelper)]
    exact read?_of_lexemes rfl (spells_ownAttributes says_expressionTest.spells).lexemes
  | some e =>
    rw [hx] at hhelper
    obtain ⟨hsome, hsaid⟩ := hhelper
    rw [hsome]
    refine read?_of_lexemes ?_ (spells_otherAttributes hsaid.spells says_expressionTest.spells
      rfl).lexemes
    simp [TestExprs.ownAttributes, Expr.fits, fitAll, Expr.isPath, Operator.accepts,
      Operator.level, Function.accepts, hsaid.fits, says_expressionTest.fits]

namespace Tests.Say

variable (h : t.Say x)

include h

theorem spells_outside : Spells (t.raw ++ " and " ++ expressionTest) x.outside.lexemes :=
  spells_and h.raw.spells says_expressionTest.spells

theorem fits_outside : x.outside.fits 0 = true := by
  simp [TestExprs.outside, Expr.fits, Operator.accepts, Operator.level, h.raw.fits,
    says_expressionTest.fits]

theorem spells_ownExpressions : Spells (if t.parentHelper.isEmpty
      then "@*[" ++ (t.raw ++ " and " ++ expressionTest) ++ "]"
      else "@*[not(" ++ t.parentHelper ++ ") and " ++ (t.raw ++ " and " ++ expressionTest) ++ "]")
    x.ownExpressions.lexemes := by
  have hhelper := h.parentHelper
  rw [TestExprs.ownExpressions]
  cases hx : x.parentHelper with
  | none =>
    rw [hx] at hhelper
    rw [if_pos (show t.parentHelper.isEmpty = true from hhelper)]
    exact spells_ownAttributes h.spells_outside
  | some e =>
    rw [hx] at hhelper
    obtain ⟨hsome, hsaid⟩ := hhelper
    rw [hsome]
    exact spells_otherAttributes hsaid.spells h.spells_outside
      (by simp [TestExprs.outside, Expr.lexemes, Operator.lexeme])

theorem fits_ownExpressions : x.ownExpressions.fits 4 = true := by
  have hhelper := h.parentHelper
  rw [TestExprs.ownExpressions]
  cases hx : x.parentHelper with
  | none => simp [TestExprs.ownAttributes, Expr.fits, Expr.isPath, h.fits_outside]
  | some e =>
    rw [hx] at hhelper
    simp [TestExprs.ownAttributes, Expr.fits, fitAll, Expr.isPath, Operator.accepts,
      Operator.level, Function.accepts, hhelper.2.fits, h.raw.fits, says_expressionTest.fits]

theorem read?_nodeExpressions : read? t.nodeExpressions = some x.nodeExpressions := by
  have hset : x.ownExpressions.isSet = true := by
    rw [TestExprs.ownExpressions]
    split <;> rfl
  refine read?_of_lexemes ?_ (Spells.lexemes ?_)
  · simp [TestExprs.nodeExpressions, Expr.fits, Operator.accepts, Operator.level, Expr.isSet,
      Expr.isPath, h.fits_outside, h.fits_ownExpressions, hset]
  · have hfirst : Spells "descendant::*//@*[" [.name "descendant", .mark .colons, .mark .star,
        .mark .slashes, .mark .at, .mark .star, .mark .openingTest] := by decide
    have hnext : Spells "] | " [.mark .closingTest, .mark .bar] := by decide
    have htext : Spells " | descendant-or-self::*//text()[" [.mark .bar,
        .name "descendant-or-self", .mark .colons, .mark .star, .mark .slashes, .name "text",
        .mark .opening, .mark .closing, .mark .openingTest] := by decide
    have hparent : Spells "]/parent::*" [.mark .closingTest, .mark .slash, .name "parent",
        .mark .colons, .mark .star] := by decide
    have hall := (((((hfirst.append h.spells_outside).append hnext).append
      h.spells_ownExpressions).append htext).append h.spells_outside).append hparent
    unfold Tests.nodeExpressions
    exact hall.of_eq (by simp [TestExprs.nodeExpressions, Expr.lexemes, Operator.lexeme,
      Start.lexemes, stepLexemes, Axis.lexemes, NodeTest.lexemes])

theorem map_read?_queries : t.queries.map read? = x.queries := by
  simp only [Tests.queries, TestExprs.queries, List.map_cons, List.map_nil,
    read?_nodes h.helper fun _ => h.raw, read?_helperAttributes h.helper,
    read?_elementHelperExpressions h.helper, h.read?_nodeExpressions]

end Tests.Say

end Queries

end TemplateLexer.Query
