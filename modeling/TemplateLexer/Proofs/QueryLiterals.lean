import TemplateLexer.Proofs.Points
import TemplateLexer.Proofs.QueryTexts
import TemplateLexer.Proofs.StrayLexemes
/-!
What values become in queries. A text is one literal, or put together from literals, and stands for
itself. So a test for namespaces tells whether the namespace of a point is one of those given, and
the queries are the same for all values but for their literals.
-/

set_option autoImplicit false

namespace TemplateLexer.Query

open Markup

mutual

/-- An expression with all its literals made the same. -/
def Expr.shape : Expr → Expr
  | .literal _ | .call .concat _ => .literal ""
  | .call f args => .call f (shapesOf args)
  | .group e => .group e.shape
  | .binary op left right => .binary op left.shape right.shape
  | .next path far axis test => .next path.shape far axis test
  | .filtered path predicate => .filtered path.shape predicate.shape
  | e => e

def shapesOf : List Expr → List Expr
  | [] => []
  | e :: rest => e.shape :: shapesOf rest

end

theorem shape_foldl_or (first : Expr) (rest : List Expr) :
    (rest.foldl (.binary .or) first).shape
      = (rest.map Expr.shape).foldl (.binary .or) first.shape := by
  induction rest generalizing first with
  | nil => rfl
  | cons e rest ih =>
    rw [List.foldl_cons, ih, List.map_cons, List.foldl_cons]
    rfl

/-- A literal, or several of them put together. -/
def Expr.IsLiteral (e : Expr) : Prop :=
  (∃ v, e = .literal v)
    ∨ ∃ args, e = .call .concat args ∧ 2 ≤ args.length ∧ ∀ a ∈ args, ∃ v, a = .literal v

theorem exists_of_mem_parts (parts : List String) :
    ∀ a ∈ (parts.map Expr.literal).intersperse (.literal "'"), ∃ v, a = .literal v := by
  induction parts with
  | nil => exact nofun
  | cons first parts ih =>
    cases parts with
    | nil => exact fun a ha => ⟨first, List.mem_singleton.1 ha⟩
    | cons second parts =>
      rw [List.map_cons, List.map_cons, List.intersperse_cons_cons, List.forall_mem_cons,
        List.forall_mem_cons]
      exact ⟨⟨first, rfl⟩, ⟨"'", rfl⟩, ih⟩

theorem isLiteral_literalExpr (v : String) : (literalExpr v).IsLiteral := by
  rw [literalExpr]
  split
  · rename_i hquotes
    obtain ⟨first, second, more, hparts⟩ := exists_partsOf hquotes.1
    exact .inr ⟨_, rfl, by rw [hparts]; simp, exists_of_mem_parts _⟩
  · exact .inl ⟨v, rfl⟩

section Values

variable {s : Scene} {context : Point} {place : Expr} {u : String}

theorem value_parts (s : Scene) (context : Point) (parts : List String) :
    (String.join ((valuesOf s context
        ((parts.map .literal).intersperse (.literal "'"))).map s.textOf)).toList
      = ['\''].intercalate (parts.map String.toList) := by
  induction parts with
  | nil => rfl
  | cons first parts ih =>
    cases parts with
    | nil => simp [valuesOf, Expr.value, Scene.textOf]
    | cons second parts =>
      rw [List.map_cons, List.map_cons, List.map_cons, List.map_cons,
        List.intercalate_cons_cons, List.intersperse_cons_cons]
      simp only [List.map_cons] at ih
      simp only [valuesOf, Expr.value, Scene.textOf, List.map_cons, String.join_cons,
        String.toList_append, ih]
      simp

/-- A text stands for itself. -/
theorem value_literalExpr (s : Scene) (context : Point) (v : String) :
    (literalExpr v).value s context = .text v := by
  rw [literalExpr]
  split
  · have hparts : (partsOf v).map String.toList = v.toList.splitOn '\'' := by
      simp [partsOf, Function.comp_def]
    have hjoin := value_parts s context (partsOf v)
    rw [hparts, List.intercalate_splitOn, String.toList_inj] at hjoin
    rw [Expr.value, Function.apply, hjoin]
  · rfl

theorem truthOf_comparisonExpr {v : String}
    (hplace : (Expr.call .namespaceUri [place]).value s context = .text v) :
    s.truthOf ((comparisonExpr place u).value s context) = (v == u) := by
  rw [comparisonExpr, Expr.value, hplace, value_literalExpr]
  rfl

theorem truthOf_foldl_or (first : Expr) (rest : List Expr) :
    s.truthOf ((rest.foldl (.binary .or) first).value s context)
      = (s.truthOf (first.value s context) || rest.any fun e => s.truthOf (e.value s context)) := by
  induction rest generalizing first with
  | nil => simp
  | cons e rest ih =>
    rw [List.foldl_cons, ih, List.any_cons, ← Bool.or_assoc]
    rfl

/-- A test for namespaces holds if one of them is the one at the place. -/
theorem truthOf_anyExpr {v : String} {us : List String}
    (hplace : (Expr.call .namespaceUri [place]).value s context = .text v) :
    s.truthOf ((anyExpr place u us).value s context) = (u :: us).contains v := by
  rw [anyExpr, Expr.value, truthOf_foldl_or, truthOf_comparisonExpr hplace, List.any_map,
    List.contains_cons, List.contains_eq_any_beq]
  simp only [Function.comp_def, truthOf_comparisonExpr hplace]

end Values

section Shapes

variable {uris uris' : List String}

theorem shape_literalExpr (v : String) : (literalExpr v).shape = .literal "" := by
  rw [literalExpr]
  split <;> rfl

theorem shape_comparisonExpr (place : Expr) (u : String) : (comparisonExpr place u).shape
    = .binary .equals (.call .namespaceUri [place.shape]) (.literal "") :=
  congrArg (Expr.binary .equals (.call .namespaceUri [place.shape])) (shape_literalExpr u)

theorem shape_anyExpr (place : Expr) (u : String) (us : List String) :
    (anyExpr place u us).shape = .group ((List.replicate us.length
      (comparisonExpr place "").shape).foldl (.binary .or) (comparisonExpr place "").shape) := by
  have hsame : ∀ v, (comparisonExpr place v).shape = (comparisonExpr place "").shape := fun v => by
    rw [shape_comparisonExpr, shape_comparisonExpr]
  have hmap : (us.map (comparisonExpr place)).map Expr.shape
      = List.replicate us.length (comparisonExpr place "").shape := by
    rw [List.map_map, List.eq_replicate_iff, List.length_map]
    refine ⟨rfl, fun e he => ?_⟩
    obtain ⟨v, -, rfl⟩ := List.mem_map.1 he
    exact hsame v
  calc (anyExpr place u us).shape
    _ = .group ((us.map (comparisonExpr place)).foldl (.binary .or)
          (comparisonExpr place u)).shape := rfl
    _ = _ := by rw [shape_foldl_or, hmap, hsame]

theorem shape_rawExpr (uri base : String) : (rawExpr uri base).shape = (rawExpr "" "").shape := by
  simp [rawExpr, Expr.shape, shapesOf, shape_literalExpr]

theorem shape_queries {x x' : TestExprs}
    (hhelper : x.helper.map Expr.shape = x'.helper.map Expr.shape)
    (hparent : x.parentHelper.map Expr.shape = x'.parentHelper.map Expr.shape)
    (hraw : x.raw.shape = x'.raw.shape) :
    x.queries.map (Option.map Expr.shape) = x'.queries.map (Option.map Expr.shape) := by
  have hnodes : x.nodes.shape = x'.nodes.shape := by
    rw [TestExprs.nodes, TestExprs.nodes]
    cases hx : x.helper <;> cases hx' : x'.helper <;> simp_all [Expr.shape]
  have hattributes : x.helperAttributes.map Expr.shape = x'.helperAttributes.map Expr.shape := by
    rw [TestExprs.helperAttributes, TestExprs.helperAttributes]
    cases hx : x.helper <;> cases hx' : x'.helper <;> simp_all [Expr.shape]
  have hhelpers : x.elementHelperExpressions.shape = x'.elementHelperExpressions.shape := by
    rw [TestExprs.elementHelperExpressions, TestExprs.elementHelperExpressions]
    cases hx : x.helper <;> cases hx' : x'.helper <;> simp_all [Expr.shape, shapesOf]
  have hown : x.ownExpressions.shape = x'.ownExpressions.shape := by
    rw [TestExprs.ownExpressions, TestExprs.ownExpressions]
    cases hx : x.parentHelper <;> cases hx' : x'.parentHelper <;>
      simp_all [Expr.shape, shapesOf, TestExprs.outside]
  have hexpressions : x.nodeExpressions.shape = x'.nodeExpressions.shape := by
    simp [TestExprs.nodeExpressions, TestExprs.outside, Expr.shape, hown, hraw]
  simp only [TestExprs.queries, List.map_cons, List.map_nil, Option.map_some, hnodes, hattributes,
    hhelpers, hexpressions]

theorem shape_queries_of (hlength : uris.length = uris'.length) (uri base uri' base' : String) :
    (TestExprs.of uris uri base).queries.map (Option.map Expr.shape)
      = (TestExprs.of uris' uri' base').queries.map (Option.map Expr.shape) := by
  have htests : ∀ place : Expr, (uris.head?.map fun u => anyExpr place u uris.tail).map Expr.shape
      = (uris'.head?.map fun u => anyExpr place u uris'.tail).map Expr.shape := by
    intro place
    match uris, uris', hlength with
    | [], [], _ => rfl
    | u :: us, u' :: us', hlength =>
      simp only [List.head?_cons, List.tail_cons, Option.map_some, shape_anyExpr,
        Nat.succ.inj hlength]
  refine shape_queries (htests _) (htests _) ?_
  exact (shape_rawExpr uri base).trans (shape_rawExpr uri' base').symm

end Shapes

section Foreign

variable {c : Char} {v : String}

theorem mem_intercalate_iff {sep : List Char} {parts : List (List Char)} (hc : c ∉ sep) :
    c ∈ sep.intercalate parts ↔ ∃ part ∈ parts, c ∈ part := by
  induction parts with
  | nil => simp
  | cons first parts ih =>
    cases parts with
    | nil => simp
    | cons second parts =>
      rw [List.intercalate_cons_cons, List.exists_mem_cons_iff, ← ih]
      simp [hc]

/-- A character that no document has does not get lost in a literal. -/
theorem mem_literal (hmem : c ∈ v.toList) (hc : Markup.isChar c.toNat = false) :
    c ∈ (literal v).toList := by
  have hquoted : ∀ left right : String, c ∈ (left ++ v ++ right).toList := by
    intro left right
    simp [hmem]
  rw [literal]
  split
  · exact hquoted _ _
  · split
    · exact hquoted _ _
    · have hsplit : c ∈ ['\''].intercalate (v.toList.splitOn '\'') := by
        rwa [List.intercalate_splitOn]
      obtain ⟨part, hpart, hmem⟩ :=
        (mem_intercalate_iff (notMem_of_foreign hc (by decide))).1 hsplit
      have hparts : c ∈ ", \"'\", ".toList.intercalate ((v.toList.splitOn '\'').map
          fun part => ("'" ++ String.ofList part ++ "'").toList) :=
        (mem_intercalate_iff (notMem_of_foreign hc (by decide))).2
          ⟨_, List.mem_map_of_mem hpart, by simp [hmem]⟩
      simp only [String.toList_append, String.toList_intercalate, List.map_map, List.mem_append]
      exact .inl (.inr hparts)

/-- A text is no literal if it has a character that no document has. -/
theorem read?_literal_of_not_isPlain (h : ¬IsPlain v) : read? (literal v) = none := by
  simp only [IsPlain, not_forall, Bool.not_eq_true] at h
  obtain ⟨c, hmem, hc⟩ := h
  exact read?_of_foreign (mem_literal hmem hc) hc

end Foreign

/-- The values that queries can be used with. -/
theorem check_eq_ok_iff (values : List String) :
    check (values.map .str) = .ok () ↔ ∀ v ∈ values, IsPlain v := by
  have htorn : (values.map Json.str).any isTorn = false := by simp [isTorn]
  have hforeign : (values.map Json.str).any isForeign = false ↔ ∀ v ∈ values, IsPlain v := by
    simp [isForeign, IsPlain]
  rw [← hforeign, check, htorn]
  cases (values.map Json.str).any isForeign <;> simp

section Policies

variable {policy : Policy} {uri base : String} {uris : List String}

/-- What values become in queries, if they consist of characters that documents have; no query can
be used with others, and they are no literals. A text is read as one literal, or as several that are
put together, and has that text as its value, whatever quotes are in it. A test for namespaces is
empty if there are none, and otherwise reads as one test in brackets, which holds at a point if its
namespace is among them. The queries of a policy are read as they are meant, with literals for the
values, and are the same for any other values, but for the literals. -/
theorem query_literals (huri : policy.rawUri = .str uri) (hbase : policy.rawBase = .str base)
    (hplain : ∀ v ∈ uri :: base :: uris, IsPlain v) :
    (∀ values : List String, check (values.map .str) = .ok () ↔ ∀ v ∈ values, IsPlain v)
      ∧ (∀ v, ¬IsPlain v → read? (literal v) = none)
      ∧ (∀ v, IsPlain v → ∃ e, read? (literal v) = some e ∧ e.IsLiteral
        ∧ ∀ s context, e.value s context = .text v)
      ∧ (namespaceTest uris ["."] = "" ↔ uris = [])
      ∧ (uris ≠ [] → ∃ e, read? (namespaceTest uris ["."]) = some (.group e)
        ∧ ∀ s : Scene, ∀ x ∈ points s.root,
          s.truthOf ((Expr.group e).value s x) = uris.contains x.uri)
      ∧ ∃ t, Tests.of (uris.map .str) policy = .ok t
        ∧ t.queries.map read? = (TestExprs.of uris uri base).queries
        ∧ ∀ uris' uri' base', uris.length = uris'.length →
          (TestExprs.of uris uri base).queries.map (Option.map Expr.shape)
            = (TestExprs.of uris' uri' base').queries.map (Option.map Expr.shape) := by
  refine ⟨check_eq_ok_iff, fun v => read?_literal_of_not_isPlain, fun v hv => ?_, ?_,
    fun huris => ?_, _, tests_of huri hbase uris, (say_tests hplain).map_read?_queries,
    fun uris' uri' base' hlength => shape_queries_of hlength uri base uri' base'⟩
  · have hsaid := says_literal hv
    exact ⟨literalExpr v, read?_of_lexemes (hsaid.fits 0) hsaid.spells.lexemes,
      isLiteral_literalExpr v, fun s context => value_literalExpr s context v⟩
  · cases uris <;> simp [namespaceTest, anyOf]
  · obtain ⟨u, us, rfl⟩ := List.exists_cons_of_ne_nil huris
    have hplace : Spells "." Expr.here.lexemes := by decide
    have hsaid : Says (namespaceTest (u :: us) ["."]) (anyExpr .here u us) :=
      says_namespaceTest hplace rfl rfl fun v hv =>
        hplain v (List.mem_cons_of_mem _ (List.mem_cons_of_mem _ hv))
    exact ⟨_, read?_of_lexemes (hsaid.fits 0) hsaid.spells.lexemes,
      fun s x hx => truthOf_anyExpr (value_namespaceUri_here hx)⟩

def quotingPolicy : Policy := { Policy.standard with rawUri := .str "a'b\"c", rawBase := .str "'" }

/-- Queries for namespaces and a name with quotes of both kinds. -/
theorem query_literals_sample : (∀ v ∈ ["a'b\"c", "'", "''\"", "urn:x"], IsPlain v)
    ∧ literal "''\"" = "concat('', \"'\", '', \"'\", '\"')"
    ∧ (∃ e, read? (literal "''\"") = some e ∧ e.IsLiteral
      ∧ ∀ s context, e.value s context = .text "''\"")
    ∧ ∃ t, Tests.of (["''\"", "urn:x"].map .str) quotingPolicy = .ok t
      ∧ t.queries.map read? = (TestExprs.of ["''\"", "urn:x"] "a'b\"c" "'").queries := by
  have hplain : ∀ v ∈ ["a'b\"c", "'", "''\"", "urn:x"], IsPlain v := by
    decide +kernel
  have hquoted : literal "''\"" = "concat('', \"'\", '', \"'\", '\"')" := by
    rw [literal, String.contains_char_eq, String.contains_char_eq]
    decide +kernel
  have huri : quotingPolicy.rawUri = .str "a'b\"c" := rfl
  have hbase : quotingPolicy.rawBase = .str "'" := rfl
  obtain ⟨-, -, hliterals, -, -, t, ht, hqueries, -⟩ := query_literals huri hbase hplain
  exact ⟨hplain, hquoted, hliterals _ (hplain _ (by simp)), t, ht, hqueries⟩

/-- A text of one character that no document has, as a literal that cannot be read. -/
theorem query_literals_foreign : literal "\u0001" = "'\u0001'" ∧ read? (literal "\u0001") = none
    ∧ check [.str "\u0001"] = .error .badValue := by
  refine ⟨by simp [literal, String.contains_char_eq], ?_, rfl⟩
  exact read?_literal_of_not_isPlain fun h => absurd (h '\u0001' (by decide)) (by decide)

end Policies

end TemplateLexer.Query
