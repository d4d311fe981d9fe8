import TemplateLexer.Proofs.Classification
import TemplateLexer.Proofs.Paths
/-!
Names of attributes as they are written and as tokens show them. A token shows the qualifier that
the nearest declaration gives to the namespace of an attribute. Where several qualifiers stand for
one namespace, that is not always the one in the source.
-/

set_option autoImplicit false

namespace TemplateLexer

open Markup

namespace Markup

/-- The declarations around a place, nearer ones first. -/
def declared (tags : List Tag) : List Declaration := tags.flatMap (·.declarations)

/-- A declaration that no nearer one of its qualifier hides. -/
def IsInForce (ds : List Declaration) (d : Declaration) : Prop :=
  ds.find? (·.qualifier == d.qualifier) = some d

/-- Whether a declaration gives a qualifier to attributes in a namespace. -/
def Declaration.qualifies (u : String) (d : Declaration) : Bool :=
  d.uri == u && d.qualifier.getD "" != ""

/-- The nearest declaration in force that gives a qualifier to a namespace. -/
structure IsNearest (ds : List Declaration) (u : String) (d : Declaration) : Prop where
  qualifies : d.qualifies u = true
  first : ∃ before after, ds = before ++ d :: after ∧ (∀ e ∈ before, e.qualifier ≠ d.qualifier)
    ∧ ∀ e, IsInForce before e → e.qualifies u = false

section InForce

variable {bound xs ys ds : List Declaration} {d : Declaration} {tags : List Tag} {u : String}
  {qualifier : Option String}

theorem mem_bindings_iff : d ∈ bindings tags ↔ IsInForce (declared tags) d :=
  mem_bindings_iff_find?

theorem any_extend : (extend bound xs).any (·.qualifier == qualifier)
    = (bound.any (·.qualifier == qualifier) || xs.any (·.qualifier == qualifier)) := by
  induction xs generalizing bound with
  | nil => simp [extend]
  | cons d rest ih =>
    rw [extend, List.any_cons]
    split
    · rename_i hany
      rw [ih]
      cases hd : d.qualifier == qualifier with
      | false => simp
      | true =>
        rw [eq_of_beq hd] at hany
        simp [hany]
    · rw [ih, List.any_append, List.any_cons, List.any_nil, Bool.or_false, Bool.or_assoc]

theorem find?_qualifies_iff :
    (extend [] ds).find? (·.qualifies u) = some d ↔ IsNearest ds u d := by
  constructor
  · induction ds using List.reverseRecOn with
    | nil =>
      intro h
      cases h
    | append_singleton ds x ih =>
      rw [extend_append, extend, extend, extend]
      intro h
      have hfound : (extend [] ds).find? (·.qualifies u) = some d →
          IsNearest (ds ++ [x]) u d := by
        intro h
        obtain ⟨hqualifies, before, after, rfl, hnew, hnearest⟩ := ih h
        exact ⟨hqualifies, before, after ++ [x], by simp, hnew, hnearest⟩
      split at h
      · exact hfound h
      · rename_i hfresh
        rw [List.find?_append, Option.or_eq_some_iff] at h
        rcases h with h | ⟨hnone, hx⟩
        · exact hfound h
        · obtain ⟨hqualifies, -, hrest⟩ := List.find?_eq_some_iff_append.1 hx
          obtain rfl := List.mem_singleton.1 (List.mem_of_find?_eq_some hx)
          refine ⟨hqualifies, ds, [], rfl, fun e he heq => ?_, fun e he => ?_⟩
          · rw [any_extend, List.any_nil, Bool.false_or] at hfresh
            exact hfresh (List.any_eq_true.2 ⟨e, he, beq_iff_eq.2 heq⟩)
          · have hmem : e ∈ extend [] ds := mem_extend_iff.2 (.inr ⟨(fun _ hb => by cases hb), he⟩)
            simpa using List.find?_eq_none.1 hnone e hmem
  · rintro ⟨hqualifies, before, after, rfl, hnew, hnearest⟩
    have hfresh : ¬ (extend [] before).any (·.qualifier == d.qualifier) = true := by
      rw [any_extend, List.any_nil, Bool.false_or, List.any_eq_true]
      rintro ⟨e, he, heq⟩
      exact hnew e he (eq_of_beq heq)
    have hnone : (extend [] before).find? (·.qualifies u) = none := by
      refine List.find?_eq_none.2 fun e he => ?_
      have hforce : IsInForce before e := by simpa [mem_extend_iff, IsInForce] using he
      simp [hnearest e hforce]
    rw [extend_append, extend, if_neg hfresh]
    obtain ⟨rest, hrest⟩ := prefix_extend (extend [] before ++ [d]) after
    rw [← hrest, List.append_assoc, List.find?_append, hnone, Option.none_or,
      List.singleton_append, List.find?_cons_of_pos (by simpa using hqualifies)]

theorem find?_bindings_iff :
    (bindings tags).find? (·.qualifies u) = some d ↔ IsNearest (declared tags) u d := by
  rw [bindings_eq_extend]
  exact find?_qualifies_iff

end InForce

section Written

variable {root : Element} {q : Place} {a : Attribute} {d : Declaration} {u : String}

/-- Whether names of attributes in a namespace have a qualifier that is bound to it where they
stand; other names have none, and no name has braces. -/
def Tag.QualifiesNames (above : List Tag) (t : Tag) : Prop :=
  ∀ a ∈ t.attributes, '\x7d' ∉ a.name.written.toList ∧
    (a.name.uri = none → a.name.qualifier = none) ∧
    ∀ u, a.name.uri = some u → ∃ f, a.name.qualifier = some f ∧ f ≠ ""
      ∧ (u = xmlUri ∨ ⟨some f, u⟩ ∈ bindings (t :: above))

/-- Whether the qualifier of an attribute is the one that tokens show: that of the markup language
itself, or the nearest one that stands for the namespace. A namespace that a brace closes in is cut
there, and is not found. -/
def Place.ShowsWritten (q : Place) (a : Attribute) : Prop :=
  ∀ u, a.name.uri = some u → '\x7d' ∉ u.toList ∧
    if u = xmlUri then a.name.qualifier = some "xml"
    else IsNearest (declared q.tags) u ⟨a.name.qualifier, u⟩

/-- Whether no other qualifier stands for the namespace of an attribute. -/
def Place.IsUnaliased (q : Place) (a : Attribute) : Prop :=
  ∀ u, a.name.uri = some u → '\x7d' ∉ u.toList ∧
    if u = xmlUri then a.name.qualifier = some "xml"
    else ∀ d, IsInForce (declared q.tags) d → d.qualifies u = true →
      d.qualifier = a.name.qualifier

theorem append_colon_inj {f g base : String} (h : f ++ ":" ++ base = g ++ ":" ++ base) : f = g := by
  have hchars := congrArg String.toList h
  simp only [String.toList_append, List.append_assoc] at hchars
  exact String.toList_inj.1 (List.append_cancel_right hchars)

theorem qualifies_own {f : String} (h : f ≠ "") : Declaration.qualifies u ⟨some f, u⟩ = true := by
  simp [Declaration.qualifies, h]

theorem qualifiedName_of_isNearest {tags : List Tag} {f base : String} (hxml : u ≠ xmlUri)
    (hbrace : '\x7d' ∉ u.toList) (h : IsNearest (declared tags) u ⟨some f, u⟩) :
    qualifiedName tags (some u) base = f ++ ":" ++ base := by
  rw [← find?_bindings_iff] at h
  have hname : (bindings tags).find? (fun d => d.uri == u && (d.qualifier.getD "") != "")
      = some ⟨some f, u⟩ := h
  rw [qualifiedName, cutAtBrace_of_notMem hbrace]
  simp only [beq_iff_eq, hxml, if_false, hname]

theorem mem_qualifiedName (tags : List Tag) (base : String) (h : '\x7d' ∈ u.toList) :
    '\x7d' ∈ (qualifiedName tags (some u) base).toList := by
  have hbase : '\x7d' ∈ (cutAtBrace u base).2.toList := by
    rw [cutAtBrace]
    split
    · rename_i hnone
      exact absurd (List.dropWhile_eq_nil_iff.1 hnone _ h) (by decide)
    · simp
  rw [qualifiedName]
  generalize cutAtBrace u base = parts at hbase ⊢
  dsimp only
  split
  · simp [hbase]
  · split
    · simp [hbase]
    · exact hbase

theorem exists_isNearest (h : IsInForce (declared q.tags) d) (hd : d.qualifies u = true) :
    ∃ f, IsNearest (declared q.tags) u ⟨some f, u⟩
      ∧ IsInForce (declared q.tags) ⟨some f, u⟩ := by
  have hmem : d ∈ bindings q.tags := mem_bindings_iff.2 h
  obtain ⟨e, he⟩ : ∃ e, (bindings q.tags).find? (·.qualifies u) = some e := by
    rw [← Option.isSome_iff_exists, List.find?_isSome]
    exact ⟨d, hmem, hd⟩
  have hforce := mem_bindings_iff.1 (List.mem_of_find?_eq_some he)
  have hqualifies := List.find?_some he
  rw [find?_bindings_iff] at he
  obtain ⟨g, v⟩ := e
  simp only [Declaration.qualifies, Bool.and_eq_true, beq_iff_eq] at hqualifies
  obtain ⟨rfl, hg⟩ := hqualifies
  cases g with
  | none => cases hg
  | some f => exact ⟨f, he, hforce⟩

/-- Tokens show an attribute as it is written where its own qualifier is the nearest one. -/
theorem qualifiedName_eq_written_iff (h : q.tag.QualifiesNames q.above)
    (ha : a ∈ q.tag.attributes) :
    qualifiedName q.tags a.name.uri a.name.base = a.name.written ↔ q.ShowsWritten a := by
  obtain ⟨hwritten, hbare, hbound⟩ := h a ha
  rw [Place.ShowsWritten]
  cases hu : a.name.uri with
  | none => simp [Name.written, hbare hu, qualifiedName]
  | some u =>
    simp only [Option.some.injEq, forall_eq']
    by_cases hbrace : '\x7d' ∈ u.toList
    · refine iff_of_false (fun hname => ?_) fun hshows => hshows.1 hbrace
      exact hwritten (hname ▸ mem_qualifiedName q.tags a.name.base hbrace)
    · obtain ⟨f, hf, hne, hin⟩ := hbound u hu
      simp only [Name.written, hf, Option.some.injEq, hbrace, not_false_eq_true, true_and]
      by_cases hxml : u = xmlUri
      · simp only [hxml, if_true, qualifiedName, cutAtBrace_of_notMem (hxml ▸ hbrace),
          beq_self_eq_true]
        exact ⟨fun h => (append_colon_inj h).symm, fun h => h ▸ rfl⟩
      · rw [if_neg hxml]
        constructor
        · intro hname
          have hforce := mem_bindings_iff.1 (hin.resolve_left hxml)
          obtain ⟨g, hg, -⟩ := exists_isNearest hforce (qualifies_own hne)
          rw [qualifiedName_of_isNearest hxml hbrace hg] at hname
          exact append_colon_inj hname ▸ hg
        · exact fun hnearest => qualifiedName_of_isNearest hxml hbrace hnearest

/-- Where one qualifier stands for a namespace, it is the one in the source. -/
theorem Place.IsUnaliased.showsWritten (h : q.IsUnaliased a)
    (hnames : q.tag.QualifiesNames q.above) (ha : a ∈ q.tag.attributes) : q.ShowsWritten a := by
  intro u hu
  obtain ⟨hbrace, halone⟩ := h u hu
  obtain ⟨f, hf, hne, hin⟩ := (hnames a ha).2.2 u hu
  refine ⟨hbrace, ?_⟩
  split
  · rename_i hxml
    rwa [if_pos hxml] at halone
  · rename_i hxml
    rw [if_neg hxml] at halone
    have hforce := mem_bindings_iff.1 (hin.resolve_left hxml)
    obtain ⟨g, hg, hgforce⟩ := exists_isNearest hforce (qualifies_own hne)
    exact halone _ hgforce hg.qualifies ▸ hg

end Written

namespace Reading

theorem returns_openingTag_qualifies (above : List Tag) :
    (openingTag above).Returns fun t => t.2.QualifiesNames above := by
  refine Returns.mono (returns_openingTag_resolved above) ?_
  rintro t ⟨bare, hdeclarations, -, -, hnamed⟩ a ha
  obtain ⟨b, hb, -, hresolved⟩ := hnamed a ha
  refine ⟨fun hmem => ?_, hresolved.unqualified, fun u hu => ?_⟩
  · rw [hresolved.written] at hmem
    exact absurd (hb.name.chars _ hmem) (by decide)
  rw [← bindings_cons_congr hdeclarations above]
  exact hresolved.exists_qualifier hb.name hu

end Reading

end Markup

namespace Source

theorem qualifiesNames_of_load {source : Source} {file : Option String} {d : Document}
    (h : source.load file = .ok d) : ∀ q ∈ d.root.places, q.tag.QualifiesNames q.above := by
  obtain ⟨judge, encoding, cs, s, hdocument⟩ := exists_document_of_load h
  have hroot := (Reading.lasts_allFollow Tag.QualifiesNames).returns_document
    Reading.returns_openingTag_qualifies judge encoding
  exact (hroot _ _ _ hdocument).1.of_mem_places

end Source

namespace Outline

/-- The attributes of an element that are no helpers. -/
def others (o : Outline) (q : Place) : List Attribute :=
  q.tag.attributes.filter fun a => !a.name.isInOrEmpty o.selector.uris

/-- Whether a token shows an attribute by the name in the source exactly where that name has the
nearest qualifier. -/
def ShowsName (o : Outline) (t : Token) : Locus → Prop
  | .elementAt _ => True
  | .attributeAt q a =>
    (t.path? = some (o.pathAt q.address ++ "/@" ++ a.name.written) ↔ q.ShowsWritten a)
      ∧ ∀ f, t.body = .site f → (f.attributeName = some a.name.written ↔ q.ShowsWritten a)

/-- The token of an element that is a helper, with its other attributes by name. They have the
names in the source exactly where all of these have nearest qualifiers. -/
structure ListsNames (o : Outline) (q : Place) (t : Token) : Prop where
  points : o.Points (.elementAt q) t
  entries : ∃ f, t.body = .helper f ∧ f.attributes = entriesOf (o.otherEntries q)
  written : (o.otherEntries q).map (·.1) = (o.others q).map (·.name.written)
    ↔ ∀ a ∈ o.others q, q.ShowsWritten a

variable {o : Outline} {root : Element} {q : Place} {a : Attribute} {t : Token} {l : Locus}

theorem attributePath_eq_iff : o.attributePath q a = o.pathAt q.address ++ "/@" ++ a.name.written
    ↔ qualifiedName q.tags a.name.uri a.name.base = a.name.written := by
  constructor
  · intro h
    have hchars := congrArg String.toList h
    simp only [attributePath, String.toList_append] at hchars
    exact String.toList_inj.1 (List.append_cancel_left hchars)
  · intro h
    rw [attributePath, h]

/-- A token that stands for an attribute shows its name. -/
theorem Points.showsName (h : o.Points l t) (hl : l ∈ root.loci)
    (hnames : ∀ q ∈ root.places, q.tag.QualifiesNames q.above) : o.ShowsName t l := by
  cases l with
  | elementAt q => trivial
  | attributeAt q a =>
    obtain ⟨hq, ha⟩ := mem_loci_attributeAt.1 hl
    have hname := qualifiedName_eq_written_iff (hnames q hq) ha
    constructor
    · rw [h.path, Option.some_inj, ← hname]
      exact attributePath_eq_iff
    · intro f hf
      have hshown := h.names
      rw [Token.Names, hf] at hshown
      rw [hshown, Option.some_inj, hname]

theorem listsNames_of_points (h : o.Points (.elementAt q) t)
    (hentries : ∃ f, t.body = .helper f ∧ f.attributes = entriesOf (o.otherEntries q))
    (hnames : q.tag.QualifiesNames q.above) : o.ListsNames q t := by
  refine ⟨h, hentries, ?_⟩
  rw [otherEntries, List.map_map, ← others, List.map_inj_left]
  refine forall₂_congr fun a ha => ?_
  exact qualifiedName_eq_written_iff hnames (List.mem_filter.1 ha).1

end Outline

namespace Pass

variable {p : Pass} {policy : Policy} {root : Element} {t : Token}

theorem Tells.exists_listsNames (hp : Starts policy root p)
    (hnames : ∀ q ∈ root.places, q.tag.QualifiesNames q.above) (h : p.Tells root t)
    (hkind : t.kind = .elementHelper) :
    ∃ q ∈ root.places, (p.outline root).ListsNames q t := by
  obtain ⟨q, hq, rfl⟩ := h.exists_of_elementHelper hkind
  exact ⟨q, hq, Outline.listsNames_of_points (points_elementHelper hp _ hq)
    ⟨_, rfl, plainAttributes_view _ q⟩ (hnames q hq)⟩

end Pass

namespace Document

/-- Where the names of attributes are those in the source. An attribute without a namespace has its
name; another one has it exactly where the nearest declaration that qualifies its namespace is that
of its own qualifier, so always where no second qualifier stands for the namespace. The paths of
attributes, the names that expressions have from them and the keys of helpers show these names. -/
theorem lex_names {source : Source} {file : Option String} {d : Markup.Document}
    (hload : source.load file = .ok d) :
    (∀ q ∈ d.root.places, ∀ a ∈ q.tag.attributes,
        (qualifiedName q.tags a.name.uri a.name.base = a.name.written ↔ q.ShowsWritten a)
          ∧ (q.IsUnaliased a → q.ShowsWritten a))
      ∧ ∀ (policy : Policy) (file : Option String) (stream : LexedStream),
        (lex policy d file).run.1 = .ok stream → ∃ o : Outline, o.IsOf policy d.root
          ∧ (∀ t ∈ stream.toList, t.path?.isSome = true →
            ∃ l ∈ d.root.loci, o.Points l t ∧ o.ShowsName t l)
          ∧ ∀ t ∈ stream.toList, t.kind = .elementHelper →
            ∃ q ∈ d.root.places, o.ListsNames q t := by
  have hnames := Source.qualifiesNames_of_load hload
  refine ⟨fun q hq a ha => ⟨qualifiedName_eq_written_iff (hnames q hq) ha,
    fun h => h.showsWritten (hnames q hq) ha⟩, fun policy file stream h => ?_⟩
  obtain ⟨p, hp, htells⟩ := lex_tells h
  refine ⟨p.outline d.root, hp.isOf, fun t ht hpath => ?_, fun t ht hkind => ?_⟩
  · obtain ⟨l, hl, -, hpoints⟩ := exists_points hp (htells t ht) hpath
    exact ⟨l, hl, hpoints, hpoints.showsName hl hnames⟩
  · rcases htells t ht with rfl | rfl | htell
    · cases hkind
    · cases hkind
    · exact htell.exists_listsNames hp hnames hkind

/-- The source of a document in which an inner qualifier stands for the namespace of an outer
one. -/
def sourceOfAliases : Source :=
  .text "<r xmlns:x=\"urn:x\"><x:p xmlns:z=\"urn:x\" x:b=\"\x7b% c %\x7d\" z:d=\"1\" e=\"2\"/></r>"

theorem lex_names_sample : ∃ d stream, sourceOfAliases.load none = .ok d
    ∧ (lex .standard d none).run.1 = .ok stream
    ∧ (∀ q ∈ d.root.places, ∀ a ∈ q.tag.attributes,
        (qualifiedName q.tags a.name.uri a.name.base = a.name.written ↔ q.ShowsWritten a)
          ∧ (q.IsUnaliased a → q.ShowsWritten a))
    ∧ ∃ o : Outline, o.IsOf .standard d.root
      ∧ (∀ t ∈ stream.toList, t.path?.isSome = true →
        ∃ l ∈ d.root.loci, o.Points l t ∧ o.ShowsName t l)
      ∧ ∀ t ∈ stream.toList, t.kind = .elementHelper →
        ∃ q ∈ d.root.places, o.ListsNames q t := by
  have hlexes : (match sourceOfAliases.load none with
      | .ok d => (lex .standard d none).run.1.isOk
      | .error _ => false) = true := by
    decide +kernel
  split at hlexes
  · rename_i d hload
    obtain ⟨stream, h⟩ := Except.exists_of_isOk hlexes
    obtain ⟨hshown, htokens⟩ := lex_names hload
    exact ⟨d, stream, hload, h, hshown, htokens .standard none stream h⟩
  · cases hlexes

/-- An attribute that is shown with another qualifier than it is written with. -/
theorem lex_names_aliased : ∃ d, sourceOfAliases.load none = .ok d ∧ ∃ q ∈ d.root.places,
    ∃ a ∈ q.tag.attributes,
      qualifiedName q.tags a.name.uri a.name.base = "z:b" ∧ a.name.written = "x:b" := by
  have hshown : (match sourceOfAliases.load none with
      | .ok d => decide (∃ q ∈ d.root.places, ∃ a ∈ q.tag.attributes,
          qualifiedName q.tags a.name.uri a.name.base = "z:b" ∧ a.name.written = "x:b")
      | .error _ => false) = true := by
    decide +kernel
  split at hshown
  · rename_i d hload
    exact ⟨d, hload, of_decide_eq_true hshown⟩
  · cases hshown

end Document

end TemplateLexer
