import Mathlib.Order.Bounds.Basic
import TemplateLexer.Proofs.Places
import TemplateLexer.Proofs.KeyedEntries
import TemplateLexer.Proofs.ReadNames
import TemplateLexer.Proofs.TwinRuns
/-!
Which namespaces of a document hold helpers. What is in force at an element but declared further out
was met at the element that declares it, so that the namespaces in force anywhere, each where it
comes first, are those that are declared, each where it is declared first. The policy takes some of
them, in their order; what it refuses does not depend on the document.
-/

set_option autoImplicit false

namespace TemplateLexer

open Markup

section Distinct

variable {xs ys : List String}

theorem distinct_append (xs ys : List String) :
    distinct (xs ++ ys) = distinct xs ++ (distinct ys).filter (· ∉ xs) := by
  induction xs with
  | nil => simp [distinct]
  | cons x xs ih =>
    have hboth : ∀ u : String, decide (u ∉ x :: xs) = (decide (u ∉ xs) && u != x) := fun u => by
      by_cases hx : u = x <;> by_cases hxs : u ∈ xs <;> simp [hx, hxs]
    rw [List.cons_append, distinct, distinct, ih, List.filter_append, List.filter_filter,
      List.cons_append]
    simp only [hboth, Bool.and_comm]

theorem distinct_append_of_subset (h : ys ⊆ xs) : distinct (xs ++ ys) = distinct xs := by
  have hnone : (distinct ys).filter (· ∉ xs) = [] :=
    List.filter_eq_nil_iff.2 fun u hu => by simpa using h (mem_distinct.1 hu)
  rw [distinct_append, hnone, List.append_nil]

theorem distinct_append_congr (h : distinct xs = distinct ys) (zs : List String) :
    distinct (xs ++ zs) = distinct (ys ++ zs) := by
  have hmem : ∀ u, u ∈ xs ↔ u ∈ ys := fun u => by rw [← mem_distinct, h, mem_distinct]
  rw [distinct_append, distinct_append, h]
  simp only [hmem]

theorem nodup_distinct (xs : List String) : (distinct xs).Nodup := by
  induction xs with
  | nil => exact List.nodup_nil
  | cons x xs ih => exact List.nodup_cons.2 ⟨by simp, ih.filter _⟩

theorem distinct_flatMap_append {α : Type} {own all : α → List String} {items : List α}
    (hown : ∀ x ∈ items, own x <+: all x)
    (hmore : ∀ before x after, items = before ++ x :: after →
      ∀ u ∈ all x, ∃ y ∈ before ++ [x], u ∈ own y) :
    distinct (items.flatMap all) = distinct (items.flatMap own) := by
  induction items using List.reverseRecOn with
  | nil => rfl
  | append_singleton items x ih =>
    have hitems : distinct (items.flatMap all) = distinct (items.flatMap own) :=
      ih (fun y hy => hown y (List.mem_append_left _ hy))
        fun before y after hsplit => hmore before y (after ++ [x]) (by simp [hsplit])
    obtain ⟨more, hall⟩ := hown x (by simp)
    have hknown : more ⊆ items.flatMap own ++ own x := fun u hu => by
      obtain ⟨y, hy, huy⟩ := hmore items x [] rfl u (hall ▸ List.mem_append_right _ hu)
      rw [← List.flatMap_singleton own x, ← List.flatMap_append]
      exact List.mem_flatMap.2 ⟨y, hy, huy⟩
    simp only [List.flatMap_append, List.flatMap_singleton]
    rw [distinct_append_congr hitems, ← hall, ← List.append_assoc,
      distinct_append_of_subset hknown]

end Distinct

namespace Markup

def Tag.BindsOnce (t : Tag) : Prop := (t.declarations.map (·.qualifier)).Nodup

section Bindings

variable {bound new : List Declaration} {t : Tag} {d : Declaration} {root : Element} {p : Place}

theorem prefix_extend (bound new : List Declaration) : bound <+: extend bound new := by
  induction new generalizing bound with
  | nil => exact List.prefix_rfl
  | cons d rest ih =>
    rw [extend]
    split
    · exact ih bound
    · exact (List.prefix_append bound [d]).trans (ih _)

theorem extend_eq_append (h : ((bound ++ new).map (·.qualifier)).Nodup) :
    extend bound new = bound ++ new := by
  induction new generalizing bound with
  | nil => simp [extend]
  | cons d rest ih =>
    have hnew : bound.any (·.qualifier == d.qualifier) = false := by
      rw [List.map_append, List.map_cons, List.nodup_append] at h
      rw [List.any_eq_false]
      intro b hb
      simpa using h.2.2 _ (List.mem_map_of_mem hb) _ (List.mem_cons_self ..)
    rw [extend, hnew, if_neg Bool.false_ne_true, ih (by simpa using h), List.append_assoc,
      List.singleton_append]

theorem Tag.BindsOnce.prefix_bindings (h : t.BindsOnce) (above : List Tag) :
    t.declarations <+: bindings (t :: above) := by
  have hown : extend [] t.declarations = t.declarations := extend_eq_append h
  rw [bindings_eq_extend, List.flatMap_cons, extend_append, hown]
  exact prefix_extend _ _

theorem exists_declares_of_mem_bindings {before after : List Place}
    (hplaces : root.places = before ++ p :: after) (hd : d ∈ p.bindings) :
    ∃ r ∈ before ++ [p], d ∈ r.tag.declarations := by
  obtain ⟨t, ht, hdt⟩ := exists_mem_of_mem_bindings hd
  rcases List.mem_cons.1 ht with rfl | ht
  · exact ⟨p, by simp, hdt⟩
  · obtain ⟨r, hr, rfl⟩ := exists_mem_before_of_mem_above hplaces ht
    exact ⟨r, List.mem_append_left _ hr, hdt⟩

end Bindings

namespace Reading

def TagParts.BindOnce (parts : TagParts) : Prop := (parts.declarations.map (·.qualifier)).Nodup

theorem returns_sortAttribute_bindOnce {parts : TagParts} (h : parts.BindOnce)
    (a : WrittenAttribute) : (sortAttribute parts a).Returns TagParts.BindOnce := by
  rw [sortAttribute]
  split
  · refine returns_bind fun d? => ?_
    cases d? with
    | none => exact returns_pure h
    | some d =>
      simp only
      split
      · exact returns_refuse
      · rename_i hnew
        exact returns_pure (List.nodup_cons.2 ⟨by simpa using hnew, h⟩)
  · exact returns_pure h

theorem nodup_withGiven {own : List Declaration} (given : List (TagName × String))
    (h : (own.map (·.qualifier)).Nodup) : ((withGiven given own).map (·.qualifier)).Nodup := by
  refine withGiven_induction (P := fun ds => (ds.map (·.qualifier)).Nodup) h ?_
  intro ds q uri _ hfresh hds
  rw [List.map_append, List.map_singleton, ← List.concat_eq_append]
  exact hds.concat hfresh

theorem returns_openingTag_bindsOnce (above : List Tag) :
    (openingTag above).Returns fun t => t.2.BindsOnce := by
  refine returns_bind fun _ => returns_bind fun n => returns_bind fun _ => returns_bind fun cs => ?_
  refine returns_bind_of (returns_tagParts_of
    (fun _ a _ hparts => returns_sortAttribute_bindOnce hparts a) n.written _ List.nodup_nil)
    fun parts hparts => ?_
  refine returns_bind fun given => returns_bind fun named => returns_bind fun _ => ?_
  refine returns_bind fun _ => returns_bind fun m => returns_bind fun _ => returns_bind fun s =>
    returns_pure (nodup_withGiven given ?_)
  rw [List.map_reverse]
  exact List.nodup_reverse.2 hparts

end Reading

end Markup

namespace Source

variable {source : Source} {file : Option String} {d : Document}

theorem bindsOnce_of_load (h : source.load file = .ok d) :
    ∀ q ∈ d.root.places, q.tag.BindsOnce := by
  obtain ⟨judge, encoding, cs, s, hdocument⟩ := exists_document_of_load h
  have hroot := (Reading.lasts_allFollow fun _ t => t.BindsOnce).returns_document
    Reading.returns_openingTag_bindsOnce judge encoding
  exact (hroot _ _ _ hdocument).1.of_mem_places

/-- The namespaces in force anywhere are those that are declared, in the order of their first
declarations. -/
theorem declaredNamespaces_of_load (h : source.load file = .ok d) :
    declaredNamespaces d.root
      = distinct (d.root.places.flatMap fun q => q.tag.declarations.map (·.uri)) := by
  refine distinct_flatMap_append (fun q hq => ?_) fun before q after hplaces u hu => ?_
  · exact ((bindsOnce_of_load h q hq).prefix_bindings q.above).map _
  · obtain ⟨b, hb, rfl⟩ := List.mem_map.1 hu
    obtain ⟨r, hr, hbr⟩ := exists_declares_of_mem_bindings hplaces hb
    exact ⟨r, hr, List.mem_map_of_mem hbr⟩

end Source

namespace Policy

/-- The sets of a policy hold these namespaces. -/
structure Lists (p : Policy) (denied : List String) (allowed : Option (List String)) : Prop where
  denied : p.denied = some (denied.map .str)
  allowed : p.allowed = allowed.map fun uris => uris.map .str

/-- Whether a namespace is denied and allowed at once. -/
def Collides (denied : List String) (allowed : Option (List String)) (u : String) : Prop :=
  u ∈ denied ∧ ∃ uris, allowed = some uris ∧ u ∈ uris

section Sets

variable {p : Policy} {root : Element} {denied uris : List String} {allowed : Option (List String)}
  {u : String}

theorem isIn_map_str (u : String) (uris : List String) :
    (Json.str u).isIn (uris.map .str) = uris.contains u := by
  induction uris with
  | nil => rfl
  | cons v uris ih =>
    rw [Json.isIn] at ih ⊢
    rw [List.map_cons, List.any_cons, ih, List.contains_cons, Json.same]

theorem filter_isIn_map_str (uris others : List String) :
    (uris.map Json.str).filter (·.isIn (others.map .str))
      = (uris.filter (others.contains ·)).map .str := by
  rw [List.filter_map]
  exact congrArg _ (List.filter_congr fun u _ => isIn_map_str u others)

theorem sortBy_map_str (uris : List String) :
    Json.sortBy Json.textLess (uris.map .str)
      = (Json.sortBy (fun a b => decide (a < b)) uris).map .str := by
  rw [Json.sortBy_eq, Json.sortBy_eq]
  symm
  apply List.map_insertionSort
  exact fun _ _ _ _ => Iff.rfl

theorem sorted?_map_str (uris : List String) : Json.sorted? (uris.map .str)
    = some ((Json.sortBy (fun a b => decide (a < b)) uris).map .str) := by
  match uris with
  | [] | [_] => rfl
  | u :: v :: uris =>
    have hnumbers : ((u :: v :: uris).map Json.str).all (·.number?.isSome) = false := rfl
    have htexts : ((u :: v :: uris).map Json.str).all (·.str?.isSome) = true := by
      simp [Json.str?]
    rw [Json.sorted?, if_neg (by simp), hnumbers, htexts, if_neg Bool.false_ne_true, if_pos rfl,
      sortBy_map_str]

theorem exists_collisions (hdenied : p.denied = some (denied.map .str)) (uris : List String) :
    ∃ both : List String, p.collisions (uris.map .str) = .ok (both.map .str)
      ∧ both.Pairwise (· ≤ ·) ∧ ∀ u, u ∈ both ↔ u ∈ denied ∧ u ∈ uris := by
  obtain ⟨members, hmembers, hmem⟩ : ∃ members : List String,
      (if (uris.map Json.str).length < (denied.map Json.str).length
        then (uris.map Json.str).filter (·.isIn (denied.map .str))
        else (denied.map Json.str).filter (·.isIn (uris.map .str))) = members.map .str
      ∧ ∀ u, u ∈ members ↔ u ∈ denied ∧ u ∈ uris := by
    split
    · exact ⟨_, filter_isIn_map_str uris denied, fun u => by simp [and_comm]⟩
    · exact ⟨_, filter_isIn_map_str denied uris, fun u => by simp⟩
  refine ⟨Json.sortBy (fun a b => decide (a < b)) members, ?_, Json.pairwise_sortBy id members,
    fun u => by rw [(Json.sortBy_perm _ members).mem_iff, hmem]⟩
  rw [collisions, hdenied]
  simp only [hmembers, sorted?_map_str]

theorem exists_checked_error (hp : p.Lists denied allowed) (hstrict : p.strict = true)
    (h : ∃ u, Collides denied allowed u) :
    ∃ u, Collides denied allowed u ∧ (∀ v, Collides denied allowed v → u ≤ v)
      ∧ p.checked [] = (.error (.ambiguousNamespace (.str u)), []) := by
  obtain ⟨v, hv, uris, rfl, hv'⟩ := h
  obtain ⟨both, hboth, horder, hboth_iff⟩ := exists_collisions hp.denied uris
  cases both with
  | nil => exact absurd ((hboth_iff v).2 ⟨hv, hv'⟩) List.not_mem_nil
  | cons u both =>
    have hu := (hboth_iff u).1 (List.mem_cons_self ..)
    refine ⟨u, ⟨hu.1, uris, rfl, hu.2⟩, ?_, ?_⟩
    · rintro w ⟨hw, others, hothers, hw'⟩
      cases hothers
      rcases List.mem_cons.1 ((hboth_iff w).2 ⟨hw, hw'⟩) with rfl | hlater
      · exact String.le_refl w
      · exact (List.pairwise_cons.1 horder).1 w hlater
    · have hallowed : p.allowed = some (uris.map .str) := hp.allowed
      rw [checked, hallowed]
      simp only [hboth, hstrict]
      rfl

theorem exists_checked (hp : p.Lists denied (some uris))
    (hfree : p.strict = true → ∀ v, ¬Collides denied (some uris) v) (log : List LogEntry) :
    ∃ log', p.checked log
      = (.ok ((uris.filter fun u => !denied.contains u).map .str), log') := by
  obtain ⟨both, hboth, -, hboth_iff⟩ := exists_collisions hp.denied uris
  have hallowed : p.allowed = some (uris.map .str) := hp.allowed
  have hlogs : ∃ log', ((both.map Json.str).forM fun uri =>
      if p.strict then Logged.fail (.ambiguousNamespace uri)
      else Logged.log (.ignored uri.bare)) log = (.ok (), log') := by
    cases hstrict : p.strict with
    | true =>
      have hnone : both = [] := List.eq_nil_iff_forall_not_mem.2 fun v hv =>
        hfree hstrict v ⟨((hboth_iff v).1 hv).1, uris, rfl, ((hboth_iff v).1 hv).2⟩
      rw [hnone]
      exact ⟨log, rfl⟩
    | false =>
      clear hboth hboth_iff
      induction both generalizing log with
      | nil => exact ⟨log, rfl⟩
      | cons v both ih => exact ih (log ++ [.ignored v])
  obtain ⟨log', hlog'⟩ := hlogs
  refine ⟨log', ?_⟩
  have hleft : (uris.map Json.str).filter (fun uri => !uri.isIn (both.map .str))
      = (uris.filter fun u => !denied.contains u).map .str := by
    rw [List.filter_map]
    refine congrArg _ (List.filter_congr fun u hu => ?_)
    rw [Function.comp, isIn_map_str, Bool.eq_iff_iff]
    simp [hboth_iff, hu]
  rw [checked, hallowed]
  simp only [hboth, ← hleft]
  exact Logged.bind_of_ok hlog'

theorem classify_eq (hp : p.Lists denied allowed)
    (hfree : p.strict = true → ∀ v, ¬Collides denied allowed v) (root : Element) :
    (p.classify root).run.1 = .ok ((declaredNamespaces root).filter
      fun u => !denied.contains u && allowed.all (·.contains u)) := by
  cases allowed with
  | none =>
    have hallowed : p.allowed = none := hp.allowed
    have hchecked : p.checked.run.1 = .ok [] := by
      rw [checked, hallowed]
      rfl
    refine classify_of_helpersAmong hchecked ?_
    rw [helpersAmong, hp.denied, hallowed]
    simp [isIn_map_str]
  | some uris =>
    obtain ⟨log, hchecked⟩ := exists_checked hp hfree []
    refine classify_of_helpersAmong (Logged.run_of_ok hchecked) ?_
    have hallowed : p.allowed = some (uris.map .str) := hp.allowed
    rw [helpersAmong, hp.denied, hallowed]
    refine congrArg Except.ok (List.filter_congr fun u _ => ?_)
    rw [isIn_map_str, isIn_map_str, Bool.eq_iff_iff]
    simp +contextual

/-- The namespaces that hold helpers in a document, or what a strict policy refuses. -/
theorem classify_of_lists (hp : p.Lists denied allowed) (root : Element) :
    (∀ f, (p.classify root).run.1 = .error f ↔ p.strict = true
        ∧ ∃ u, f = .ambiguousNamespace (.str u) ∧ Collides denied allowed u
          ∧ ∀ v, Collides denied allowed v → u ≤ v)
      ∧ ∀ uris, (p.classify root).run.1 = .ok uris ↔
        ¬(p.strict = true ∧ ∃ u, Collides denied allowed u)
          ∧ uris = (declaredNamespaces root).filter
            fun u => !denied.contains u && allowed.all (·.contains u) := by
  by_cases hrefuses : p.strict = true ∧ ∃ u, Collides denied allowed u
  · obtain ⟨u, hu, hleast, hchecked⟩ := exists_checked_error hp hrefuses.1 hrefuses.2
    have hclassify : (p.classify root).run.1 = .error (.ambiguousNamespace (.str u)) := by
      show (p.classify root []).1 = _
      rw [classify, Logged.bind_of_error hchecked]
    rw [hclassify]
    refine ⟨fun f => ⟨?_, ?_⟩, fun uris => ⟨?_, fun h => absurd hrefuses h.1⟩⟩
    · rintro ⟨⟩
      exact ⟨hrefuses.1, u, rfl, hu, hleast⟩
    · rintro ⟨-, v, rfl, hv, hleast'⟩
      rw [String.le_antisymm (hleast v hv) (hleast' u hu)]
    · rintro ⟨⟩
  · have hfree : p.strict = true → ∀ v, ¬Collides denied allowed v :=
      fun hstrict v hv => hrefuses ⟨hstrict, v, hv⟩
    rw [classify_eq hp hfree]
    refine ⟨fun f => ⟨?_, ?_⟩, fun uris => ⟨?_, ?_⟩⟩
    · rintro ⟨⟩
    · rintro ⟨hstrict, u, -, hu, -⟩
      exact absurd hu (hfree hstrict u)
    · rintro ⟨⟩
      exact ⟨hrefuses, rfl⟩
    · rintro ⟨-, rfl⟩
      rfl

end Sets

end Policy

section Documents

variable {source : Source} {file : Option String} {d : Document} {p : Policy} {denied : List String}
  {allowed : Option (List String)}

/-- The namespaces of a document are those that it declares, in the order of their first
declarations. Those that hold helpers are the ones among them that are not denied, and allowed if
the policy lists some; a strict policy refuses the smallest namespace that is denied and allowed at
once, whatever the document declares. -/
theorem Source.classify_of_load (h : source.load file = .ok d) (hp : p.Lists denied allowed) :
    declaredNamespaces d.root
        = distinct (d.root.places.flatMap fun q => q.tag.declarations.map (·.uri))
      ∧ (declaredNamespaces d.root).Nodup
      ∧ (∀ f, (p.classify d.root).run.1 = .error f ↔ p.strict = true
        ∧ ∃ u, f = .ambiguousNamespace (.str u) ∧ Policy.Collides denied allowed u
          ∧ ∀ v, Policy.Collides denied allowed v → u ≤ v)
      ∧ ∀ uris, (p.classify d.root).run.1 = .ok uris ↔
        ¬(p.strict = true ∧ ∃ u, Policy.Collides denied allowed u)
          ∧ uris = (declaredNamespaces d.root).filter
            fun u => !denied.contains u && allowed.all (·.contains u) :=
  ⟨declaredNamespaces_of_load h, nodup_distinct _, Policy.classify_of_lists hp d.root⟩

/-- The source of a document that declares `a` again below, for a namespace that `b` stands for
further out, and for one of its own. -/
def sourceOfScopes : Source :=
  .text ("<r xmlns:b=\"urn:b\" xmlns:a=\"urn:a\"><c xmlns:a=\"urn:b\" xmlns=\"urn:d\"/>"
    ++ "<c xmlns:a=\"urn:c\"/></r>")

def choosy (strict : Bool) : Policy :=
  { Policy.standard with
    denied := some (["urn:d", "urn:b"].map .str)
    allowed := some (["urn:d", "urn:c", "urn:b", "urn:a"].map .str)
    strict }

theorem Source.classify_of_load_sample : ∃ d, sourceOfScopes.load none = .ok d
    ∧ (∀ strict, (choosy strict).Lists ["urn:d", "urn:b"]
      (some ["urn:d", "urn:c", "urn:b", "urn:a"]))
    ∧ declaredNamespaces d.root = ["urn:b", "urn:a", "urn:d", "urn:c"]
    ∧ ((choosy true).classify d.root).run.1 = .error (.ambiguousNamespace (.str "urn:b"))
    ∧ ((choosy false).classify d.root).run.1 = .ok ["urn:a", "urn:c"] := by
  have hlists : ∀ strict, (choosy strict).Lists ["urn:d", "urn:b"]
      (some ["urn:d", "urn:c", "urn:b", "urn:a"]) := fun _ => ⟨rfl, rfl⟩
  have hdeclared : (sourceOfScopes.load none).toOption.any (fun d =>
      distinct (d.root.places.flatMap fun q => q.tag.declarations.map (·.uri))
        == ["urn:b", "urn:a", "urn:d", "urn:c"]) = true := by
    decide +kernel
  obtain ⟨d, hload, hdeclares⟩ := Except.exists_of_any hdeclared
  obtain ⟨huris, -, hrefused, -⟩ := classify_of_load hload (hlists true)
  obtain ⟨-, -, -, hheld⟩ := classify_of_load hload (hlists false)
  rw [eq_of_beq hdeclares] at huris
  refine ⟨d, hload, hlists, huris, (hrefused _).2 ⟨rfl, "urn:b", rfl, ?_, ?_⟩,
    (hheld _).2 ⟨?_, ?_⟩⟩
  · exact ⟨by decide, _, rfl, by decide⟩
  · rintro v ⟨hv, -⟩
    revert v
    decide
  · exact fun h => absurd h.1 Bool.false_ne_true
  · rw [huris]
    decide

/-- A strict policy whose sets hold a text and a number. -/
def mixed : Policy :=
  { Policy.standard with
    denied := some [.str "a", .int 1]
    allowed := some [.str "a", .int 1]
    strict := true }

/-- A declaration that binds the qualifier of the markup language itself declares nothing here; and
sets of texts and numbers have no smallest member that could be refused. -/
theorem Source.classify_of_load_tacit :
    (∃ d, (text "<r xmlns:xml=\"http://www.w3.org/XML/1998/namespace\"/>").load none = .ok d
      ∧ declaredNamespaces d.root ≠ distinct [xmlUri])
    ∧ ∀ root : Element, (mixed.classify root).run.1 = .error .badType := by
  constructor
  · have hnone : ((text "<r xmlns:xml=\"http://www.w3.org/XML/1998/namespace\"/>").load
        none).toOption.any (fun d => declaredNamespaces d.root == []) = true := by
      decide +kernel
    obtain ⟨d, hload, hdeclared⟩ := Except.exists_of_any hnone
    refine ⟨d, hload, ?_⟩
    rw [eq_of_beq hdeclared]
    simp [distinct]
  · intro root
    have hchecked : mixed.checked [] = (.error .badType, []) := rfl
    show (mixed.classify root []).1 = _
    rw [Policy.classify, Logged.bind_of_error hchecked]

end Documents

end TemplateLexer
