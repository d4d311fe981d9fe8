import TemplateLexer.Proofs.TwinPasses

set_option autoImplicit false

namespace TemplateLexer

open Markup

section Exposed

variable {policy : Policy} {root root' : Element} {q : Place} {d : Declaration}

theorem exists_exposed_iff (h : root.masked policy = root'.masked policy) {P : Place → Prop}
    (hP : ∀ q, P (q.masked policy) ↔ P q) :
    (∃ q ∈ root.exposed policy, P q) ↔ ∃ q ∈ root'.exposed policy, P q := by
  have hmap : ∀ xs : List Place, (∃ q ∈ xs, P q) ↔ ∃ q ∈ xs.map (Place.masked policy), P q := by
    intro xs
    simp [hP]
  rw [hmap, map_masked_exposed h, ← hmap]

theorem declares_of_mem_bindings_above (hq : q ∈ root.exposed policy) (hd : d ∈ bindings q.above) :
    root.Declares policy d.uri := by
  obtain ⟨hmem, hout⟩ := mem_exposed_iff.1 hq
  have hl := mem_places_iff.1 hmem
  cases hlast : q.address.getLast? with
  | none =>
    rw [List.getLast?_eq_none_iff.1 hlast, Element.locate] at hl
    rw [← (Prod.mk.inj (Option.some.inj hl)).1] at hd
    cases hd
  | some k =>
    obtain ⟨b, hb⟩ := List.getLast?_eq_some_iff.1 hlast
    rw [hb, locate_append] at hl
    obtain ⟨⟨above, x⟩, hx, -⟩ := Option.bind_eq_some_iff.1 hl
    obtain ⟨habove, -⟩ := (mem_places_concat_iff hx hb).1 hmem
    rw [habove] at hd hout
    refine ⟨⟨b, above, x⟩, mem_exposed_iff.2 ⟨mem_places_iff.2 hx, ?_⟩, d, hd, rfl⟩
    rw [List.any_cons, Bool.or_eq_false_iff] at hout
    exact hout.2

end Exposed

/-- A node that comes up in two passes after the same nodes. -/
structure Pass.Abreast (policy : Policy) (root root' : Element) (p p' : Pass)
    (done done' : List Place) (q q' : Place) : Prop where
  twins : p.Twins policy root root' p'
  due : Due (p.selector.nodes root) done q
  due' : Due (p'.selector.nodes root') done' q'
  fills : p.Fills done
  fills' : p'.Fills done'
  masked : q.masked policy = q'.masked policy
  before : done.map (Place.masked policy) = done'.map (Place.masked policy)

theorem Pass.Contains.nodeExpressions_of_shields {policy : Policy} {root : Element} {p : Pass}
    {nodes : List Place} {q : Place} (h : p.Contains policy root)
    (htag : policy.shields q.tag = true) :
    p.selector.nodeExpressions (p.view nodes q) = [] := by
  refine Selector.nodeExpressions_of_shields ?_
  have hpolicy : p.selector.policy = policy := h.starts.policy_eq
  rw [hpolicy]
  exact htag

section Views

variable {policy : Policy} {root root' : Element} {p p' : Pass} {done done' : List Place}
  {q q' : Place}

namespace Pass.Abreast

theorem address_eq (h : Abreast policy root root' p p' done done' q q') :
    q.address = q'.address := by
  simpa using congrArg Place.address h.masked

theorem above_eq (h : Abreast policy root root' p p' done done' q q') : q.above = q'.above := by
  simpa using congrArg Place.above h.masked

theorem tag_eq (h : Abreast policy root root' p p' done done' q q') : q.tag = q'.tag := by
  simpa using congrArg Place.tag h.masked

theorem exposed (h : Abreast policy root root' p p' done done' q q') : q ∈ root.exposed policy :=
  h.twins.left.exposed_of_mem_nodes h.due.mem

theorem exposed' (h : Abreast policy root root' p p' done done' q q') :
    q' ∈ root'.exposed policy := h.twins.right.exposed_of_mem_nodes h.due'.mem

theorem exposes (h : Abreast policy root root' p p' done done' q q') :
    root.Exposes policy q.address := ⟨q, h.exposed, rfl⟩

theorem markerOf_eq (h : Abreast policy root root' p p' done done' q q') :
    p.markerOf (p.selector.nodes root) q = p'.markerOf (p'.selector.nodes root') q' :=
  h.twins.markerOf_eq h.due.mem h.masked

theorem placeholders_done_eq (h : Abreast policy root root' p p' done done' q q') :
    p.placeholders done = p'.placeholders done' :=
  h.twins.placeholders_eq (fun r hr => h.twins.left.exposed_of_mem_nodes (h.due.old r hr)) h.before

theorem plainTag_eq (h : Abreast policy root root' p p' done done' q q') :
    p.selector.plainTag q.tag = p'.selector.plainTag q'.tag := by
  rw [← h.tag_eq]
  exact h.twins.agrees.selector.plainTag_eq (h.twins.left.names q h.exposed)

theorem found_eq (h : Abreast policy root root' p p' done done' q q')
    (htag : policy.shields q.tag = false) :
    p.found (p.selector.nodes root) q = p'.found (p'.selector.nodes root') q' := by
  have hplaceholders : p.placeholders (p.selector.nodes root)
      = p'.placeholders (p'.selector.nodes root') :=
    h.twins.placeholders_eq (fun r hr => h.twins.left.exposed_of_mem_nodes hr) h.twins.nodes_eq
  have helement : q.element.masked policy = q'.element.masked policy :=
    congrArg Place.element h.masked
  have hleft := Element.cut_masked h.exposed htag (h.twins.left.covers h.due h.fills)
  have hright := Element.cut_masked h.exposed' (h.tag_eq ▸ htag)
    (h.twins.right.covers h.due' h.fills')
  rw [found, found, ← hleft, ← hright, hplaceholders, helement, h.address_eq, h.above_eq]

theorem view_eq (h : Abreast policy root root' p p' done done' q q')
    (htag : policy.shields q.tag = false) :
    p.view (p.selector.nodes root) q = p'.view (p'.selector.nodes root') q' := by
  rw [view, view, h.found_eq htag, h.plainTag_eq, h.address_eq, h.above_eq]

theorem isTwins (h : Abreast policy root root' p p' done done' q q')
    (htag : policy.shields q.tag = true) : Place.Twins policy root root' q q' :=
  ⟨h.exposed, h.exposed', h.masked, htag⟩

theorem markup_intact (h : Abreast policy root root' p p' done done' q q') :
    MarkupAlike policy root root' (p.intact (p.selector.nodes root) q).2.print
      (p'.intact (p'.selector.nodes root') q').2.print := by
  rw [intact, intact]
  cases htag : policy.shields q.tag with
  | false =>
    rw [h.found_eq htag, h.above_eq]
    exact .inl rfl
  | true =>
    rw [h.twins.left.found_of_shields h.due.mem htag,
      h.twins.right.found_of_shields h.due'.mem (h.tag_eq ▸ htag)]
    exact .inr ⟨q, q', h.isTwins htag, rfl, rfl⟩

theorem placeholderTags_eq (h : Abreast policy root root' p p' done done' q q')
    {selections : List Selection} (hselections : policy.placeholders = .ok selections) :
    ((p.view (p.selector.nodes root) q :: (p.view (p.selector.nodes root) q).below).filter
        fun r => selections.any (·.holds r.tag.name)).map Place.tag
      = ((p'.view (p'.selector.nodes root') q'
          :: (p'.view (p'.selector.nodes root') q').below).filter
        fun r => selections.any (·.holds r.tag.name)).map Place.tag := by
  cases htag : policy.shields q.tag with
  | false => rw [h.view_eq htag]
  | true =>
    have hself : (p.view (p.selector.nodes root) q).tag
        = (p'.view (p'.selector.nodes root') q').tag := h.plainTag_eq
    rw [List.filter_cons, List.filter_cons,
      h.twins.left.filter_view_of_shields h.due.mem htag hselections,
      h.twins.right.filter_view_of_shields h.due'.mem (h.tag_eq ▸ htag) hselections, ← hself]
    split <;> simp [hself]

/-- The markup of a node that shields nothing. -/
theorem nodeMarkup_eq (h : Abreast policy root root' p p' done done' q q')
    (htag : policy.shields q.tag = false) :
    Content.nodeMarkup p.selector p.directives (p.settled (p.view (p.selector.nodes root) q))
      = Content.nodeMarkup p'.selector p'.directives
        (p'.settled (p'.view (p'.selector.nodes root') q')) := by
  have hnames := h.twins.left.names q h.exposed
  have hcovers := h.twins.left.covers h.due h.fills
  have hbinds := hcovers.binds_view h.twins.left.starts.policy_eq h.exposed htag
  have hplain : (p.view (p.selector.nodes root) q).tag.NamesWithin (root.Knows policy) :=
    Selector.Agrees.namesWithin_plainTag hnames
  have hsettled : p.settled (p.view (p.selector.nodes root) q)
      = p'.settled (p.view (p.selector.nodes root) q) := by
    rw [settled, settled, ← h.twins.agrees.hypertext, h.twins.agrees.selector.written_eq hplain]
  rw [← h.view_eq htag, ← h.twins.agrees.directives, ← hsettled]
  refine h.twins.agrees.selector.nodeMarkup_eq p.directives ?_ ?_ ?_
  · rw [tag_settled]
    exact hnames.name
  · intro t ht d hd
    obtain ⟨t', ht', hfill⟩ := exists_of_forall₂ (p.mayFill_settled _) ht
    exact hbinds t' ht' d (hfill.binds hd)
  · rw [above_settled]
    exact fun d hd => .inr (declares_of_mem_bindings_above h.exposed hd)

theorem nodeExpressions_eq (h : Abreast policy root root' p p' done done' q q') :
    p.selector.nodeExpressions (p.view (p.selector.nodes root) q)
      = p'.selector.nodeExpressions (p'.view (p'.selector.nodes root') q') := by
  cases htag : policy.shields q.tag with
  | false =>
    rw [← h.view_eq htag]
    exact h.twins.agrees.selector.nodeExpressions_eq
      (Selector.Agrees.namesWithin_plainTag (h.twins.left.names q h.exposed))
  | true =>
    rw [h.twins.left.nodeExpressions_of_shields htag,
      h.twins.right.nodeExpressions_of_shields (h.tag_eq ▸ htag)]

theorem exposes_owner (h : Abreast policy root root' p p' done done' q q') {s : Site}
    (hs : s ∈ p.selector.nodeExpressions (p.view (p.selector.nodes root) q)) :
    root.Exposes policy s.owner.address := by
  cases htag : policy.shields q.tag with
  | true =>
    rw [h.twins.left.nodeExpressions_of_shields htag] at hs
    cases hs
  | false =>
    rcases Working.owner_of_mem_nodeExpressions hs with hself | hbelow
    · rw [hself]
      exact h.exposes
    · have hcovers := h.twins.left.covers h.due h.fills
      obtain ⟨r, hr, ha, -⟩ := hcovers.exists_exposed h.exposed htag hbelow
      exact ⟨r, hr, ha⟩

end Pass.Abreast

end Views

section Steps

variable {policy : Policy} {root root' : Element} {p p' : Pass} {q q' : Place} {w w' : Work}

namespace Working

theorem alike_bind_of_ok {α β γ δ : Type} {S : γ → δ → Prop} {x : Working α} {y : Working β}
    {f : α → Working γ} {g : β → Working δ} {a : α} {b : β} {v v' : Work}
    (hx : x w = .ok (a, v)) (hy : y w' = .ok (b, v'))
    (h : Working.Alike policy root root' S (f a) (g b) v v') :
    Working.Alike policy root root' S (x >>= f) (y >>= g) w w' := by
  rw [Working.Alike, bind_of_ok hx, bind_of_ok hy]
  exact h

section Helpers

variable {K : String → Prop} {A : Address → Prop}

theorem alike_attributeHelper (h : p.Agrees K A p') (ha : A q.address)
    (haddress : q.address = q'.address) (htags : q.tags = q'.tags)
    (hw : Work.Alike policy root root' w w') (m : Marker) (a : Attribute) :
    Working.Alike policy root root' (fun _ _ => True) (attributeHelper p m q a)
      (attributeHelper p' m q' a) w w' := by
  have hdrop : ∀ v v', Work.Alike policy root root' v v' → ∀ t,
      Working.Alike policy root root' (fun _ _ => True)
        (emit t >>= fun _ => dropAttribute m.address a.name)
        (emit t >>= fun _ => dropAttribute m.address a.name) v v' := by
    intro v v' hv t
    refine alike_bind (alike_emit hv (.same t)) fun _ _ u u' _ _ _ hu => ?_
    exact alike_modify ⟨hu.tokens, hu.intact, hu.done⟩
  rw [attributeHelper, attributeHelper, ← haddress, ← htags, ← h.attributePath_eq ha, ← h.digest]
  dsimp only
  split
  · rw [← h.attributeSite_eq ha haddress htags]
    have hsite : Working.Alike policy root root' Eq (attributeSite p q a) (attributeSite p q a)
        w w' := alike_ofExcept hw (Except.alike_self _ fun _ _ => rfl)
    refine alike_bind hsite fun t t' v v' _ _ ht hv => ?_
    subst ht
    exact alike_bind (alike_emit hv (.same t)) fun _ _ u u' _ _ _ hu => hdrop u u' hu _
  · exact hdrop w w' hw _

theorem alike_attributeHelpers (h : p.Agrees K A p') {q : Place} (q' : Place) (ha : A q.address)
    (haddress : q.address = q'.address) (htags : q.tags = q'.tags) (hnames : q.tag.NamesWithin K)
    (hw : Work.Alike policy root root' w w') {m : Marker} (hm : m.address = q.address)
    (hl : w.root.locate [] q.address = some (q.above, q.element))
    (hl' : w'.root.locate [] q'.address = some (q'.above, q'.element)) :
    Working.Alike policy root root' (fun _ _ => True) (attributeHelpers p m)
      (attributeHelpers p' m) w w' := by
  have htag : q.tag = q'.tag := (List.cons.inj htags).1
  refine alike_bind_of_ok (placeAt_of_locate hm.symm (hm ▸ hl))
    (placeAt_of_locate (hm.trans haddress).symm (hm.trans haddress ▸ hl')) ?_
  rw [← htag, ← h.selector.helperAttributes_eq hnames]
  exact alike_forM hw fun a _ v v' hv => alike_attributeHelper h ha haddress htags hv m a

theorem alike_emitAttributes (h : p.Agrees K A p') (ha : A q.address)
    (haddress : q.address = q'.address) (htags : q.tags = q'.tags)
    (hw : Work.Alike policy root root' w w') (attributes : List Attribute) :
    Working.Alike policy root root' (fun _ _ => True)
      (emitSites p (attributes.map (.attributeOf q)))
      (emitSites p' (attributes.map (.attributeOf q'))) w w' := by
  have hturn : ∀ a, siteToken p (.attributeOf q a) = siteToken p' (.attributeOf q' a) :=
    h.attributeSite_eq ha haddress htags
  rw [emitSites, emitSites, ← List.map_reverse, ← List.map_reverse]
  simp only [List.forM_eq_forM, List.forM_map, hturn]
  refine alike_forM hw fun a _ v v' hv => ?_
  have hsite : Working.Alike policy root root' Eq (siteToken p' (.attributeOf q' a))
      (siteToken p' (.attributeOf q' a)) v v' :=
    alike_ofExcept hv (Except.alike_self _ fun _ _ => rfl)
  refine alike_bind hsite fun t t' u u' _ _ ht hu => ?_
  subst ht
  exact alike_emit hu (.same t)

theorem alike_elementHelper (h : p.Agrees K A p') {q : Place} (q' : Place) (ha : A q.address)
    (haddress : q.address = q'.address) (htags : q.tags = q'.tags) (hnames : q.tag.NamesWithin K)
    (hw : Work.Alike policy root root' w w') {m : Marker} (hm : m.address = q.address)
    (hl : w.root.locate [] q.address = some (q.above, q.element))
    (hl' : w'.root.locate [] q'.address = some (q'.above, q'.element)) :
    Working.Alike policy root root' (fun _ _ => True) (elementHelper p m) (elementHelper p' m)
      w w' := by
  have htag : q.tag = q'.tag := (List.cons.inj htags).1
  refine alike_bind_of_ok (placeAt_of_locate hm.symm (hm ▸ hl))
    (placeAt_of_locate (hm.trans haddress).symm (hm.trans haddress ▸ hl')) ?_
  rw [← htag, ← htags, ← h.selector.isIn_eq hnames.name,
    ← h.selector.elementHelperExpressions_eq hnames, ← h.selector.plainAttributes_eq hnames]
  split
  · refine alike_bind (alike_emitAttributes h ha haddress htags hw _) fun _ _ v v' _ _ _ hv => ?_
    exact alike_emit hv (.same _)
  · exact alike_pure hw trivial

end Helpers

end Working

end Steps

section Relations

variable {policy : Policy} {root root' : Element} {p p' : Pass} {done done' : List Place}
  {q q' : Place} {w w' : Work}

theorem Pass.Contains.mem_siblings (h : p.Contains policy root)
    (hdue : Due (p.selector.nodes root) done q) {b : Address} {k : Nat} (hb : q.address = b ++ [k])
    {above : List Tag} {x : Element}
    (hx : (p.workOn root (p.selector.nodes root) done q).root.locate [] b = some (above, x))
    {forward : Bool} {i : Nat} {t : Tag} :
    (i, t) ∈ Working.siblings forward k x.children ↔ (if forward then k < i else i < k)
      ∧ ∃ r ∈ root.exposed policy, r.address = b ++ [i]
        ∧ ((p.placeholders done r.address).elim r.tag Element.tag) = t := by
  have htag : ∀ r : Place, ((p.placeholders done r.address).getD r.element).tag
      = (p.placeholders done r.address).elim r.tag Element.tag := by
    intro r
    cases p.placeholders done r.address <;> rfl
  rw [hdue.mem_siblings rfl hb hx]
  refine and_congr_right fun _ => exists_congr fun r => ?_
  rw [htag]
  refine and_congr_left fun hr => ?_
  refine ⟨fun hmem => ?_, fun hmem => (mem_exposed_iff.1 hmem).1⟩
  -- The sibling is below the same tags as the node.
  obtain ⟨hq, hout⟩ := mem_exposed_iff.1 (h.exposed_of_mem_nodes hdue.mem)
  have hl := mem_places_iff.1 hq
  rw [hb, locate_append] at hl
  obtain ⟨⟨above', x'⟩, hx', -⟩ := Option.bind_eq_some_iff.1 hl
  rw [((mem_places_concat_iff hx' hb).1 hq).1] at hout
  refine mem_exposed_iff.2 ⟨hmem, ?_⟩
  rw [((mem_places_concat_iff hx' hr.1).1 hmem).1]
  exact hout

theorem Pass.Abreast.head?_siblings (h : Abreast policy root root' p p' done done' q q')
    {b : Address} {k : Nat} (hb : q.address = b ++ [k]) {above above' : List Tag} {x x' : Element}
    (hx : (p.workOn root (p.selector.nodes root) done q).root.locate [] b = some (above, x))
    (hx' : (p'.workOn root' (p'.selector.nodes root') done' q').root.locate [] b
      = some (above', x')) (forward : Bool) :
    (Working.siblings forward k x.children).head?
      = (Working.siblings forward k x'.children).head? := by
  have hmem : ∀ s, s ∈ Working.siblings forward k x.children
      ↔ s ∈ Working.siblings forward k x'.children := by
    rintro ⟨i, t⟩
    rw [h.twins.left.mem_siblings h.due hb hx,
      h.twins.right.mem_siblings h.due' (h.address_eq ▸ hb) hx', h.placeholders_done_eq]
    exact and_congr_right fun _ => exists_exposed_iff h.twins.masked fun _ => Iff.rfl
  have hasymm : ∀ s t : Nat × Tag, (if forward then s.1 < t.1 else t.1 < s.1)
      → ¬if forward then t.1 < s.1 else s.1 < t.1 := by
    intro s t
    cases forward <;> simp <;> omega
  refine Option.ext fun s => ?_
  rw [head?_eq_some_iff_of_pairwise (Working.pairwise_siblings forward k _) hasymm,
    head?_eq_some_iff_of_pairwise (Working.pairwise_siblings forward k _) hasymm, hmem]
  simp only [hmem]

/-- Work on a node, where all nodes before it have given way on both sides and its helpers were taken
off. -/
structure Work.Abreast (policy : Policy) (root root' : Element) (p p' : Pass)
    (done done' : List Place) (q q' : Place) (w w' : Work) : Prop where
  alike : Work.Alike policy root root' w w'
  root : w.root = (p.workOn root (p.selector.nodes root) done q).root
  root' : w'.root = (p'.workOn root' (p'.selector.nodes root') done' q').root

namespace Working

variable {m : Marker}

theorem alike_bind_placeAt {γ δ : Type} {S : γ → δ → Prop} {f : Place → Working γ}
    {g : Place → Working δ} (h : Pass.Abreast policy root root' p p' done done' q q')
    (hw : Work.Abreast policy root root' p p' done done' q q' w w') (hm : m.address = q.address)
    (hfg : Working.Alike policy root root' S (f (p.view (p.selector.nodes root) q))
      (g (p'.view (p'.selector.nodes root') q')) w w') :
    Working.Alike policy root root' S (placeAt m.address >>= f) (placeAt m.address >>= g) w w' := by
  have hl := h.due.locate_view rfl
  have hl' := h.due'.locate_view rfl
  rw [← hw.root] at hl
  rw [← hw.root', ← h.address_eq] at hl'
  rw [hm]
  exact alike_bind_of_ok (placeAt_of_locate (q := p.view _ q) rfl hl)
    (placeAt_of_locate (q := p'.view _ q') h.address_eq.symm hl') hfg

theorem alike_sibling? (h : Pass.Abreast policy root root' p p' done done' q q')
    (hw : Work.Abreast policy root root' p p' done done' q q' w w') (hm : m.address = q.address)
    (forward : Bool) :
    Working.Alike policy root root' Eq (sibling? m forward) (sibling? m forward) w w' := by
  cases hlast : m.address.getLast? with
  | none =>
    simp only [sibling?, hlast]
    exact alike_pure hw.alike rfl
  | some k =>
    obtain ⟨b, hb⟩ := List.getLast?_eq_some_iff.1 hlast
    have hq : q.address = b ++ [k] := hm.symm.trans hb
    have hdrop : m.address.dropLast = b := by rw [hb, List.dropLast_concat]
    obtain ⟨above, x, -, hx⟩ := h.due.locate_parent rfl hq
    obtain ⟨above', x', -, hx'⟩ := h.due'.locate_parent rfl (h.address_eq ▸ hq)
    simp only [sibling?, hlast, hdrop]
    refine alike_bind_of_ok (placeAt_of_locate (q := ⟨b, _, _⟩) rfl (hw.root ▸ hx))
      (placeAt_of_locate (q := ⟨b, _, _⟩) rfl (hw.root' ▸ hx')) ?_
    exact alike_pure hw.alike (h.head?_siblings hq hx hx' forward)

theorem alike_resolve (h : p.Twins policy root root' p') (hw : Work.Alike policy root root' w w')
    (m : Marker) (t : Tag) :
    Working.Alike policy root root' Eq (resolve p m t) (resolve p' m t) w w' := by
  refine alike_bind (R := Work.Alike policy root root') (.ok ⟨hw, hw⟩) fun a b v v' _ _ hab hv => ?_
  rw [hab.done, h.agrees.spot_eq]
  split
  · exact alike_pure hv rfl
  · exact alike_fail _

theorem alike_previous? (h : Pass.Abreast policy root root' p p' done done' q q')
    (hw : Work.Abreast policy root root' p p' done done' q q' w w') (hm : m.address = q.address) :
    Working.Alike policy root root' Eq (previous? p m) (previous? p' m) w w' := by
  rw [previous?, previous?]
  split
  · exact alike_pure hw.alike rfl
  · refine alike_bind (alike_sibling? h hw hm false) fun s s' v v' _ _ hs hv => ?_
    subst hs
    split
    · exact alike_pure hv rfl
    · rw [Pass.markerAt?, Pass.markerAt?, ← h.twins.agrees.markers, ← h.twins.agrees.policy_eq]
      split
      · exact alike_pure hv rfl
      · exact alike_pure hv rfl

theorem alike_next? (h : Pass.Abreast policy root root' p p' done done' q q')
    (hw : Work.Abreast policy root root' p p' done done' q q' w w') (hm : m.address = q.address) :
    Working.Alike policy root root' Eq (next? p m) (next? p' m) w w' := by
  rw [next?, next?]
  split
  · exact alike_pure hw.alike rfl
  · refine alike_bind (alike_sibling? h hw hm true) fun s s' v v' _ _ hs hv => ?_
    subst hs
    split
    · exact alike_pure hv rfl
    · rw [← h.twins.agrees.policy_eq]
      split
      · refine alike_bind (alike_resolve h.twins hv m _) fun id id' u u' _ _ hid hu => ?_
        exact alike_pure hu (congrArg some hid)
      · exact alike_pure hv rfl

theorem alike_children (h : Pass.Abreast policy root root' p p' done done' q q')
    (hw : Work.Abreast policy root root' p p' done done' q q' w w') (hm : m.address = q.address) :
    Working.Alike policy root root' Eq (children p m) (children p' m) w w' := by
  rw [children, children, ← h.twins.agrees.policy_eq, h.twins.left.starts.policy_eq]
  cases hselections : policy.placeholders with
  | error e => exact alike_fail e
  | ok selections =>
    refine alike_bind_of_ok rfl rfl (alike_bind_placeAt h hw hm ?_)
    have htags := h.placeholderTags_eq hselections
    rw [← List.forall₂_eq_eq_eq, List.forall₂_map_left_iff, List.forall₂_map_right_iff] at htags
    rw [← List.forall₂_eq_eq_eq]
    refine alike_mapM hw.alike (htags.imp fun r r' hr u u' hu => ?_)
    rw [← hr]
    exact alike_resolve h.twins hu m r.tag

theorem alike_leavePlaceholder (h : Pass.Abreast policy root root' p p' done done' q q')
    (hw : Work.Abreast policy root root' p p' done done' q q' w w') (hm : m.address = q.address) :
    Working.Alike policy root root' (fun _ _ => True) (leavePlaceholder p m)
      (leavePlaceholder p' m) w w' := by
  rw [leavePlaceholder, leavePlaceholder]
  split
  · exact alike_pure hw.alike trivial
  · refine alike_bind_placeAt h hw hm ?_
    have hnew : Except.Alike Eq (p.policy.newPlaceholder q.above m.id)
        (p'.policy.newPlaceholder q'.above m.id) := by
      rw [← h.twins.agrees.policy_eq, ← h.above_eq]
      exact Except.alike_self _ fun _ _ => rfl
    refine alike_bind (alike_ofExcept hw.alike hnew) fun e e' v v' _ _ _ hv => ?_
    exact alike_modify ⟨hv.tokens, hv.intact, hv.done⟩

theorem alike_nodeToken (h : Pass.Abreast policy root root' p p' done done' q q') (kind : TokenKind)
    (line : Int) (id : String) (ancestor previous next : Option String) (children : List String) :
    Token.Alike policy root root'
      ⟨kind, line, .node ⟨id, p.pathAt q.address, ancestor, previous, next,
        Content.nodeMarkup p.selector p.directives
          (p.settled (p.view (p.selector.nodes root) q)), children⟩⟩
      ⟨kind, line, .node ⟨id, p.pathAt q.address, ancestor, previous, next,
        Content.nodeMarkup p'.selector p'.directives
          (p'.settled (p'.view (p'.selector.nodes root') q')), children⟩⟩ := by
  cases htag : policy.shields q.tag with
  | false =>
    rw [h.nodeMarkup_eq htag]
    exact .same _
  | true =>
    have hpath := Pass.path?_of_pathsOf h.twins.left.starts.paths (mem_exposed_iff.1 h.exposed).1
    exact .node (h.isTwins htag) kind line ⟨id, p.pathAt q.address, ancestor, previous, next, _,
      children⟩ hpath _

theorem alike_tell (h : Pass.Abreast policy root root' p p' done done' q q')
    (hw : Work.Abreast policy root root' p p' done done' q q' w w') (hm : m.address = q.address)
    (hpath : m.path = p.pathAt q.address) :
    Working.Alike policy root root' (fun _ _ => True) (tell p m) (tell p' m) w w' := by
  rw [tell, tell, ← h.twins.agrees.policy_eq]
  cases p.policy.checkShield with
  | error e => exact alike_fail e
  | ok =>
    refine alike_bind_of_ok rfl rfl (alike_bind_placeAt h hw hm ?_)
    rw [← h.nodeExpressions_eq]
    refine alike_bind (alike_emitSites h.twins.agrees h.twins.lines hw.alike
      fun s hs => h.exposes_owner hs) fun _ _ v v' hv hv' _ hvv => ?_
    obtain ⟨ts, -, rfl⟩ := emitSites_ok p hv rfl
    obtain ⟨ts', -, rfl⟩ := emitSites_ok p' hv' rfl
    have hv : Work.Abreast policy root root' p p' done done' q q' { w with tokens := ts ++ w.tokens }
        { w' with tokens := ts' ++ w'.tokens } := ⟨hvv, hw.root, hw.root'⟩
    refine alike_bind (alike_previous? h hv hm) fun previous _ u u' hu hu' hsame huu => ?_
    obtain rfl := (reads_previous? p m).eq hu
    obtain rfl := (reads_previous? p' m).eq hu'
    subst hsame
    refine alike_bind (alike_next? h hv hm) fun next _ u u' hu hu' hsame huu => ?_
    obtain rfl := (reads_next? p m).eq hu
    obtain rfl := (reads_next? p' m).eq hu'
    subst hsame
    refine alike_bind (alike_children h hv hm) fun children _ u u' _ _ hsame huu => ?_
    subst hsame
    rw [hpath]
    exact alike_emit huu (alike_nodeToken h _ _ _ _ _ _ _)

theorem node_eq_tell (p : Pass) (m : Marker) : node p m = (do
    let q ← placeAt m.address
    keep m q
    attributeHelpers p m
    elementHelper p m
    tell p m
    mark m
    leavePlaceholder p m) := by
  simp only [node, keep, tell, mark, bind_assoc]

theorem alike_mark (hw : Work.Alike policy root root' w w') (m : Marker) :
    Working.Alike policy root root' (fun _ _ => True) (mark m) (mark m) w w' :=
  alike_modify ⟨hw.tokens, hw.intact, congrArg (m.id :: ·) hw.done⟩

/-- The work on a node once its attribute helpers are taken off. The trees stay as they are until
the placeholders come. -/
theorem alike_afterHelpers (h : Pass.Abreast policy root root' p p' done done' q q')
    (hw : Work.Abreast policy root root' p p' done done' q q' w w')
    (hm : m = p.markerOf (p.selector.nodes root) q)
    (hm' : m = p'.markerOf (p'.selector.nodes root') q') :
    Working.Alike policy root root' (fun _ _ => True)
      (elementHelper p m >>= fun _ => tell p m >>= fun _ => mark m >>= fun _ => leavePlaceholder p m)
      (elementHelper p' m >>= fun _ => tell p' m >>= fun _ => mark m >>= fun _ =>
        leavePlaceholder p' m) w w' := by
  have haddress : m.address = q.address := congrArg Marker.address hm
  have htags : (p.view (p.selector.nodes root) q).tags
      = (p'.view (p'.selector.nodes root') q').tags :=
    congrArg₂ List.cons h.plainTag_eq h.above_eq
  have hnames := h.twins.left.names q h.exposed
  have hl := hw.root ▸ h.due.locate_view rfl
  have hl' := hw.root' ▸ h.due'.locate_view rfl
  refine alike_bind (alike_elementHelper h.twins.agrees (q := p.view _ q) (p'.view _ q')
    h.exposes h.address_eq htags (Selector.Agrees.namesWithin_plainTag hnames) hw.alike haddress
      hl hl') fun _ _ v v' hv hv' _ hvv => ?_
  obtain ⟨part, -, rfl⟩ := elementHelper_ok (q := p.view _ q) (v := w) haddress
    (congrArg Marker.id hm) (congrArg Marker.path hm) (congrArg Marker.line hm) hl rfl hv
  obtain ⟨part', -, rfl⟩ := elementHelper_ok (q := p'.view _ q') (v := w')
    (congrArg Marker.address hm') (congrArg Marker.id hm') (congrArg Marker.path hm')
    (congrArg Marker.line hm') hl' rfl hv'
  refine alike_bind (alike_tell h ⟨hvv, hw.root, hw.root'⟩ haddress (congrArg Marker.path hm))
    fun _ _ v v' hv hv' _ hvv => ?_
  obtain ⟨ts, rfl⟩ := tell_ok hv
  obtain ⟨ts', rfl⟩ := tell_ok hv'
  refine alike_bind (alike_mark hvv m) fun _ _ v v' hv hv' _ hvv => ?_
  obtain rfl := modify_ok hv
  obtain rfl := modify_ok hv'
  exact alike_leavePlaceholder h ⟨hvv, hw.root, hw.root'⟩ haddress

theorem alike_node (h : Pass.Abreast policy root root' p p' done done' q q') {ts ts' : List Token}
    (hw : Work.Alike policy root root'
      { p.workAfter root (p.selector.nodes root) done with tokens := ts }
      { p'.workAfter root' (p'.selector.nodes root') done' with tokens := ts' }) :
    Working.Alike policy root root' (fun _ _ => True)
      (node p (p.markerOf (p.selector.nodes root) q))
      (node p' (p'.markerOf (p'.selector.nodes root') q'))
      { p.workAfter root (p.selector.nodes root) done with tokens := ts }
      { p'.workAfter root' (p'.selector.nodes root') done' with tokens := ts' } := by
  have hl := h.due.locate rfl
  have hl' := h.due'.locate rfl
  have hmarker := h.markerOf_eq
  have htags : q.tags = q'.tags := congrArg₂ List.cons h.tag_eq h.above_eq
  have hnames := h.twins.left.names q h.exposed
  have hkeep : Working.Alike policy root root' (fun _ _ => True)
      (keep (p.markerOf (p.selector.nodes root) q) (p.found (p.selector.nodes root) q))
      (keep (p.markerOf (p.selector.nodes root) q) (p'.found (p'.selector.nodes root') q'))
      { p.workAfter root (p.selector.nodes root) done with tokens := ts }
      { p'.workAfter root' (p'.selector.nodes root') done' with tokens := ts' } :=
    alike_modify ⟨hw.tokens, .cons ⟨rfl, h.markup_intact⟩ hw.intact, hw.done⟩
  rw [node_eq_tell, node_eq_tell]
  refine alike_bind_of_ok (placeAt_of_locate (q := p.found _ q) rfl hl)
    (placeAt_of_locate (q := p'.found _ q') rfl hl') ?_
  rw [← hmarker]
  refine alike_bind hkeep fun _ _ v v' hv hv' _ hvv => ?_
  obtain rfl := modify_ok hv
  obtain rfl := modify_ok hv'
  refine alike_bind (alike_attributeHelpers h.twins.agrees (q := p.found _ q) (p'.found _ q')
    h.exposes h.address_eq htags hnames hvv rfl hl hl') fun _ _ v v' hv hv' _ hvv => ?_
  obtain ⟨parts, -, hleft⟩ := attributeHelpers_ok (q := p.found _ q)
    (v := p.workOn root (p.selector.nodes root) done q) rfl rfl (by exact hl) hv
  obtain ⟨parts', -, hright⟩ := attributeHelpers_ok (q := p'.found _ q')
    (v := p'.workOn root' (p'.selector.nodes root') done' q') (congrArg Marker.address hmarker)
      (congrArg Marker.line hmarker) (by exact hl') hv'
  exact alike_afterHelpers h ⟨hvv, by rw [hleft]; rfl, by rw [hright]; rfl⟩ rfl hmarker

end Working

end Relations

end TemplateLexer
