import TemplateLexer.Proofs.Balance
import TemplateLexer.Proofs.KnownPlaceholders
/-!
Expressions that are never closed. A pass works on the sites of a document from the last one on. It
gets through only if every delimiter that opens is closed at the same site, and otherwise stops at
the first site that it comes to where one is not.
-/

set_option autoImplicit false

namespace TemplateLexer

open Markup

namespace Selector

/-- The sites of a node in the order of reading: those of its elements, those on the helper that it
is, and those in the helpers that it carries. -/
def sitesOf (s : Selector) (root : Element) (nodes : List Place) (q : Place) : List Site :=
  (root.places.filter (Place.owns nodes q)).flatMap (s.expressionsAt nodes)
    ++ (if q.tag.name.isIn s.uris then (s.elementHelperExpressions q.tag).map (.attributeOf q)
      else [])
    ++ (s.helperAttributes q.tag).flatMap fun a =>
      if s.holdsDelimiter a then [.attributeOf q a] else []

end Selector

def Token.isExpression (t : Token) : Bool := t.kind == .expression

namespace Outline

variable (o : Outline)

/-- The sites of a document in the order of reading. -/
def sitesInOrder : List Site :=
  (byDepth (o.selector.nodes o.root)).flatMap
    (o.selector.sitesOf o.root (o.selector.nodes o.root))

/-- The texts that are scanned at a site. -/
def scanned : Site → List String
  | .attributeOf _ a => [a.plainValue]
  | .contentOf r => Content.scannedTexts (o.found r)

/-- Whether every delimiter that opens at a site has a closing one of its own, further on. -/
def IsClosed (s : Site) : Prop := ∃ g, RunKind.IsMatching (RunKind.ofTexts (o.scanned s)) g

/-- Where a site is. -/
def spotOf (file : Option String) : Site → Spot
  | .attributeOf q a => ⟨some (o.attributePath q a), some q.tag.line, file⟩
  | .contentOf q => ⟨some (o.pathAt q.address), some q.tag.line, file⟩

/-- Whether a spot is that of the last one among some sites that is not closed. -/
def StopsAt (file : Option String) (sites : List Site) (spot : Spot) : Prop :=
  ∃ before s after, sites = before ++ s :: after ∧ spot = o.spotOf file s ∧ ¬o.IsClosed s
    ∧ ∀ t ∈ after, o.IsClosed t

/-- The token of a site where everything is closed, in the document as in the token. -/
structure IsClosedIn (s : Site) (t : Token) : Prop where
  outline : t.outline = o.site s
  scanned : o.IsClosed s
  content : ∃ f, t.body = .site f ∧ f.IsClosed

variable {o} {file : Option String} {before after : List Site} {spot : Spot}

theorem StopsAt.inFront (h : o.StopsAt file after spot) (before : List Site) :
    o.StopsAt file (before ++ after) spot := by
  obtain ⟨xs, s, ys, rfl, hspot, hopen, hclosed⟩ := h
  exact ⟨before ++ xs, s, ys, by rw [List.append_assoc], hspot, hopen, hclosed⟩

theorem StopsAt.behind (h : o.StopsAt file before spot) (hafter : ∀ s ∈ after, o.IsClosed s) :
    o.StopsAt file (before ++ after) spot := by
  obtain ⟨xs, s, ys, rfl, hspot, hopen, hclosed⟩ := h
  refine ⟨xs, s, ys ++ after, by rw [List.append_assoc, List.cons_append], hspot, hopen, ?_⟩
  exact List.forall_mem_append.2 ⟨hclosed, hafter⟩

end Outline

def Failure.isUnclosed : Failure → Bool
  | .unclosedExpression _ => true
  | _ => false

def Except.unclosedAt? {α : Type} : Except Failure α → Option Spot
  | .error (.unclosedExpression spot) => some spot
  | _ => none

theorem Except.eq_of_unclosedAt? {α : Type} {x : Except Failure α} {spot : Spot}
    (h : Except.unclosedAt? x = some spot) : x = .error (.unclosedExpression spot) := by
  rw [unclosedAt?.eq_def] at h
  split at h
  · cases h
    rfl
  · cases h

theorem Failure.isUnclosed_of_isInside {f : Failure} (h : f.isInside = false) :
    f.isUnclosed = false := by
  cases f <;> first | rfl | cases h

section Closing

namespace Working

variable {α β : Type} {o : Outline} {file : Option String} {sites earlier later : List Site}
  {x : Working α} {f : α → Working β} {w : Work}

/-- A step that works on sites, the last one first. It gets through only if all are closed, and an
expression that is never closed stops it at the first site that it comes to with one. -/
structure Closes (o : Outline) (file : Option String) (sites : List Site) (x : Working α)
    (w : Work) : Prop where
  closed : ∀ r, x w = .ok r → ∀ s ∈ sites, o.IsClosed s
  stops : ∀ spot, x w = .error (.unclosedExpression spot) → o.StopsAt file sites spot

theorem closes_of_avoids (h : x.Avoids Failure.isUnclosed w) : x.Closes o file [] w := by
  refine ⟨fun r _ => List.forall_mem_nil _, fun spot hspot => ?_⟩
  cases h _ hspot

theorem closes_bind (hx : x.Closes o file later w)
    (hf : ∀ a w', x w = .ok (a, w') → (f a).Closes o file earlier w') :
    (x >>= f).Closes o file (earlier ++ later) w := by
  cases hrun : x w with
  | error e =>
    refine ⟨fun r h => ?_, fun spot h => ?_⟩
    · rw [bind_of_error hrun] at h
      cases h
    · rw [bind_of_error hrun] at h
      cases h
      exact (hx.stops spot hrun).inFront earlier
  | ok r =>
    obtain ⟨a, w'⟩ := r
    have hf := hf a w' hrun
    refine ⟨fun r h => ?_, fun spot h => ?_⟩
    · rw [bind_of_ok hrun] at h
      exact List.forall_mem_append.2 ⟨hf.closed r h, hx.closed _ hrun⟩
    · rw [bind_of_ok hrun] at h
      exact (hf.stops spot h).behind (hx.closed _ hrun)

theorem closes_after (hx : x.Avoids Failure.isUnclosed w)
    (hf : ∀ a w', x w = .ok (a, w') → (f a).Closes o file sites w') :
    (x >>= f).Closes o file sites w := by
  have hboth := closes_bind (closes_of_avoids hx) hf
  rwa [List.append_nil] at hboth

theorem closes_before (hx : x.Closes o file sites w)
    (hf : ∀ a w', x w = .ok (a, w') → (f a).Avoids Failure.isUnclosed w') :
    (x >>= f).Closes o file sites w :=
  closes_bind hx fun a w' h => closes_of_avoids (hf a w' h)

theorem closes_forM_reverse {γ : Type} {f : γ → Working Unit} {xs : List γ}
    {parts : List (List Site)}
    (h : List.Forall₂ (fun part x => ∀ w, (f x).Closes o file part w) parts xs) (w : Work) :
    (xs.reverse.forM f).Closes o file parts.flatten w := by
  induction h generalizing w with
  | nil => exact closes_of_avoids (avoids_pure () w)
  | @cons part x parts xs hx _ ih =>
    have hboth := closes_bind (ih w) fun _ w' _ =>
      closes_before (hx w') fun _ w'' _ => avoids_pure () w''
    rw [List.reverse_cons, List.forM_eq_forM, List.forM_append]
    exact hboth

end Working

end Closing

section Unclosed

variable {p : Pass} {m : Marker} {w : Work}

theorem Except.avoids_unclosed {α : Type} {x : Except Failure α}
    (h : Except.Avoids Failure.isInside x) : Except.Avoids Failure.isUnclosed x :=
  fun f hf => Failure.isUnclosed_of_isInside (h f hf)

namespace Markup.Selection

theorem avoids_read (s : String) : Except.Avoids Failure.isUnclosed (read s) := by
  rw [read]
  split
  · exact Except.avoids_ok _
  · exact Except.avoids_error rfl

mutual

theorem avoids_readAll (j : Json) : Except.Avoids Failure.isUnclosed (readAll j) := by
  cases j with
  | str s => exact Except.avoids_bind (avoids_read s) fun _ _ => Except.avoids_ok _
  | arr items => exact avoids_readItems items
  | obj entries => exact Except.avoids_mapM (fun entry => avoids_read entry.1) entries
  | null | bool _ | int _ | decimal _ => exact Except.avoids_error rfl

theorem avoids_readItems (items : List Json) :
    Except.Avoids Failure.isUnclosed (readItems items) := by
  cases items with
  | nil => exact Except.avoids_ok _
  | cons j rest =>
    rw [readItems]
    exact Except.avoids_bind (avoids_readAll j) fun _ _ =>
      Except.avoids_bind (avoids_readItems rest) fun _ _ => Except.avoids_ok _

end

end Markup.Selection

theorem Policy.avoids_placeholders (policy : Policy) :
    Except.Avoids Failure.isUnclosed policy.placeholders := by
  rw [placeholders]
  split
  · exact Except.avoids_ok _
  · exact Selection.avoids_readAll _

theorem Policy.avoids_newPlaceholder (policy : Policy) (above : List Tag) (id : String) :
    Except.Avoids Failure.isUnclosed (policy.newPlaceholder above id) := by
  rw [newPlaceholder]
  split
  · split
    · exact Except.avoids_ok _
    · exact Except.avoids_error rfl
  · exact Except.avoids_error rfl

namespace Working

theorem avoids_embedded (owner : Place) (e : Element) (w : Work) :
    (embedded p owner e).Avoids Failure.isUnclosed w := by
  rw [embedded]
  split
  · refine avoids_bind (Except.avoids_ok _) fun v w' _ => ?_
    split
    · exact avoids_pure _ _
    · exact avoids_fail rfl _
  · exact avoids_pure _ _

theorem avoids_resolve (t : Tag) (w : Work) : (resolve p m t).Avoids Failure.isUnclosed w := by
  refine avoids_bind (Except.avoids_ok _) fun v w' _ => ?_
  split
  · exact avoids_pure _ _
  · exact avoids_fail rfl _

theorem avoids_next? (p : Pass) (m : Marker) (w : Work) :
    (next? p m).Avoids Failure.isUnclosed w := by
  rw [next?]
  split
  · exact avoids_pure _ _
  · refine avoids_bind (avoids_sibling? rfl m true w) fun found w' _ => ?_
    split
    · exact avoids_pure _ _
    · split
      · exact avoids_bind (avoids_resolve _ w') fun _ _ _ => avoids_pure _ _
      · exact avoids_pure _ _

theorem avoids_children (p : Pass) (m : Marker) (w : Work) :
    (children p m).Avoids Failure.isUnclosed w := by
  refine avoids_bind (avoids_ofExcept p.policy.avoids_placeholders w) fun selections w₁ _ => ?_
  refine avoids_bind (avoids_placeAt rfl _ w₁) fun q w₂ _ => ?_
  refine avoids_mapM (fun r w => ?_) _ w₂
  exact avoids_resolve r.tag w

theorem avoids_leavePlaceholder (p : Pass) (m : Marker) (w : Work) :
    (leavePlaceholder p m).Avoids Failure.isUnclosed w := by
  rw [leavePlaceholder]
  split
  · exact avoids_pure _ _
  · exact avoids_bind (avoids_placeAt rfl _ w) fun q w₁ _ =>
      avoids_bind (avoids_ofExcept (p.policy.avoids_newPlaceholder _ _) w₁) fun _ _ _ =>
        avoids_modify _ _

end Working

end Unclosed

section Shown

variable {p : Pass} {policy : Policy} {root : Element} {q r x : Place} {s y : Site} {t : Token}
  {w : Work}

theorem Pass.Shows.scannedTexts_eq (hp : p.Starts policy root)
    (h : p.Shows (p.selector.nodes root) r x) :
    Content.scannedTexts x.element = (p.outline root).scanned (.contentOf r) := by
  refine Content.scannedTexts_congr ?_
  rw [h.children, hp.placeholders_eq]
  rfl

namespace Working

theorem siteToken_eq (hp : Pass.Starts policy root p) (h : p.ShowsSite root s y) (w : Work) :
    (∃ f, siteToken p y w = .error f ∧ f.isUnclosed = false)
      ∨ ∃ (c : SiteContent) (path : String) (line : Nat) (name : Option String),
        siteToken p y w = ofExcept (c.token p path line name) w
        ∧ c.IsCounted (RunKind.ofTexts ((p.outline root).scanned s))
        ∧ p.spot path (some line) = (p.outline root).spotOf p.file s := by
  cases h with
  | @inAttribute r x a mem tag =>
    refine .inr ⟨_, _, _, _, rfl, (SiteContent.isCounted_start _).addText _, ?_⟩
    rw [Pass.spot, Pass.attributePath, Pass.attributePath.qualified,
      qualifiedName_congr tag.frames, tag.address, hp.pathAt_eq mem, tag.line]
    rfl
  | @inContent r x mem tag children =>
    cases hitems : (Content.items x.element).foldlM (addItem p x)
        (SiteContent.start x.tag.line) w with
    | error f =>
      refine .inl ⟨f, bind_of_error hitems, ?_⟩
      exact avoids_addItems rfl (fun _ e _ => avoids_embedded x e w) _ _ f hitems
    | ok r' =>
      obtain ⟨c, w'⟩ := r'
      obtain rfl := (reads_foldlM (reads_addItem p x) _ _).eq hitems
      refine .inr ⟨c, _, _, _, bind_of_ok hitems, ?_, ?_⟩
      · rw [← children.scannedTexts_eq hp]
        exact addItems_isCounted (SiteContent.isCounted_start _) hitems
      · rw [Pass.spot, tag.address, hp.pathAt_eq mem, tag.line]
        rfl

theorem closes_siteToken (hp : Pass.Starts policy root p) (h : p.ShowsSite root s y) (w : Work) :
    (siteToken p y).Closes (p.outline root) p.file [s] w := by
  rcases siteToken_eq hp h w with ⟨f, hf, hother⟩ | ⟨c, path, line, name, htoken, hc, hspot⟩
  · refine ⟨fun r hr => ?_, fun spot hspot => ?_⟩
    · rw [hf] at hr
      cases hr
    · rw [hf] at hspot
      cases hspot
      cases hother
  · rw [SiteContent.token] at htoken
    split at htoken
    · rename_i hdepth
      refine ⟨fun _ _ => List.forall_mem_singleton.2 (hc.isMatching_iff.1 hdepth), fun spot h => ?_⟩
      rw [htoken] at h
      cases h
    · rename_i hdepth
      refine ⟨fun r h => ?_, fun spot h => ?_⟩
      · rw [htoken] at h
        cases h
      · rw [htoken] at h
        cases h
        exact ⟨[], s, [], rfl, hspot, fun hclosed => hdepth (hc.isMatching_iff.2 hclosed),
          List.forall_mem_nil _⟩

theorem isClosedIn_siteToken (hp : Pass.Starts policy root p) (h : p.ShowsSite root s y)
    (hgives : (siteToken p y).Gives w t) : (p.outline root).IsClosedIn s t := by
  have houtline : t.outline = (p.outline root).site s := by
    cases h with
    | inAttribute mem tag => exact Pass.outline_attributeOf hp mem tag hgives
    | inContent mem tag _ => exact Pass.outline_contentOf hp mem tag hgives
  obtain ⟨ts, hrun⟩ := hgives
  refine ⟨houtline, (closes_siteToken hp h _).closed _ hrun s (List.mem_singleton_self s), ?_⟩
  rcases siteToken_eq hp h { w with tokens := ts } with
    ⟨f, hf, -⟩ | ⟨c, path, line, name, htoken, hc, -⟩
  · rw [hf] at hrun
    cases hrun
  · rw [htoken] at hrun
    have ht := (ofExcept_ok hrun).1
    rw [SiteContent.token] at ht
    split at ht
    · rename_i hdepth
      cases ht
      exact ⟨_, rfl, hc.isClosed hdepth rfl⟩
    · cases ht

theorem closes_emitSites (hp : Pass.Starts policy root p) {sites shown : List Site}
    (h : List.Forall₂ (p.ShowsSite root) sites shown) (w : Work) :
    (emitSites p shown).Closes (p.outline root) p.file sites w := by
  have hparts : List.Forall₂ (fun part y => ∀ w, (siteToken p y >>= fun t => emit t).Closes
      (p.outline root) p.file part w) (sites.map fun s => [s]) shown := by
    rw [List.forall₂_map_left_iff]
    exact h.imp fun s y hs w => closes_before (closes_siteToken hp hs w) fun _ _ _ =>
      avoids_modify _ _
  have hall := closes_forM_reverse hparts w
  rwa [← List.flatMap_def, List.flatMap_singleton'] at hall

end Working

end Shown

section Node

variable {p : Pass} {policy : Policy} {root : Element} {done : List Place} {m : Marker}
  {q x : Place}

namespace Working

theorem closes_attributeHelper (hp : Pass.Starts policy root p) (hq : q ∈ root.places)
    (hx : x.Resembles q) (a : Attribute) (w : Work) :
    (attributeHelper p m x a).Closes (p.outline root) p.file
      (if p.selector.holdsDelimiter a then [.attributeOf q a] else []) w := by
  have hdrop : ∀ t w, (emit t >>= fun _ => dropAttribute m.address a.name : Working Unit).Avoids
      Failure.isUnclosed w :=
    fun _ _ => avoids_bind (avoids_modify _ _) fun _ _ _ => avoids_modify _ _
  rw [attributeHelper, hp.holdsDelimiter_eq]
  dsimp only
  split
  · exact closes_before (closes_siteToken hp (.inAttribute hq hx) w) fun _ _ _ =>
      avoids_bind (avoids_modify _ _) fun _ _ _ => hdrop _ _
  · exact closes_of_avoids (hdrop _ w)

theorem closes_attributeHelpers (hp : Pass.Starts policy root p) (hq : q ∈ root.places)
    (hx : x.Resembles q) (attributes : List Attribute) (w : Work) :
    (attributes.reverse.forM (attributeHelper p m x)).Closes (p.outline root) p.file
      (attributes.flatMap fun a => if p.selector.holdsDelimiter a then [.attributeOf q a] else [])
      w := by
  rw [List.flatMap_def]
  refine closes_forM_reverse ?_ w
  rw [List.forall₂_map_left_iff]
  exact List.forall₂_same.2 fun a _ => closes_attributeHelper hp hq hx a

theorem closes_elementHelper (hp : Pass.Starts policy root p) (hq : q ∈ p.selector.nodes root)
    {w : Work} (hm : m.address = q.address)
    (hl : w.root.locate [] q.address = some (q.above, (p.view (p.selector.nodes root) q).element)) :
    (elementHelper p m).Closes (p.outline root) p.file
      (if q.tag.name.isIn p.selector.uris then
        (p.selector.elementHelperExpressions q.tag).map (.attributeOf q) else []) w := by
  refine closes_after (avoids_placeAt rfl _ _) fun r w' hplace => ?_
  obtain ⟨rfl, rfl⟩ := placeAt_eq (q := p.view (p.selector.nodes root) q) hplace hm hl
  have hname : (p.view (p.selector.nodes root) q).tag.name = q.tag.name := rfl
  rw [hname]
  split
  · rw [p.elementHelperExpressions_view]
    exact closes_before (closes_emitSites hp (Pass.showsSites_attributes
      (Selector.mem_places_of_mem_nodes hq) (Pass.resembles_view _ q) _) _) fun _ _ _ =>
        avoids_modify _ _
  · exact closes_of_avoids (avoids_pure _ _)

theorem closes_node (hp : Pass.Starts policy root p)
    (hdue : Pass.Due (p.selector.nodes root) done q)
    (hfills : p.FillsIn (p.selector.nodes root) q) (ts : List Token) :
    (node p (p.markerOf (p.selector.nodes root) q)).Closes (p.outline root) p.file
      (p.selector.sitesOf root (p.selector.nodes root) q)
      { p.workAfter root (p.selector.nodes root) done with tokens := ts } := by
  have hmem := Selector.mem_places_of_mem_nodes hdue.mem
  have hl := hdue.locate rfl
  have hview := hdue.locate_view rfl
  refine closes_after (avoids_placeAt rfl _ _) fun r w₀ hbefore => ?_
  obtain ⟨rfl, rfl⟩ := placeAt_eq (q := p.found (p.selector.nodes root) q) hbefore rfl hl
  refine closes_after (avoids_modify _ _) fun _ w₁ hkeep => ?_
  obtain rfl := modify_ok hkeep
  -- The helpers that it carries are read last and worked on first.
  refine closes_bind ?_ fun _ w₂ hattributes => ?_
  · refine closes_after (avoids_placeAt rfl _ _) fun r w₁ hplace => ?_
    obtain ⟨rfl, rfl⟩ := placeAt_eq (q := p.found (p.selector.nodes root) q) hplace rfl
      (by exact hl)
    exact closes_attributeHelpers hp hmem ⟨rfl, rfl, rfl, fun _ ha => ha⟩ _ _
  obtain ⟨parts, -, hw₂⟩ := attributeHelpers_ok (q := p.found (p.selector.nodes root) q)
    (v := p.workOn root (p.selector.nodes root) done q) rfl rfl (by exact hl) hattributes
  replace hw₂ : w₂ = { p.workOn root (p.selector.nodes root) done q with
    tokens := parts.flatten ++ ts } := hw₂
  subst hw₂
  -- They have been taken off by now. Only tokens are added until the node leaves.
  refine closes_bind (closes_elementHelper hp hdue.mem rfl (by exact hview)) fun _ w₃ helement => ?_
  obtain ⟨part, -, rfl⟩ := elementHelper_ok (q := p.view (p.selector.nodes root) q)
    (v := p.workOn root (p.selector.nodes root) done q) rfl rfl rfl rfl (by exact hview) rfl
    helement
  refine closes_after (avoids_ofExcept (Except.avoids_unclosed p.policy.avoids_checkShield) _)
    fun _ w₄ hshield => ?_
  obtain ⟨-, rfl⟩ := ofExcept_ok hshield
  refine closes_after (avoids_placeAt rfl _ _) fun r w₅ hafter => ?_
  obtain ⟨rfl, rfl⟩ := placeAt_eq (q := p.view (p.selector.nodes root) q) hafter rfl
    (by exact hview)
  refine closes_before (closes_emitSites hp (Pass.showsSites_nodeExpressions hp hdue.mem hfills) _)
    fun _ _ _ => ?_
  exact avoids_bind (avoids_previous? rfl p _ _) fun _ _ _ =>
    avoids_bind (avoids_next? p _ _) fun _ _ _ =>
      avoids_bind (avoids_children p _ _) fun _ _ _ =>
        avoids_bind (avoids_modify _ _) fun _ _ _ =>
          avoids_bind (avoids_modify _ _) fun _ _ _ => avoids_leavePlaceholder p _ _

theorem closes_todo (hp : Pass.Starts policy root p) (todo : List Place)
    (h : byDepth (p.selector.nodes root) = todo.reverse ++ done) (hdone : p.Fills done)
    (ts : List Token) :
    ((todo.map (p.markerOf (p.selector.nodes root))).forM (node p)).Closes (p.outline root) p.file
      (todo.reverse.flatMap (p.selector.sitesOf root (p.selector.nodes root)))
      { p.workAfter root (p.selector.nodes root) done with tokens := ts } := by
  induction todo generalizing done ts with
  | nil => exact closes_of_avoids (avoids_pure () _)
  | cons q todo ih =>
    rw [List.reverse_cons, List.append_assoc, List.singleton_append] at h
    have hdue := Pass.due_of_nodes h
    rw [List.reverse_cons, List.flatMap_append, List.flatMap_singleton]
    -- The nodes inside it are done and have left placeholders.
    refine closes_bind (closes_node hp hdue (hdone.of_inside hdue.below) ts) fun _ w' hnode => ?_
    obtain ⟨b, rfl, hdescribes, -, hafter⟩ := node_ok rfl hdue hnode
    by_cases hroot : b.place.address = []
    · -- The root is the last one.
      obtain rfl := Pass.eq_nil_of_root h hroot
      exact closes_of_avoids (avoids_pure () _)
    · rw [hafter hroot]
      exact ih h (List.forall_mem_cons.2 ⟨fun hne => hdescribes.placeholder hne, hdone⟩) _

theorem closes_nodes (hp : Pass.Starts policy root p) :
    (nodes p).Closes (p.outline root) p.file (p.outline root).sitesInOrder (start root) := by
  have hall := closes_todo hp (byDepth (p.selector.nodes root)).reverse (by simp)
    (fun _ h => absurd h List.not_mem_nil) []
  rw [List.reverse_reverse] at hall
  rw [nodes, Pass.schedule_eq (p.selector.pairwise_nodes root) hp.markers,
    ← p.workAfter_nil root (p.selector.nodes root)]
  exact hall

end Working

end Node

section Tokens

variable {p : Pass} {policy : Policy} {root : Element} {blocks : List Block} {q x : Place}
  {w : Work} {o : Outline}

theorem Outline.IsClosedIn.isExpression {s : Site} {t : Token} (h : o.IsClosedIn s t) :
    t.isExpression = true := by
  have houtline : t.outline.isExpression = true := by
    rw [h.outline]
    cases s <;> rfl
  exact houtline

namespace Pass

theorem isClosedIn_sites (hp : Starts policy root p) {sites shown : List Site} {ts : List Token}
    (hshown : List.Forall₂ (p.ShowsSite root) sites shown)
    (hgives : List.Forall₂ (fun s t => (Working.siteToken p s).Gives w t) shown ts) :
    List.Forall₂ (p.outline root).IsClosedIn sites ts := by
  induction hshown generalizing ts with
  | nil =>
    cases hgives
    exact .nil
  | cons hs _ ih =>
    cases hgives with
    | cons ht hrest => exact .cons (Working.isClosedIn_siteToken hp hs ht) (ih hrest)

theorem filter_isExpression {sites : List Site} {ts : List Token}
    (h : List.Forall₂ o.IsClosedIn sites ts) : ts.filter Token.isExpression = ts := by
  rw [List.filter_eq_self]
  intro t ht
  obtain ⟨s, -, hs⟩ := exists_of_forall₂ h ht
  exact hs.isExpression

theorem isClosedIn_attributeParts (hp : Starts policy root p) (hq : q ∈ root.places)
    {attributes : List Attribute} {parts : List (List Token)}
    (h : List.Forall₂ (p.IsAttributePart w q) attributes parts) :
    List.Forall₂ (p.outline root).IsClosedIn
      (attributes.flatMap fun a => if p.selector.holdsDelimiter a then [.attributeOf q a] else [])
      (parts.flatten.filter Token.isExpression) := by
  induction h with
  | nil => exact .nil
  | @cons a part _ _ hpart _ ih =>
    obtain ⟨site, rfl, hsite⟩ := hpart
    rw [List.flatMap_cons, List.flatten_cons, List.filter_append, hp.holdsDelimiter_eq,
      List.filter_cons_of_neg Bool.false_ne_true]
    refine List.rel_append ?_ ih
    split at hsite
    · rename_i hd
      obtain ⟨t, ht, rfl⟩ := hsite
      have hclosed := isClosedIn_sites hp (.cons (.inAttribute hq (.refl q)) .nil) (.cons ht .nil)
      rwa [filter_isExpression hclosed, if_pos hd]
    · rename_i hd
      rw [hsite, if_neg hd]
      exact .nil

theorem isClosedIn_block (hp : Starts policy root p) (hblocks : p.Blocks root blocks) {b : Block}
    (hb : b ∈ blocks) :
    List.Forall₂ (p.outline root).IsClosedIn
      (p.selector.sitesOf root (p.selector.nodes root) b.place)
      ((p.blockTokens (p.selector.nodes root) b).filter Token.isExpression) := by
  obtain ⟨_, _, -, hdescribes⟩ := hblocks.describes b hb
  have hnode := hblocks.mem_nodes hb
  have hmem := Selector.mem_places_of_mem_nodes hnode
  have hsites := isClosedIn_sites hp
    (showsSites_nodeExpressions hp hnode (hblocks.fills.inside b.place)) hdescribes.sites
  have helement : List.Forall₂ (p.outline root).IsClosedIn
      (if b.place.tag.name.isIn p.selector.uris then
        (p.selector.elementHelperExpressions b.place.tag).map (.attributeOf b.place) else [])
      (b.element.filter Token.isExpression) := by
    have hpart := hdescribes.element
    rw [IsElementPart, p.elementHelperExpressions_view] at hpart
    have hname : (p.view (p.selector.nodes root) b.place).tag.name = b.place.tag.name := rfl
    rw [hname] at hpart
    split at hpart
    · rename_i hin
      obtain ⟨ts, he, hgives⟩ := hpart
      have hclosed := isClosedIn_sites hp
        (showsSites_attributes hmem (resembles_view _ b.place) _) hgives
      rwa [he, if_pos hin, List.filter_cons_of_neg Bool.false_ne_true,
        filter_isExpression hclosed]
    · rename_i hin
      rw [hpart, if_neg hin]
      exact .nil
  obtain ⟨parts, hparts, hflatten⟩ := hdescribes.attributes
  have hnodeToken : ¬(p.nodeToken (p.selector.nodes root) b).isExpression = true := by
    rw [nodeToken]
    split <;> exact Bool.false_ne_true
  rw [blockTokens, List.filter_cons_of_neg hnodeToken, List.filter_append, List.filter_append,
    filter_isExpression hsites, hflatten]
  exact List.rel_append (List.rel_append hsites helement) (isClosedIn_attributeParts hp hmem hparts)

end Pass

end Tokens

namespace Document

/-- Lexing returns a stream only if everything is closed at every site of the document. The tokens
of expressions are then those of all sites, and everything in them is closed. If an expression is
never closed, lexing fails with the spot of a site that is not, while those after it are. -/
theorem lex_closed (policy : Policy) (d : Markup.Document) (file : Option String) :
    (∀ stream, (lex policy d file).run.1 = .ok stream → ∃ o : Outline, o.IsOf policy d.root
        ∧ List.Forall₂ o.IsClosedIn o.sitesInOrder (stream.toList.filter Token.isExpression))
      ∧ ∀ spot, (lex policy d file).run.1 = .error (.unclosedExpression spot) →
        ∃ o : Outline, o.IsOf policy d.root ∧ o.StopsAt file o.sitesInOrder spot := by
  refine ⟨fun stream h => ?_, fun spot h => ?_⟩
  · obtain ⟨p, blocks, hp, -, hblocks, rfl⟩ := lex_ok h
    refine ⟨p.outline d.root, hp.isOf, ?_⟩
    have hsites : (p.outline d.root).sitesInOrder = blocks.flatMap fun b =>
        p.selector.sitesOf d.root (p.selector.nodes d.root) b.place := by
      show (byDepth (p.selector.nodes d.root)).flatMap _ = _
      rw [← hblocks.places, List.flatMap_map]
      rfl
    have htokens := forall₂_flatMap fun b hb => Pass.isClosedIn_block hp hblocks hb
    rw [← hsites, ← List.filter_flatMap] at htokens
    exact htokens
  · rcases lex_error h with hother | ⟨p, hp, rfl, hrun⟩
    · cases hother
    · exact ⟨p.outline d.root, hp.isOf, (Working.closes_nodes hp).stops spot hrun⟩

/-- `<r a="{% b">{% c<!-- %} -->d</r>` -/
def sampleOfOpen : Markup.Document where
  version := "1.0"
  encoding := "UTF-8"
  leading := []
  doctype := none
  before := []
  root :=
    ⟨⟨.bare "r", [], [⟨.bare "a", [.text "\x7b% b"]⟩], 1⟩,
      [.text "\x7b% c", .comment " %\x7d ", .text "d"]⟩
  after := []

/-- Of two sites that are not closed, lexing stops at the last one. -/
theorem lex_closed_sample :
    (∃ stream, (lex .standard sample none).run.1 = .ok stream
      ∧ ∃ o : Outline, o.IsOf .standard sample.root
        ∧ List.Forall₂ o.IsClosedIn o.sitesInOrder (stream.toList.filter Token.isExpression))
      ∧ (lex .standard sampleOfOpen none).run.1
        = .error (.unclosedExpression ⟨some "/r/@a", some 1, none⟩)
      ∧ ∃ o : Outline, o.IsOf .standard sampleOfOpen.root
        ∧ o.StopsAt none o.sitesInOrder ⟨some "/r/@a", some 1, none⟩ := by
  refine ⟨?_, ?_⟩
  · obtain ⟨stream, h⟩ := Except.exists_of_isOk
      (show (lex .standard sample none).run.1.isOk = true by decide +kernel)
    exact ⟨stream, h, (lex_closed .standard sample none).1 stream h⟩
  · have h : (lex .standard sampleOfOpen none).run.1
        = .error (.unclosedExpression ⟨some "/r/@a", some 1, none⟩) :=
      Except.eq_of_unclosedAt? (by decide +kernel)
    exact ⟨h, (lex_closed .standard sampleOfOpen none).2 _ h⟩

end Document

end TemplateLexer
