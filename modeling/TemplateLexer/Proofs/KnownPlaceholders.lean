import TemplateLexer.Proofs.Resolving
/-!
What a pass knows of the placeholders in its tree. At every point of a pass each of them carries the
id of a node that has a token and of which a copy was kept.
-/

set_option autoImplicit false

namespace TemplateLexer

open Markup

/-- What is known of a node with an id: it has a token, and a copy of it was kept. -/
structure Work.Knows (w : Work) (id : String) : Prop where
  token : ∃ f ∈ w.tokens.filterMap Token.node?, f.id = id
  done : id ∈ w.done
  intact : ∃ e, w.intact.lookup id = some e

/-- Whether all placeholders in the tree stand for nodes that are known. -/
def Work.Resolved (name : String) (w : Work) : Prop :=
  ∀ q ∈ w.root.places, q.tag.name.isPlainly name = true →
    ∃ id, q.tag.id? = some id ∧ w.Knows id

section Change

variable {name : String} {w : Work}

theorem Work.Resolved.mono (h : w.Resolved name) {w' : Work}
    (hroot : ∀ q ∈ w'.root.places, q.tag.name.isPlainly name = true →
      ∃ r ∈ w.root.places, r.tag = q.tag)
    (hknows : ∀ id, w.Knows id → w'.Knows id) : w'.Resolved name := by
  intro q hq hplain
  obtain ⟨r, hr, htag⟩ := hroot q hq hplain
  obtain ⟨id, hid, hknown⟩ := h r hr (htag ▸ hplain)
  exact ⟨id, htag ▸ hid, hknows id hknown⟩

theorem Work.Knows.addTokens {id : String} (h : w.Knows id) (ts : List Token) :
    ({ w with tokens := ts ++ w.tokens } : Work).Knows id := by
  obtain ⟨f, hf, hid⟩ := h.token
  refine ⟨⟨f, ?_, hid⟩, h.done, h.intact⟩
  rw [List.filterMap_append]
  exact List.mem_append_right _ hf

theorem Work.Resolved.addTokens (h : w.Resolved name) (ts : List Token) :
    ({ w with tokens := ts ++ w.tokens } : Work).Resolved name :=
  h.mono (fun q hq _ => ⟨q, hq, rfl⟩) fun _ hid => hid.addTokens ts

end Change

section Tags

namespace Markup

variable {f : Tag → Tag} {e x : Element} {above ab : List Tag} {a b : Address}

theorem Element.exists_locate (h : e.locate above b = some (ab, x)) (above' : List Tag) :
    ∃ ab', e.locate above' b = some (ab', x) := by
  induction b generalizing e above above' with
  | nil =>
    cases h
    exact ⟨above', rfl⟩
  | cons i b ih =>
    rw [locate] at h ⊢
    split at h
    · exact ih h _
    · cases h

theorem Element.exists_locate_of_modifyTag (h : (e.modifyTag f a).locate above b = some (ab, x))
    (above' : List Tag) :
    ∃ ab' y, e.locate above' b = some (ab', y) ∧ x.tag = if b = a then f y.tag else y.tag := by
  induction b generalizing a e above above' with
  | nil =>
    cases h
    cases a with
    | nil => exact ⟨above', e, rfl, rfl⟩
    | cons i a => exact ⟨above', e, rfl, rfl⟩
  | cons j b ih =>
    -- Away from the way to the change, the child is as it was.
    have hother : (items (e.modifyTag f a).children)[j]? = (items e.children)[j]? →
        ¬[j] <+: a → ∃ ab' y, e.locate above' (j :: b) = some (ab', y)
          ∧ x.tag = if j :: b = a then f y.tag else y.tag := by
      intro hitem ha
      rw [locate, hitem] at h
      split at h
      · rename_i tag children hi
        obtain ⟨ab', hx⟩ := exists_locate h (e.tag :: above')
        refine ⟨ab', x, by rw [locate, hi]; exact hx, ?_⟩
        rw [if_neg]
        rintro rfl
        exact ha (List.cons_prefix_cons.2 ⟨rfl, List.nil_prefix⟩)
      · cases h
    cases a with
    | nil => exact hother rfl (by simp)
    | cons i a =>
      by_cases hij : j = i
      · subst hij
        have hitem : (items (e.modifyTag f (j :: a)).children)[j]?
            = (items e.children)[j]?.map (Node.mapElement (·.modifyTag f a)) := by
          rw [modifyTag, replaceAt_cons]
          exact getElem?_items_modifyChild (Node.isCharacters_mapElement _) _ _
        rw [locate, hitem] at h
        cases hi : (items e.children)[j]? with
        | none =>
          rw [hi] at h
          cases h
        | some n =>
          rw [hi] at h
          cases n with
          | element tag children =>
            obtain ⟨ab', y, hy, htag⟩ := ih h (e.tag :: above')
            refine ⟨ab', y, by rw [locate, hi]; exact hy, ?_⟩
            simpa using htag
          | text _ | cdata _ | comment _ | instruction _ _ | reference _ => cases h
      · refine hother ?_ fun hpre => hij (List.cons_prefix_cons.1 hpre).1
        rw [modifyTag, replaceAt_cons]
        exact getElem?_items_modifyChild_of_ne (Node.isCharacters_mapElement _) hij _

theorem exists_of_mem_places_modifyTag {root : Element} {q : Place}
    (h : q ∈ (root.modifyTag f a).places) : ∃ r ∈ root.places, r.address = q.address
      ∧ q.tag = if q.address = a then f r.tag else r.tag := by
  obtain ⟨ab', y, hy, htag⟩ := Element.exists_locate_of_modifyTag (mem_places_iff.1 h) []
  exact ⟨⟨q.address, ab', y⟩, mem_places_iff.2 hy, rfl, htag⟩

end Markup

end Tags

section Lookups

variable {p : Pass} {name : String} {w : Work} {q : Place}

theorem Policy.Names.isPlainly_of_isPlaceholder {policy : Policy} (hname : policy.Names name)
    {t : Tag} (ht : policy.isPlaceholder t = true) : t.name.isPlainly name = true := by
  by_contra hplain
  rw [hname.isPlaceholder_eq_false (Bool.eq_false_iff.2 hplain)] at ht
  cases ht

theorem Policy.Names.resolves_placeholders {policy : Policy} (hname : policy.Names name) :
    Except.Resolves policy.placeholders := by
  rw [Policy.placeholders, hname.placeholder]
  refine Except.avoids_bind ?_ fun _ _ => Except.avoids_ok _
  rw [Selection.read]
  split
  · exact Except.avoids_ok _
  · exact Except.avoids_error rfl

namespace Working

theorem resolves_resolve (h : w.Resolved name) (m : Marker) (hq : q ∈ w.root.places)
    (hplain : q.tag.name.isPlainly name = true) : (resolve p m q.tag).Resolves w := by
  obtain ⟨id, hid, hknown⟩ := h q hq hplain
  have hrun : resolve p m q.tag w = .ok (id, w) := by
    have hdone : w.done.contains (q.tag.id?.getD "") = true := by
      rw [hid]
      simpa using hknown.done
    show (if w.done.contains (q.tag.id?.getD "") then
      (pure (q.tag.id?.getD "") : Working String) else fail _) w = _
    rw [if_pos hdone, hid]
    rfl
  rw [Resolves, hrun]
  exact Except.avoids_ok _

theorem resolves_embedded (h : w.Resolved name) (hname : p.policy.Names name) (owner : Place)
    (hq : q ∈ w.root.places) : (embedded p owner q.element).Resolves w := by
  rw [embedded]
  split
  · rename_i hplaceholder
    obtain ⟨id, hid, hknown⟩ := h q hq (hname.isPlainly_of_isPlaceholder hplaceholder)
    obtain ⟨e, he⟩ := hknown.intact
    have hlookup : w.intact.lookup (q.element.tag.id?.getD "") = some e := by
      have hid' : q.element.tag.id? = some id := hid
      rw [hid']
      exact he
    refine avoids_bind (Except.avoids_ok _) fun v w' hv => ?_
    obtain ⟨rfl, rfl⟩ := get_ok hv
    simp only [hlookup]
    exact avoids_pure _ _
  · exact avoids_pure _ _

theorem avoids_addItem {test : Failure → Bool} (hrange : test .outOfRange = false)
    (hembedded : ∀ (k : Nat) (e : Element), (Markup.items q.element.children)[k]? = some e.node →
      (embedded p q e).Avoids test w) (c : SiteContent) (item : Content.Item) :
    (addItem p q c item).Avoids test w := by
  cases item with
  | text s => exact avoids_pure _ _
  | cdata markup => exact avoids_pure _ _
  | child index =>
    rw [addItem]
    split
    · exact avoids_fail hrange w
    · dsimp only
      split
      · exact avoids_pure _ _
      · exact avoids_pure _ _
    · exact avoids_pure _ _
    · exact avoids_pure _ _
    · rename_i tag children hitem
      exact avoids_bind (hembedded index ⟨tag, children⟩ hitem) fun _ _ _ => avoids_pure _ _
    · exact avoids_pure _ _

theorem avoids_addItems {test : Failure → Bool} (hrange : test .outOfRange = false)
    (hembedded : ∀ (k : Nat) (e : Element), (Markup.items q.element.children)[k]? = some e.node →
      (embedded p q e).Avoids test w) (items : List Content.Item) (c : SiteContent) :
    (items.foldlM (addItem p q) c).Avoids test w := by
  induction items generalizing c with
  | nil => exact avoids_pure c w
  | cons item items ih =>
    rw [List.foldlM_cons]
    refine avoids_bind (avoids_addItem hrange hembedded c item) fun c' w' hc => ?_
    obtain rfl := (reads_addItem p q c item).eq hc
    exact ih c'

theorem resolves_token (p : Pass) (path : String) (line : Nat) (attributeName : Option String)
    (c : SiteContent) : Except.Resolves (c.token p path line attributeName) := by
  rw [SiteContent.token]
  split
  · exact Except.avoids_ok _
  · exact Except.avoids_error rfl

theorem resolves_siteToken (h : w.Resolved name) (hname : p.policy.Names name) {s : Site}
    (hs : s.owner ∈ w.root.places) : (siteToken p s).Resolves w := by
  cases s with
  | attributeOf owner a => exact avoids_ofExcept (resolves_token p _ _ _ _) w
  | contentOf owner =>
    have hembedded : ∀ (k : Nat) (e : Element),
        (Markup.items owner.element.children)[k]? = some e.node →
        (embedded p owner e).Resolves w := by
      intro k e hitem
      have hchild : (⟨owner.address ++ [k], owner.tags, e⟩ : Place) ∈ w.root.places :=
        (mem_places_concat_iff (mem_places_iff.1 hs) rfl).2 ⟨rfl, hitem⟩
      exact resolves_embedded h hname owner hchild
    exact avoids_bind (avoids_addItems rfl hembedded _ _) fun c w' _ =>
      avoids_ofExcept (resolves_token p _ _ _ _) w'

theorem resolves_emitSites (hname : p.policy.Names name) {sites : List Site}
    (h : w.Resolved name) (hsites : ∀ s ∈ sites, s.owner ∈ w.root.places) :
    (emitSites p sites).Resolves w := by
  have hloop : ∀ (sites : List Site) (w : Work), w.Resolved name →
      (∀ s ∈ sites, s.owner ∈ w.root.places) →
      (sites.forM fun s => do emit (← siteToken p s)).Resolves w := by
    intro sites
    induction sites with
    | nil => exact fun w _ _ => avoids_pure () w
    | cons s sites ih =>
      intro w h hsites
      refine avoids_bind (avoids_bind
        (resolves_siteToken h hname (hsites s (List.mem_cons_self ..)))
          fun t w' _ => avoids_modify _ w') fun _ w' hs => ?_
      · obtain ⟨t, mid, ht, hemit⟩ := bind_ok hs
        obtain rfl := (reads_siteToken p s).eq ht
        obtain rfl := emit_ok hemit
        exact ih _ (h.addTokens [t]) fun s hs => hsites s (List.mem_cons_of_mem _ hs)
  exact hloop sites.reverse w h fun s hs => hsites s (List.mem_reverse.1 hs)

theorem avoids_sibling? {test : Failure → Bool} (hrange : test .outOfRange = false) (m : Marker)
    (forward : Bool) (w : Work) : (sibling? m forward).Avoids test w := by
  rw [sibling?]
  split
  · exact avoids_pure _ _
  · exact avoids_bind (avoids_placeAt hrange _ w) fun _ _ _ => avoids_pure _ _

theorem avoids_previous? {test : Failure → Bool} (hrange : test .outOfRange = false) (p : Pass)
    (m : Marker) (w : Work) : (previous? p m).Avoids test w := by
  rw [previous?]
  split
  · exact avoids_pure _ _
  · refine avoids_bind (avoids_sibling? hrange m false w) fun found w' _ => ?_
    split
    · exact avoids_pure _ _
    · split
      · exact avoids_pure _ _
      · exact avoids_pure _ _

theorem resolves_next? (h : w.Resolved name) (hname : p.policy.Names name) (m : Marker) :
    (next? p m).Resolves w := by
  rw [next?]
  split
  · exact avoids_pure _ _
  · refine avoids_bind (avoids_sibling? rfl m true w) fun found w' hfound => ?_
    obtain rfl := (reads_sibling? m true).eq hfound
    split
    · exact avoids_pure _ _
    · rename_i i t
      split
      · rename_i hplaceholder
        have hmem : ∃ r ∈ w'.root.places, r.tag = t := by
          cases hlast : m.address.getLast? with
          | none =>
            rw [sibling?, hlast] at hfound
            cases (pure_ok hfound).1
          | some k =>
            obtain ⟨b, hb⟩ := List.getLast?_eq_some_iff.1 hlast
            obtain ⟨above, x, hx, hhead⟩ := sibling?_ok hb hfound
            obtain ⟨-, e, he, rfl⟩ := mem_siblings.1 (List.mem_of_head? hhead.symm)
            exact ⟨⟨b ++ [i], x.tag :: above, e⟩, (mem_places_concat_iff hx rfl).2 ⟨rfl, he⟩, rfl⟩
        obtain ⟨r, hr, rfl⟩ := hmem
        refine avoids_bind (resolves_resolve h m hr ?_) fun _ _ _ => avoids_pure _ _
        exact hname.isPlainly_of_isPlaceholder hplaceholder
      · exact avoids_pure _ _

theorem resolves_children (h : w.Resolved name) (hname : p.policy.Names name) (m : Marker) :
    (children p m).Resolves w := by
  refine avoids_bind (avoids_ofExcept hname.resolves_placeholders w) fun selections w' hs => ?_
  obtain ⟨hselections, rfl⟩ := ofExcept_ok hs
  obtain rfl := hname.placeholders hselections
  refine avoids_bind (avoids_placeAt rfl _ w') fun q w'' hq => ?_
  obtain ⟨rfl, ha, hl⟩ := placeAt_ok hq
  have hmem : q ∈ w''.root.places := mem_places_iff.2 (ha ▸ hl)
  have hloop : ∀ places : List Place, (∀ r ∈ places, r ∈ w''.root.places) →
      (∀ r ∈ places, r.tag.name.isPlainly name = true) →
      (places.mapM fun r => resolve p m r.tag).Resolves w'' := by
    intro places
    induction places with
    | nil => exact fun _ _ => avoids_pure _ _
    | cons r places ih =>
      intro hplaces hplain
      rw [List.mapM_cons]
      refine avoids_bind (resolves_resolve h m (hplaces r (List.mem_cons_self ..))
        (hplain r (List.mem_cons_self ..))) fun _ v hv => ?_
      obtain rfl := (reads_resolve p m r.tag).eq hv
      exact avoids_bind (ih (fun s hs => hplaces s (List.mem_cons_of_mem _ hs))
        fun s hs => hplain s (List.mem_cons_of_mem _ hs)) fun _ _ _ => avoids_pure _ _
  refine hloop _ (fun r hr => ?_) fun r hr => ?_
  · rcases List.mem_cons.1 (List.mem_filter.1 hr).1 with rfl | hbelow
    · exact hmem
    · exact ((mem_below_iff hmem).1 hbelow).1
  · have hholds := (List.mem_filter.1 hr).2
    rwa [Policy.Names.holds] at hholds

end Working

end Lookups

section Steps

namespace Working

def keep (m : Marker) (q : Place) : Working Unit :=
  modify fun w => { w with intact := (m.id, q.element.detached q.above) :: w.intact }

/-- Emits the token of a node after the expressions that the node owns. -/
def tell (p : Pass) (m : Marker) : Working Unit := do
  ofExcept p.policy.checkShield
  let place ← placeAt m.address
  emitSites p (p.selector.nodeExpressions place)
  let previous ← previous? p m
  let next ← next? p m
  let children ← children p m
  emit ⟨if m.address.isEmpty then .rootNode else .elementNode, m.line,
    .node ⟨m.id, m.path, m.ancestor, previous, next,
      Content.nodeMarkup p.selector p.directives (p.settled place), children⟩⟩

/-- Notes that a node has its token. -/
def mark (m : Marker) : Working Unit := modify fun w => { w with done := m.id :: w.done }

/-- The steps of the work on a node, which stands at a place. -/
def steps (p : Pass) (m : Marker) (q : Place) : List (Working Unit) :=
  keep m q :: (p.selector.helperAttributes q.tag).reverse.map (attributeHelper p m q)
    ++ [elementHelper p m, tell p m, mark m, leavePlaceholder p m]

theorem bind_of_ok {α β : Type} {x : Working α} {f : α → Working β} {a : α} {w w' : Work}
    (h : x w = .ok (a, w')) : (x >>= f) w = f a w' := by
  show StateT.bind x f w = _
  rw [StateT.bind, h]
  rfl

theorem bind_of_error {α β : Type} {x : Working α} {f : α → Working β} {e : Failure} {w : Work}
    (h : x w = .error e) : (x >>= f) w = .error e := by
  show StateT.bind x f w = _
  rw [StateT.bind, h]
  rfl

theorem bind_congr_at {α β : Type} {x y : Working α} {f : α → Working β} {w : Work}
    (h : x w = y w) : (x >>= f) w = (y >>= f) w := by
  show StateT.bind x f w = StateT.bind y f w
  rw [StateT.bind, StateT.bind, h]

theorem placeAt_of_locate {a : Address} {q : Place} {w : Work} (ha : q.address = a)
    (h : w.root.locate [] a = some (q.above, q.element)) : placeAt a w = .ok (q, w) := by
  have hroot : root w = .ok (w.root, w) := rfl
  subst ha
  rw [placeAt, bind_of_ok hroot, h]
  rfl

theorem node_eq (p : Pass) (m : Marker) :
    node p m = placeAt m.address >>= fun q => (steps p m q).forM id := by
  funext w
  cases hq : placeAt m.address w with
  | error e => rw [node, bind_of_error hq, bind_of_error hq]
  | ok r =>
    obtain ⟨q, w'⟩ := r
    obtain rfl := (reads_placeAt _).eq hq
    rw [node, bind_of_ok hq, bind_of_ok hq]
    -- The copy that is kept changes nothing at the address, so that helpers are found as before.
    let mid : Work := { w' with intact := (m.id, q.element.detached q.above) :: w'.intact }
    have hmid : placeAt m.address mid = .ok (q, mid) := by
      obtain ⟨-, ha, hl⟩ := placeAt_ok hq
      exact placeAt_of_locate ha hl
    have hattributes : attributeHelpers p m mid
        = ((p.selector.helperAttributes q.tag).reverse.map (attributeHelper p m q)).forM id
            mid := by
      rw [attributeHelpers, bind_of_ok hmid]
      simp only [List.forM_eq_forM, List.forM_map, id]
    have hsteps : (steps p m q).forM id w'
        = (((p.selector.helperAttributes q.tag).reverse.map (attributeHelper p m q)).forM id
          >>= fun _ => elementHelper p m >>= fun _ => tell p m >>= fun _ => mark m >>= fun _ =>
            leavePlaceholder p m) mid := by
      show ((_ ++ [elementHelper p m, tell p m, mark m, leavePlaceholder p m]).forM id) mid = _
      rw [List.forM_eq_forM, List.forM_append]
      simp only [List.forM_cons, List.forM_nil, id, bind_pure_unit]
    rw [hsteps, ← bind_congr_at hattributes]
    show (attributeHelpers p m >>= fun _ => _) mid = _
    simp only [tell, mark, bind_assoc]

/-- A step that keeps a property of the work, and does not fail on a placeholder. -/
structure Keeps (P : Work → Prop) (x : Working Unit) : Prop where
  resolves : ∀ w, P w → x.Resolves w
  kept : ∀ w w', P w → x w = .ok ((), w') → P w'

/-- Whether a property holds at every point of some steps, none of which fails on a placeholder. -/
def Throughout (P : Work → Prop) : List (Working Unit) → Work → Prop
  | [], w => P w
  | x :: xs, w => P w ∧ x.Resolves w ∧ ∀ w', x w = .ok ((), w') → Throughout P xs w'

/-- The same for the work on some nodes. -/
def ThroughoutNodes (p : Pass) (P : Work → Prop) : List Marker → Work → Prop
  | [], w => P w
  | m :: ms, w => (placeAt m.address).Resolves w
    ∧ ∀ q w', placeAt m.address w = .ok (q, w') → Throughout P (steps p m q) w'
      ∧ ∀ w'', (steps p m q).forM id w' = .ok ((), w'') → ThroughoutNodes p P ms w''

section Points

variable {P I : Work → Prop} {p : Pass}

theorem Throughout.resolves {xs : List (Working Unit)} {w : Work} (h : Throughout P xs w) :
    (xs.forM id).Resolves w := by
  induction xs generalizing w with
  | nil => exact avoids_pure () w
  | cons x xs ih =>
    obtain ⟨-, hx, hrest⟩ := h
    exact avoids_bind hx fun _ w' hw => ih (hrest w' hw)

theorem Throughout.last {xs : List (Working Unit)} {w w' : Work} (h : Throughout P xs w)
    (hrun : xs.forM id w = .ok ((), w')) : P w' := by
  induction xs generalizing w with
  | nil =>
    obtain ⟨-, rfl⟩ := pure_ok hrun
    exact h
  | cons x xs ih =>
    obtain ⟨mid, hx, hrest⟩ := forM_cons_ok hrun
    exact ih (h.2.2 mid hx) hrest

theorem ThroughoutNodes.resolves {ms : List Marker} {w : Work} (h : ThroughoutNodes p P ms w) :
    (ms.forM (node p)).Resolves w := by
  induction ms generalizing w with
  | nil => exact avoids_pure () w
  | cons m ms ih =>
    obtain ⟨hplace, hsteps⟩ := h
    show (node p m >>= fun _ => ms.forM (node p)).Resolves w
    rw [node_eq]
    refine avoids_bind (avoids_bind hplace fun q w' hq => ?_) fun _ w'' hrun => ?_
    · exact (hsteps q w' hq).1.resolves
    · obtain ⟨q, w', hq, hrun⟩ := bind_ok hrun
      exact ih ((hsteps q w' hq).2 w'' hrun)

theorem throughout_append (hPI : ∀ w, P w → I w) {xs ys : List (Working Unit)}
    (hxs : ∀ x ∈ xs, Keeps P x) {w : Work} (hw : P w)
    (hys : ∀ w', P w' → xs.forM id w = .ok ((), w') → Throughout I ys w') :
    Throughout I (xs ++ ys) w := by
  induction xs generalizing w with
  | nil => exact hys w hw rfl
  | cons x xs ih =>
    have hx := hxs x (List.mem_cons_self ..)
    refine ⟨hPI w hw, hx.resolves w hw, fun w' hrun => ?_⟩
    refine ih (fun y hy => hxs y (List.mem_cons_of_mem _ hy)) (hx.kept w w' hw hrun) ?_
    intro w'' hw'' hrest
    refine hys w'' hw'' ?_
    show (x >>= fun _ => xs.forM id) w = _
    rw [bind_of_ok hrun]
    exact hrest

end Points

section Keeping

variable {p : Pass} {m : Marker} {name : String} {q : Place}

/-- What holds while a node is worked on: placeholders are resolved, and what stands at the address
of the node is none. -/
structure Settled (name : String) (a : Address) (w : Work) : Prop where
  resolved : w.Resolved name
  free : ∀ r ∈ w.root.places, r.address = a → r.tag.name.isPlainly name = false

theorem Settled.addTokens {a : Address} {w : Work} (h : Settled name a w) (ts : List Token) :
    Settled name a { w with tokens := ts ++ w.tokens } :=
  ⟨h.resolved.addTokens ts, h.free⟩

theorem keeps_keep (q : Place) : Keeps (Settled name m.address) (keep m q) := by
  refine ⟨fun w _ => avoids_modify _ w, fun w w' h hrun => ?_⟩
  obtain rfl := modify_ok hrun
  refine ⟨h.resolved.mono (fun r hr _ => ⟨r, hr, rfl⟩) fun id hid => ⟨hid.token, hid.done, ?_⟩,
    h.free⟩
  obtain ⟨e, he⟩ := hid.intact
  rw [List.lookup_cons]
  split
  · exact ⟨_, rfl⟩
  · exact ⟨e, he⟩

theorem keeps_mark : Keeps (Settled name m.address) (mark m) := by
  refine ⟨fun w _ => avoids_modify _ w, fun w w' h hrun => ?_⟩
  obtain rfl := modify_ok hrun
  refine ⟨h.resolved.mono (fun r hr _ => ⟨r, hr, rfl⟩) fun id hid => ?_, h.free⟩
  exact ⟨hid.token, List.mem_cons_of_mem _ hid.done, hid.intact⟩

theorem keeps_dropAttribute (n : Name) :
    Keeps (Settled name m.address) (dropAttribute m.address n) := by
  refine ⟨fun w _ => avoids_modify _ w, fun w w' h hrun => ?_⟩
  obtain rfl := modify_ok hrun
  have hname : ∀ r : Place, r ∈ (w.root.modifyTag (fun t =>
      { t with attributes := t.attributes.filter fun b => !b.name.isSame n }) m.address).places →
      ∃ r' ∈ w.root.places, r'.address = r.address ∧ r.tag.name = r'.tag.name
        ∧ (r.address ≠ m.address → r'.tag = r.tag) := by
    intro r hr
    obtain ⟨r', hr', ha, htag⟩ := exists_of_mem_places_modifyTag hr
    refine ⟨r', hr', ha, ?_, fun hne => ?_⟩
    · rw [htag]
      split <;> rfl
    · rw [htag, if_neg hne]
  refine ⟨h.resolved.mono (fun r hr hplain => ?_) fun id hid => ⟨hid.token, hid.done, hid.intact⟩,
    fun r hr ha => ?_⟩
  · obtain ⟨r', hr', ha, hn, htag⟩ := hname r hr
    refine ⟨r', hr', htag fun he => ?_⟩
    rw [hn, h.free r' hr' (ha.trans he)] at hplain
    cases hplain
  · obtain ⟨r', hr', ha', hn, -⟩ := hname r hr
    rw [hn]
    exact h.free r' hr' (ha'.trans ha)

theorem keeps_emit {a : Address} (t : Token) : Keeps (Settled name a) (emit t) := by
  refine ⟨fun w _ => avoids_modify _ w, fun w w' h hrun => ?_⟩
  obtain rfl := emit_ok hrun
  exact h.addTokens [t]

theorem keeps_bind {P : Work → Prop} {x y : Working Unit} (hx : Keeps P x) (hy : Keeps P y) :
    Keeps P (x >>= fun _ => y) := by
  refine ⟨fun w hw => avoids_bind (hx.resolves w hw) fun _ w' hrun => ?_, fun w w'' hw hrun => ?_⟩
  · exact hy.resolves w' (hx.kept w w' hw hrun)
  · obtain ⟨_, w', hrun, hrest⟩ := bind_ok hrun
    exact hy.kept w' w'' (hx.kept w w' hw hrun) hrest

theorem keeps_read {α : Type} {P : Work → Prop} {x : Working α} {f : α → Working Unit}
    (hreads : x.Reads) (hx : ∀ w, x.Resolves w) (hf : ∀ a, Keeps P (f a)) : Keeps P (x >>= f) := by
  refine ⟨fun w hw => avoids_bind (hx w) fun a w' hrun => ?_, fun w w'' hw hrun => ?_⟩
  · obtain rfl := hreads.eq hrun
    exact (hf a).resolves w' hw
  · obtain ⟨a, w', hrun, hrest⟩ := bind_ok hrun
    obtain rfl := hreads.eq hrun
    exact (hf a).kept w' w'' hw hrest

theorem keeps_attributeHelper (q : Place) (a : Attribute) :
    Keeps (Settled name m.address) (attributeHelper p m q a) := by
  have hhelper : ∀ t, Keeps (Settled name m.address)
      (emit t >>= fun _ => dropAttribute m.address a.name) :=
    fun t => keeps_bind (keeps_emit t) (keeps_dropAttribute a.name)
  have hsite : ∀ w, (attributeSite p q a).Resolves w :=
    fun w => avoids_ofExcept (resolves_token p _ _ _ _) w
  rw [attributeHelper]
  dsimp only
  split
  · exact keeps_read (reads_attributeSite p q a) hsite fun t =>
      keeps_bind (keeps_emit t) (hhelper _)
  · exact hhelper _

theorem keeps_elementHelper (hname : p.policy.Names name) :
    Keeps (Settled name m.address) (elementHelper p m) := by
  have hsites : ∀ q : Place, ∀ s ∈ (p.selector.elementHelperExpressions q.tag).map
      (Site.attributeOf q), s.owner = q := by
    intro q s hs
    obtain ⟨a, -, rfl⟩ := List.mem_map.1 hs
    rfl
  refine ⟨fun w h => avoids_bind (avoids_placeAt rfl _ w) fun q w' hq => ?_, fun w w' h hrun => ?_⟩
  · obtain ⟨rfl, ha, hl⟩ := placeAt_ok hq
    have hmem : q ∈ w'.root.places := mem_places_iff.2 (ha ▸ hl)
    split
    · refine avoids_bind (resolves_emitSites hname h.resolved fun s hs => ?_)
        fun _ w _ => avoids_modify _ w
      rw [hsites q s hs]
      exact hmem
    · exact avoids_pure _ _
  · obtain ⟨q, mid, hq, hhelper⟩ := bind_ok hrun
    obtain ⟨rfl, -, -⟩ := placeAt_ok hq
    split at hhelper
    · obtain ⟨_, mid', hemitted, hemit⟩ := bind_ok hhelper
      obtain ⟨ts, -, rfl⟩ := emitSites_ok p hemitted rfl
      obtain rfl := emit_ok hemit
      exact (h.addTokens ts).addTokens [_]
    · obtain ⟨-, rfl⟩ := pure_ok hhelper
      exact h

theorem owner_of_mem_sitesAt {withAttributes : Bool} {s : Site}
    (h : s ∈ p.selector.sitesAt withAttributes q) : s.owner = q := by
  rw [Selector.sitesAt] at h
  split at h
  · rcases List.mem_append.1 h with h | h
    · split at h
      · rw [List.mem_singleton.1 h, Site.owner]
      · cases h
    · split at h
      · obtain ⟨a, -, rfl⟩ := List.mem_map.1 h
        rfl
      · cases h
  · cases h

theorem owner_of_mem_nodeExpressions {s : Site} (h : s ∈ p.selector.nodeExpressions q) :
    s.owner = q ∨ s.owner ∈ q.below := by
  rcases List.mem_append.1 h with h | h
  · exact .inl (owner_of_mem_sitesAt h)
  · obtain ⟨r, hr, hs⟩ := List.mem_flatMap.1 h
    exact .inr (owner_of_mem_sitesAt hs ▸ hr)

theorem tell_ok {w w' : Work} (h : tell p m w = .ok ((), w')) :
    ∃ ts, w' = { w with tokens := ts ++ w.tokens } := by
  obtain ⟨_, w₁, h₁, hrun₁⟩ := bind_ok h
  obtain ⟨-, rfl⟩ := ofExcept_ok h₁
  obtain ⟨q, w₂, h₂, hrun₂⟩ := bind_ok hrun₁
  obtain rfl := (reads_placeAt _).eq h₂
  obtain ⟨_, w₃, h₃, hrun₃⟩ := bind_ok hrun₂
  obtain ⟨ts, -, rfl⟩ := emitSites_ok p h₃ rfl
  obtain ⟨_, w₄, h₄, hrun₄⟩ := bind_ok hrun₃
  obtain rfl := (reads_previous? p m).eq h₄
  obtain ⟨_, w₅, h₅, hrun₅⟩ := bind_ok hrun₄
  obtain rfl := (reads_next? p m).eq h₅
  obtain ⟨_, w₆, h₆, hrun₆⟩ := bind_ok hrun₅
  obtain rfl := (reads_children p m).eq h₆
  obtain rfl := emit_ok hrun₆
  exact ⟨_ :: ts, rfl⟩

theorem keeps_tell (hname : p.policy.Names name) : Keeps (Settled name m.address) (tell p m) := by
  refine ⟨fun w h => ?_, fun w w' h hrun => ?_⟩
  · refine avoids_bind (avoids_ofExcept (p.policy.avoids_checkShield.resolves) w) fun _ w₁ h₁ => ?_
    obtain ⟨-, rfl⟩ := ofExcept_ok h₁
    refine avoids_bind (avoids_placeAt rfl _ w₁) fun q w₂ hq => ?_
    obtain ⟨rfl, ha, hl⟩ := placeAt_ok hq
    have hmem : q ∈ w₂.root.places := mem_places_iff.2 (ha ▸ hl)
    refine avoids_bind (resolves_emitSites hname h.resolved fun s hs => ?_) fun _ w₃ h₃ => ?_
    · rcases owner_of_mem_nodeExpressions hs with hself | hbelow
      · exact hself ▸ hmem
      · exact ((mem_below_iff hmem).1 hbelow).1
    obtain ⟨ts, -, rfl⟩ := emitSites_ok p h₃ rfl
    have hresolved := h.resolved.addTokens ts
    refine avoids_bind (avoids_previous? rfl p m _) fun _ w₄ h₄ => ?_
    obtain rfl := (reads_previous? p m).eq h₄
    refine avoids_bind (resolves_next? hresolved hname m) fun _ w₅ h₅ => ?_
    obtain rfl := (reads_next? p m).eq h₅
    exact avoids_bind (resolves_children hresolved hname m) fun _ w₆ _ => avoids_modify _ w₆
  · obtain ⟨ts, rfl⟩ := tell_ok hrun
    exact h.addTokens ts

theorem resolves_leavePlaceholder (hname : p.policy.Names name) (m : Marker) (w : Work) :
    (leavePlaceholder p m).Resolves w := by
  rw [leavePlaceholder]
  split
  · exact avoids_pure _ _
  · refine avoids_bind (avoids_placeAt rfl _ w) fun q w' _ => ?_
    rw [hname.newPlaceholder]
    exact avoids_bind (avoids_pure _ _) fun _ w _ => avoids_modify _ w

/-- Placeholders are resolved throughout the work on a node, if they are when it begins and when it
ends. -/
theorem throughout_steps (hname : p.policy.Names name) {w : Work} (h : Settled name m.address w)
    (hq : placeAt m.address w = .ok (q, w))
    (hend : m.address ≠ [] → ∀ w', node p m w = .ok ((), w') → w'.Resolved name) :
    Throughout (Work.Resolved name) (steps p m q) w := by
  have hsplit : steps p m q
      = (keep m q :: (p.selector.helperAttributes q.tag).reverse.map (attributeHelper p m q)
        ++ [elementHelper p m, tell p m, mark m]) ++ [leavePlaceholder p m] := by
    simp [steps]
  rw [hsplit]
  refine throughout_append (fun _ hw => hw.resolved) (fun x hx => ?_) h fun w₁ h₁ hrun => ?_
  · rcases List.mem_append.1 hx with hx | hx
    · rcases List.mem_cons.1 hx with rfl | hx
      · exact keeps_keep q
      · obtain ⟨a, -, rfl⟩ := List.mem_map.1 hx
        exact keeps_attributeHelper q a
    · simp only [List.mem_cons, List.not_mem_nil, or_false] at hx
      rcases hx with rfl | rfl | rfl
      · exact keeps_elementHelper hname
      · exact keeps_tell hname
      · exact keeps_mark
  · refine ⟨h₁.resolved, resolves_leavePlaceholder hname m w₁, fun w₂ hleave => ?_⟩
    by_cases hroot : m.address = []
    · have hlast : m.address.getLast? = none := by rw [hroot, List.getLast?_nil]
      simp only [leavePlaceholder, hlast] at hleave
      obtain ⟨-, rfl⟩ := pure_ok hleave
      exact h₁.resolved
    refine hend hroot w₂ ?_
    rw [List.forM_eq_forM] at hrun
    rw [node_eq, bind_of_ok hq, hsplit, List.forM_eq_forM, List.forM_append, bind_of_ok hrun]
    show (leavePlaceholder p m >>= fun _ => pure ()) w₁ = _
    rw [bind_of_ok hleave]
    rfl

end Keeping

end Working

end Steps

section Run

variable {p : Pass} {policy : Policy} {root : Element} {name : String} {done : List Place}
  {q : Place}

theorem exists_lookup_map {α β : Type} (f : α → String × β) {xs : List α} {x : α} (hx : x ∈ xs) :
    ∃ e, (xs.map f).lookup (f x).1 = some e := by
  induction xs with
  | nil => cases hx
  | cons y xs ih =>
    rw [List.map_cons, List.lookup_cons]
    split
    · exact ⟨_, rfl⟩
    · rename_i hne
      rcases List.mem_cons.1 hx with rfl | hx
      · simp at hne
      · exact ih hx

theorem Pass.resolved_workAfter (hname : p.policy.Names name) (hlacks : root.Lacks name)
    (nodes : List Place) {ts : List Token}
    (hts : ∀ r ∈ done, ∃ f ∈ ts.filterMap Token.node?, f.id = p.idAt r.address) :
    ({ p.workAfter root nodes done with tokens := ts } : Work).Resolved name := by
  intro q hq hplain
  have hleaf : ∀ b e, p.placeholders done b = some e → e.children = [] :=
    fun _ _ he => children_placeholders he
  have hcut : (root.cut (p.placeholders done) []).places
      = root.places.filterMap ((p.placeholders done).shows 0) := by
    have hnode := placesOf_cutNode hleaf [] [] root.node
    rw [Element.node, cutNode] at hnode
    exact hnode
  have hq' : q ∈ (root.cut (p.placeholders done) []).places := hq
  rw [hcut, List.mem_filterMap] at hq'
  obtain ⟨r, hr, hshows⟩ := hq'
  rw [Placeholders.shows] at hshows
  split at hshows
  · cases hshows
  · cases hshows
    -- What has the name is no element of the document, so that a node has left it.
    cases hstanding : if 0 < r.address.length then p.placeholders done r.address else none with
    | none =>
      have htag : r.tag.name.isPlainly name = true := by
        rw [hstanding] at hplain
        exact hplain
      rw [hlacks r hr] at htag
      cases htag
    | some e =>
      have he : p.placeholders done r.address = some e := by
        split at hstanding
        · exact hstanding
        · cases hstanding
      obtain ⟨n, hfind, hnew⟩ := Option.bind_eq_some_iff.1 he
      rw [hname.newPlaceholder] at hnew
      cases hnew
      have hn := List.mem_of_find?_eq_some hfind
      have ha : n.address = r.address := by simpa using List.find?_some hfind
      refine ⟨p.idAt r.address, id?_plainPlaceholder name _, ⟨ha ▸ hts n hn, ?_, ?_⟩⟩
      · exact List.mem_map.2 ⟨n, hn, by rw [ha]⟩
      · rw [← ha]
        exact exists_lookup_map (p.intact nodes) hn

theorem Working.settled_workAfter (hdue : Pass.Due (p.selector.nodes root) done q)
    (hname : p.policy.Names name) (hlacks : root.Lacks name) {ts : List Token}
    (hts : ∀ r ∈ done, ∃ f ∈ ts.filterMap Token.node?, f.id = p.idAt r.address) :
    Settled name q.address
      { p.workAfter root (p.selector.nodes root) done with tokens := ts } := by
  refine ⟨Pass.resolved_workAfter hname hlacks (p.selector.nodes root) hts, fun r hr ha => ?_⟩
  have hlr := mem_places_iff.1 hr
  rw [ha] at hlr
  obtain ⟨-, he⟩ := Prod.mk.inj (Option.some.inj ((hdue.locate rfl).symm.trans hlr))
  rw [Place.tag, ← he]
  exact hlacks q (Selector.mem_places_of_mem_nodes hdue.mem)

/-- The work on a node that gives way leads to that on the next one, with one more token of a
node. -/
theorem Working.node_workAfter (hdue : Pass.Due (p.selector.nodes root) done q)
    (hroot : q.address ≠ []) {ts : List Token}
    (hts : ∀ r ∈ done, ∃ f ∈ ts.filterMap Token.node?, f.id = p.idAt r.address) {w' : Work}
    (h : node p (p.markerOf (p.selector.nodes root) q)
      { p.workAfter root (p.selector.nodes root) done with tokens := ts } = .ok ((), w')) :
    w' = { p.workAfter root (p.selector.nodes root) (q :: done) with tokens := w'.tokens }
      ∧ ∀ r ∈ q :: done, ∃ f ∈ w'.tokens.filterMap Token.node?, f.id = p.idAt r.address := by
  obtain ⟨b, rfl, -, htokens, hafter⟩ := node_ok rfl hdue h
  refine ⟨hafter hroot, fun r hr => ?_⟩
  rw [htokens, List.filterMap_append]
  rcases List.mem_cons.1 hr with rfl | hr
  · refine ⟨p.nodeFields (p.selector.nodes root) b, List.mem_append_left _ ?_, rfl⟩
    exact List.mem_filterMap.2 ⟨p.nodeToken (p.selector.nodes root) b, List.mem_cons_self .., rfl⟩
  · obtain ⟨f, hf, hid⟩ := hts r hr
    exact ⟨f, List.mem_append_right _ hf, hid⟩

/-- Placeholders are resolved throughout the work on the nodes that are left. -/
theorem Working.throughout_nodes (hp : Pass.Starts policy root p) (hname : policy.Names name)
    (hlacks : root.Lacks name) (todo : List Place)
    (h : byDepth (p.selector.nodes root) = todo.reverse ++ done) {ts : List Token}
    (hts : ∀ r ∈ done, ∃ f ∈ ts.filterMap Token.node?, f.id = p.idAt r.address) :
    ThroughoutNodes p (Work.Resolved name) (todo.map (p.markerOf (p.selector.nodes root)))
      { p.workAfter root (p.selector.nodes root) done with tokens := ts } := by
  have hname' : p.policy.Names name := hp.policy_eq.symm ▸ hname
  induction todo generalizing done ts with
  | nil => exact Pass.resolved_workAfter hname' hlacks _ hts
  | cons q todo ih =>
    rw [List.reverse_cons, List.append_assoc, List.singleton_append] at h
    have hdue := Pass.due_of_nodes h
    have hsettled := settled_workAfter hdue hname' hlacks hts
    have hrun := fun hroot w' => @node_workAfter p root done q hdue hroot ts hts w'
    have hl := hdue.locate rfl
    generalize hw : ({ p.workAfter root (p.selector.nodes root) done with tokens := ts } : Work) = w
      at hsettled hrun
    have hplace : placeAt q.address w = .ok (p.found (p.selector.nodes root) q, w) := by
      subst hw
      exact placeAt_of_locate rfl hl
    have hthroughout := throughout_steps hname' hsettled hplace fun hroot w' hnode => by
      obtain ⟨hafter, htold⟩ := hrun hroot w' hnode
      rw [hafter]
      exact Pass.resolved_workAfter hname' hlacks _ htold
    refine ⟨avoids_placeAt rfl _ w, fun r w' hr => ?_⟩
    cases hplace.symm.trans hr
    refine ⟨hthroughout, fun w' hsteps => ?_⟩
    by_cases hroot : q.address = []
    · -- The root is the last one.
      obtain rfl := Pass.eq_nil_of_root h hroot
      exact hthroughout.last hsteps
    · have hnode : node p (p.markerOf (p.selector.nodes root) q) w = .ok ((), w') := by
        rw [node_eq]
        exact (bind_of_ok hplace).trans hsteps
      obtain ⟨hafter, htold⟩ := hrun hroot w' hnode
      rw [hafter]
      exact ih h htold

end Run

namespace Document

/-- No lexing fails on a placeholder, and at every point of a pass each placeholder in the tree
carries the id of a node that has a token and of which a copy was kept. -/
theorem lex_resolves {policy : Policy} {name : String} {d : Markup.Document}
    (file : Option String) (hname : policy.Names name) (hlacks : d.root.Lacks name) :
    (∀ id spot, (lex policy d file).run.1 ≠ .error (.unresolvedPlaceholder id spot))
      ∧ ∀ p, (Pass.start policy d file).run.1 = .ok p →
        Working.ThroughoutNodes p (Work.Resolved name) p.schedule (Working.start d.root) := by
  have hpoints : ∀ p, Pass.Starts policy d.root p →
      Working.ThroughoutNodes p (Work.Resolved name) p.schedule (Working.start d.root) := by
    intro p hp
    rw [Pass.schedule_eq (p.selector.pairwise_nodes d.root) hp.markers,
      ← p.workAfter_nil d.root (p.selector.nodes d.root)]
    exact Working.throughout_nodes hp hname hlacks _ (by simp) fun r hr => by cases hr
  refine ⟨fun id spot hfail => ?_, fun p hstart => ?_⟩
  · rcases lex_error hfail with hother | ⟨p, hp, -, hrun⟩
    · cases hother
    · cases (hpoints p hp).resolves _ hrun
  · obtain ⟨log, hstart⟩ := Logged.run_ok hstart
    exact hpoints p (Pass.start_ok hstart).1

theorem lex_resolves_sample :
    (∀ id spot, (lex .standard sampleOfSiblings none).run.1
        ≠ .error (.unresolvedPlaceholder id spot))
      ∧ ∃ p, (Pass.start .standard sampleOfSiblings none).run.1 = .ok p
        ∧ p.schedule.length = 4
        ∧ Working.ThroughoutNodes p (Work.Resolved "__N_-_O_-_D_-_E__") p.schedule
            (Working.start sampleOfSiblings.root) := by
  have hlacks : sampleOfSiblings.root.Lacks "__N_-_O_-_D_-_E__" := by
    rw [Element.Lacks]
    decide +kernel
  obtain ⟨hresolves, hpoints⟩ := lex_resolves none Policy.names_standard hlacks
  obtain ⟨p, hp⟩ := Except.exists_of_isOk
    (show (Pass.start .standard sampleOfSiblings none).run.1.isOk = true by decide +kernel)
  have hlength : ((Pass.start .standard sampleOfSiblings none).run.1.toOption.map
      fun p => p.schedule.length) = some 4 := by decide +kernel
  rw [hp] at hlength
  exact ⟨hresolves, p, hp, Option.some.inj hlength, hpoints p hp⟩

end Document

end TemplateLexer
