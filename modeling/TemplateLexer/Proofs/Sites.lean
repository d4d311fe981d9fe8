import TemplateLexer.Proofs.Views

set_option autoImplicit false

namespace TemplateLexer

open Markup

section Text

def Markup.Node.onlyText (n : Node) : Node := if n.isCharacters then n else .reference ""

theorem Markup.Node.isCharacters_onlyText (n : Node) :
    n.onlyText.isCharacters = n.isCharacters := by
  cases n <;> rfl

theorem map_onlyText_joinFront (nodes : List Node) :
    (joinFront nodes).map Node.onlyText = joinFront (nodes.map Node.onlyText) := by
  refine apply_joinFront rfl (fun n rest hn => ?_) (fun n rest hn x hx => ?_) nodes
  · rw [List.map_cons, Node.onlyText, if_pos hn]
  · cases hx
    rw [Node.isCharacters_onlyText, hn]

theorem map_onlyText_cutNodes {ph ph' : Placeholders} {a : Address}
    (h : ∀ k, (ph (a ++ [k])).isSome = (ph' (a ++ [k])).isSome) (index : Nat)
    (nodes : List Node) :
    (cutNodes ph a index nodes).map Node.onlyText
      = (cutNodes ph' a index nodes).map Node.onlyText := by
  induction nodes generalizing index with
  | nil => simp
  | cons n rest ih =>
    cases hn : n.isCharacters with
    | true => rw [cutNodes_text hn, cutNodes_text hn, List.map_cons, List.map_cons, ih]
    | false =>
      have hsome : (ph.standsFor (a ++ [index]) n).isSome
          = (ph'.standsFor (a ++ [index]) n).isSome := by
        rw [Placeholders.standsFor, Placeholders.standsFor]
        split
        · exact h index
        · rfl
      cases hs : ph.standsFor (a ++ [index]) n with
      | none =>
        rw [hs] at hsome
        have hs' : ph'.standsFor (a ++ [index]) n = none := by simpa using hsome.symm
        rw [cutNodes_staying hn hs, cutNodes_staying hn hs', List.map_cons, List.map_cons, ih,
          Node.onlyText, Node.onlyText, isCharacters_cutNode, isCharacters_cutNode, hn]
        rfl
      | some e =>
        rw [hs] at hsome
        obtain ⟨e', hs'⟩ := Option.isSome_iff_exists.1 hsome.symm
        rw [cutNodes_standing hs, cutNodes_standing hs', List.map_cons, List.map_cons,
          map_onlyText_joinFront, map_onlyText_joinFront, ih]
        rfl

theorem hasText_eq (e : Element) :
    Selector.hasText e = (e.children.map Node.onlyText).any fun n =>
      n.isCharacters && hasDelimiter n.characters.toList := by
  rw [Selector.hasText, List.any_map]
  congr 1
  funext n
  cases n <;> rfl

theorem hasText_cut_congr {ph ph' : Placeholders} {a : Address}
    (h : ∀ k, (ph (a ++ [k])).isSome = (ph' (a ++ [k])).isSome) (e : Element) :
    Selector.hasText (e.cut ph a) = Selector.hasText (e.cut ph' a) := by
  rw [hasText_eq, hasText_eq]
  exact congrArg (List.any · _) (map_onlyText_cutNodes h 0 e.children)

end Text

namespace Selector

def gaps (nodes : List Place) : Placeholders := fun a =>
  if nodes.any (·.address == a) then some ⟨⟨.bare "", [], [], 0⟩, []⟩ else none

/-- Whether a text of an element holds a delimiter. What follows a node is one text there. -/
def holdsText (nodes : List Place) (r : Place) : Bool :=
  hasText (r.element.cut (gaps nodes) r.address)

def plainExpressions (s : Selector) (t : Tag) : List Attribute :=
  t.attributes.filter fun a => !a.name.isIn s.uris && s.holdsDelimiter a

def ownSitesAt (s : Selector) (nodes : List Place) (r : Place) : List Site :=
  if r.tags.any s.policy.shields then []
  else
    (if holdsText nodes r then [.contentOf r] else [])
      ++ if r.tag.name.isIn s.uris then []
        else (s.plainExpressions r.tag).map (.attributeOf r)

/-- The sites at an element that belong to the node around it. The attributes of a helper belong to
the helper. -/
def expressionsAt (s : Selector) (nodes : List Place) (r : Place) : List Site :=
  if s.exposed r.tags then
    (if holdsText nodes r then [.contentOf r] else [])
      ++ if r.tag.name.isInOrEmpty s.uris then []
        else (s.elementHelperExpressions r.tag).map (.attributeOf r)
  else []

def ownSites (s : Selector) (root : Element) (nodes : List Place) (q : Place) : List Site :=
  (root.places.filter (Place.owns nodes q)).flatMap (s.ownSitesAt nodes)

end Selector

section Placeholder

theorem mem_of_hasDelimiter {cs : List Char} (h : hasDelimiter cs = true) : '%' ∈ cs := by
  fun_induction hasDelimiter cs with
  | case1 => simp
  | case2 => simp
  | case3 c cs _ _ ih => exact List.mem_cons_of_mem _ (ih h)
  | case4 => cases h

theorem digitChar_ne_percent (n : Nat) : Nat.digitChar n ≠ '%' := by
  rcases Nat.lt_or_ge n 16 with hn | hn
  · have hall : ∀ k < 16, Nat.digitChar k ≠ '%' := by decide
    exact hall n hn
  · rw [Nat.digitChar_eq_star.2 hn]
    decide

theorem Digest.hasDelimiter_hex (digest : Digest) (s : String) :
    hasDelimiter (digest.hex s).toList = false := by
  rw [Bool.eq_false_iff]
  intro h
  have hmem := mem_of_hasDelimiter h
  rw [Digest.hex, String.toList_ofList, List.mem_flatMap] at hmem
  obtain ⟨b, -, hb⟩ := hmem
  rw [Digest.hexPair, List.mem_cons, List.mem_singleton] at hb
  rcases hb with hb | hb
  · exact digitChar_ne_percent _ hb.symm
  · exact digitChar_ne_percent _ hb.symm

theorem Policy.attributes_newPlaceholder {policy : Policy} {above : List Tag} {id : String}
    {e : Element} (h : policy.newPlaceholder above id = .ok e) :
    e.tag.attributes = [⟨.bare "id", [.text id]⟩] := by
  obtain ⟨s, uri, base, -, -, rfl⟩ := newPlaceholder_ok h
  rfl

end Placeholder

section Marks

/-- What of a tag matters further in: the name, and what it declares. -/
def Markup.Tag.frame (t : Tag) : Name × List Declaration := (t.name, t.declarations)

/-- Where a site is: the element, the line, and the attribute with the name that an author
writes. -/
structure SiteMark where
  address : Address
  line : Nat
  inAttribute : Option (Attribute × String)
  deriving DecidableEq, Repr

def Site.owner : Site → Place
  | .attributeOf owner _ => owner
  | .contentOf owner => owner

def Site.mark : Site → SiteMark
  | .attributeOf owner a =>
    ⟨owner.address, owner.tag.line, some (a, qualifiedName owner.tags a.name.uri a.name.base)⟩
  | .contentOf owner => ⟨owner.address, owner.tag.line, none⟩

variable {s : Selector} {tags tags' : List Tag}

theorem any_shields_congr (policy : Policy) (h : tags.map Tag.frame = tags'.map Tag.frame) :
    tags.any policy.shields = tags'.any policy.shields := by
  have hframe : ∀ l : List Tag, l.any policy.shields = (l.map Tag.frame).any fun f =>
      f.1.uri.getD "" == policy.rawUri.bare && f.1.base == policy.rawBase.bare := by
    intro l
    rw [List.any_map]
    rfl
  rw [hframe, hframe, h]

theorem bindings_congr (h : tags.map Tag.frame = tags'.map Tag.frame) :
    bindings tags = bindings tags' := by
  have hframe : ∀ l : List Tag, bindings l
      = (l.map Tag.frame).foldl (fun bound f => extend bound f.2) [] := by
    intro l
    rw [bindings, List.foldl_map]
    rfl
  rw [hframe, hframe, h]

theorem qualifiedName_congr (h : tags.map Tag.frame = tags'.map Tag.frame)
    (uri : Option String) (base : String) :
    qualifiedName tags uri base = qualifiedName tags' uri base := by
  unfold qualifiedName
  rw [bindings_congr h]

theorem Markup.Name.isInOrEmpty_eq_isIn {uris : List String} (h : "" ∉ uris) (n : Name) :
    n.isInOrEmpty uris = n.isIn uris := by
  rw [isInOrEmpty, isIn]
  cases n.uri with
  | none => simp [h]
  | some u => rfl

end Marks

section Owned

theorem forall₂_flatMap_filter {α β γ : Type} {R : β → γ → Prop} {f : α → List β} {g : α → List γ}
    {P Q : α → Bool} {xs : List α}
    (h : ∀ x ∈ xs, List.Forall₂ R (if P x then f x else []) (if Q x then g x else [])) :
    List.Forall₂ R ((xs.filter P).flatMap f) ((xs.filter Q).flatMap g) := by
  induction xs with
  | nil => exact .nil
  | cons x xs ih =>
    have hx := h x (List.mem_cons_self ..)
    have hxs := ih fun y hy => h y (List.mem_cons_of_mem _ hy)
    have hsplit : ∀ {δ : Type} (k : α → List δ) (T : α → Bool),
        ((x :: xs).filter T).flatMap k = (if T x then k x else []) ++ (xs.filter T).flatMap k := by
      intro δ k T
      rw [List.filter_cons]
      split <;> rfl
    rw [hsplit, hsplit]
    exact List.rel_append hx hxs

theorem forall₂_flatMap {α β γ : Type} {R : β → γ → Prop} {f : α → List β} {g : α → List γ}
    {xs : List α} (h : ∀ x ∈ xs, List.Forall₂ R (f x) (g x)) :
    List.Forall₂ R (xs.flatMap f) (xs.flatMap g) := by
  have hall := forall₂_flatMap_filter (P := fun _ => true) (Q := fun _ => true) h
  rwa [List.filter_true] at hall

theorem flatMap_filter_congr {α β : Type} {f g : α → List β} {P Q : α → Bool} {xs : List α}
    (h : ∀ x ∈ xs, (if P x then f x else []) = if Q x then g x else []) :
    (xs.filter P).flatMap f = (xs.filter Q).flatMap g := by
  rw [← List.forall₂_eq_eq_eq]
  refine forall₂_flatMap_filter fun x hx => ?_
  rw [List.forall₂_eq_eq_eq]
  exact h x hx

variable {p : Pass} {policy : Policy} {root : Element} {nodes : List Place} {q r : Place}

theorem Selector.holdsDelimiter_eq {s : Selector} (h : s.expand = fun _ => "") (a : Attribute) :
    s.holdsDelimiter a = hasDelimiter a.plainValue.toList := by
  rw [holdsDelimiter, h]
  rfl

theorem Markup.Place.owns_eq_of_mem_below (hr : r ∈ q.below) : Place.owns nodes q r
    = (Place.isNearest nodes q r && !nodes.any (·.address == r.address)) := by
  obtain ⟨-, hne⟩ := prefix_of_mem_below hr
  rw [owns, nodeOver?, isNearest]
  cases hf : nodes.find? (·.address == r.address) with
  | none =>
    have hany : nodes.any (·.address == r.address) = false := by
      rw [List.any_eq_false]
      intro n hn
      simpa using find?_eq_none_iff.1 hf n hn
    rw [hany, Option.none_or, Bool.not_false, Bool.and_true]
  | some n =>
    have ha : n.address = r.address := by simpa using List.find?_some hf
    have hany : nodes.any (·.address == r.address) = true :=
      List.any_eq_true.2 ⟨n, List.mem_of_find?_eq_some hf, by simp [ha]⟩
    have hother : (n.address == q.address) = false := by
      rw [ha]
      simpa using Ne.symm hne
    rw [hany, Option.some_or, Option.any_some, hother, Bool.not_true, Bool.and_false]

theorem filter_owns (h : Place.Apart nodes) (hmem : ∀ n ∈ nodes, n ∈ root.places) (hq : q ∈ nodes) :
    root.places.filter (Place.owns nodes q) = q :: q.below.filter (Place.owns nodes q) := by
  have hsorted : (q :: q.below.filter (Place.owns nodes q)).Pairwise
      fun x y => x.address < y.address := by
    refine .cons ?_ ((pairwise_placesBelow _ _ _ _).filter _)
    intro r hr
    obtain ⟨hpre, hne⟩ := prefix_of_mem_below (List.mem_filter.1 hr).1
    exact Address.lt_of_prefix_of_ne hpre hne
  refine eq_of_mem_iff (root.pairwise_places.filter _) hsorted fun r => ?_
  rw [List.mem_filter, List.mem_cons, List.mem_filter, mem_below_iff (hmem q hq)]
  constructor
  · rintro ⟨hr, howns⟩
    have hpre := ((nodeOver?_eq_some_iff h).1 ((Place.owns_iff h hq).1 howns)).2.1
    by_cases he : q.address = r.address
    · exact .inl (eq_of_mem_places hr (hmem q hq) he.symm)
    · exact .inr ⟨⟨hr, hpre, he⟩, howns⟩
  · rintro (rfl | ⟨⟨hr, -, -⟩, howns⟩)
    · exact ⟨hmem _ hq, (Place.owns_iff h hq).2 (nodeOver?_self h hq)⟩
    · exact ⟨hr, howns⟩

theorem Selector.isInOrEmpty_of_not_node {s : Selector} (hr : r ∈ root.places)
    (hn : r ∉ s.nodes root) (he : s.exposed r.tags = true) :
    r.tag.name.isInOrEmpty s.uris = false
      ∧ ∀ a ∈ r.tag.attributes, a.name.isInOrEmpty s.uris = false := by
  have habove : s.exposed r.above = true := by
    rw [exposed, Place.tags, List.any_cons, Bool.not_or, Bool.and_eq_true] at he
    exact he.2
  have hmarked : s.isMarked r = false := by
    rw [Bool.eq_false_iff]
    exact fun hm => hn (mem_nodes_iff.2 ⟨hr, .inr hm⟩)
  rw [isMarked, habove, Bool.true_and, Bool.or_eq_false_iff, List.any_eq_false] at hmarked
  exact ⟨hmarked.1, fun a ha => by simpa using hmarked.2 a ha⟩

theorem any_address_iff (hmem : ∀ n ∈ nodes, n ∈ root.places) (hr : r ∈ root.places) :
    nodes.any (·.address == r.address) = true ↔ r ∈ nodes := by
  rw [List.any_eq_true]
  constructor
  · rintro ⟨n, hn, ha⟩
    rw [← eq_of_mem_places (hmem n hn) hr (by simpa using ha)]
    exact hn
  · intro hn
    exact ⟨r, hn, by simp⟩

theorem Selector.any_address_iff {s : Selector} (hr : r ∈ root.places) :
    (s.nodes root).any (·.address == r.address) = true ↔ r ∈ s.nodes root :=
  TemplateLexer.any_address_iff (fun _ hn => mem_places_of_mem_nodes hn) hr

theorem Selector.any_address_eq_false {s : Selector} (hr : r ∈ root.places)
    (h : r ∉ s.nodes root) : (s.nodes root).any (·.address == r.address) = false :=
  Bool.eq_false_iff.2 fun hany => h ((any_address_iff hr).1 hany)

theorem Selector.owner_of_mem_ownSitesAt {s : Selector} {site : Site}
    (h : site ∈ s.ownSitesAt nodes r) : site.owner = r := by
  rw [ownSitesAt] at h
  split at h
  · cases h
  · rw [List.mem_append] at h
    rcases h with h | h
    · split at h
      · rw [List.mem_singleton.1 h, Site.owner]
      · cases h
    · split at h
      · cases h
      · obtain ⟨a, -, rfl⟩ := List.mem_map.1 h
        rfl

theorem Selector.owner_mem_of_mem_ownSites {s : Selector} {site : Site}
    (h : site ∈ s.ownSites root nodes q) : site.owner ∈ root.places := by
  obtain ⟨r, hr, hsite⟩ := List.mem_flatMap.1 h
  rw [owner_of_mem_ownSitesAt hsite]
  exact (List.mem_filter.1 hr).1

theorem sitesAt_placeholder {s : Selector} (hs : s.expand = fun _ => "") {x : String}
    {digest : Digest} {e : Element} {above : List Tag}
    (he : s.policy.newPlaceholder above (digest.hex x) = .ok e) (hr : r.element = e) :
    s.sitesAt true r = [] := by
  have hchildren := Policy.children_newPlaceholder he
  have hattributes := Policy.attributes_newPlaceholder he
  have htext : Selector.hasText r.element = false := by
    rw [hr, Selector.hasText, hchildren]
    rfl
  have hid : r.tag.attributes.filter s.holdsDelimiter = [] := by
    rw [Place.tag, hr, hattributes, List.filter_singleton, Selector.holdsDelimiter_eq hs]
    have hvalue : (⟨.bare "id", [.text (digest.hex x)]⟩ : Attribute).plainValue
        = digest.hex x := by
      simp [Attribute.plainValue, Attribute.valueWith, String.join]
    rw [hvalue, digest.hasDelimiter_hex]
    rfl
  rw [Selector.sitesAt, htext, hid]
  split <;> rfl

theorem hasText_found (hnodes : Place.Apart nodes) (hfills : p.FillsIn nodes r) :
    Selector.hasText (p.found nodes r).element = Selector.holdsText nodes r := by
  refine hasText_cut_congr (fun k => ?_) r.element
  have hfilled : ∀ n ∈ nodes, n.address = r.address ++ [k] →
      ∃ e, p.policy.newPlaceholder n.above (p.idAt n.address) = .ok e :=
    fun n hn he => hfills n hn (he ▸ List.prefix_append _ _) (by simp [he])
  rw [Bool.eq_iff_iff, Pass.isSome_placeholders_iff_of hnodes hfilled, Selector.gaps]
  simp only [List.any_eq_true, beq_iff_eq]
  split <;> simp_all

end Owned

section Shown

/-- How the tag of an element is shown: some of its attributes may have gone. -/
structure Markup.Place.Resembles (x r : Place) : Prop where
  address : x.address = r.address
  line : x.tag.line = r.tag.line
  frames : x.tags.map Tag.frame = r.tags.map Tag.frame
  attributes : ∀ a ∈ x.tag.attributes, a ∈ r.tag.attributes

theorem Markup.Place.Resembles.refl (q : Place) : q.Resembles q := ⟨rfl, rfl, rfl, fun _ ha => ha⟩

namespace Pass

variable {p : Pass} {policy : Policy} {root : Element} {q r x : Place} {s y : Site}

/-- How a node shows an element that belongs to it: nodes inside the element have given way. -/
structure Shows (p : Pass) (nodes : List Place) (r x : Place) : Prop where
  address : x.address = r.address
  children : x.element.children = cutNodes (p.placeholders nodes) r.address 0 r.element.children

/-- What a node shows as it stands inside it. -/
def shown (p : Pass) (nodes : List Place) (q r : Place) : Place :=
  (p.standing nodes r).under q.tags.length (p.view nodes q).tags

theorem resembles_view (nodes : List Place) (q : Place) : (p.view nodes q).Resembles q :=
  ⟨rfl, rfl, rfl, fun _ ha => (List.mem_filter.1 ha).1⟩

theorem resembles_shown (hr : r ∈ q.below)
    (hother : ∀ n ∈ p.selector.nodes root, n.address ≠ r.address) :
    (p.shown (p.selector.nodes root) q r).Resembles r
      ∧ p.Shows (p.selector.nodes root) r (p.shown (p.selector.nodes root) q r) := by
  have habove : (p.view (p.selector.nodes root) q).tags.map Tag.frame = q.tags.map Tag.frame := rfl
  rw [shown, standing_eq_found hother]
  exact ⟨⟨rfl, rfl, congrArg (r.tag.frame :: ·) (Place.map_above_under (q := r) hr habove),
    fun _ ha => ha⟩, ⟨rfl, rfl⟩⟩

/-- How a site of a document is shown when its token is made. -/
inductive ShowsSite (p : Pass) (root : Element) : Site → Site → Prop
  | inAttribute {r x : Place} {a : Attribute} (mem : r ∈ root.places) (tag : x.Resembles r) :
      ShowsSite p root (.attributeOf r a) (.attributeOf x a)
  | inContent {r x : Place} (mem : r ∈ root.places) (tag : x.Resembles r)
      (children : p.Shows (p.selector.nodes root) r x) :
      ShowsSite p root (.contentOf r) (.contentOf x)

theorem showsSites_attributes (hr : r ∈ root.places) (htag : x.Resembles r)
    (attributes : List Attribute) :
    List.Forall₂ (p.ShowsSite root) (attributes.map (.attributeOf r))
      (attributes.map (.attributeOf x)) := by
  rw [List.forall₂_map_left_iff, List.forall₂_map_right_iff]
  exact List.forall₂_same.2 fun a _ => .inAttribute hr htag

theorem showsSites_sitesAt (hfills : p.FillsIn (p.selector.nodes root) r) (hr : r ∈ root.places)
    (htag : x.Resembles r) (hshows : p.Shows (p.selector.nodes root) r x) {withAttributes : Bool}
    (hattributes : p.selector.exposed r.tags = true →
      (if withAttributes then x.tag.attributes.filter p.selector.holdsDelimiter else [])
        = if r.tag.name.isInOrEmpty p.selector.uris then []
          else p.selector.elementHelperExpressions r.tag) :
    List.Forall₂ (p.ShowsSite root) (p.selector.expressionsAt (p.selector.nodes root) r)
      (p.selector.sitesAt withAttributes x) := by
  have htext : Selector.hasText x.element = Selector.holdsText (p.selector.nodes root) r := by
    rw [← hasText_found (Place.apart_nodes p.selector root) hfills, Selector.hasText,
      Selector.hasText, hshows.children]
    rfl
  have hexposed : p.selector.exposed x.tags = p.selector.exposed r.tags := by
    rw [Selector.exposed, Selector.exposed, any_shields_congr p.selector.policy htag.frames]
  rw [Selector.expressionsAt, Selector.sitesAt, hexposed, htext]
  split
  · rename_i he
    have hlists : (if withAttributes then
          (x.tag.attributes.filter p.selector.holdsDelimiter).map (Site.attributeOf x) else [])
        = (if r.tag.name.isInOrEmpty p.selector.uris then []
          else p.selector.elementHelperExpressions r.tag).map (Site.attributeOf x) := by
      rw [← hattributes he]
      split <;> rfl
    have hlists' : (if r.tag.name.isInOrEmpty p.selector.uris then []
          else (p.selector.elementHelperExpressions r.tag).map (Site.attributeOf r))
        = (if r.tag.name.isInOrEmpty p.selector.uris then []
          else p.selector.elementHelperExpressions r.tag).map (Site.attributeOf r) := by
      split <;> rfl
    rw [hlists, hlists']
    refine List.rel_append ?_ ?_
    · split
      · exact .cons (.inContent hr htag hshows) .nil
      · exact .nil
    · exact showsSites_attributes hr htag _
  · exact .nil

theorem showsSites_below (hp : Starts policy root p) (hq : q ∈ p.selector.nodes root)
    (hfills : p.FillsIn (p.selector.nodes root) q) :
    List.Forall₂ (p.ShowsSite root)
      ((q.below.filter (Place.owns (p.selector.nodes root) q)).flatMap
        (p.selector.expressionsAt (p.selector.nodes root)))
      ((p.view (p.selector.nodes root) q).below.flatMap (p.selector.sitesAt true)) := by
  have hapart := Place.apart_nodes p.selector root
  have hexpand : p.selector.expand = fun _ => "" := by rw [hp.selector]
  have hmem := Selector.mem_places_of_mem_nodes hq
  rw [below_view hapart hfills hq, List.map_map, List.flatMap_map]
  refine forall₂_flatMap_filter fun r hr => ?_
  obtain ⟨hrmem, hpre, hne⟩ := (mem_below_iff hmem).1 hr
  rw [Place.owns_eq_of_mem_below hr]
  cases hnear : Place.isNearest (p.selector.nodes root) q r with
  | false => exact .nil
  | true =>
    rw [if_pos rfl, Bool.true_and]
    by_cases hnode : r ∈ p.selector.nodes root
    · obtain ⟨e, hnew⟩ := hfills r hnode hpre hne.symm
      have hempty : p.selector.sitesAt true (p.shown (p.selector.nodes root) q r) = [] :=
        sitesAt_placeholder hexpand hnew (standing_of_mem hapart hnode hnew)
      rw [(Selector.any_address_iff hrmem).2 hnode]
      show List.Forall₂ _ [] (p.selector.sitesAt true (p.shown (p.selector.nodes root) q r))
      rw [hempty]
      exact .nil
    · obtain ⟨htag, hshows⟩ := resembles_shown hr (Selector.address_ne_of_notMem hrmem hnode)
      rw [Selector.any_address_eq_false hrmem hnode, Bool.not_false, if_pos rfl]
      refine showsSites_sitesAt (hfills.mono hpre) hrmem htag hshows fun he => ?_
      obtain ⟨hname, hplain⟩ := Selector.isInOrEmpty_of_not_node hrmem hnode he
      have hattributes : (p.shown (p.selector.nodes root) q r).tag.attributes
          = r.tag.attributes := by
        rw [shown, standing_eq_found (Selector.address_ne_of_notMem hrmem hnode)]
        rfl
      rw [hname, hattributes]
      refine List.filter_congr fun a ha => ?_
      rw [hplain a ha, Bool.not_false, Bool.true_and]

theorem showsSites_nodeExpressions (hp : Starts policy root p) (hq : q ∈ p.selector.nodes root)
    (hfills : p.FillsIn (p.selector.nodes root) q) :
    List.Forall₂ (p.ShowsSite root)
      ((root.places.filter (Place.owns (p.selector.nodes root) q)).flatMap
        (p.selector.expressionsAt (p.selector.nodes root)))
      (p.selector.nodeExpressions (p.view (p.selector.nodes root) q)) := by
  rw [Selector.nodeExpressions, filter_owns (Place.apart_nodes p.selector root)
    (fun _ hn => Selector.mem_places_of_mem_nodes hn) hq, List.flatMap_cons]
  refine List.rel_append ?_ (showsSites_below hp hq hfills)
  refine showsSites_sitesAt hfills (Selector.mem_places_of_mem_nodes hq) (resembles_view _ q)
    ⟨rfl, rfl⟩ fun _ => ?_
  have hname : (p.view (p.selector.nodes root) q).tag.name = q.tag.name := rfl
  have hattributes : (p.view (p.selector.nodes root) q).tag.attributes
      = q.tag.attributes.filter fun a => !a.name.isInOrEmpty p.selector.uris := rfl
  rw [hname, hattributes, List.filter_filter]
  cases q.tag.name.isInOrEmpty p.selector.uris with
  | true => rfl
  | false => exact List.filter_congr fun a _ => Bool.and_comm _ _

theorem ShowsSite.mark_eq (h : p.ShowsSite root s y) : s.mark = y.mark := by
  cases h with
  | inAttribute _ tag =>
    simp only [Site.mark, tag.address, tag.line, qualifiedName_congr tag.frames]
  | inContent _ tag _ => simp only [Site.mark, tag.address, tag.line]

end Pass

theorem Selector.expressionsAt_eq {s : Selector} (he : "" ∉ s.uris) (nodes : List Place)
    (r : Place) : s.expressionsAt nodes r = s.ownSitesAt nodes r := by
  have hplain : s.elementHelperExpressions r.tag = s.plainExpressions r.tag :=
    List.filter_congr fun a _ => by rw [Name.isInOrEmpty_eq_isIn he]
  rw [expressionsAt, ownSitesAt, exposed, hplain, Name.isInOrEmpty_eq_isIn he]
  cases r.tags.any s.policy.shields <;> rfl

theorem map_mark_nodeExpressions {p : Pass} {policy : Policy} {root : Element} {q : Place}
    (hp : Pass.Starts policy root p) (hfills : p.Fills (p.selector.nodes root))
    (he : "" ∉ p.selector.uris) (hq : q ∈ p.selector.nodes root) :
    (p.selector.nodeExpressions (p.view (p.selector.nodes root) q)).map Site.mark
      = (p.selector.ownSites root (p.selector.nodes root) q).map Site.mark := by
  have hown : p.selector.ownSites root (p.selector.nodes root) q
      = (root.places.filter (Place.owns (p.selector.nodes root) q)).flatMap
          (p.selector.expressionsAt (p.selector.nodes root)) :=
    List.flatMap_congr fun r _ => (Selector.expressionsAt_eq he _ r).symm
  rw [hown, eq_comm, ← List.forall₂_eq_eq_eq, List.forall₂_map_left_iff,
    List.forall₂_map_right_iff]
  exact (Pass.showsSites_nodeExpressions hp hq (hfills.inside q)).imp fun _ _ h => h.mark_eq

end Shown

end TemplateLexer
