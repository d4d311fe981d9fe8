import TemplateLexer.Proofs.Blocks

set_option autoImplicit false

namespace TemplateLexer

open Markup

section Order

variable {nodes before done : List Place} {q r : Place}

theorem Markup.Place.IsHigher.asymm (h : q.IsHigher r) : ¬r.IsHigher q := by
  rcases h with hd | ⟨hd, hlt⟩
  · rintro (hd' | ⟨hd', -⟩) <;> omega
  · rintro (hd' | ⟨-, hlt'⟩)
    · omega
    · exact List.lt_irrefl _ (List.lt_trans hlt hlt')

theorem mem_of_byDepth_iff
    (horder : nodes.Pairwise fun p q => p.address < q.address)
    (h : byDepth nodes = before ++ q :: done) : r ∈ done ↔ r ∈ nodes ∧ q.IsHigher r := by
  have hsorted := pairwise_byDepth horder
  rw [h, List.pairwise_append, List.pairwise_cons] at hsorted
  obtain ⟨-, ⟨hdone, -⟩, hbefore⟩ := hsorted
  have hmem : r ∈ nodes ↔ r ∈ before ∨ r = q ∨ r ∈ done := by
    rw [← mem_byDepth, h, List.mem_append, List.mem_cons]
  rw [hmem]
  constructor
  · exact fun hr => ⟨.inr (.inr hr), hdone r hr⟩
  · rintro ⟨hr | rfl | hr, hqr⟩
    · exact absurd hqr (hbefore r hr q (List.mem_cons_self ..)).asymm
    · exact absurd hqr hqr.asymm
    · exact hr

theorem Pass.due_of_byDepth {root : Element} (hplaces : ∀ r ∈ nodes, r ∈ root.places)
    (horder : nodes.Pairwise fun p q => p.address < q.address)
    (h : byDepth nodes = before ++ q :: done) : Pass.Due nodes done q := by
  have hdone : ∀ r, r ∈ done ↔ r ∈ nodes ∧ q.IsHigher r := fun r => mem_of_byDepth_iff horder h
  have hq : q ∈ nodes := by
    rw [← mem_byDepth, h]
    simp
  refine ⟨hq, fun r hr => ((hdone r).1 hr).1, fun r hr => ?_, fun r hr hpre hne => ?_⟩
  · obtain ⟨hold, hhigher⟩ := (hdone r).1 hr
    exact not_prefix_of_isHigher (hplaces q hq) (hplaces r hold) hhigher
  · refine (hdone r).2 ⟨hr, .inl ?_⟩
    rw [depth_of_mem_places (hplaces q hq), depth_of_mem_places (hplaces r hr)]
    exact hpre.length_le.lt_of_ne fun hlen => hne (hpre.eq_of_length hlen).symm

theorem Pass.due_of_nodes {p : Pass} {root : Element}
    (h : byDepth (p.selector.nodes root) = before ++ q :: done) :
    Pass.Due (p.selector.nodes root) done q :=
  due_of_byDepth (fun _ hr => Selector.mem_places_of_mem_nodes hr)
    (p.selector.pairwise_nodes root) h

theorem Pass.eq_nil_of_root {p : Pass} {root : Element} {todo : List Place}
    (h : byDepth (p.selector.nodes root) = todo.reverse ++ q :: done) (ha : q.address = []) :
    todo = [] := by
  have hdepth : q.depth = 0 := by
    rw [depth_of_mem_places (Selector.mem_places_of_mem_nodes (due_of_nodes h).mem), ha]
    rfl
  have hsorted := pairwise_byDepth (p.selector.pairwise_nodes root)
  rw [h, List.pairwise_append] at hsorted
  refine List.reverse_eq_nil_iff.1 (List.eq_nil_iff_forall_not_mem.2 fun r hr => ?_)
  rcases hsorted.2.2 r hr q (List.mem_cons_self ..) with hd | ⟨-, hlt⟩
  · omega
  · rw [ha] at hlt
    exact absurd hlt (List.not_lt_nil _)

end Order

section Run

variable {p : Pass} {root : Element} {nodes done : List Place}

theorem Working.forM_node_ok (hnodes : nodes = p.selector.nodes root) (todo : List Place)
    (h : byDepth nodes = todo.reverse ++ done) {ts : List Token} {w' : Work}
    (hrun : (todo.map (p.markerOf nodes)).forM (node p)
      { p.workAfter root nodes done with tokens := ts } = .ok ((), w')) :
    ∃ blocks : List Block, blocks.map (·.place) = todo.reverse
      ∧ (∀ b ∈ blocks, ∃ before after, byDepth nodes = before ++ b.place :: after
          ∧ p.Describes root nodes after b)
      ∧ w'.tokens = blocks.flatMap (p.blockTokens nodes) ++ ts := by
  have horder : nodes.Pairwise fun p q => p.address < q.address :=
    hnodes ▸ p.selector.pairwise_nodes root
  have hplaces : ∀ r ∈ nodes, r ∈ root.places :=
    fun r hr => Selector.mem_places_of_mem_nodes (s := p.selector) (hnodes ▸ hr)
  induction todo generalizing done ts with
  | nil =>
    obtain rfl := forM_nil_ok hrun
    exact ⟨[], rfl, by simp, rfl⟩
  | cons q todo ih =>
    rw [List.reverse_cons, List.append_assoc, List.singleton_append] at h
    have hdue := Pass.due_of_byDepth hplaces horder h
    rw [List.map_cons] at hrun
    obtain ⟨mid, hnode, hrest⟩ := forM_cons_ok hrun
    obtain ⟨b, hb, hdescribes, htokens, hmid⟩ := node_ok hnodes hdue hnode
    have hblock : ∃ before after, byDepth nodes = before ++ b.place :: after
        ∧ p.Describes root nodes after b := ⟨todo.reverse, done, hb ▸ h, hdescribes⟩
    by_cases hroot : q.address = []
    · -- The root is the last one, and it stays in its place.
      have hnil : todo = [] := Pass.eq_nil_of_root (hnodes ▸ h) hroot
      subst hnil
      obtain rfl := forM_nil_ok hrest
      refine ⟨[b], by simp [hb], ?_, by simp [htokens]⟩
      intro b' hb'
      rw [List.mem_singleton.1 hb']
      exact hblock
    · rw [hmid hroot] at hrest
      obtain ⟨blocks, hplace, hall, hw'⟩ := ih h hrest
      refine ⟨blocks ++ [b], by simp [hplace, hb], ?_, ?_⟩
      · intro b' hb'
        rcases List.mem_append.1 hb' with hb' | hb'
        · exact hall b' hb'
        · rw [List.mem_singleton.1 hb']
          exact hblock
      · rw [hw', htokens, List.flatMap_append, List.flatMap_singleton, List.append_assoc]

end Run

section Pass

variable {p : Pass} {policy : Policy} {root : Element}

theorem Pass.workAfter_nil (p : Pass) (root : Element) (nodes : List Place) :
    p.workAfter root nodes [] = Working.start root := by
  have hcut : root.cut (p.placeholders []) [] = root := Element.cut_none (fun _ => rfl) [] root
  rw [Pass.workAfter, hcut]
  rfl

/-- The blocks of a pass, in the order of reading. -/
structure Pass.Blocks (p : Pass) (root : Element) (blocks : List Block) : Prop where
  places : blocks.map (·.place) = byDepth (p.selector.nodes root)
  describes : ∀ b ∈ blocks, ∃ before after,
    byDepth (p.selector.nodes root) = before ++ b.place :: after
      ∧ p.Describes root (p.selector.nodes root) after b

theorem Working.nodes_ok (hp : Pass.Starts policy root p) {w' : Work}
    (h : nodes p (start root) = .ok ((), w')) : ∃ blocks, p.Blocks root blocks
      ∧ w'.tokens = blocks.flatMap (p.blockTokens (p.selector.nodes root)) := by
  rw [nodes, Pass.schedule_eq (p.selector.pairwise_nodes root) hp.markers,
    ← p.workAfter_nil root (p.selector.nodes root)] at h
  have hrun : ((byDepth (p.selector.nodes root)).reverse.map
      (p.markerOf (p.selector.nodes root))).forM (node p)
        { p.workAfter root (p.selector.nodes root) [] with tokens := [] } = .ok ((), w') := h
  obtain ⟨blocks, hplaces, hall, htokens⟩ := forM_node_ok rfl _ (by simp) hrun
  exact ⟨blocks, ⟨by simpa using hplaces, hall⟩, by simpa using htokens⟩

end Pass

namespace Document

/-- A stream that lexing returns is that of a pass: the properties of the document, and the
blocks. -/
theorem lex_ok {policy : Policy} {d : Markup.Document} {file : Option String}
    {stream : LexedStream} (h : (lex policy d file).run.1 = .ok stream) :
    ∃ p blocks, Pass.Starts policy d.root p ∧ p.hypertext = d.isHypertext ∧ p.Blocks d.root blocks
      ∧ stream = ⟨d.print, true, .frozen (property .xmlVersion d.version
          :: property .xmlEncoding d.encoding
          :: blocks.flatMap (p.blockTokens (p.selector.nodes d.root))), 0⟩ := by
  obtain ⟨log, h⟩ := Logged.run_ok h
  obtain ⟨p, l₁, hstart, h₁⟩ := Logged.bind_ok h
  obtain ⟨_, l₂, -, h₂⟩ := Logged.bind_ok h₁
  obtain ⟨hp, -, hhypertext⟩ := Pass.start_ok hstart
  cases hrun : (Working.nodes p).run (Working.start d.root) with
  | error f =>
    rw [hrun] at h₂
    exact (Logged.fail_ok h₂).elim
  | ok r =>
    obtain ⟨_, w⟩ := r
    rw [hrun] at h₂
    obtain ⟨_, l₃, -, h₃⟩ := Logged.bind_ok h₂
    obtain ⟨blocks, hblocks, htokens⟩ := Working.nodes_ok hp hrun
    refine ⟨p, blocks, hp, hhypertext, hblocks, ?_⟩
    rw [Logged.pure_ok h₃, htokens]
    rfl

end Document

namespace Pass

variable {p : Pass} {policy : Policy} {root : Element} {nodes : List Place} {blocks : List Block}
  {q r : Place} {a : Address}

def Fills (p : Pass) (nodes : List Place) : Prop :=
  ∀ q ∈ nodes, q.address ≠ [] → ∃ e, p.policy.newPlaceholder q.above (p.idAt q.address) = .ok e

def FillsIn (p : Pass) (nodes : List Place) (q : Place) : Prop :=
  ∀ n ∈ nodes, q.address <+: n.address → n.address ≠ q.address →
    ∃ e, p.policy.newPlaceholder n.above (p.idAt n.address) = .ok e

theorem Fills.of_inside {done : List Place} (h : p.Fills done)
    (hinside : ∀ n ∈ nodes, q.address <+: n.address → n.address ≠ q.address → n ∈ done) :
    p.FillsIn nodes q := by
  intro n hn hpre hne
  refine h n (hinside n hn hpre hne) fun hnil => hne ?_
  rw [hnil, List.prefix_nil] at hpre
  rw [hnil, hpre]

theorem Fills.inside (h : p.Fills nodes) (q : Place) : p.FillsIn nodes q :=
  h.of_inside fun _ hn _ _ => hn

theorem FillsIn.mono (h : p.FillsIn nodes q) (hpre : q.address <+: r.address) :
    p.FillsIn nodes r := by
  intro n hn hnpre hne
  refine h n hn (hpre.trans hnpre) fun he => hne ?_
  exact (List.IsPrefix.eq_of_length hnpre (Nat.le_antisymm hnpre.length_le
    (he ▸ hpre.length_le))).symm

theorem Blocks.exists_block (h : p.Blocks root blocks) (hq : q ∈ p.selector.nodes root) :
    ∃ b ∈ blocks, b.place = q := by
  have hmem := mem_byDepth.2 hq
  rw [← h.places, List.mem_map] at hmem
  exact hmem

theorem Blocks.mem_nodes (h : p.Blocks root blocks) {b : Block} (hb : b ∈ blocks) :
    b.place ∈ p.selector.nodes root := by
  have hmem : b.place ∈ blocks.map (·.place) := List.mem_map_of_mem hb
  rw [h.places] at hmem
  exact mem_byDepth.1 hmem

theorem Blocks.fills (h : p.Blocks root blocks) : p.Fills (p.selector.nodes root) := by
  intro q hq hne
  obtain ⟨b, hb, rfl⟩ := h.exists_block hq
  obtain ⟨_, _, -, hdescribes⟩ := h.describes b hb
  exact hdescribes.placeholder hne

theorem Blocks.exists_blockAt (h : p.Blocks root blocks) :
    ∃ blockAt : Place → Block, ∀ b ∈ blocks, blockAt b.place = b := by
  have hnodup : (blocks.map (·.place)).Nodup := by
    rw [h.places, (byDepth_perm _).nodup_iff]
    exact nodup_of_pairwise (p.selector.pairwise_nodes root)
  classical
  refine ⟨fun q => (blocks.find? fun b => decide (b.place = q)).getD
    ⟨q, none, none, [], [], [], []⟩, fun b hb => ?_⟩
  cases hfind : blocks.find? fun b' => decide (b'.place = b.place) with
  | none => exact absurd (decide_eq_true rfl) (List.find?_eq_none.1 hfind b hb)
  | some b' =>
    have hplace : b'.place = b.place := by simpa using List.find?_some hfind
    simp only [hfind, Option.getD_some]
    exact List.inj_on_of_nodup_map hnodup (List.mem_of_find?_eq_some hfind) hb hplace

section Shows

theorem isSome_placeholders_iff_of (h : Place.Apart nodes)
    (hfills : ∀ n ∈ nodes, n.address = a →
      ∃ e, p.policy.newPlaceholder n.above (p.idAt n.address) = .ok e) :
    (p.placeholders nodes a).isSome = true ↔ ∃ q ∈ nodes, q.address = a := by
  constructor
  · intro hsome
    by_contra hnone
    rw [placeholders_eq_none fun q hq he => hnone ⟨q, hq, he⟩] at hsome
    cases hsome
  · rintro ⟨q, hq, rfl⟩
    obtain ⟨e, he⟩ := hfills q hq rfl
    rw [placeholders_of_mem h hq, he]
    rfl

theorem isSome_placeholders_iff (h : Place.Apart nodes) (hfills : p.Fills nodes) (ha : a ≠ []) :
    (p.placeholders nodes a).isSome = true ↔ ∃ q ∈ nodes, q.address = a :=
  isSome_placeholders_iff_of h fun n hn he => hfills n hn (he ▸ ha)

theorem covers_eq_not_isNearest (h : Place.Apart nodes) (hfills : p.FillsIn nodes q)
    (hq : q ∈ nodes) (hpre : q.address <+: r.address) (hne : q.address ≠ r.address) :
    (p.placeholders nodes).covers q.address.length r.address = !Place.isNearest nodes q r := by
  -- What is further in than the node is a node with a placeholder.
  have hstands : ∀ b, b <+: r.address → q.address.length < b.length →
      ((p.placeholders nodes b).isSome = true ↔ ∃ n ∈ nodes, n.address = b) := by
    intro b hb hlt
    refine isSome_placeholders_iff_of h fun n hn he => hfills n hn ?_ fun hself => ?_
    · exact he ▸ Address.prefix_of_prefix hpre hb (Nat.le_of_lt hlt)
    · rw [← he, hself] at hlt
      exact Nat.lt_irrefl _ hlt
  rw [Bool.eq_iff_iff, Bool.not_eq_true', Bool.eq_false_iff, ne_eq, Place.isNearest_iff h hq,
    Placeholders.covers_iff, nodeAbove?_eq_some_iff h]
  constructor
  · rintro ⟨b, hb, hbne, hlt, hsome⟩ ⟨-, -, -, hnearest⟩
    obtain ⟨n, hn, rfl⟩ := (hstands b hb hlt).1 hsome
    have hle := (hnearest n hn hb hbne).length_le
    omega
  · intro hother
    by_contra hfree
    refine hother ⟨hq, hpre, hne, fun n hn hnpre hnne => ?_⟩
    refine Address.prefix_of_prefix hnpre hpre (Nat.le_of_not_lt fun hlt => hfree ?_)
    exact ⟨n.address, hnpre, hnne, hlt, (hstands n.address hnpre hlt).2 ⟨n, hn, rfl⟩⟩

/-- What a node shows of an element inside it: the element if it belongs to the node, a placeholder
if it is a node right inside, and otherwise nothing. -/
theorem shows_eq (h : Place.Apart nodes) (hfills : p.FillsIn nodes q) (hq : q ∈ nodes)
    (hpre : q.address <+: r.address) (hne : q.address ≠ r.address) :
    (p.placeholders nodes).shows q.address.length r
      = if Place.isNearest nodes q r then
          some { r with
            element := (p.placeholders nodes r.address).getD (p.found nodes r).element }
        else none := by
  have hlt := Address.length_lt_of_prefix_of_ne hpre hne
  rw [Placeholders.shows, covers_eq_not_isNearest h hfills hq hpre hne, if_pos hlt]
  cases Place.isNearest nodes q r <;> rfl

end Shows

section View

/-- What stands at a place inside a node: the placeholder of a node, or an element with placeholders
inside it. -/
def standing (p : Pass) (nodes : List Place) (r : Place) : Place :=
  { r with element := (p.placeholders nodes r.address).getD (p.found nodes r).element }

theorem standing_of_mem (h : Place.Apart nodes) (hr : r ∈ nodes) {e : Element}
    (hnew : p.policy.newPlaceholder r.above (p.idAt r.address) = .ok e) :
    (p.standing nodes r).element = e := by
  rw [standing, placeholders_of_mem h hr, hnew]
  rfl

theorem exists_standing_of_mem (h : Place.Apart nodes) (hfills : p.Fills nodes) (hr : r ∈ nodes)
    (hne : r.address ≠ []) : ∃ e, p.policy.newPlaceholder r.above (p.idAt r.address) = .ok e
      ∧ (p.standing nodes r).element = e := by
  obtain ⟨e, hnew⟩ := hfills r hr hne
  exact ⟨e, hnew, standing_of_mem h hr hnew⟩

theorem standing_eq_found (h : ∀ n ∈ nodes, n.address ≠ r.address) :
    p.standing nodes r = p.found nodes r := by
  rw [standing, placeholders_eq_none h]
  rfl

theorem below_view (h : Place.Apart nodes) (hfills : p.FillsIn nodes q) (hq : q ∈ nodes) :
    (p.view nodes q).below = ((q.below.filter (Place.isNearest nodes q)).map (p.standing nodes)).map
      (Place.under q.tags.length (p.view nodes q).tags) := by
  have hleaf : ∀ b e, p.placeholders nodes b = some e → e.children = [] :=
    fun _ _ he => children_placeholders he
  have hcut : (p.view nodes q).below
      = (placesBelow q.address (p.view nodes q).tags 0 q.element.children).filterMap
          ((p.placeholders nodes).shows q.address.length) :=
    placesBelow_cutNodes hleaf q.address (p.view nodes q).tags 0 q.element.children
  rw [hcut, placesBelow_under q.address q.tags, List.filterMap_map, List.map_map,
    ← List.filterMap_eq_map, List.filterMap_filter]
  refine List.filterMap_congr fun r hr => ?_
  obtain ⟨hpre, hne⟩ := prefix_of_mem_below hr
  rw [Function.comp, Placeholders.shows_under, shows_eq h hfills hq hpre hne]
  cases Place.isNearest nodes q r <;> rfl

end View

end Pass

end TemplateLexer
