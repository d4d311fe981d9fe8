import Mathlib.Data.List.Sort
import TemplateLexer.Lexing.Marker
import TemplateLexer.Proofs.Outcome
import TemplateLexer.Proofs.Places

set_option autoImplicit false

namespace TemplateLexer

open Markup

namespace Selector

variable {s : Selector} {root : Element} {q : Place}

theorem mem_nodes_iff :
    q ∈ s.nodes root ↔ q ∈ root.places ∧ (q.address = [] ∨ s.isMarked q = true) := by
  rw [nodes, List.mem_filter, Bool.or_eq_true, List.isEmpty_iff]

theorem mem_places_of_mem_nodes (h : q ∈ s.nodes root) : q ∈ root.places := (mem_nodes_iff.1 h).1

theorem address_ne_of_notMem (hq : q ∈ root.places) (h : q ∉ s.nodes root) :
    ∀ n ∈ s.nodes root, n.address ≠ q.address :=
  fun _ hn ha => h (eq_of_mem_places (mem_places_of_mem_nodes hn) hq ha ▸ hn)

theorem root_mem_nodes (s : Selector) (root : Element) : (⟨[], [], root⟩ : Place) ∈ s.nodes root :=
  mem_nodes_iff.2 ⟨root_mem_places root, .inl rfl⟩

theorem pairwise_nodes (s : Selector) (root : Element) :
    (s.nodes root).Pairwise fun p q => p.address < q.address :=
  root.pairwise_places.filter _

theorem of_ok {policy : Policy} {uris : List String} {s : Selector}
    (h : of policy uris = .ok s) : s = ⟨uris, policy, fun _ => ""⟩ := by
  cases htests : Query.Tests.of (uris.map .str) policy with
  | error f =>
    rw [of, htests] at h
    cases h
  | ok tests =>
    rw [of, htests] at h
    exact (Except.ok.inj h).symm

end Selector

section Depth

variable {places : List Place}

/-- Places sorted by depth. Those at one depth stay in their order. -/
def byDepth (places : List Place) : List Place :=
  places.insertionSort fun p q => p.depth ≤ q.depth

/-- Whether a place comes before another one by depth. -/
def Markup.Place.IsHigher (p q : Place) : Prop :=
  p.depth < q.depth ∨ p.depth = q.depth ∧ p.address < q.address

theorem mem_byDepth {q : Place} : q ∈ byDepth places ↔ q ∈ places := by
  rw [byDepth, List.mem_insertionSort]

theorem byDepth_perm (places : List Place) : (byDepth places).Perm places :=
  List.perm_insertionSort _ _

theorem pairwise_orderedInsert {q : Place} (h : places.Pairwise Place.IsHigher)
    (hq : ∀ r ∈ places, q.address < r.address) :
    (places.orderedInsert (fun p q => p.depth ≤ q.depth) q).Pairwise Place.IsHigher := by
  induction places with
  | nil => exact List.pairwise_singleton _ _
  | cons r rest ih =>
    have hr := List.pairwise_cons.1 h
    rw [List.orderedInsert]
    split
    · rename_i hle
      refine .cons ?_ h
      intro x hx
      have hdepth : r.depth ≤ x.depth := by
        rcases List.mem_cons.1 hx with rfl | hx
        · exact Nat.le_refl _
        · rcases hr.1 x hx with hd | ⟨hd, -⟩
          · exact Nat.le_of_lt hd
          · exact Nat.le_of_eq hd
      rcases Nat.lt_or_ge q.depth x.depth with hlt | hge
      · exact .inl hlt
      · exact .inr ⟨by omega, hq x hx⟩
    · rename_i hlt
      refine .cons ?_ (ih hr.2 fun x hx => hq x (List.mem_cons_of_mem _ hx))
      intro x hx
      rcases List.mem_cons.1 ((List.perm_orderedInsert _ q rest).mem_iff.1 hx) with rfl | hx
      · exact .inl (by omega)
      · exact hr.1 x hx

/-- What comes later by depth is not above. -/
theorem not_prefix_of_isHigher {root : Element} {q r : Place} (hq : q ∈ root.places)
    (hr : r ∈ root.places) (h : q.IsHigher r) : ¬r.address <+: q.address := by
  intro hpre
  have hqd := depth_of_mem_places hq
  have hrd := depth_of_mem_places hr
  have hle := hpre.length_le
  rcases h with hd | ⟨hd, hlt⟩
  · omega
  · rw [hpre.eq_of_length (by omega)] at hlt
    exact List.lt_irrefl _ hlt

theorem pairwise_byDepth (h : places.Pairwise fun p q => p.address < q.address) :
    (byDepth places).Pairwise Place.IsHigher := by
  induction places with
  | nil => exact .nil
  | cons q rest ih =>
    obtain ⟨hq, hrest⟩ := List.pairwise_cons.1 h
    exact pairwise_orderedInsert (ih hrest) fun r hr => hq r (mem_byDepth.1 hr)

end Depth

namespace Pass

/-- The id of the node at an address. -/
def idAt (p : Pass) (a : Address) : String := p.digest.hex (p.pathAt a)

def ancestorAt (p : Pass) (nodes : List Place) (a : Address) : Option String :=
  enclosing? (nodes.map fun q => (q.address, p.idAt q.address)) a

def markerOf (p : Pass) (nodes : List Place) (q : Place) : Marker :=
  { address := q.address
    id := p.idAt q.address
    path := p.pathAt q.address
    depth := q.depth
    order := nodes.findIdx (·.address == q.address)
    ancestor := p.ancestorAt nodes q.address
    line := q.tag.line }

section Order

variable {p : Pass} {nodes : List Place} {q r : Place}

theorem findIdx_of_getElem? (h : nodes.Pairwise fun p q => p.address < q.address) {i : Nat}
    (hi : nodes[i]? = some q) : nodes.findIdx (·.address == q.address) = i := by
  obtain ⟨hlt, rfl⟩ := List.getElem?_eq_some_iff.1 hi
  rw [List.findIdx_eq hlt]
  refine ⟨by simp, fun j hj => ?_⟩
  have hlt' := List.pairwise_iff_getElem.1 h j i (by omega) hlt hj
  rw [beq_eq_false_iff_ne]
  intro he
  rw [he] at hlt'
  exact List.lt_irrefl _ hlt'

theorem findIdx_lt (h : nodes.Pairwise fun p q => p.address < q.address) (hq : q ∈ nodes)
    (hr : r ∈ nodes) (hlt : q.address < r.address) :
    nodes.findIdx (·.address == q.address) < nodes.findIdx (·.address == r.address) := by
  obtain ⟨i, hi, hqi⟩ := List.getElem_of_mem hq
  obtain ⟨j, hj, hrj⟩ := List.getElem_of_mem hr
  rw [findIdx_of_getElem? h (List.getElem?_eq_some_iff.2 ⟨hi, hqi⟩),
    findIdx_of_getElem? h (List.getElem?_eq_some_iff.2 ⟨hj, hrj⟩)]
  rcases Nat.lt_trichotomy i j with hij | rfl | hij
  · exact hij
  · rw [← hqi, ← hrj] at hlt
    exact absurd hlt (List.lt_irrefl _)
  · have hback := List.pairwise_iff_getElem.1 h j i hj hi hij
    rw [hqi, hrj] at hback
    exact absurd (List.lt_trans hlt hback) (List.lt_irrefl _)

theorem markersOf_eq (h : nodes.Pairwise fun p q => p.address < q.address) :
    markersOf p.digest p.paths nodes = nodes.map (p.markerOf nodes) := by
  rw [markersOf]
  conv_rhs => rw [← List.zipIdx_map_fst 0 nodes, List.map_map]
  refine List.map_congr_left ?_
  rintro ⟨q, i⟩ hq
  rw [List.mem_zipIdx_iff_getElem?] at hq
  simp only [Function.comp, markerOf, List.zipIdx_map_fst, findIdx_of_getElem? h hq]
  rfl

theorem comesBefore_of_isHigher (h : nodes.Pairwise fun p q => p.address < q.address)
    (hq : q ∈ nodes) (hr : r ∈ nodes) (hqr : q.IsHigher r) :
    comesBefore (p.markerOf nodes r) (p.markerOf nodes q) = true := by
  rcases hqr with hd | ⟨hd, ha⟩
  · simp [comesBefore, markerOf, hd]
  · have horder := findIdx_lt h hq hr ha
    simp only [comesBefore, Bool.or_eq_true, Bool.and_eq_true, beq_iff_eq, decide_eq_true_eq]
    exact .inr ⟨hd.symm, Nat.le_of_lt horder⟩

theorem enqueue_perm (m : Marker) (queue : List Marker) :
    (enqueue m queue).Perm (m :: queue) := by
  induction queue with
  | nil => exact List.Perm.refl _
  | cons n rest ih =>
    rw [enqueue]
    split
    · exact List.Perm.refl _
    · exact (ih.cons n).trans (List.Perm.swap ..)

theorem comesBefore_trans {a b c : Marker} (hab : comesBefore a b = true)
    (hbc : comesBefore b c = true) : comesBefore a c = true := by
  simp only [comesBefore, Bool.or_eq_true, Bool.and_eq_true, beq_iff_eq, decide_eq_true_eq] at *
  omega

theorem comesBefore_total {a b : Marker} (h : ¬comesBefore a b = true) :
    comesBefore b a = true := by
  simp only [comesBefore, Bool.or_eq_true, Bool.and_eq_true, beq_iff_eq, decide_eq_true_eq] at *
  omega

theorem pairwise_enqueue {m : Marker} {queue : List Marker}
    (h : queue.Pairwise fun a b => comesBefore a b = true) :
    (enqueue m queue).Pairwise fun a b => comesBefore a b = true := by
  induction queue with
  | nil => exact List.pairwise_singleton _ _
  | cons n rest ih =>
    have hn := List.pairwise_cons.1 h
    rw [enqueue]
    split
    · rename_i hmn
      refine .cons ?_ h
      intro b hb
      rcases List.mem_cons.1 hb with rfl | hb
      · exact hmn
      · exact comesBefore_trans hmn (hn.1 b hb)
    · rename_i hmn
      refine .cons ?_ (ih hn.2)
      intro b hb
      rcases List.mem_cons.1 ((enqueue_perm m rest).mem_iff.1 hb) with rfl | hb
      · exact comesBefore_total hmn
      · exact hn.1 b hb

theorem foldl_enqueue (markers queue : List Marker)
    (h : queue.Pairwise fun a b => comesBefore a b = true) :
    (markers.foldl (fun queue m => enqueue m queue) queue).Perm (markers ++ queue)
      ∧ (markers.foldl (fun queue m => enqueue m queue) queue).Pairwise
          fun a b => comesBefore a b = true := by
  induction markers generalizing queue with
  | nil => exact ⟨List.Perm.refl _, h⟩
  | cons m markers ih =>
    obtain ⟨hperm, hsorted⟩ := ih (enqueue m queue) (pairwise_enqueue h)
    refine ⟨hperm.trans ?_, hsorted⟩
    exact ((enqueue_perm m queue).append_left markers).trans List.perm_middle

/-- The schedule lists the nodes by depth, last one first. -/
theorem schedule_eq (h : nodes.Pairwise fun p q => p.address < q.address)
    (hm : p.markers = markersOf p.digest p.paths nodes) :
    p.schedule = (byDepth nodes).reverse.map (p.markerOf nodes) := by
  obtain ⟨hperm, hsorted⟩ := foldl_enqueue p.markers [] .nil
  rw [List.append_nil, hm, markersOf_eq h] at hperm
  rw [hm, markersOf_eq h] at hsorted
  rw [schedule, hm, markersOf_eq h]
  refine List.Perm.eq_of_pairwise ?_ hsorted ?_ ?_
  · intro a b ha hb hab hba
    rw [hperm.mem_iff, List.mem_map] at ha
    rw [List.mem_map] at hb
    obtain ⟨q, hq, rfl⟩ := ha
    obtain ⟨r, hr, rfl⟩ := hb
    rw [List.mem_reverse, mem_byDepth] at hr
    simp only [comesBefore, Bool.or_eq_true, Bool.and_eq_true, beq_iff_eq,
      decide_eq_true_eq] at hab hba
    have horder : nodes.findIdx (·.address == q.address)
        = nodes.findIdx (·.address == r.address) := by
      simp only [markerOf] at hab hba
      omega
    obtain ⟨i, hi, hqi⟩ := List.getElem_of_mem hq
    obtain ⟨j, hj, hrj⟩ := List.getElem_of_mem hr
    rw [findIdx_of_getElem? h (List.getElem?_eq_some_iff.2 ⟨hi, hqi⟩),
      findIdx_of_getElem? h (List.getElem?_eq_some_iff.2 ⟨hj, hrj⟩)] at horder
    subst horder
    rw [← hqi, ← hrj]
  · rw [List.pairwise_map, List.pairwise_reverse]
    refine (pairwise_byDepth h).imp_of_mem ?_
    intro q r hq hr hqr
    exact comesBefore_of_isHigher h (mem_byDepth.1 hq) (mem_byDepth.1 hr) hqr
  · exact hperm.trans (((List.reverse_perm _).trans (byDepth_perm nodes)).symm.map _)

end Order

/-- What a pass over a document starts with. -/
structure Starts (policy : Policy) (root : Element) (p : Pass) : Prop where
  uris : (policy.classify root).run.1 = .ok p.selector.uris
  selector : p.selector = ⟨p.selector.uris, policy, fun _ => ""⟩
  directives : policy.matcher = .ok p.directives
  paths : pathsOf root = .ok p.paths
  digest : policy.hashing = .ok p.digest
  markers : p.markers = markersOf p.digest p.paths (p.selector.nodes root)

theorem Starts.policy_eq {policy : Policy} {root : Element} {p : Pass}
    (hp : Starts policy root p) : p.policy = policy := by
  rw [Pass.policy, hp.selector]

theorem start_ok {policy : Policy} {d : Document} {file : Option String} {p : Pass}
    {log : List LogEntry} (h : start policy d file [] = (.ok p, log)) :
    Starts policy d.root p ∧ p.file = file ∧ p.hypertext = d.isHypertext := by
  obtain ⟨uris, l₁, huris, h⟩ := Logged.bind_ok h
  obtain ⟨selector, l₂, hselector, h⟩ := Logged.bind_ok h
  obtain rfl := Selector.of_ok (Logged.ofExcept_ok hselector).1
  obtain ⟨directives, l₃, hdirectives, h⟩ := Logged.bind_ok h
  obtain ⟨paths, l₄, hpaths, h⟩ := Logged.bind_ok h
  have h : ∃ l₅, (do
      let digest ← Logged.ofExcept (policy.hashing)
      let selector : Selector := { uris, policy, expand := fun _ => "" }
      return { file, hypertext := d.isHypertext, selector, directives, digest, paths
               markers := markersOf digest paths (selector.nodes d.root) } : Logged Pass) l₅
        = (.ok p, log) := by
    split at h
    · obtain ⟨_, l₅, -, h⟩ := Logged.bind_ok h
      exact ⟨l₅, h⟩
    · exact ⟨l₄, h⟩
  obtain ⟨l₅, h⟩ := h
  obtain ⟨digest, l₆, hdigest, h⟩ := Logged.bind_ok h
  obtain rfl := Logged.pure_ok h
  exact ⟨⟨Logged.run_of_ok huris, rfl, (Logged.ofExcept_ok hdirectives).1,
    (Logged.ofExcept_ok hpaths).1, (Logged.ofExcept_ok hdigest).1, rfl⟩, rfl, rfl⟩

section Paths

variable {root : Element} {paths : List (Address × String)} {q : Place}

theorem path?_of_pathsOf (h : pathsOf root = .ok paths) (hq : q ∈ root.places) :
    root.path? q.address = some (pathIn paths q.address) := by
  rw [Element.places] at hq
  rw [pathsOf, Element.places] at h
  generalize placesOf [] [] root.node = places at h hq
  have hall := Except.mapM_ok h
  clear h
  induction hall with
  | nil => simp at hq
  | @cons r pair rs pairs hpair hrest ih =>
    cases hr : root.path? r.address with
    | none => simp [hr] at hpair
    | some path =>
      simp only [hr, Except.ok.injEq] at hpair
      subst hpair
      rw [pathIn, List.lookup_cons]
      by_cases hqr : q.address = r.address
      · simp [hqr, hr]
      · have hne : (q.address == r.address) = false := by simp [hqr]
        rw [hne]
        rcases List.mem_cons.1 hq with rfl | hq
        · exact absurd rfl hqr
        · exact ih hq

end Paths

end Pass

end TemplateLexer
