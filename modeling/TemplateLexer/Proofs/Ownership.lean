import TemplateLexer.Proofs.Starting

set_option autoImplicit false

namespace TemplateLexer

open Markup

def Markup.Place.Apart (nodes : List Place) : Prop :=
  ∀ q ∈ nodes, ∀ r ∈ nodes, q.address = r.address → q = r

/-- The node nearest around an address. -/
def nodeAbove? (nodes : List Place) (a : Address) : Option Place :=
  (Pass.addressesAbove a).findSome? fun b => nodes.find? (·.address == b)

def nodeOver? (nodes : List Place) (a : Address) : Option Place :=
  (nodes.find? (·.address == a)).or (nodeAbove? nodes a)

namespace Markup.Place

/-- Whether a node is the nearest one around an element. -/
def isNearest (nodes : List Place) (q r : Place) : Bool :=
  (nodeAbove? nodes r.address).any fun n => n.address == q.address

/-- Whether an element belongs to a node: it is that node, or no node itself and the node is the
nearest one around it. -/
def owns (nodes : List Place) (q r : Place) : Bool :=
  (nodeOver? nodes r.address).any fun n => n.address == q.address

end Markup.Place

section Find

variable {nodes : List Place} {a b : Address} {q : Place}

theorem Markup.Place.apart_nodes (s : Selector) (root : Element) : Place.Apart (s.nodes root) :=
  fun _ hq _ hr h =>
    eq_of_mem_places (Selector.mem_places_of_mem_nodes hq) (Selector.mem_places_of_mem_nodes hr) h

theorem find?_eq_some_iff_mem (h : Place.Apart nodes) :
    nodes.find? (·.address == a) = some q ↔ q ∈ nodes ∧ q.address = a := by
  constructor
  · intro hf
    exact ⟨List.mem_of_find?_eq_some hf, by simpa using List.find?_some hf⟩
  · rintro ⟨hq, rfl⟩
    cases hf : nodes.find? (·.address == q.address) with
    | none =>
      rw [List.find?_eq_none] at hf
      exact absurd (beq_self_eq_true _) (hf q hq)
    | some r =>
      have ha : r.address = q.address := by simpa using List.find?_some hf
      rw [h r (List.mem_of_find?_eq_some hf) q hq ha]

theorem find?_eq_none_iff :
    nodes.find? (·.address == a) = none ↔ ∀ q ∈ nodes, q.address ≠ a := by
  simp [List.find?_eq_none]

end Find

section Above

variable {nodes : List Place} {a b : Address} {q : Place}

theorem mem_addressesAbove_iff : b ∈ Pass.addressesAbove a ↔ b <+: a ∧ b ≠ a := by
  simp only [Pass.addressesAbove, List.mem_map, List.mem_reverse, List.mem_range]
  constructor
  · rintro ⟨n, hn, rfl⟩
    refine ⟨List.take_prefix _ _, fun he => ?_⟩
    have hlen := congrArg List.length he
    rw [List.length_take] at hlen
    omega
  · rintro ⟨hb, hne⟩
    exact ⟨b.length, Address.length_lt_of_prefix_of_ne hb hne,
      (List.prefix_iff_eq_take.1 hb).symm⟩

theorem pairwise_addressesAbove (a : Address) :
    (Pass.addressesAbove a).Pairwise fun b c => c.length < b.length := by
  rw [Pass.addressesAbove, List.pairwise_map, List.pairwise_reverse]
  refine List.pairwise_lt_range.imp_of_mem ?_
  intro n k hn hk hnk
  rw [List.mem_range] at hn hk
  rw [List.length_take, List.length_take]
  omega

theorem nodeAbove?_eq_some_iff (h : Place.Apart nodes) : nodeAbove? nodes a = some q ↔
    q ∈ nodes ∧ q.address <+: a ∧ q.address ≠ a
      ∧ ∀ r ∈ nodes, r.address <+: a → r.address ≠ a → r.address <+: q.address := by
  have horder := pairwise_addressesAbove a
  rw [nodeAbove?, List.findSome?_eq_some_iff]
  constructor
  · rintro ⟨before, b, after, hsplit, hfind, hnone⟩
    obtain ⟨hq, rfl⟩ := (find?_eq_some_iff_mem h).1 hfind
    have hmem : q.address ∈ Pass.addressesAbove a := by
      rw [hsplit]
      simp
    obtain ⟨hpre, hne⟩ := mem_addressesAbove_iff.1 hmem
    refine ⟨hq, hpre, hne, fun r hr hrpre hrne => ?_⟩
    have hrmem := mem_addressesAbove_iff.2 ⟨hrpre, hrne⟩
    rw [hsplit, List.mem_append, List.mem_cons] at hrmem
    rcases hrmem with hin | he | hin
    · exact absurd rfl (find?_eq_none_iff.1 (hnone _ hin) r hr)
    · exact he ▸ List.prefix_refl _
    · rw [hsplit, List.pairwise_append, List.pairwise_cons] at horder
      have hlt := horder.2.1.1 _ hin
      exact Address.prefix_of_prefix hrpre hpre (Nat.le_of_lt hlt)
  · rintro ⟨hq, hpre, hne, hnearest⟩
    obtain ⟨before, after, hsplit⟩ := List.append_of_mem (mem_addressesAbove_iff.2 ⟨hpre, hne⟩)
    refine ⟨before, q.address, after, hsplit, (find?_eq_some_iff_mem h).2 ⟨hq, rfl⟩, ?_⟩
    intro b hb
    rw [find?_eq_none_iff]
    rintro r hr rfl
    have hrmem : r.address ∈ Pass.addressesAbove a := by
      rw [hsplit]
      simp [hb]
    obtain ⟨hrpre, hrne⟩ := mem_addressesAbove_iff.1 hrmem
    rw [hsplit, List.pairwise_append] at horder
    have hlt := horder.2.2 _ hb _ (List.mem_cons_self ..)
    have hle := (hnearest r hr hrpre hrne).length_le
    omega

theorem nodeAbove?_eq_none_iff :
    nodeAbove? nodes a = none ↔ ∀ q ∈ nodes, q.address <+: a → q.address = a := by
  rw [nodeAbove?, List.findSome?_eq_none_iff]
  constructor
  · intro hnone q hq hpre
    by_contra hne
    exact find?_eq_none_iff.1 (hnone _ (mem_addressesAbove_iff.2 ⟨hpre, hne⟩)) q hq rfl
  · intro hall b hb
    obtain ⟨hpre, hne⟩ := mem_addressesAbove_iff.1 hb
    refine find?_eq_none_iff.2 fun q hq hqb => hne ?_
    rw [← hqb]
    exact hall q hq (hqb ▸ hpre)

theorem nodeOver?_eq_some_iff (h : Place.Apart nodes) : nodeOver? nodes a = some q ↔
    q ∈ nodes ∧ q.address <+: a ∧ ∀ r ∈ nodes, r.address <+: a → r.address <+: q.address := by
  rw [nodeOver?, Option.or_eq_some_iff, find?_eq_some_iff_mem h, find?_eq_none_iff,
    nodeAbove?_eq_some_iff h]
  constructor
  · rintro (⟨hq, rfl⟩ | ⟨hnone, hq, hpre, hne, hnearest⟩)
    · exact ⟨hq, List.prefix_refl _, fun r _ hr => hr⟩
    · exact ⟨hq, hpre, fun r hr hrpre => hnearest r hr hrpre (hnone r hr)⟩
  · rintro ⟨hq, hpre, hnearest⟩
    by_cases he : q.address = a
    · exact .inl ⟨hq, he⟩
    · refine .inr ⟨fun r hr hra => ?_, hq, hpre, he, fun r hr hrpre _ => hnearest r hr hrpre⟩
      have hback := hnearest r hr (hra ▸ List.prefix_refl _)
      rw [hra] at hback
      exact he (hpre.eq_of_length (Nat.le_antisymm hpre.length_le hback.length_le))

theorem nodeOver?_self (h : Place.Apart nodes) (hq : q ∈ nodes) :
    nodeOver? nodes q.address = some q :=
  (nodeOver?_eq_some_iff h).2 ⟨hq, List.prefix_refl _, fun _ _ hr => hr⟩

theorem Markup.Place.isNearest_iff (h : Place.Apart nodes) (hq : q ∈ nodes) {r : Place} :
    Place.isNearest nodes q r = true ↔ nodeAbove? nodes r.address = some q := by
  rw [isNearest, Option.any_eq_true]
  constructor
  · rintro ⟨n, hn, ha⟩
    rw [h n ((nodeAbove?_eq_some_iff h).1 hn).1 q hq (by simpa using ha)] at hn
    exact hn
  · intro hn
    exact ⟨q, hn, by simp⟩

theorem Markup.Place.owns_iff (h : Place.Apart nodes) (hq : q ∈ nodes) {r : Place} :
    Place.owns nodes q r = true ↔ nodeOver? nodes r.address = some q := by
  rw [owns, Option.any_eq_true]
  constructor
  · rintro ⟨n, hn, ha⟩
    rw [h n ((nodeOver?_eq_some_iff h).1 hn).1 q hq (by simpa using ha)] at hn
    exact hn
  · intro hn
    exact ⟨q, hn, by simp⟩

theorem Pass.ancestorAt_eq (p : Pass) (nodes : List Place) (a : Address) :
    p.ancestorAt nodes a = (nodeAbove? nodes a).map fun q => p.idAt q.address := by
  have hlookup : ∀ b, (nodes.map fun q => (q.address, p.idAt q.address)).lookup b
      = (nodes.find? (·.address == b)).map fun q => p.idAt q.address := by
    intro b
    induction nodes with
    | nil => rfl
    | cons q nodes ih =>
      rw [List.map_cons, List.lookup_cons, List.find?_cons, Bool.beq_comm]
      cases hb : q.address == b with
      | true => rfl
      | false => exact ih
  rw [ancestorAt, enclosing?, nodeAbove?, List.map_findSome?]
  simp only [hlookup]
  rfl

end Above

end TemplateLexer
