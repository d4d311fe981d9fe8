import TemplateLexer.Lexing.Expressions
import TemplateLexer.Lexing.Relations
import TemplateLexer.Proofs.Outcome

set_option autoImplicit false

namespace TemplateLexer

open Markup

namespace Working

variable {α β : Type}

/-- Steps that leave the work as it is. -/
def Reads (x : Working α) : Prop := ∀ w w' r, x w = .ok (r, w') → w' = w

theorem Reads.eq {x : Working α} (hx : x.Reads) {w w' : Work} {r : α} (h : x w = .ok (r, w')) :
    w' = w :=
  hx _ _ _ h

def Gives (x : Working α) (w : Work) (r : α) : Prop :=
  ∃ ts, x { w with tokens := ts } = .ok (r, { w with tokens := ts })

theorem gives_of_ok {x : Working α} (hx : x.Reads) {v w w' : Work} {r : α}
    (h : x w = .ok (r, w')) (hv : { v with tokens := w.tokens } = w) : x.Gives v r := by
  refine ⟨w.tokens, ?_⟩
  rw [hv]
  obtain rfl := hx.eq h
  exact h

section Reads

theorem reads_pure (a : α) : (pure a : Working α).Reads := fun _ _ _ h => (pure_ok h).2

theorem reads_fail (f : Failure) : (fail f : Working α).Reads := fun _ _ _ h => (fail_ok h).elim

theorem reads_get : (get : Working Work).Reads := fun _ _ _ h => (get_ok h).2

theorem reads_ofExcept (x : Except Failure α) : (ofExcept x).Reads :=
  fun _ _ _ h => (ofExcept_ok h).2

theorem reads_placeAt (a : Address) : (placeAt a).Reads := fun _ _ _ h => (placeAt_ok h).1

theorem reads_bind {x : Working α} {f : α → Working β} (hx : x.Reads) (hf : ∀ a, (f a).Reads) :
    (x >>= f).Reads := by
  intro w w' r h
  obtain ⟨a, mid, hxa, hfa⟩ := bind_ok h
  obtain rfl := hx.eq hxa
  exact (hf a).eq hfa

theorem reads_foldlM {f : β → α → Working β} (hf : ∀ b a, (f b a).Reads) (xs : List α) (b : β) :
    (xs.foldlM f b).Reads := by
  induction xs generalizing b with
  | nil => exact reads_pure b
  | cons x xs ih =>
    rw [List.foldlM_cons]
    exact reads_bind (hf b x) ih

theorem reads_mapM {f : α → Working β} (hf : ∀ a, (f a).Reads) (xs : List α) :
    (xs.mapM f).Reads := by
  induction xs with
  | nil => exact reads_pure []
  | cons x xs ih =>
    rw [List.mapM_cons]
    exact reads_bind (hf x) fun _ => reads_bind ih fun _ => reads_pure _

end Reads

section Sites

variable (p : Pass)

theorem reads_attributeSite (place : Place) (a : Attribute) : (attributeSite p place a).Reads :=
  reads_ofExcept _

theorem reads_embedded (owner : Place) (e : Element) : (embedded p owner e).Reads := by
  rw [embedded]
  split
  · refine reads_bind reads_get fun w => ?_
    split
    · exact reads_pure _
    · exact reads_fail _
  · exact reads_pure _

theorem reads_addItem (owner : Place) (c : SiteContent) (item : Content.Item) :
    (addItem p owner c item).Reads := by
  cases item with
  | text s => exact reads_pure _
  | cdata markup => exact reads_pure _
  | child index =>
    rw [addItem]
    split
    · exact reads_fail _
    · simp only
      split
      · exact reads_pure _
      · exact reads_pure _
    · exact reads_pure _
    · exact reads_pure _
    · exact reads_bind (reads_embedded p owner _) fun _ => reads_pure _
    · exact reads_pure _

theorem reads_contentSite (place : Place) : (contentSite p place).Reads :=
  reads_bind (reads_foldlM (reads_addItem p place) _ _) fun _ => reads_ofExcept _

theorem reads_siteToken (s : Site) : (siteToken p s).Reads := by
  cases s with
  | attributeOf owner a => exact reads_attributeSite p owner a
  | contentOf owner => exact reads_contentSite p owner

theorem emitSites_ok {sites : List Site} {v w w' : Work}
    (h : emitSites p sites w = .ok ((), w')) (hv : { v with tokens := w.tokens } = w) :
    ∃ ts, List.Forall₂ (fun s t => (siteToken p s).Gives v t) sites ts
      ∧ w' = { w with tokens := ts ++ w.tokens } := by
  have hloop : ∀ (sites : List Site) (w w' : Work),
      (sites.forM fun s => do emit (← siteToken p s)) w = .ok ((), w') →
      { v with tokens := w.tokens } = w →
      ∃ ts, List.Forall₂ (fun s t => (siteToken p s).Gives v t) sites ts
        ∧ w' = { w with tokens := ts.reverse ++ w.tokens } := by
    intro sites
    induction sites with
    | nil =>
      intro w w' h hv
      obtain rfl := forM_nil_ok h
      exact ⟨[], .nil, rfl⟩
    | cons s sites ih =>
      intro w w' h hv
      obtain ⟨mid, hs, hrest⟩ := forM_cons_ok h
      obtain ⟨t, mid', ht, hemit⟩ := bind_ok hs
      have hgives := gives_of_ok (reads_siteToken p s) ht hv
      obtain rfl := (reads_siteToken p s).eq ht
      obtain rfl := emit_ok hemit
      obtain ⟨ts, hts, rfl⟩ := ih _ _ hrest (by rw [← hv])
      exact ⟨t :: ts, .cons hgives hts, by simp⟩
  obtain ⟨ts, hts, rfl⟩ := hloop _ _ _ h hv
  refine ⟨ts.reverse, ?_, rfl⟩
  have hrev := List.rel_reverse hts
  rwa [List.reverse_reverse] at hrev

end Sites

section Relations

variable (p : Pass) (m : Marker)

theorem reads_sibling? (forward : Bool) : (sibling? m forward).Reads := by
  rw [sibling?]
  split
  · exact reads_pure _
  · exact reads_bind (reads_placeAt _) fun _ => reads_pure _

theorem reads_resolve (placeholder : Tag) : (resolve p m placeholder).Reads := by
  rw [resolve]
  refine reads_bind reads_get fun w => ?_
  split
  · exact reads_pure _
  · exact reads_fail _

theorem reads_previous? : (previous? p m).Reads := by
  rw [previous?]
  split
  · exact reads_pure _
  · refine reads_bind (reads_sibling? m false) fun found => ?_
    split
    · exact reads_pure _
    · split
      · exact reads_pure _
      · exact reads_pure _

theorem reads_next? : (next? p m).Reads := by
  rw [next?]
  split
  · exact reads_pure _
  · refine reads_bind (reads_sibling? m true) fun found => ?_
    split
    · exact reads_pure _
    · split
      · exact reads_bind (reads_resolve p m _) fun _ => reads_pure _
      · exact reads_pure _

theorem reads_children : (children p m).Reads := by
  refine reads_bind (reads_ofExcept _) fun selections => ?_
  refine reads_bind (reads_placeAt _) fun place => ?_
  exact reads_mapM (fun q : Place => reads_resolve p m q.tag) _

end Relations

end Working

end TemplateLexer
