import TemplateLexer.Proofs.AgreeingSelectors
import TemplateLexer.Proofs.KnownPlaceholders
import TemplateLexer.Proofs.Masked

set_option autoImplicit false

namespace TemplateLexer

open Markup

/-- The outcomes of two computations: the same failure, or values that are related. -/
inductive Except.Alike {ε α β : Type} (R : α → β → Prop) : Except ε α → Except ε β → Prop
  | ok {a : α} {b : β} (h : R a b) : Except.Alike R (.ok a) (.ok b)
  | error (e : ε) : Except.Alike R (.error e) (.error e)

namespace Except

variable {ε α β γ δ : Type} {R : α → β → Prop} {S : γ → δ → Prop} {x : Except ε α}
  {y : Except ε β}

theorem Alike.bind {f : α → Except ε γ} {g : β → Except ε δ} (h : Except.Alike R x y)
    (hf : ∀ a b, x = .ok a → y = .ok b → R a b → Except.Alike S (f a) (g b)) :
    Except.Alike S (x >>= f) (y >>= g) := by
  cases h with
  | ok h => exact hf _ _ rfl rfl h
  | error e => exact .error e

theorem Alike.imp {R' : α → β → Prop} (h : Except.Alike R x y)
    (himp : ∀ a b, x = .ok a → y = .ok b → R a b → R' a b) : Except.Alike R' x y := by
  cases h with
  | ok h => exact .ok (himp _ _ rfl rfl h)
  | error e => exact .error e

theorem alike_self {R : α → α → Prop} (x : Except ε α) (h : ∀ a, x = .ok a → R a a) :
    Except.Alike R x x := by
  cases x with
  | ok a => exact .ok (h a rfl)
  | error e => exact .error e

end Except

/-- The markup of an element on its own, as an expression embeds it. -/
def Markup.Place.markup (q : Place) : String := (q.element.detached q.above).print

/-- A shielding element of a document and the one at the same place in another document, from which
the document differs inside such elements only. -/
structure Markup.Place.Twins (policy : Policy) (root root' : Element) (q q' : Place) : Prop where
  mem : q ∈ root.exposed policy
  mem' : q' ∈ root'.exposed policy
  masked : q.masked policy = q'.masked policy
  shields : policy.shields q.tag = true

section Tokens

variable (policy : Policy) (root root' : Element)

/-- Markup that is the same, or that of twins. -/
def MarkupAlike (s s' : String) : Prop :=
  s = s' ∨ ∃ q q', Place.Twins policy root root' q q' ∧ s = q.markup ∧ s' = q'.markup

/-- Texts that are the same but for the markup of twins in them. -/
inductive TextAlike : String → String → Prop
  | nil : TextAlike "" ""
  | append {s s' t t' : String} (hs : TextAlike s s') (ht : MarkupAlike policy root root' t t') :
    TextAlike (s ++ t) (s' ++ t')

/-- Pieces of an expression that are the same, unless they are the markup of twins. -/
structure ContentToken.Alike (t t' : ContentToken) : Prop where
  kind : t.kind = t'.kind
  line : t.line = t'.line
  value : t.value = t'.value
    ∨ t.kind = .expressionElement ∧ MarkupAlike policy root root' t.value t'.value

/-- Tokens that are the same, but for the content of twins and their markup in expressions. -/
inductive Token.Alike : Token → Token → Prop
  | same (t : Token) : Token.Alike t t
  | node {q q' : Place} (htwins : Place.Twins policy root root' q q') (kind : TokenKind)
    (line : Int) (f : NodeFields) (hpath : root.path? q.address = some f.path) (content : String) :
    Token.Alike ⟨kind, line, .node f⟩ ⟨kind, line, .node { f with content }⟩
  | site (kind : TokenKind) (line : Int) (f : SiteFields) {source : String}
    {content : List ContentToken} (hsource : TextAlike policy root root' f.source source)
    (hcontent : List.Forall₂ (ContentToken.Alike policy root root') f.content content) :
    Token.Alike ⟨kind, line, .site f⟩ ⟨kind, line, .site { f with source, content }⟩

/-- Work that is the same, but for the content of twins and their markup, and for the tree. -/
structure Work.Alike (w w' : Work) : Prop where
  tokens : List.Forall₂ (Token.Alike policy root root') w.tokens w'.tokens
  intact : List.Forall₂
    (fun c c' => c.1 = c'.1 ∧ MarkupAlike policy root root' c.2.print c'.2.print)
    w.intact w'.intact
  done : w.done = w'.done

/-- Steps that fail alike, or return related values and leave work that is alike. -/
def Working.Alike {α β : Type} (R : α → β → Prop) (x : Working α) (y : Working β)
    (w w' : Work) : Prop :=
  Except.Alike (fun r r' => R r.1 r'.1 ∧ Work.Alike policy root root' r.2 r'.2) (x w) (y w')

end Tokens

variable {policy : Policy} {root root' : Element}

namespace Working

variable {α β γ δ : Type} {R : α → β → Prop} {S : γ → δ → Prop} {x : Working α} {y : Working β}
  {w w' : Work}

theorem alike_bind {f : α → Working γ} {g : β → Working δ}
    (hx : Working.Alike policy root root' R x y w w')
    (hf : ∀ a b v v', x w = .ok (a, v) → y w' = .ok (b, v') → R a b →
      Work.Alike policy root root' v v' → Working.Alike policy root root' S (f a) (g b) v v') :
    Working.Alike policy root root' S (x >>= f) (y >>= g) w w' := by
  show Except.Alike _ (x w >>= fun r => f r.1 r.2) (y w' >>= fun r => g r.1 r.2)
  exact Except.Alike.bind hx fun r r' hr hr' h => hf r.1 r'.1 r.2 r'.2 hr hr' h.1 h.2

theorem alike_pure {a : α} {b : β} (hw : Work.Alike policy root root' w w') (h : R a b) :
    Working.Alike policy root root' R (pure a) (pure b) w w' :=
  .ok ⟨h, hw⟩

theorem alike_fail (f : Failure) :
    Working.Alike policy root root' R (fail f) (fail f) w w' :=
  .error f

theorem alike_ofExcept {a : Except Failure α} {b : Except Failure β}
    (hw : Work.Alike policy root root' w w') (h : Except.Alike R a b) :
    Working.Alike policy root root' R (ofExcept a) (ofExcept b) w w' := by
  cases h with
  | ok h => exact alike_pure hw h
  | error e => exact alike_fail e

theorem alike_modify {f g : Work → Work} (h : Work.Alike policy root root' (f w) (g w')) :
    Working.Alike policy root root' (fun _ _ => True) (modify f) (modify g) w w' :=
  .ok ⟨trivial, h⟩

theorem alike_emit {t t' : Token} (hw : Work.Alike policy root root' w w')
    (ht : t.Alike policy root root' t') :
    Working.Alike policy root root' (fun _ _ => True) (emit t) (emit t') w w' :=
  alike_modify ⟨.cons ht hw.tokens, hw.intact, hw.done⟩

theorem alike_forM {ι : Type} {f g : ι → Working Unit} {xs : List ι}
    (hw : Work.Alike policy root root' w w')
    (h : ∀ i ∈ xs, ∀ v v', Work.Alike policy root root' v v' →
      Working.Alike policy root root' (fun _ _ => True) (f i) (g i) v v') :
    Working.Alike policy root root' (fun _ _ => True) (xs.forM f) (xs.forM g) w w' := by
  induction xs generalizing w w' with
  | nil => exact alike_pure hw trivial
  | cons i xs ih =>
    refine alike_bind (h i (List.mem_cons_self ..) w w' hw) fun _ _ v v' _ _ _ hv => ?_
    exact ih hv fun j hj => h j (List.mem_cons_of_mem _ hj)

theorem alike_mapM {ι κ : Type} {f : ι → Working α} {g : κ → Working β} {is : List ι}
    {js : List κ} (hw : Work.Alike policy root root' w w')
    (h : List.Forall₂ (fun i j => ∀ v v', Work.Alike policy root root' v v' →
      Working.Alike policy root root' R (f i) (g j) v v') is js) :
    Working.Alike policy root root' (List.Forall₂ R) (is.mapM f) (js.mapM g) w w' := by
  induction h generalizing w w' with
  | nil => exact alike_pure hw .nil
  | cons hij _ ih =>
    rw [List.mapM_cons, List.mapM_cons]
    refine alike_bind (hij w w' hw) fun a b v v' _ _ hab hv => ?_
    refine alike_bind (ih hv) fun as bs u u' _ _ hrest hu => ?_
    exact alike_pure hu (.cons hab hrest)

end Working

section Contents

/-- The contents of a site so far on both sides. -/
structure SiteContent.Alike (policy : Policy) (root root' : Element) (c c' : SiteContent) :
    Prop where
  scanner : c.scanner = c'.scanner
  tokens : List.Forall₂ (ContentToken.Alike policy root root') c.tokens c'.tokens
  source : TextAlike policy root root' c.source c'.source

theorem ContentToken.alike_self (t : ContentToken) : t.Alike policy root root' t :=
  ⟨rfl, rfl, .inl rfl⟩

theorem ContentToken.Alike.value_eq {t t' : ContentToken} (h : t.Alike policy root root' t')
    (hkind : t.kind = .expressionChars) : t.value = t'.value := by
  rcases h.value with hvalue | ⟨hother, -⟩
  · exact hvalue
  · rw [hkind] at hother
    cases hother

namespace SiteContent

variable {c c' : SiteContent} {t t' : ContentToken} {ts ts' : List ContentToken}

theorem alike_start (line : Nat) :
    (start line).Alike policy root root' (start line) :=
  ⟨rfl, .nil, .nil⟩

theorem forall₂_addToken (ht : t.Alike policy root root' t')
    (hts : List.Forall₂ (ContentToken.Alike policy root root') ts ts') :
    List.Forall₂ (ContentToken.Alike policy root root') (addToken t ts) (addToken t' ts') := by
  cases hts with
  | nil => exact .cons ht .nil
  | @cons last last' rest rest' hlast hrest =>
    rw [addToken, addToken, ← ht.kind, ← hlast.kind]
    split
    · rename_i hchars
      refine .cons ⟨rfl, hlast.line, .inl ?_⟩ hrest
      show last.value ++ t.value = last'.value ++ t'.value
      rw [hlast.value_eq hchars.2, ht.value_eq hchars.1]
    · exact .cons ht (.cons hlast hrest)

theorem Alike.addText (h : c.Alike policy root root' c') (s : String) :
    (c.addText s).Alike policy root root' (c'.addText s) := by
  have hruns : ∀ (runs : List Run) {ts ts' : List ContentToken},
      List.Forall₂ (ContentToken.Alike policy root root') ts ts' →
      List.Forall₂ (ContentToken.Alike policy root root')
        (runs.foldl (fun ts r => addToken ⟨r.kind.tokenKind, r.line, r.value⟩ ts) ts)
        (runs.foldl (fun ts r => addToken ⟨r.kind.tokenKind, r.line, r.value⟩ ts) ts') := by
    intro runs
    induction runs with
    | nil => exact fun hts => hts
    | cons r runs ih => exact fun hts => ih (forall₂_addToken (ContentToken.alike_self _) hts)
  refine ⟨?_, ?_, .append h.source (.inl rfl)⟩
  · show (c.scanner.feed s).2 = (c'.scanner.feed s).2
    rw [h.scanner]
  · show List.Forall₂ _ ((c.scanner.feed s).1.foldl _ c.tokens)
      ((c'.scanner.feed s).1.foldl _ c'.tokens)
    rw [h.scanner]
    exact hruns _ h.tokens

theorem Alike.addMarkup (h : c.Alike policy root root' c') (kind : TokenKind) (s : String) :
    (c.addMarkup kind s).Alike policy root root' (c'.addMarkup kind s) := by
  have hline := congrArg Scanner.line h.scanner
  exact ⟨congrArg (·.advance s.toList) h.scanner,
    forall₂_addToken ⟨rfl, hline, .inl rfl⟩ h.tokens, .append h.source (.inl rfl)⟩

theorem Alike.addElement (h : c.Alike policy root root' c')
    (hlines : ∀ q q', Place.Twins policy root root' q q' →
      lineBreaks q.markup.toList = lineBreaks q'.markup.toList) {s s' : String}
    (hs : MarkupAlike policy root root' s s') :
    (c.addMarkup .expressionElement s).Alike policy root root'
      (c'.addMarkup .expressionElement s') := by
  have hline := congrArg Scanner.line h.scanner
  have hbreaks : lineBreaks s.toList = lineBreaks s'.toList := by
    rcases hs with rfl | ⟨q, q', htwins, rfl, rfl⟩
    · rfl
    · exact hlines q q' htwins
  refine ⟨?_, forall₂_addToken ⟨rfl, hline, .inr ⟨rfl, hs⟩⟩ h.tokens, .append h.source hs⟩
  show c.scanner.advance s.toList = c'.scanner.advance s'.toList
  rw [Scanner.advance, Scanner.advance, hbreaks, h.scanner]

end SiteContent

end Contents

/-- Passes that hold the same of some namespaces, and of some addresses. -/
structure Pass.Agrees (K : String → Prop) (A : Address → Prop) (p p' : Pass) : Prop where
  file : p.file = p'.file
  hypertext : p.hypertext = p'.hypertext
  selector : p.selector.Agrees K p'.selector
  directives : p.directives = p'.directives
  digest : p.digest = p'.digest
  paths : ∀ a, A a → p.pathAt a = p'.pathAt a
  markers : p.markers = p'.markers

section Sites

variable {K : String → Prop} {A : Address → Prop} {p p' : Pass} {q q' : Place} {w w' : Work}

namespace Pass.Agrees

theorem policy_eq (h : p.Agrees K A p') : p.policy = p'.policy := h.selector.policy

theorem spot_eq (h : p.Agrees K A p') (path : String) (line : Option Nat) :
    p.spot path line = p'.spot path line := by
  rw [spot, spot, h.file]

theorem idAt_eq (h : p.Agrees K A p') {a : Address} (ha : A a) : p.idAt a = p'.idAt a := by
  rw [idAt, idAt, h.paths a ha, h.digest]

theorem attributePath_eq (h : p.Agrees K A p') {a : Address} (ha : A a) (tags : List Tag)
    (n : Name) : p.attributePath a tags n = p'.attributePath a tags n := by
  rw [attributePath, attributePath, h.paths a ha]

theorem token_eq (h : p.Agrees K A p') (path : String) (line : Nat) (name : Option String)
    (c : SiteContent) : c.token p path line name = c.token p' path line name := by
  rw [SiteContent.token, SiteContent.token, h.digest, h.spot_eq]

theorem attributeSite_eq (h : p.Agrees K A p') (ha : A q.address)
    (haddress : q.address = q'.address) (htags : q.tags = q'.tags) (a : Attribute) :
    Working.attributeSite p q a = Working.attributeSite p' q' a := by
  have htag : q.tag = q'.tag := (List.cons.inj htags).1
  rw [Working.attributeSite, Working.attributeSite]
  simp only [htag, htags, ← haddress, h.attributePath_eq ha, h.token_eq]

end Pass.Agrees

namespace Working

theorem lookup_intact (hw : Work.Alike policy root root' w w') (id : String) :
    (w.intact.lookup id = none ∧ w'.intact.lookup id = none)
      ∨ ∃ e e', w.intact.lookup id = some e ∧ w'.intact.lookup id = some e'
        ∧ MarkupAlike policy root root' e.print e'.print := by
  have hall := hw.intact
  generalize w.intact = copies, w'.intact = copies' at hall
  induction hall with
  | nil => exact .inl ⟨rfl, rfl⟩
  | @cons c c' _ _ hc _ ih =>
    rw [List.lookup_cons, List.lookup_cons, ← hc.1]
    cases id == c.1 with
    | true => exact .inr ⟨_, _, rfl, rfl, hc.2⟩
    | false => exact ih

theorem alike_embedded (h : p.Agrees K A p') (ha : A q.address)
    (hw : Work.Alike policy root root' w w') (e : Element) :
    Working.Alike policy root root' (MarkupAlike policy root root') (embedded p q e)
      (embedded p' q e) w w' := by
  rw [embedded, embedded, ← h.policy_eq]
  split
  · rw [← h.paths _ ha]
    refine alike_bind (R := Work.Alike policy root root') (.ok ⟨hw, hw⟩) fun a b v v' _ _ hab hv => ?_
    rcases lookup_intact hab (e.tag.id?.getD "") with ⟨hnone, hnone'⟩ | ⟨x, x', hx, hx', hprint⟩
    · simp only [hnone, hnone', h.spot_eq]
      exact alike_fail _
    · simp only [hx, hx']
      exact alike_pure hv hprint
  · rw [← h.hypertext]
    exact alike_pure hw (.inl rfl)

theorem alike_addItem (h : p.Agrees K A p') (ha : A q.address)
    (hlines : ∀ q q', Place.Twins policy root root' q q' →
      lineBreaks q.markup.toList = lineBreaks q'.markup.toList)
    (hw : Work.Alike policy root root' w w') {c c' : SiteContent}
    (hc : c.Alike policy root root' c') (item : Content.Item) :
    Working.Alike policy root root' (SiteContent.Alike policy root root') (addItem p q c item)
      (addItem p' q c' item) w w' := by
  cases item with
  | text s => exact alike_pure hw (hc.addText s)
  | cdata markup => exact alike_pure hw (hc.addMarkup _ markup)
  | child index =>
    rw [addItem, addItem, ← h.directives]
    split
    · exact alike_fail _
    · dsimp only
      split
      · exact alike_pure hw hc
      · exact alike_pure hw (hc.addMarkup _ _)
    · exact alike_pure hw (hc.addMarkup _ _)
    · exact alike_pure hw (hc.addText _)
    · refine alike_bind (alike_embedded h ha hw _) fun s s' v v' _ _ hs hv => ?_
      exact alike_pure hv (hc.addElement hlines hs)
    · exact alike_pure hw hc

theorem alike_addItems (h : p.Agrees K A p') (ha : A q.address)
    (hlines : ∀ q q', Place.Twins policy root root' q q' →
      lineBreaks q.markup.toList = lineBreaks q'.markup.toList)
    (hw : Work.Alike policy root root' w w') {c c' : SiteContent}
    (hc : c.Alike policy root root' c') (items : List Content.Item) :
    Working.Alike policy root root' (SiteContent.Alike policy root root')
      (items.foldlM (addItem p q) c) (items.foldlM (addItem p' q) c') w w' := by
  induction items generalizing c c' w w' with
  | nil => exact alike_pure hw hc
  | cons item items ih =>
    rw [List.foldlM_cons, List.foldlM_cons]
    exact alike_bind (alike_addItem h ha hlines hw hc item) fun _ _ _ _ _ _ hd hv => ih hv hd

theorem alike_siteToken (h : p.Agrees K A p')
    (hlines : ∀ q q', Place.Twins policy root root' q q' →
      lineBreaks q.markup.toList = lineBreaks q'.markup.toList)
    (hw : Work.Alike policy root root' w w') {s : Site} (ha : A s.owner.address) :
    Working.Alike policy root root' (Token.Alike policy root root') (siteToken p s)
      (siteToken p' s) w w' := by
  cases s with
  | attributeOf q a =>
    have hsite : attributeSite p q a = attributeSite p' q a := h.attributeSite_eq ha rfl rfl a
    rw [siteToken, siteToken, hsite]
    exact alike_ofExcept hw (Except.alike_self _ fun t _ => .same t)
  | contentOf q =>
    refine alike_bind (alike_addItems h ha hlines hw (SiteContent.alike_start _) _)
      fun c c' v v' _ _ hc hv => alike_ofExcept hv ?_
    have hpath : p.pathAt q.address = p'.pathAt q.address := h.paths _ ha
    rw [SiteContent.token, SiteContent.token, ← hc.scanner, ← hpath, ← h.digest, ← h.spot_eq]
    split
    · exact .ok (.site _ _ ⟨_, _, _, _, _⟩ hc.source (List.rel_reverse hc.tokens))
    · exact .error _

theorem alike_emitSites (h : p.Agrees K A p')
    (hlines : ∀ q q', Place.Twins policy root root' q q' →
      lineBreaks q.markup.toList = lineBreaks q'.markup.toList)
    (hw : Work.Alike policy root root' w w') {sites : List Site}
    (ha : ∀ s ∈ sites, A s.owner.address) :
    Working.Alike policy root root' (fun _ _ => True) (emitSites p sites) (emitSites p' sites)
      w w' := by
  refine alike_forM hw fun s hs v v' hv => ?_
  refine alike_bind (alike_siteToken h hlines hv (ha s (List.mem_reverse.1 hs)))
    fun t t' u u' _ _ ht hu => ?_
  exact alike_emit hu ht

end Working

end Sites

end TemplateLexer
