import Mathlib.Data.List.Chain
import TemplateLexer.Loading
import TemplateLexer.Proofs.Outcome
import TemplateLexer.Proofs.Places

set_option autoImplicit false

namespace TemplateLexer

open Markup

namespace Markup

/-- A text, not a section. -/
def Node.isText : Node → Bool
  | .text _ => true
  | _ => false

/-- No text is next to another one. -/
def ApartTexts (nodes : List Node) : Prop := nodes.IsChain fun m n => ¬(m.isText ∧ n.isText)

mutual

/-- No text inside a node is next to another one. -/
def Node.IsJoined : Node → Prop
  | .element _ children => AreJoined children ∧ ApartTexts children
  | _ => True

def AreJoined : List Node → Prop
  | [] => True
  | n :: rest => n.IsJoined ∧ AreJoined rest

end

def Element.IsJoined (e : Element) : Prop := e.node.IsJoined

section Trees

variable {n : Node} {nodes : List Node}

theorem areJoined_iff : AreJoined nodes ↔ ∀ n ∈ nodes, n.IsJoined := by
  induction nodes with
  | nil => simp [AreJoined]
  | cons n rest ih => rw [AreJoined, ih, List.forall_mem_cons]

theorem Element.IsJoined.apartTexts {root : Element} {q : Place} (h : root.IsJoined)
    (hq : q ∈ root.places) : Markup.ApartTexts q.element.children := by
  have hdown : ∀ e : Element, e.IsJoined → ∀ tag children, .element tag children ∈ e.children →
      Element.IsJoined ⟨tag, children⟩ := fun _ he _ _ hn => areJoined_iff.1 he.1 _ hn
  exact (Element.forall_mem_places hdown h q hq).2

end Trees

namespace Reading

def Returns {α : Type} (x : Reading α) (P : α → Prop) : Prop :=
  ∀ s a s', x s = .ok (a, s') → P a

section Returns

variable {α β : Type} {P : α → Prop} {Q : β → Prop}

theorem Returns.mono {x : Reading α} {R : α → Prop} (h : x.Returns P) (hP : ∀ a, P a → R a) :
    x.Returns R :=
  fun s a s' ha => hP a (h s a s' ha)

theorem returns_pure {a : α} (h : P a) : (pure a : Reading α).Returns P := by
  intro s b s' hb
  cases hb
  exact h

theorem returns_refuse : (refuse : Reading α).Returns P := by
  intro s a s' h
  cases h

theorem returns_bind_of {x : Reading α} {f : α → Reading β} (hx : x.Returns P)
    (hf : ∀ a, P a → (f a).Returns Q) : (x >>= f).Returns Q := by
  intro s b s' h
  obtain ⟨a, mid, ha, hb⟩ := stateT_bind_ok h
  exact hf a (hx s a mid ha) mid b s' hb

theorem returns_bind {x : Reading α} {f : α → Reading β} (hf : ∀ a, (f a).Returns Q) :
    (x >>= f).Returns Q :=
  returns_bind_of (P := fun _ => True) (fun _ _ _ _ => trivial) fun a _ => hf a

end Returns

section Content

variable {rule : List Tag → Tag → Prop} {P : List Tag → List Node → Prop} {above : List Tag}
  {opened : List OpenElement} {done : List Node}

/-- What holds of nodes below some tags, newest first, however more of them are read, where the tags
that are read follow a rule. -/
structure Lasts (rule : List Tag → Tag → Prop) (P : List Tag → List Node → Prop) : Prop where
  nil : ∀ {above}, P above []
  leaf : ∀ {above done n}, n.isElement = false → n.isText = false → P above done →
    P above (n :: done)
  characters : ∀ {above done} (s : String), P above done → P above (addCharacters s done)
  element : ∀ {above tag inside before}, rule above tag → P (tag :: above) inside →
    P above before → P above (.element tag inside.reverse :: before)

def AllLast (rule : List Tag → Tag → Prop) (P : List Tag → List Node → Prop) :
    List OpenElement → Prop
  | [] => True
  | o :: outer => rule (outer.map (·.tag)) o.tag ∧ P (outer.map (·.tag)) o.before
      ∧ AllLast rule P outer

theorem returns_remarkNode? :
    remarkNode?.Returns fun n? => ∀ n ∈ n?, n.isElement = false ∧ n.isText = false := by
  refine returns_bind fun seesComment => ?_
  split
  · refine returns_bind fun body => returns_pure ?_
    rintro n ⟨⟩
    exact ⟨rfl, rfl⟩
  · refine returns_bind fun seesInstruction => ?_
    split
    · refine returns_bind fun (t, data) => returns_pure ?_
      rintro n ⟨⟩
      exact ⟨rfl, rfl⟩
    · exact returns_pure (by simp)

theorem Lasts.returns_characters (h : Lasts rule P) (hdone : P above done) :
    (Reading.characters done).Returns (P above) := by
  refine returns_bind fun cs => returns_bind fun ended => ?_
  split
  · exact returns_bind fun _ => returns_pure (h.characters _ hdone)
  · exact returns_pure (h.characters _ hdone)

theorem Lasts.returns_contentReference (h : Lasts rule P) {readEntity : Entity → Reading Unit}
    (hdone : P above done) : (contentReference readEntity done).Returns (P above) := by
  have hreference : ∀ n, P above (.reference n :: done) := fun n => h.leaf rfl rfl hdone
  refine returns_bind fun numbered => ?_
  split
  · exact returns_bind fun c => returns_pure (h.characters _ hdone)
  · refine returns_bind fun _ => returns_bind fun n => ?_
    split
    · exact returns_pure (h.characters _ hdone)
    · refine returns_bind fun found => ?_
      split
      · refine returns_bind fun standing => ?_
        split
        · exact returns_bind fun _ => returns_bind fun _ => returns_bind fun _ =>
            returns_pure (hreference n)
        · exact returns_bind fun _ => returns_bind fun _ => returns_pure (hreference n)
      · exact returns_pure (hreference n)

theorem Lasts.returns_content (h : Lasts rule P)
    (hrule : ∀ above, (openingTag above).Returns fun t => rule above t.2)
    {readEntity : Nat → Entity → Reading Unit} {whole : Bool} {depth : Nat} (fuel : Nat)
    (hopened : AllLast rule P opened) (hdone : P (opened.map (·.tag)) done) :
    (content readEntity whole depth fuel opened done).Returns fun nodes => P [] nodes.reverse := by
  induction fuel generalizing opened done with
  | zero => exact returns_refuse
  | succ fuel ih =>
    have hended : ∀ (opened : List OpenElement) (done : List Node), opened = [] →
        P (opened.map (·.tag)) done →
        (pure done.reverse : Reading (List Node)).Returns fun nodes => P [] nodes.reverse := by
      rintro _ done rfl hdone
      exact returns_pure (done.reverse_reverse.symm ▸ hdone)
    have hfinished : ∀ (outer : List OpenElement) (done : List Node), AllLast rule P outer →
        P (outer.map (·.tag)) done →
        (if whole && outer.isEmpty then (return done.reverse : Reading (List Node))
          else content readEntity whole depth fuel outer done).Returns
            fun nodes => P [] nodes.reverse := by
      intro outer done houter hdone
      split
      · rename_i hempty
        rw [Bool.and_eq_true, List.isEmpty_iff] at hempty
        exact hended outer done hempty.2 hdone
      · exact ih houter hdone
    unfold content
    refine returns_bind fun cs => ?_
    split
    · split
      · rename_i hempty
        exact hended opened done (List.isEmpty_iff.1 hempty) hdone
      · exact returns_refuse
    refine returns_bind fun section? => ?_
    split
    · exact returns_bind fun body => ih hopened (h.leaf rfl rfl hdone)
    refine returns_bind fun closing => ?_
    split
    · cases opened with
      | nil => exact hended [] done rfl hdone
      | cons o outer =>
        obtain ⟨htag, hbefore, houter⟩ := hopened
        exact returns_bind fun _ => hfinished outer _ houter (h.element htag hdone hbefore)
    refine returns_bind_of returns_remarkNode? fun n? hn? => ?_
    cases n? with
    | some n =>
      obtain ⟨helement, htext⟩ := hn? n rfl
      have hnode : P (opened.map (·.tag)) (n :: done) := h.leaf helement htext hdone
      exact ih hopened hnode
    | none =>
      refine returns_bind fun seesTag => ?_
      split
      · have hopens := hrule (opened.map (·.tag))
        refine returns_bind_of hopens fun opener htag => ?_
        obtain ⟨written, tag⟩ := opener
        have hopening : (do
            if ← passes "/>" then
              if whole && opened.isEmpty then return (.element tag [] :: done).reverse
              else content readEntity whole depth fuel opened (.element tag [] :: done)
            else
              need ">"
              content readEntity whole depth fuel (⟨written, tag, done⟩ :: opened) []
            : Reading (List Node)).Returns fun nodes => P [] nodes.reverse := by
          refine returns_bind fun empty => ?_
          split
          · exact hfinished opened _ hopened (h.element htag h.nil hdone)
          · exact returns_bind fun _ => ih ⟨htag, hdone, hopened⟩ h.nil
        by_cases hlimit : depthLimit ≤ depth + opened.length
        · simp only [hlimit, if_true]
          exact returns_bind fun _ => hopening
        · simp only [hlimit, if_false]
          exact hopening
      · refine returns_bind fun seesReference => ?_
        split
        · exact returns_bind_of (h.returns_contentReference hdone) fun nodes hnodes =>
            ih hopened hnodes
        · exact returns_bind_of (h.returns_characters hdone) fun nodes hnodes => ih hopened hnodes

theorem Lasts.returns_rootElement (h : Lasts rule P)
    (hrule : ∀ above, (openingTag above).Returns fun t => rule above t.2) :
    rootElement.Returns fun e => P [] [e.node] := by
  refine returns_bind_of (hrule []) ?_
  rintro ⟨written, tag⟩ htag
  refine returns_bind fun empty => ?_
  split
  · exact returns_pure (h.element htag h.nil h.nil)
  · refine returns_bind fun _ => returns_bind fun cs => ?_
    refine returns_bind_of (h.returns_content hrule _ ⟨htag, h.nil, trivial⟩ h.nil)
      fun nodes hnodes => ?_
    split
    · exact returns_pure hnodes
    · exact returns_refuse

theorem Lasts.returns_document (h : Lasts rule P)
    (hrule : ∀ above, (openingTag above).Returns fun t => rule above t.2)
    (judge : String → Verdict) (encoding : Heading → String) :
    (document judge encoding).Returns fun d => P [] [d.root.node] := by
  refine returns_bind fun heading => returns_bind fun _ => returns_bind fun cs => ?_
  refine returns_bind fun first => returns_bind fun typed => ?_
  have hrest : ∀ (doctype : Option Doctype) (leading before : List Node), (do
      let root ← rootElement
      let after ← misc (cs.length + 1) []
      if !(← rest).isEmpty && (← get).remarks.faultLine.isNone then refuse
      return { version := heading.version, encoding := encoding heading, leading, doctype, before
               root, after }
      : Reading Document).Returns fun d => P [] [d.root.node] := by
    intro doctype leading before
    refine returns_bind_of (h.returns_rootElement hrule) fun root hroot => ?_
    refine returns_bind fun after => ?_
    refine returns_bind fun cs => returns_bind fun s => ?_
    split
    · exact returns_bind fun _ => returns_pure hroot
    · exact returns_pure hroot
  split
  · exact returns_bind fun t => returns_bind fun inner => hrest (some t) first inner
  · exact hrest none [] first

end Content

def Fit (nodes : List Node) : Prop := AreJoined nodes ∧ ApartTexts nodes

section Fit

variable {n : Node} {nodes : List Node}

theorem fit_nil : Fit [] := ⟨trivial, .nil⟩

theorem Fit.reverse (h : Fit nodes) : Fit nodes.reverse := by
  refine ⟨areJoined_iff.2 fun n hn => areJoined_iff.1 h.1 n (List.mem_reverse.1 hn), ?_⟩
  rw [ApartTexts, List.isChain_reverse]
  exact h.2.imp fun m n hmn hnm => hmn hnm.symm

theorem Fit.cons (h : Fit nodes) (hn : n.IsJoined) (htext : n.isText = false) :
    Fit (n :: nodes) := by
  refine ⟨⟨hn, h.1⟩, ?_⟩
  cases nodes with
  | nil => exact .singleton n
  | cons m rest => exact .cons_cons (by simp [htext]) h.2

theorem Fit.addCharacters (h : Fit nodes) (s : String) : Fit (addCharacters s nodes) := by
  rw [Reading.addCharacters.eq_def]
  split
  · rename_i t rest
    obtain ⟨⟨ht, hrest⟩, hapart⟩ := h
    refine ⟨⟨ht, hrest⟩, ?_⟩
    cases rest with
    | nil => exact .singleton _
    | cons m rest =>
      obtain ⟨hfront, hrest⟩ := List.isChain_cons_cons.1 hapart
      exact .cons_cons hfront hrest
  · rename_i hfront
    split
    · exact h
    · refine ⟨⟨trivial, h.1⟩, ?_⟩
      cases nodes with
      | nil => exact .singleton _
      | cons m rest =>
        refine .cons_cons (fun hboth => ?_) h.2
        cases m with
        | text t => exact hfront t rest rfl
        | element _ _ | cdata _ | comment _ | instruction _ _ | reference _ => cases hboth.2

theorem lasts_fit : Lasts (fun _ _ => True) fun _ nodes => Fit nodes where
  nil := fit_nil
  leaf := fun {_ _ n} helement htext h => by
    refine h.cons ?_ htext
    cases n with
    | element _ _ => cases helement
    | text _ | cdata _ | comment _ | instruction _ _ | reference _ => trivial
  characters := fun s h => h.addCharacters s
  element := fun _ hinside hbefore => hbefore.cons ⟨hinside.reverse.1, hinside.reverse.2⟩ rfl

end Fit

end Reading

end Markup

namespace Source

theorem exists_document_of_read {judge : String → Reading.Verdict}
    {encoding : Reading.Heading → String} {cs : List Char} {d : Document}
    (h : Document.read judge encoding cs = .ok d) :
    ∃ s, Reading.document judge encoding (.start cs) = .ok (d, s) := by
  rw [Document.read] at h
  split at h
  · cases h
  · rename_i s hrun
    split at h
    · cases h
    · cases h
      exact ⟨s, hrun⟩

theorem exists_read_of_readBytes {bs : List UInt8} {d : Document} (h : readBytes bs = .ok d) :
    ∃ judge encoding cs, Document.read judge encoding cs = .ok d := by
  rw [readBytes] at h
  split at h
  · split at h
    · exact ⟨_, _, _, h⟩
    · cases h
  · exact ⟨_, _, _, h⟩

theorem exists_read_of_load {source : Source} {file : Option String} {d : Document}
    (h : source.load file = .ok d) :
    ∃ judge encoding cs, Document.read judge encoding cs = .ok d := by
  cases source with
  | bytes bs =>
    simp only [load] at h
    split at h
    · rename_i hread
      cases h
      exact exists_read_of_readBytes hread
    · cases h
  | text s =>
    simp only [load] at h
    split at h
    · split at h
      · cases h
      · split at h
        · rename_i hread
          cases h
          exact ⟨_, _, _, hread⟩
        · cases h
    · split at h
      · cases h
      · split at h
        · split at h
          · rename_i hread
            cases h
            exact exists_read_of_readBytes hread
          · cases h
        · cases h
        · cases h

theorem exists_document_of_load {source : Source} {file : Option String} {d : Document}
    (h : source.load file = .ok d) : ∃ judge encoding cs s,
      Reading.document judge encoding (.start cs) = .ok (d, s) := by
  obtain ⟨judge, encoding, cs, hread⟩ := exists_read_of_load h
  obtain ⟨s, hdocument⟩ := exists_document_of_read hread
  exact ⟨judge, encoding, cs, s, hdocument⟩

theorem isJoined_of_load {source : Source} {file : Option String} {d : Document}
    (h : source.load file = .ok d) : d.root.IsJoined := by
  obtain ⟨judge, encoding, cs, s, hdocument⟩ := exists_document_of_load h
  have hroot := Reading.lasts_fit.returns_document (fun _ _ _ _ _ => trivial) judge encoding
  exact (hroot _ _ _ hdocument).1.1

end Source

end TemplateLexer
