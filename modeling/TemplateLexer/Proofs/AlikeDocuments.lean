import TemplateLexer.Proofs.BlindTags

set_option autoImplicit false

set_option synthInstance.maxSize 20000

namespace TemplateLexer.Markup

/-- A tag, whatever its line. -/
def Tag.unlined (t : Tag) : Tag := { t with line := 0 }

mutual

/-- A node, whatever the lines of its tags. -/
def Node.unlined : Node → Node
  | .element tag children => .element tag.unlined (unlinedAll children)
  | n => n

def unlinedAll : List Node → List Node
  | [] => []
  | n :: rest => n.unlined :: unlinedAll rest

end

theorem unlinedAll_eq_map (nodes : List Node) : unlinedAll nodes = nodes.map Node.unlined := by
  induction nodes with
  | nil => rfl
  | cons n nodes ih => rw [unlinedAll, ih, List.map_cons]

/-- Whether nodes differ in lines only. -/
def AreAlike (nodes nodes' : List Node) : Prop := nodes.map Node.unlined = nodes'.map Node.unlined

section Alike

variable {nodes nodes' : List Node}

theorem AreAlike.refl (nodes : List Node) : AreAlike nodes nodes := rfl

theorem AreAlike.cons (h : AreAlike nodes nodes') {n n' : Node} (hn : n.unlined = n'.unlined) :
    AreAlike (n :: nodes) (n' :: nodes') := by
  rw [AreAlike, List.map_cons, List.map_cons, hn, h]

theorem AreAlike.reverse (h : AreAlike nodes nodes') : AreAlike nodes.reverse nodes'.reverse := by
  rw [AreAlike, List.map_reverse, List.map_reverse, h]

theorem unlined_element {tag tag' : Tag} (htag : tag.unlined = tag'.unlined)
    (h : AreAlike nodes nodes') :
    (Node.element tag nodes).unlined = (Node.element tag' nodes').unlined := by
  rw [Node.unlined, Node.unlined, htag, unlinedAll_eq_map, unlinedAll_eq_map, h]

end Alike

/-- Whether documents differ in no more than versions, encodings and lines. -/
structure Document.Resembles (d d' : Document) : Prop where
  leading : d.leading = d'.leading
  doctype : d.doctype = d'.doctype
  before : d.before = d'.before
  root : d.root.node.unlined = d'.root.node.unlined
  after : d.after = d'.after

namespace Reading

section Tags

variable {k c : Prop}

theorem bindings_congr {tags tags' : List Tag}
    (h : tags.map (·.declarations) = tags'.map (·.declarations)) :
    bindings tags = bindings tags' := by
  rw [bindings_eq_extend, bindings_eq_extend, List.flatMap_def, List.flatMap_def, h]

theorem resolve_congr {tags tags' : List Tag}
    (h : tags.map (·.declarations) = tags'.map (·.declarations)) :
    resolve tags = resolve tags' := by
  funext forElement n
  simp only [resolve, binding?, bindings_congr h]

theorem openingTag_congr {above above' : List Tag}
    (h : above.map (·.declarations) = above'.map (·.declarations)) :
    openingTag above = openingTag above' := by
  have hresolve : ∀ t : Tag, resolve (t :: above) = resolve (t :: above') := fun t =>
    resolve_congr (by rw [List.map_cons, List.map_cons, h])
  have hgiven : ∀ t : Tag, checkGiven (t :: above) = checkGiven (t :: above') := fun t => by
    funext given
    rw [checkGiven, checkGiven, hresolve]
  simp only [openingTag, hresolve, hgiven]

theorem follows_openingTag {above above' : List Tag}
    (h : above.map (·.declarations) = above'.map (·.declarations)) :
    Follows k c (fun a b => a.1 = b.1 ∧ a.2.unlined = b.2.unlined) (openingTag above)
      (openingTag above') := by
  rw [openingTag_congr h, openingTag]
  refine follows_bind_eq blind_need.follows fun _ => ?_
  refine follows_bind_eq blind_tagName.follows fun n => ?_
  refine follows_bind_eq blind_discard.follows fun _ => ?_
  refine follows_bind_eq blind_rest.follows fun cs => ?_
  refine follows_bind_eq blind_tagParts.follows fun parts => ?_
  refine follows_bind_eq blind_givenAttributes.follows fun given => ?_
  refine follows_bind_eq blind_mapM.follows fun named => ?_
  refine follows_bind_eq blind_checkDistinct.follows fun _ => ?_
  refine follows_bind_eq blind_checkGiven.follows fun _ => ?_
  refine follows_bind_eq blind_resolve.follows fun elementName => ?_
  refine follows_bind_eq blind_checkIds.follows fun _ => ?_
  exact follows_get fun s t _ => follows_pure ⟨rfl, rfl⟩

end Tags

section Content

variable {k c : Prop} {done done' : List Node}

/-- Whether open elements differ in lines only. -/
structure OpenElement.Resembles (o o' : OpenElement) : Prop where
  written : o.written = o'.written
  tag : o.tag.unlined = o'.tag.unlined
  before : AreAlike o.before o'.before

theorem declarations_eq {opened opened' : List OpenElement}
    (h : List.Forall₂ OpenElement.Resembles opened opened') :
    (opened.map (·.tag)).map (·.declarations) = (opened'.map (·.tag)).map (·.declarations) := by
  induction h with
  | nil => rfl
  | cons ho _ ih =>
    have hdeclarations := congrArg Tag.declarations ho.tag
    simp only [List.map_cons, ih]
    exact congrArg (· :: _) hdeclarations

theorem follows_ite {α : Type} {R : α → α → Prop} {p : Prop} [Decidable p] {x x' y y' : Reading α}
    (h : Follows k c R x y) (h' : Follows k c R x' y') :
    Follows k c R (if p then x else x') (if p then y else y') := by
  split
  · exact h
  · exact h'

theorem alike_addCharacters (h : AreAlike done done') (s : String) :
    AreAlike (addCharacters s done) (addCharacters s done') := by
  have hmap : ∀ nodes, (Reading.addCharacters s nodes).map Node.unlined
      = Reading.addCharacters s (nodes.map Node.unlined) := by
    intro nodes
    cases nodes with
    | nil =>
      simp only [Reading.addCharacters]
      split <;> rfl
    | cons n nodes =>
      cases n with
      | text t => rfl
      | _ =>
        simp only [Reading.addCharacters, List.map_cons, Node.unlined]
        split <;> rfl
  rw [AreAlike, hmap, hmap, h]

theorem follows_contentReference {readEntity : Entity → Reading Unit}
    (hread : ∀ e, Blind True c (readEntity e)) (h : AreAlike done done') :
    Follows k c AreAlike (contentReference readEntity done)
      (contentReference readEntity done') := by
  unfold contentReference
  refine follows_bind_eq blind_passes.follows fun numbered => follows_ite ?_ ?_
  · refine follows_bind_eq blind_charReference.follows fun c => ?_
    exact follows_pure (alike_addCharacters h _)
  · refine follows_bind_eq blind_need.follows fun _ => ?_
    refine follows_bind_eq blind_referenceName.follows fun n => ?_
    cases namedChar? n with
    | some c => exact follows_pure (alike_addCharacters h _)
    | none =>
      have hend : ∀ known : Prop, Follows known c AreAlike (pure (.reference n :: done))
          (pure (.reference n :: done')) := fun _ => follows_pure (h.cons rfl)
      refine follows_bind_entity (fun _ _ _ => declaresEntity_of_lookUp) (hend k) fun e => ?_
      have hcount : ∀ x : Unit, Follows True c AreAlike
          (do count (← standing e).size; pure (.reference n :: done))
          (do count (← standing e).size; pure (.reference n :: done')) := fun _ =>
        follows_bind_eq blind_standing.follows fun _ =>
          follows_bind_eq blind_count.follows fun _ => hend True
      refine follows_bind_eq blind_standing.follows fun v => follows_ite ?_ (hcount ())
      exact follows_bind_eq (hread e).follows hcount

theorem follows_characters (h : AreAlike done done') :
    Follows k c AreAlike (characters done) (characters done') := by
  unfold characters
  refine follows_bind_eq blind_takeTo.follows fun cs => ?_
  refine follows_bind_eq blind_sees.follows fun ended => follows_ite ?_ ?_
  · exact follows_bind_eq blind_refuse.follows fun _ => follows_pure (alike_addCharacters h _)
  · exact follows_pure (alike_addCharacters h _)

theorem follows_content {readEntity : Nat → Entity → Reading Unit}
    (hread : ∀ depth e, Blind True c (readEntity depth e)) {whole : Bool} {depth fuel : Nat}
    {opened opened' : List OpenElement}
    (hopened : List.Forall₂ OpenElement.Resembles opened opened')
    (h : AreAlike done done') :
    Follows k c AreAlike (content readEntity whole depth fuel opened done)
      (content readEntity whole depth fuel opened' done') := by
  induction fuel generalizing opened opened' done done' with
  | zero => exact follows_refuse
  | succ fuel ih =>
    have hlength := hopened.length_eq
    have hempty : opened.isEmpty = opened'.isEmpty := by
      rw [Bool.eq_iff_iff, List.isEmpty_iff_length_eq_zero, List.isEmpty_iff_length_eq_zero,
        hlength]
    have hdeclarations : (opened.map (·.tag)).map (·.declarations)
        = (opened'.map (·.tag)).map (·.declarations) := declarations_eq hopened
    have hfinished : ∀ {outer outer' : List OpenElement} {nodes nodes' : List Node},
        List.Forall₂ OpenElement.Resembles outer outer' → AreAlike nodes nodes' →
        Follows k c AreAlike
          (if whole && outer.isEmpty then pure nodes.reverse
            else content readEntity whole depth fuel outer nodes)
          (if whole && outer'.isEmpty then pure nodes'.reverse
            else content readEntity whole depth fuel outer' nodes') := by
      intro outer outer' nodes nodes' houter hnodes
      have hempty : outer.isEmpty = outer'.isEmpty := by
        rw [Bool.eq_iff_iff, List.isEmpty_iff_length_eq_zero, List.isEmpty_iff_length_eq_zero,
          houter.length_eq]
      rw [hempty]
      exact follows_ite (follows_pure hnodes.reverse) (ih houter hnodes)
    unfold content
    refine follows_bind_eq blind_rest.follows fun cs => follows_ite ?_ ?_
    · rw [hempty]
      exact follows_ite (follows_pure h.reverse) follows_refuse
    refine follows_bind_eq blind_passes.follows fun isSection => follows_ite ?_ ?_
    · exact follows_bind_eq blind_takeUntil.follows fun body => ih hopened (h.cons rfl)
    refine follows_bind_eq blind_sees.follows fun closes => follows_ite ?_ ?_
    · cases hopened with
      | nil => exact follows_pure h.reverse
      | cons ho houter =>
        dsimp only
        rw [ho.written]
        refine follows_bind_eq blind_closingTag.follows fun _ => hfinished houter ?_
        exact ho.before.cons (unlined_element ho.tag h.reverse)
    refine follows_bind_eq blind_remarkNode?.follows fun n => ?_
    cases n with
    | some n => exact ih hopened (h.cons rfl)
    | none =>
      refine follows_bind_eq blind_sees.follows fun opens => follows_ite ?_ ?_
      · refine follows_bind (fun _ => ⟨rfl, rfl⟩) (follows_openingTag hdeclarations) ?_
        rintro ⟨written, tag⟩ ⟨written', tag'⟩ ⟨hwritten, htag⟩
        obtain rfl : written = written' := hwritten
        have hopen : List.Forall₂ OpenElement.Resembles (⟨written, tag, done⟩ :: opened)
            (⟨written, tag', done'⟩ :: opened') := .cons ⟨rfl, htag, h⟩ hopened
        have hrest : ∀ x : Unit, Follows k c AreAlike
            (do
              if ← passes "/>" then
                if whole && opened.isEmpty then return (Node.element tag [] :: done).reverse
                else content readEntity whole depth fuel opened (.element tag [] :: done)
              else
                need ">"
                content readEntity whole depth fuel (⟨written, tag, done⟩ :: opened) [])
            (do
              if ← passes "/>" then
                if whole && opened'.isEmpty then return (Node.element tag' [] :: done').reverse
                else content readEntity whole depth fuel opened' (.element tag' [] :: done')
              else
                need ">"
                content readEntity whole depth fuel (⟨written, tag', done'⟩ :: opened') []) := by
          intro _
          refine follows_bind_eq blind_passes.follows fun closed => follows_ite ?_ ?_
          · exact hfinished hopened (h.cons (unlined_element htag (.refl [])))
          · exact follows_bind_eq blind_need.follows fun _ => ih hopen (.refl [])
        dsimp only
        rw [hlength]
        exact follows_ite (follows_bind_eq blind_refuse.follows hrest) (hrest ())
      refine follows_bind_eq blind_sees.follows fun refers => follows_ite ?_ ?_
      · rw [hlength]
        exact follows_bind AreAlike.refl (follows_contentReference (hread _) h)
          fun _ _ hdone => ih hopened hdone
      · exact follows_bind AreAlike.refl (follows_characters h) fun _ _ hdone => ih hopened hdone

instance blind_readEntity {nesting depth : Nat} {e : Entity} :
    Blind k c (readEntity nesting depth e) := by
  induction nesting generalizing depth e k with
  | zero => exact blind_refuse
  | succ n ih =>
    have hcontent : ∀ {fuel : Nat} {known : Prop}, Blind known c (discard <|
        content (readEntity n) false (depth + 1) fuel [] []) := by
      intro fuel known
      have hdiscard : (discard <| content (readEntity n) false (depth + 1) fuel [] [])
          = content (readEntity n) false (depth + 1) fuel [] [] >>= fun _ => pure () := rfl
      rw [hdiscard]
      exact ⟨follows_bind AreAlike.refl (follows_content (fun _ _ => ih) .nil (.refl []))
        fun _ _ _ => follows_pure rfl⟩
    unfold readEntity
    split
    · rename_i written text hvalue
      have hend : Blind k c (do
          if !(← rest).isEmpty && (← get).remarks.faultLine.isNone then refuse : Reading Unit) := by
        refine blind_rest.bind fun cs => blind_get fun s t h => ?_
        rw [h.remarks.faultLine]
      infer_instance
    · exact blind_pure

theorem follows_rootElement :
    Follows k c (fun e e' => e.node.unlined = e'.node.unlined) rootElement rootElement := by
  unfold rootElement
  refine follows_bind (fun _ => ⟨rfl, rfl⟩) (follows_openingTag rfl) ?_
  rintro ⟨written, tag⟩ ⟨written', tag'⟩ ⟨hwritten, htag⟩
  obtain rfl : written = written' := hwritten
  refine follows_bind_eq blind_passes.follows fun closed => follows_ite ?_ ?_
  · exact follows_pure (unlined_element htag (.refl []))
  refine follows_bind_eq blind_need.follows fun _ => ?_
  refine follows_bind_eq blind_rest.follows fun cs => ?_
  refine follows_bind AreAlike.refl (follows_content (fun _ _ => blind_readEntity)
    (.cons ⟨rfl, htag, .refl []⟩ .nil) (.refl [])) fun nodes nodes' h => ?_
  split
  · rename_i tag children
    obtain ⟨n', rfl, hn⟩ : ∃ n',
        nodes' = [n'] ∧ n'.unlined = (Node.element tag children).unlined := by
      obtain ⟨n', rest, rfl, hn, hrest⟩ := List.map_eq_cons_iff.1 h.symm
      exact ⟨n', by rw [List.map_eq_nil_iff.1 hrest], hn⟩
    cases n' with
    | element tag' children' => exact follows_pure hn.symm
    | _ => cases hn
  · exact follows_refuse

end Content

section Documents

/-- What comes before the root element: what stands before the document type, the type and what
stands behind it. -/
def prolog (size : Nat) : Reading (List Node × Option Doctype × List Node) := do
  let first ← misc size []
  if ← sees "<!DOCTYPE" then do
    let t ← doctype
    return (first, some t, ← misc size [])
  else return ([], none, first)

/-- The steps of reading a document after its prolog. -/
def ending (h : Heading) (encoding : String) (size : Nat)
    (p : List Node × Option Doctype × List Node) : Reading Document := do
  let root ← rootElement
  let after ← misc size []
  if !(← rest).isEmpty && (← get).remarks.faultLine.isNone then refuse
  return ⟨h.version, encoding, p.1, p.2.1, p.2.2, root, after⟩

/-- The steps of reading a document after its heading. -/
def body (h : Heading) (encoding : String) : Reading Document := do
  modify fun s => { s with standalone := h.standalone }
  let size := (← rest).length + 1
  let p ← prolog size
  ending h encoding size p

theorem document_eq (judge : String → Verdict) (encoding : Heading → String) :
    document judge encoding = heading judge >>= fun h => body h (encoding h) := by
  unfold document body prolog ending
  refine congrArg (heading judge >>= ·) (funext fun h => ?_)
  refine congrArg (_ >>= ·) (funext fun _ => ?_)
  refine congrArg (rest >>= ·) (funext fun cs => ?_)
  simp only [bind_assoc]
  refine congrArg (misc _ [] >>= ·) (funext fun first => ?_)
  refine congrArg (sees _ >>= ·) (funext fun typed => ?_)
  cases typed with
  | false => rfl
  | true =>
    rw [if_pos rfl, if_pos rfl]
    simp only [bind_assoc, pure_bind]

instance blind_prolog {k : Prop} {size : Nat} : Blind k False (prolog size) := by
  unfold prolog
  infer_instance

theorem follows_ending {k c : Prop} {h h' : Heading} {encoding encoding' : String} {size : Nat}
    {p : List Node × Option Doctype × List Node} :
    Follows k c Document.Resembles (ending h encoding size p) (ending h' encoding' size p) := by
  unfold ending
  refine follows_bind (R := fun e e' : Element => e.node.unlined = e'.node.unlined)
    (fun _ => rfl) follows_rootElement fun root root' hroot => ?_
  refine follows_bind_eq blind_misc.follows fun after => ?_
  refine follows_bind_eq blind_rest.follows fun cs => follows_get fun s t hst => ?_
  have hend : Document.Resembles ⟨h.version, encoding, p.1, p.2.1, p.2.2, root, after⟩
      ⟨h'.version, encoding', p.1, p.2.1, p.2.2, root', after⟩ := ⟨rfl, rfl, rfl, hroot, rfl⟩
  rw [hst.remarks.faultLine]
  exact follows_ite (follows_bind_eq blind_refuse.follows fun _ => follows_pure hend)
    (follows_pure hend)

theorem follows_body {k : Prop} (h : Heading) (encoding encoding' : String) :
    Follows k False Document.Resembles (body h encoding) (body .plain encoding') := by
  have hset : Follows k False Eq (modify fun s : Input => { s with standalone := h.standalone })
      (modify fun s => { s with standalone := Heading.plain.standalone }) := by
    intro s t hst _ a s' ha
    cases ha
    refine ⟨id, False.elim, .inl ⟨(), _, rfl, rfl, ?_⟩⟩
    exact ⟨hst.here, hst.outer, hst.items, nofun, hst.incomplete, hst.declaring, hst.standings,
      hst.ids, hst.referred, hst.remarks⟩
  unfold body
  refine follows_bind_eq hset fun _ => follows_bind_eq blind_rest.follows fun cs => ?_
  exact follows_bind_eq blind_prolog.follows fun p => follows_ending

theorem items_of_follows {α : Type} {R : α → α → Prop} {x : Reading α}
    (h : Follows False True R x x) {s s' : Input} {a : α} (ha : x s = .ok (a, s')) :
    s'.items = s.items :=
  (h s s (.refl s) False.elim a s' ha).2.1 trivial

def Ends {α : Type} (x : Reading α) (P : α → Input → Prop) : Prop :=
  ∀ s a s', x s = .ok (a, s') → P a s'

theorem ends_bind {α β : Type} {x : Reading α} {f : α → Reading β} {P : β → Input → Prop}
    (h : ∀ a, (f a).Ends P) : (x >>= f).Ends P := by
  intro s b s' hb
  obtain ⟨a, mid, -, hf⟩ := stateT_bind_ok hb
  exact h a mid b s' hf

theorem ends_doctype : doctype.Ends fun t s' => t.items = s'.items.reverse := by
  have hend : ∀ (n : String) (ids : Option String × Option String),
      (do
        need ">"
        return (⟨n, ids.1, ids.2, (← get).items.reverse⟩ : Doctype) : Reading Doctype).Ends
          fun t s' => t.items = s'.items.reverse := by
    intro n ids
    refine ends_bind fun _ s t s' h => ?_
    obtain ⟨v, mid, hv, h⟩ := stateT_bind_ok h
    cases hv
    cases h
    rfl
  unfold doctype
  refine ends_bind fun _ => ends_bind fun _ => ends_bind fun n => ends_bind fun _ => ?_
  refine ends_bind fun ids => ?_
  dsimp only
  split
  · refine ends_bind fun _ => ends_bind fun _ => ends_bind fun opens => ?_
    split
    · iterate 5 refine ends_bind fun _ => ?_
      exact hend n ids
    · exact hend n ids
  · refine ends_bind fun _ => ends_bind fun opens => ?_
    split
    · iterate 5 refine ends_bind fun _ => ?_
      exact hend n ids
    · exact hend n ids

theorem items_of_prolog {size : Nat} {p : List Node × Option Doctype × List Node} {s s' : Input}
    (h : prolog size s = .ok (p, s')) (hs : s.items = []) :
    ((p.2.1.map (·.items)).getD []).reverse = s'.items := by
  obtain ⟨first, s₁, h₁, h⟩ := stateT_bind_ok h
  obtain ⟨typed, s₂, h₂, h⟩ := stateT_bind_ok h
  have hs₁ := items_of_follows blind_misc.follows h₁
  have hs₂ := items_of_follows blind_sees.follows h₂
  cases typed with
  | false =>
    cases h
    simp only [Option.map_none, Option.getD_none, List.reverse_nil, hs₂, hs₁, hs]
  | true =>
    obtain ⟨t, s₃, h₃, h⟩ := stateT_bind_ok h
    obtain ⟨before, s₄, h₄, h⟩ := stateT_bind_ok h
    have hs₄ := items_of_follows blind_misc.follows h₄
    cases h
    simp only [Option.map_some, Option.getD_some, ends_doctype _ _ _ h₃, List.reverse_reverse, hs₄]

theorem items_of_ending {h : Heading} {encoding : String} {size : Nat}
    {p : List Node × Option Doctype × List Node} {d : Document} {s s' : Input}
    (hd : ending h encoding size p s = .ok (d, s')) : d.doctype = p.2.1 ∧ s'.items = s.items := by
  obtain ⟨root, s₁, h₁, hd⟩ := stateT_bind_ok hd
  obtain ⟨after, s₂, h₂, hd⟩ := stateT_bind_ok hd
  obtain ⟨cs, s₃, h₃, hd⟩ := stateT_bind_ok hd
  obtain ⟨v, s₄, h₄, hd⟩ := stateT_bind_ok hd
  have hs₁ : s₁.items = s.items := (follows_rootElement s s (.refl s) False.elim _ _ h₁).2.1 trivial
  have hs₂ : s₂.items = s₁.items := items_of_follows blind_misc.follows h₂
  cases h₃
  cases h₄
  split at hd
  · obtain ⟨_, s₅, h₅, -⟩ := stateT_bind_ok hd
    cases h₅
  · cases hd
    exact ⟨rfl, hs₂.trans hs₁⟩

theorem items_of_body {h : Heading} {encoding : String} {d : Document} {s s' : Input}
    (hd : body h encoding s = .ok (d, s')) (hs : s.items = []) : d.items.reverse = s'.items := by
  obtain ⟨_, s₁, h₁, hafter⟩ := stateT_bind_ok hd
  obtain ⟨cs, s₂, h₂, hafter⟩ := stateT_bind_ok hafter
  obtain ⟨p, s₃, h₃, hending⟩ := stateT_bind_ok hafter
  cases h₁
  cases h₂
  obtain ⟨hdoctype, hitems⟩ := items_of_ending hending
  rw [Document.items, hdoctype, items_of_prolog h₃ hs, hitems]

end Documents

end Reading

/-- Reading on after a heading: the same document is read from any place that the place there
resembles, or else entities are declared and no document is read. -/
theorem Document.read_resembles {judge : String → Reading.Verdict}
    {encoding encoding' : Reading.Heading → String} {cs cs' : List Char} {h : Reading.Heading}
    {s t : Input} {d : Document} (hs : Reading.heading judge (.start cs) = .ok (h, s))
    (ht : Reading.heading judge (.start cs') = .ok (.plain, t)) (hst : s.Resembles t)
    (hitems : s.items = []) (hread : Document.read judge encoding cs = .ok d) :
    (∃ d', Document.read judge encoding' cs' = .ok d' ∧ d.Resembles d')
      ∨ ((∃ e, DoctypeItem.entity e ∈ d.items)
        ∧ ∀ d', Document.read judge encoding' cs' ≠ .ok d') := by
  rw [Document.read, Reading.document_eq, Reading.bind_of_ok hs] at hread
  rw [Document.read, Reading.document_eq, Reading.bind_of_ok ht]
  cases hd : Reading.body h (encoding h) s with
  | error line => simp only [hd, reduceCtorEq] at hread
  | ok r =>
    obtain ⟨d₁, s'⟩ := r
    simp only [hd] at hread
    split at hread
    · cases hread
    · rename_i hrefuses
      cases hread
      obtain ⟨-, -, hbody⟩ :=
        Reading.follows_body (k := False) h _ (encoding' .plain) s t hst False.elim _ _ hd
      rcases hbody with ⟨d', t', hd', hdd', hst'⟩ | ⟨⟨e, he⟩, hfails⟩
      · have ht' : t'.remarks.refuses ≠ true := fun h => hrefuses (hst'.remarks.refuses h)
        refine .inl ⟨d', ?_, hdd'⟩
        simp only [hd', if_neg ht']
      · refine .inr ⟨⟨e, ?_⟩, fun d' hd' => ?_⟩
        · rw [← Reading.items_of_body hd hitems, List.mem_reverse] at he
          exact he
        · split at hd'
          · cases hd'
          · rename_i hrun
            exact hfails _ hrun

end TemplateLexer.Markup
