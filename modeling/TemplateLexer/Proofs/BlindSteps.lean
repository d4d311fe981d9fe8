import TemplateLexer.Loading
import TemplateLexer.Proofs.Outcome

set_option autoImplicit false

set_option synthInstance.maxSize 20000

namespace TemplateLexer.Markup

/-- The same place in a text, whatever its line. -/
structure Excerpt.Resembles (e f : Excerpt) : Prop where
  rest : e.rest = f.rest
  entity : e.entity = f.entity

/-- Remarks with the same faults as others, and with at least their warnings. A document that the
others refuse is refused. -/
structure Remarks.Covers (r q : Remarks) : Prop where
  faults : r.faults = q.faults
  warnings : q.warnings ≤ r.warnings
  refuses : q.refuses = true → r.refuses = true
  faultLine : r.faultLine.isNone = q.faultLine.isNone

/-- Whether reading can go on at the second place as it does at the first one. -/
structure Input.Resembles (s t : Input) : Prop where
  here : s.here.Resembles t.here
  outer : List.Forall₂ Excerpt.Resembles s.outer t.outer
  items : s.items = t.items
  standalone : t.standalone = true → s.standalone = true
  incomplete : s.incomplete = t.incomplete
  declaring : s.declaring = t.declaring
  standings : s.standings = t.standings
  ids : s.ids = t.ids
  referred : s.referred = t.referred
  remarks : s.remarks.Covers t.remarks

/-- Whether an entity was declared. -/
def Input.DeclaresEntity (s : Input) : Prop := ∃ e, DoctypeItem.entity e ∈ s.items

section Resembles

theorem Excerpt.Resembles.refl (e : Excerpt) : e.Resembles e := ⟨rfl, rfl⟩

theorem Remarks.Covers.refl (r : Remarks) : r.Covers r := ⟨rfl, Nat.le_refl _, id, rfl⟩

theorem Input.Resembles.refl (s : Input) : s.Resembles s :=
  ⟨.refl _, List.forall₂_same.2 fun _ _ => .refl _, rfl, id, rfl, rfl, rfl, rfl, rfl, .refl _⟩

theorem Remarks.Covers.add {r q : Remarks} (h : r.Covers q) (v : Severity) (m n : Nat) :
    (r.add v m).Covers (q.add v n) := by
  obtain ⟨hfaults, hwarnings, hrefuses, hline⟩ := h
  cases v with
  | fault =>
    simp only [Remarks.add, hfaults]
    split
    · exact ⟨hfaults, hwarnings, hrefuses, hline⟩
    · exact ⟨rfl, hwarnings, fun _ => rfl, by simp⟩
  | warning =>
    simp only [Remarks.add]
    -- Where the warnings of the first ones are full, those of the others may still be counted.
    split
    · split
      · exact ⟨hfaults, hwarnings, hrefuses, hline⟩
      · exact ⟨hfaults, by simp; omega, fun h => by simp [Remarks.refuses] at h, hline⟩
    · split
      · omega
      · exact ⟨hfaults, by simp; omega, fun h => by simp [Remarks.refuses] at h, hline⟩

variable {s t : Input}

theorem Input.Resembles.standing (h : s.Resembles t) (k : EntityKey) :
    s.standing k = t.standing k := by
  rw [Input.standing, Input.standing, h.standings]

theorem Input.Resembles.setStanding (h : s.Resembles t) (k : EntityKey) (v : Standing) :
    (s.setStanding k v).Resembles (t.setStanding k v) := by
  obtain ⟨hhere, houter, hitems, halone, hincomplete, hdeclaring, hstandings, hids, hreferred,
    hremarks⟩ := h
  refine ⟨hhere, houter, hitems, halone, hincomplete, hdeclaring, ?_, hids, hreferred, hremarks⟩
  simp only [Input.setStanding, hstandings]

end Resembles

namespace Reading

variable {α β γ : Type} {k c : Prop} {R : α → α → Prop} {S : β → β → Prop}

/-- Whether one step does what another one did at a place that its own resembles, or else is given
up where entities are declared. `known` says that one is declared when the steps begin, and `closed`
that the steps add no declarations. -/
def Follows (known closed : Prop) (R : α → α → Prop) (x y : Reading α) : Prop :=
  ∀ s t, s.Resembles t → (known → s.DeclaresEntity) → ∀ a s', x s = .ok (a, s') →
    (s.DeclaresEntity → s'.DeclaresEntity) ∧ (closed → s'.items = s.items)
      ∧ ((∃ b t', y t = .ok (b, t') ∧ R a b ∧ s'.Resembles t')
        ∨ (s'.DeclaresEntity ∧ ∀ r, y t ≠ .ok r))

/-- A step that does the same at places that resemble each other. -/
class Blind (known closed : Prop) (x : Reading α) : Prop where
  follows : Follows known closed Eq x x

section Rules

theorem bind_of_ok {x : Reading α} {f : α → Reading β} {a : α} {s s' : Input}
    (h : x s = .ok (a, s')) : (x >>= f) s = f a s' := by
  show StateT.bind x f s = _
  rw [StateT.bind, h]
  rfl

theorem Follows.imp {x y : Reading α} {known : Prop} (h : Follows k c R x y) (hk : k → known) :
    Follows known c R x y :=
  fun s t hst hs => h s t hst fun hk' => hs (hk hk')

/-- One step after another one; `K` tells of which values of the first one it is known that an
entity is declared. -/
theorem follows_bind_of {x y : Reading α} {f g : α → Reading β} (K : α → Prop)
    (hK : ∀ s a s', x s = .ok (a, s') → K a → s'.DeclaresEntity) (hR : ∀ a, R a a)
    (hx : Follows k c R x y) (hf : ∀ a b, R a b → Follows (k ∨ K a) c S (f a) (g b)) :
    Follows k c S (x >>= f) (y >>= g) := by
  intro s t hst hk d s'' h
  obtain ⟨a, s', hxs, hfs⟩ := stateT_bind_ok h
  obtain ⟨hkeeps, hcloses, hrest⟩ := hx s t hst hk a s' hxs
  have hknown : k ∨ K a → s'.DeclaresEntity := fun hknown =>
    hknown.elim (fun h => hkeeps (hk h)) (hK s a s' hxs)
  rcases hrest with ⟨b, t', hyt, hab, hst'⟩ | ⟨hdeclares, hfails⟩
  · obtain ⟨hkeeps', hcloses', hrest⟩ := hf a b hab s' t' hst' hknown d s'' hfs
    rw [bind_of_ok hyt]
    exact ⟨fun hs => hkeeps' (hkeeps hs), fun hc => (hcloses' hc).trans (hcloses hc), hrest⟩
  · -- What comes after the step that was given up declares no less.
    obtain ⟨hkeeps', hcloses', -⟩ := hf a a (hR a) s' s' (.refl s') hknown d s'' hfs
    refine ⟨fun _ => hkeeps' hdeclares, fun hc => (hcloses' hc).trans (hcloses hc),
      .inr ⟨hkeeps' hdeclares, fun ⟨_, _⟩ hr => ?_⟩⟩
    obtain ⟨b, t', hyt, -⟩ := stateT_bind_ok hr
    exact hfails _ hyt

theorem follows_bind {x y : Reading α} {f g : α → Reading β} (hR : ∀ a, R a a)
    (hx : Follows k c R x y) (hf : ∀ a b, R a b → Follows k c S (f a) (g b)) :
    Follows k c S (x >>= f) (y >>= g) :=
  follows_bind_of (fun _ => False) (fun _ _ _ _ h => h.elim) hR hx fun a b hab =>
    (hf a b hab).imp .inl

theorem follows_bind_eq {x y : Reading α} {f g : α → Reading β} (hx : Follows k c Eq x y)
    (hf : ∀ a, Follows k c S (f a) (g a)) : Follows k c S (x >>= f) (y >>= g) := by
  refine follows_bind (fun _ => rfl) hx fun a b hab => ?_
  cases hab
  exact hf a

theorem Blind.bind {x : Reading α} {f : α → Reading β} (hx : Blind k c x)
    (hf : ∀ a, Blind k c (f a)) : Blind k c (x >>= f) :=
  ⟨follows_bind_eq hx.follows fun a => (hf a).follows⟩

instance blind_bind {x : Reading α} {f : α → Reading β} [hx : Blind k c x]
    [hf : ∀ a, Blind k c (f a)] : Blind k c (x >>= f) :=
  hx.bind hf

theorem follows_pure {a b : α} (h : R a b) : Follows k c R (pure a) (pure b) := by
  intro s t hst _ a' s' ha
  cases ha
  exact ⟨id, fun _ => rfl, .inl ⟨b, t, rfl, h, hst⟩⟩

instance blind_pure {a : α} : Blind k c (pure a : Reading α) := ⟨follows_pure rfl⟩

theorem follows_refuse {y : Reading α} : Follows k c R refuse y := by
  intro s t _ _ a s' ha
  cases ha

instance blind_refuse : Blind k c (refuse : Reading α) := ⟨follows_refuse⟩

instance blind_refuse_bind {f : α → Reading β} : Blind k c ((refuse : Reading α) >>= f) := by
  refine ⟨fun s t _ _ b s' h => ?_⟩
  obtain ⟨a, mid, ha, -⟩ := stateT_bind_ok h
  cases ha

instance blind_ite {p : Prop} [Decidable p] {x y : Reading α} [h : Blind k c x]
    [i : Blind k c y] : Blind k c (if p then x else y) := by
  split
  · exact h
  · exact i

instance blind_discard {x : Reading α} [Blind k c x] : Blind k c (discard x) := by
  have hdiscard : discard x = x >>= fun _ => pure PUnit.unit := rfl
  rw [hdiscard]
  infer_instance

theorem follows_get {f g : Input → Reading α}
    (h : ∀ s t, s.Resembles t → Follows k c R (f s) (g t)) :
    Follows k c R (get >>= f) (get >>= g) :=
  fun s t hst hk a s' ha => h s t hst s t hst hk a s' ha

/-- What a step makes of the place where it is, if it makes the same of places that resemble each
other. -/
theorem blind_get {f : Input → Reading α} [h : ∀ s, Blind k c (f s)]
    (hf : ∀ s t, s.Resembles t → f s = f t) : Blind k c (get >>= f) := by
  refine ⟨follows_get fun s t hst => ?_⟩
  rw [← hf s t hst]
  exact (h s).follows

theorem follows_modify {f : Input → Input} (h : ∀ s t, s.Resembles t → (f s).Resembles (f t))
    (hdeclares : ∀ s, s.DeclaresEntity → (f s).DeclaresEntity)
    (hitems : c → ∀ s, (f s).items = s.items) : Follows k c Eq (modify f) (modify f) := by
  intro s t hst _ a s' ha
  cases ha
  exact ⟨hdeclares s, fun hc => hitems hc s, .inl ⟨(), f t, rfl, rfl, h s t hst⟩⟩

theorem blind_modify {f : Input → Input} (h : ∀ s t, s.Resembles t → (f s).Resembles (f t))
    (hitems : ∀ s, (f s).items = s.items) : Blind k c (modify f) := by
  refine ⟨follows_modify h (fun s hs => ?_) fun _ => hitems⟩
  rwa [Input.DeclaresEntity, hitems s]

instance blind_foldlM {f : β → α → Reading β} [h : ∀ b a, Blind k c (f b a)] {init : β}
    {xs : List α} : Blind k c (xs.foldlM f init) := by
  induction xs generalizing init with
  | nil => exact blind_pure
  | cons x xs ih =>
    rw [List.foldlM_cons]
    infer_instance

instance blind_forIn {f : α → β → Reading (ForInStep β)} [h : ∀ a b, Blind k c (f a b)] {init : β}
    {xs : List α} : Blind k c (forIn xs init f) := by
  induction xs generalizing init with
  | nil => exact blind_pure
  | cons x xs ih =>
    rw [List.forIn_cons]
    refine (h x init).bind fun step => ?_
    cases step with
    | done b => exact blind_pure
    | yield b => exact ih

instance blind_forM {f : α → Reading PUnit} [h : ∀ a, Blind k c (f a)] {xs : List α} :
    Blind k c (xs.forM f) := by
  induction xs with
  | nil => exact blind_pure
  | cons x xs ih => exact (h x).bind fun _ => ih

instance blind_mapM {f : α → Reading β} [h : ∀ a, Blind k c (f a)] {xs : List α} :
    Blind k c (xs.mapM f) := by
  induction xs with
  | nil =>
    rw [List.mapM_nil]
    infer_instance
  | cons x xs ih =>
    rw [List.mapM_cons]
    infer_instance

end Rules

section Input

instance blind_remark {v : Severity} : Blind k c (remark v) := by
  refine blind_modify (fun s t h => ?_) fun _ => rfl
  exact ⟨h.here, h.outer, h.items, h.standalone, h.incomplete, h.declaring, h.standings, h.ids,
    h.referred, h.remarks.add v _ _⟩

instance blind_rest : Blind k c rest := by
  refine blind_get fun s t h => ?_
  rw [h.here.rest]

instance blind_moveTo {front rest : List Char} : Blind k c (moveTo front rest) := by
  refine blind_modify (fun s t h => ?_) fun _ => rfl
  exact ⟨⟨rfl, h.here.entity⟩, h.outer, h.items, h.standalone, h.incomplete, h.declaring,
    h.standings, h.ids, h.referred, h.remarks⟩

instance blind_takeWhile {p : Char → Bool} : Blind k c (takeWhile p) := by
  unfold takeWhile
  infer_instance

instance blind_blanks : Blind k c blanks := by
  unfold blanks
  infer_instance

instance blind_needBlanks : Blind k c needBlanks := by
  unfold needBlanks
  infer_instance

instance blind_sees {front : String} : Blind k c (sees front) := by
  unfold sees
  infer_instance

instance blind_passes {front : String} : Blind k c (passes front) := by
  unfold passes
  infer_instance

instance blind_need {front : String} : Blind k c (need front) := by
  unfold need
  infer_instance

instance blind_takeTo {stop : List Char → Bool} : Blind k c (takeTo stop) := by
  unfold takeTo
  refine blind_rest.bind fun cs => blind_moveTo.bind fun _ => ?_
  split
  · exact blind_pure
  · infer_instance

instance blind_takeUntil {mark : String} : Blind k c (takeUntil mark) := by
  unfold takeUntil
  infer_instance

instance blind_takeFront {recognise : List Char → Option (List Char × List Char)} :
    Blind k c (takeFront recognise) := by
  unfold takeFront
  refine blind_rest.bind fun cs => ?_
  split
  · infer_instance
  · infer_instance

instance blind_name : Blind k c name := by
  unfold name
  refine blind_takeFront.bind fun n => ?_
  split
  · infer_instance
  · infer_instance

instance blind_quote? : Blind k c quote? := by
  unfold quote?
  refine blind_rest.bind fun cs => ?_
  split
  · infer_instance
  · infer_instance
  · infer_instance

instance blind_needQuote : Blind k c needQuote := by
  unfold needQuote
  refine blind_quote?.bind fun q => ?_
  split
  · infer_instance
  · infer_instance

instance blind_charReference : Blind k c charReference := by
  unfold charReference
  refine blind_passes.bind fun hex => blind_takeWhile.bind fun digits => blind_need.bind fun _ => ?_
  split
  · infer_instance
  · infer_instance

instance blind_referenceName : Blind k c referenceName := by
  unfold referenceName
  infer_instance

instance blind_within {e : Entity} {text : String} {step : Reading α} [h : Blind k c step] :
    Blind k c (within e text step) := by
  have hpush : Blind k c (modify fun s =>
      { s with here := ⟨text.toList, 1, some e.key⟩, outer := s.here :: s.outer }) := by
    refine blind_modify (fun s t h => ?_) fun _ => rfl
    exact ⟨.refl _, .cons h.here h.outer, h.items, h.standalone, h.incomplete, h.declaring,
      h.standings, h.ids, h.referred, h.remarks⟩
  have hpop : Blind k c (modify fun s =>
      match s.outer with
      | here :: outer => { s with here, outer }
      | [] => s) := by
    refine blind_modify (fun s t h => ?_) fun s => ?_
    · have houter := h.outer
      generalize s.outer = outer at houter
      generalize t.outer = outer' at houter
      cases houter with
      | nil => exact h
      | cons hhere houter =>
        exact ⟨hhere, houter, h.items, h.standalone, h.incomplete, h.declaring, h.standings,
          h.ids, h.referred, h.remarks⟩
    · split
      · rfl
      · rfl
  unfold within
  refine blind_get fun s t h => ?_
  rw [h.outer.length_eq]

def grown (total : Nat) (s s' : Input) : Except Nat (Unit × Input) :=
  if sizeAllowed < total && s.consumed < total / growthAllowed then .error s'.reportedLine
  else .ok ((), s')

theorem ite_refuse_apply {p : Prop} [Decidable p] {s : Input} :
    (if p then refuse else pure () : Reading Unit) s
      = if p then .error s.reportedLine else .ok ((), s) := by
  split <;> rfl

theorem count_of_entity {size : Nat} {s : Input} {key : EntityKey} (h : s.here.entity = some key) :
    count size s = if (s.standing key).counted then .ok ((), s) else
      let total := (s.standing key).size + size + referenceSize
      grown total s (s.setStanding key { s.standing key with size := total }) := by
  have hget (f : Input → Reading Unit) : (get >>= f) s = f s s := rfl
  rw [count, hget, h]
  dsimp only
  split
  · rfl
  · exact ite_refuse_apply

theorem count_of_document {size : Nat} {s : Input} (h : s.here.entity = none) :
    count size s = let total := s.referred + size + referenceSize
      grown total s { s with referred := total } := by
  have hget (f : Input → Reading Unit) : (get >>= f) s = f s s := rfl
  rw [count, hget, h]
  exact ite_refuse_apply

theorem grown_ok {total : Nat} {s s' r : Input} {a : Unit} (h : grown total s s' = .ok (a, r)) :
    r = s' := by
  rw [grown] at h
  split at h
  · cases h
  · cases h
    rfl

theorem follows_grown {s t s' t' r : Input} {total : Nat} {a : Unit} (hs : s.DeclaresEntity)
    (h : grown total s s' = .ok (a, r)) (hitems : s'.items = s.items) (hst : s'.Resembles t') :
    (s.DeclaresEntity → r.DeclaresEntity) ∧ (c → r.items = s.items)
      ∧ ((∃ b r', grown total t t' = .ok (b, r') ∧ a = b ∧ r.Resembles r')
        ∨ (r.DeclaresEntity ∧ ∀ r', grown total t t' ≠ .ok r')) := by
  obtain rfl := grown_ok h
  have hr : r.DeclaresEntity := by
    rw [Input.DeclaresEntity, hitems]
    exact hs
  refine ⟨fun _ => hr, fun _ => hitems, ?_⟩
  rw [grown]
  split
  · exact .inr ⟨hr, fun r' h' => by cases h'⟩
  · exact .inl ⟨(), t', rfl, rfl, hst⟩

instance blind_count {size : Nat} : Blind True c (count size) := by
  refine ⟨fun s t hst hk a s' ha => ?_⟩
  have hentity := hst.here.entity
  cases hs : s.here.entity with
  | some key =>
    rw [count_of_entity (hentity.symm.trans hs), ← hst.standing]
    rw [count_of_entity hs] at ha
    split at ha
    · rename_i hcounted
      cases ha
      rw [if_pos hcounted]
      exact ⟨id, fun _ => rfl, .inl ⟨(), t, rfl, rfl, hst⟩⟩
    · rename_i hcounted
      rw [if_neg hcounted]
      exact follows_grown (hk trivial) ha rfl (hst.setStanding _ _)
  | none =>
    rw [count_of_document (hentity.symm.trans hs), ← hst.referred]
    rw [count_of_document hs] at ha
    refine follows_grown (hk trivial) ha rfl ?_
    exact ⟨hst.here, hst.outer, hst.items, hst.standalone, hst.incomplete, hst.declaring,
      hst.standings, hst.ids, rfl, hst.remarks⟩

instance blind_standing {e : Entity} : Blind k c (standing e) := by
  refine blind_get fun s t h => ?_
  rw [h.standing]

instance blind_changeStanding {e : Entity} {f : Standing → Standing} :
    Blind k c (changeStanding e f) := by
  refine blind_modify (fun s t h => ?_) fun _ => rfl
  rw [h.standing]
  exact h.setStanding _ _

instance blind_opening {e : Entity} {step : Reading α} [h : Blind k c step] :
    Blind k c (opening e step) := by
  unfold opening
  infer_instance

instance blind_unexplained : Blind k c unexplained := by
  refine ⟨follows_get fun s t h => ?_⟩
  split
  · exact follows_refuse
  · rename_i hs
    simp only [Bool.or_eq_true, Bool.not_eq_true', not_or, Bool.not_eq_true,
      Bool.not_eq_false] at hs
    have halone : t.standalone = false := by
      rw [← Bool.not_eq_true]
      intro ht
      rw [h.standalone ht] at hs
      cases hs.1
    rw [halone, ← h.incomplete, hs.2]
    exact blind_remark.follows

theorem entityIn?_mem {items : List DoctypeItem} {parameter : Bool} {n : String} {e : Entity}
    (h : entityIn? items parameter n = some e) : .entity e ∈ items := by
  obtain ⟨item, hitem, he⟩ := List.exists_of_findSome?_eq_some h
  split at he
  · split at he
    · cases he
      exact hitem
    · cases he
  · cases he

instance blind_lookUp {inValue : Bool} {n : String} : Blind k c (lookUp inValue n) := by
  unfold lookUp
  refine blind_get (h := fun s => ?_) fun s t h => ?_
  · split
    · infer_instance
    · split
      · infer_instance
      · infer_instance
      · infer_instance
  · rw [h.items]

theorem declaresEntity_of_lookUp {inValue : Bool} {n : String} {e : Entity} {s s' : Input}
    (h : lookUp inValue n s = .ok (some e, s')) : s'.DeclaresEntity := by
  obtain ⟨v, mid, hv, h₁⟩ := stateT_bind_ok h
  cases hv
  cases he : entityIn? s.items false n with
  | none =>
    simp only [he] at h₁
    obtain ⟨_, mid, -, h₂⟩ := stateT_bind_ok h₁
    cases h₂
  | some e' =>
    have hdeclares : s.DeclaresEntity := ⟨e', entityIn?_mem he⟩
    simp only [he] at h₁
    cases hvalue : e'.value with
    | literal written text =>
      simp only [hvalue] at h₁
      cases h₁
      exact hdeclares
    | outside publicId systemId =>
      simp only [hvalue] at h₁
      split at h₁
      · cases h₁
      · cases h₁
        exact hdeclares
    | formatted publicId systemId format =>
      simp only [hvalue] at h₁
      cases h₁

theorem follows_bind_entity {x : Reading (Option Entity)} {f g : Option Entity → Reading β}
    [hx : Blind k c x] (hdeclares : ∀ s e s', x s = .ok (some e, s') → s'.DeclaresEntity)
    (hnone : Follows k c S (f none) (g none))
    (hsome : ∀ e, Follows True c S (f (some e)) (g (some e))) :
    Follows k c S (x >>= f) (x >>= g) := by
  refine follows_bind_of (fun e? => e?.isSome = true) (fun s e? s' h he => ?_) (fun _ => rfl)
    hx.follows fun e? e?' heq => ?_
  · obtain ⟨e, rfl⟩ := Option.isSome_iff_exists.1 he
    exact hdeclares s e s' h
  · cases heq
    cases e? with
    | none => exact hnone.imp .inl
    | some e => exact (hsome e).imp fun _ => .inr rfl

instance blind_lookUp_bind {inValue : Bool} {n : String} {f : Option Entity → Reading β}
    [h : Blind k c (f none)] [i : ∀ e, Blind True c (f (some e))] :
    Blind k c (lookUp inValue n >>= f) :=
  ⟨follows_bind_entity (fun _ _ _ => declaresEntity_of_lookUp) h.follows fun e => (i e).follows⟩

end Input

section Prolog

instance blind_equals : Blind k c equals := by
  unfold equals
  infer_instance

instance blind_comment : Blind k c comment := by
  unfold comment
  infer_instance

instance blind_target : Blind k c target := by
  unfold target
  infer_instance

instance blind_instruction : Blind k c instruction := by
  unfold instruction
  infer_instance

instance blind_remarkNode? : Blind k c remarkNode? := by
  unfold remarkNode?
  infer_instance

instance blind_misc {fuel : Nat} {done : List Node} : Blind k c (misc fuel done) := by
  induction fuel generalizing done with
  | zero => exact blind_pure
  | succ fuel ih =>
    unfold misc
    refine blind_discard.bind fun _ => blind_remarkNode?.bind fun n => ?_
    split
    · infer_instance
    · infer_instance

end Prolog

section Value

instance blind_valueAllowance : Blind k c valueAllowance := by
  unfold valueAllowance
  refine blind_get fun s t h => ?_
  rw [h.outer.length_eq]

instance blind_isSettled {e : Entity} : Blind k c (isSettled e) := by
  unfold isSettled
  refine blind_standing.bind fun v => blind_get fun s t h => ?_
  rw [h.declaring]

instance blind_entityChunks {plain : Char → Char} {e : Entity} :
    Blind k c (entityChunks plain e) := by
  unfold entityChunks
  split
  · infer_instance
  · infer_instance

instance blind_checkEntity {allowance : Nat} {e : Entity} :
    Blind k c (checkEntity allowance e) := by
  induction allowance generalizing e with
  | zero => exact blind_refuse
  | succ n ih =>
    unfold checkEntity
    refine Blind.bind ?_ fun size => blind_get fun s t h => ?_
    · refine blind_opening (h := blind_entityChunks.bind fun chunks => ?_)
      refine blind_foldlM (h := fun size chunk => ?_)
      cases chunk with
      | text s => exact blind_pure
      | reference name =>
        refine blind_lookUp.bind fun inner => ?_
        cases inner with
        | none => exact blind_pure
        | some inner => infer_instance
    · rw [h.declaring]

instance blind_settleContent {fuel : Nat} {e : Entity} : Blind k c (settleContent fuel e) := by
  induction fuel generalizing e with
  | zero => exact blind_pure
  | succ fuel ih =>
    unfold settleContent
    have hloop : Blind k c (forIn ((e.chunks? id).getD []) PUnit.unit fun chunk _ => do
        match chunk with
        | .text _ => pure (ForInStep.yield PUnit.unit)
        | .reference name =>
          match entityIn? (← get).items false name with
          | some inner => do
            settleContent fuel inner
            pure (ForInStep.yield PUnit.unit)
          | none => pure (ForInStep.yield PUnit.unit)) := by
      refine blind_forIn (h := fun chunk _ => ?_)
      cases chunk with
      | text s => exact blind_pure
      | reference name =>
        refine blind_get (h := fun s => ?_) fun s t h => ?_
        · split
          · infer_instance
          · infer_instance
        · rw [h.items]
    infer_instance

instance blind_expandEntity {allowance : Nat} {e : Entity} :
    Blind True c (expandEntity allowance e) := by
  induction allowance generalizing e with
  | zero => exact blind_refuse
  | succ n ih =>
    unfold expandEntity
    refine blind_count.bind fun _ => blind_opening (h := blind_entityChunks.bind fun chunks => ?_)
    refine blind_foldlM (h := fun done chunk => ?_)
    cases chunk with
    | text s => exact blind_pure
    | reference name => infer_instance

instance blind_valueReference {use : ValueUse} {collapse : Bool} {v : ValueSoFar} :
    Blind k c (valueReference use collapse v) := by
  unfold valueReference
  refine blind_referenceName.bind fun n => ?_
  split
  · exact blind_pure
  · have hsettle : ∀ e, Blind True c (do
        settleContent ((← get).items.length + 1) e
        return v.refer n) := by
      intro e
      refine blind_get fun s t h => ?_
      rw [h.items]
    refine blind_lookUp_bind (h := blind_pure) (i := fun e => ?_)
    infer_instance

instance blind_valueChunks {use : ValueUse} {collapse : Bool} {quote : Char} {fuel : Nat}
    {v : ValueSoFar} : Blind k c (valueChunks use collapse quote fuel v) := by
  induction fuel generalizing v with
  | zero => exact blind_refuse
  | succ fuel ih =>
    unfold valueChunks
    infer_instance

instance blind_value {use : ValueUse} {collapse : Bool} : Blind k c (value use collapse) := by
  unfold value
  infer_instance

end Value

end Reading

end TemplateLexer.Markup
