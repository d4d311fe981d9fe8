import TemplateLexer.Proofs.Siblings

set_option autoImplicit false

namespace TemplateLexer

open Markup

def Failure.isUnresolved : Failure → Bool
  | .unresolvedPlaceholder _ _ => true
  | _ => false

def Failure.isInside : Failure → Bool
  | .unclosedExpression _ | .unresolvedPlaceholder _ _ => true
  | _ => false

def Except.Avoids {α : Type} (test : Failure → Bool) (x : Except Failure α) : Prop :=
  ∀ f, x = .error f → test f = false

/-- A computation that may fail, but not on a placeholder. -/
def Except.Resolves {α : Type} (x : Except Failure α) : Prop :=
  ∀ f, x = .error f → f.isUnresolved = false

section Closure

variable {α β : Type} {test : Failure → Bool}

theorem Failure.isUnresolved_of_isInside {f : Failure} (h : f.isInside = false) :
    f.isUnresolved = false := by
  cases f <;> first | rfl | cases h

theorem Except.Avoids.resolves {x : Except Failure α} (h : Except.Avoids Failure.isInside x) :
    Except.Resolves x :=
  fun f hf => Failure.isUnresolved_of_isInside (h f hf)

theorem Except.avoids_ok (a : α) : Except.Avoids test (.ok a) := by
  intro f h
  cases h

theorem Except.avoids_error {f : Failure} (h : test f = false) :
    Except.Avoids test (.error f : Except Failure α) := by
  intro g hg
  cases hg
  exact h

theorem Except.avoids_bind {x : Except Failure α} {f : α → Except Failure β}
    (hx : Except.Avoids test x) (hf : ∀ a, x = .ok a → Except.Avoids test (f a)) :
    Except.Avoids test (x >>= f) := by
  cases x with
  | error e =>
    intro g hg
    cases hg
    exact hx e rfl
  | ok a => exact hf a rfl

theorem Except.avoids_mapM {f : α → Except Failure β} (hf : ∀ a, Except.Avoids test (f a))
    (xs : List α) : Except.Avoids test (xs.mapM f) := by
  induction xs with
  | nil => exact Except.avoids_ok []
  | cons x xs ih =>
    rw [List.mapM_cons]
    exact Except.avoids_bind (hf x) fun _ _ =>
      Except.avoids_bind ih fun _ _ => Except.avoids_ok _

namespace Logged

def Avoids (test : Failure → Bool) (x : Logged α) : Prop :=
  ∀ log f log', x log = (.error f, log') → test f = false

theorem avoids_pure (a : α) : (pure a : Logged α).Avoids test := by
  intro log f log' h
  cases h

theorem avoids_log (e : LogEntry) : (log e).Avoids test := by
  intro log f log' h
  cases h

theorem avoids_fail {f : Failure} (h : test f = false) : (fail f : Logged α).Avoids test := by
  intro log g log' hg
  cases hg
  exact h

theorem avoids_ofExcept {x : Except Failure α} (h : Except.Avoids test x) :
    (ofExcept x).Avoids test := by
  cases x with
  | error f => exact avoids_fail (h f rfl)
  | ok a => exact avoids_pure a

theorem bind_error {x : Logged α} {f : α → Logged β} {e : Failure} {log log' : List LogEntry}
    (h : (x >>= f) log = (.error e, log')) :
    x log = (.error e, log') ∨ ∃ a mid, x log = (.ok a, mid) ∧ f a mid = (.error e, log') := by
  obtain ⟨r, mid, hx⟩ : ∃ r mid, x log = (r, mid) := ⟨_, _, rfl⟩
  cases r with
  | error e' =>
    rw [bind_of_error hx] at h
    cases h
    exact .inl hx
  | ok a =>
    rw [bind_of_ok hx] at h
    exact .inr ⟨a, mid, hx, h⟩

theorem avoids_bind {x : Logged α} {f : α → Logged β} (hx : x.Avoids test)
    (hf : ∀ a, (f a).Avoids test) : (x >>= f).Avoids test := by
  intro log e log' h
  rcases bind_error h with h | ⟨a, mid, -, h⟩
  · exact hx _ _ _ h
  · exact hf a _ _ _ h

theorem avoids_forM {f : α → Logged Unit} (hf : ∀ a, (f a).Avoids test) (xs : List α) :
    (xs.forM f).Avoids test := by
  induction xs with
  | nil => exact avoids_pure ()
  | cons x xs ih =>
    show (f x >>= fun _ => xs.forM f).Avoids test
    exact avoids_bind (hf x) fun _ => ih

end Logged

namespace Working

def Avoids (test : Failure → Bool) (x : Working α) (w : Work) : Prop := Except.Avoids test (x w)

/-- A step that may fail in some work, but not on a placeholder. -/
def Resolves (x : Working α) (w : Work) : Prop := Except.Resolves (x w)

theorem avoids_bind {x : Working α} {f : α → Working β} {w : Work} (hx : x.Avoids test w)
    (hf : ∀ a w', x w = .ok (a, w') → (f a).Avoids test w') : (x >>= f).Avoids test w :=
  Except.avoids_bind hx fun r hr => hf r.1 r.2 hr

theorem avoids_pure (a : α) (w : Work) : (pure a : Working α).Avoids test w :=
  Except.avoids_ok _

theorem avoids_fail {f : Failure} (h : test f = false) (w : Work) :
    (fail f : Working α).Avoids test w :=
  Except.avoids_error h

theorem avoids_modify (f : Work → Work) (w : Work) : (modify f : Working Unit).Avoids test w :=
  Except.avoids_ok _

theorem avoids_ofExcept {x : Except Failure α} (h : Except.Avoids test x) (w : Work) :
    (ofExcept x).Avoids test w := by
  cases x with
  | error f => exact avoids_fail (h f rfl) w
  | ok a => exact avoids_pure a w

theorem avoids_mapM {f : α → Working β} (hf : ∀ a w, (f a).Avoids test w) (xs : List α) (w : Work) :
    (xs.mapM f).Avoids test w := by
  induction xs generalizing w with
  | nil => exact avoids_pure [] w
  | cons x xs ih =>
    rw [List.mapM_cons]
    exact avoids_bind (hf x w) fun _ w' _ => avoids_bind (ih w') fun _ _ _ => avoids_pure _ _

theorem avoids_placeAt (h : test .outOfRange = false) (a : Address) (w : Work) :
    (placeAt a).Avoids test w := by
  refine avoids_bind (avoids_bind (Except.avoids_ok _) fun _ _ _ => avoids_pure _ _)
    fun root w' _ => ?_
  split
  · exact avoids_pure _ _
  · exact avoids_fail h _

end Working

end Closure

section Start

theorem Policy.avoids_checked (policy : Policy) : policy.checked.Avoids Failure.isInside := by
  rw [checked]
  cases policy.allowed with
  | none => exact Logged.avoids_pure _
  | some allowed =>
    refine Logged.avoids_bind (Logged.avoids_ofExcept ?_) fun both =>
      Logged.avoids_bind (Logged.avoids_forM (fun uri => ?_) both) fun _ =>
        Logged.avoids_pure _
    · rw [collisions]
      split
      · exact Except.avoids_error rfl
      · dsimp only
        split
        · exact Except.avoids_ok _
        · exact Except.avoids_error rfl
    · split
      · exact Logged.avoids_fail rfl
      · exact Logged.avoids_log _

theorem Policy.avoids_classify (policy : Policy) (root : Element) :
    (policy.classify root).Avoids Failure.isInside := by
  refine Logged.avoids_bind policy.avoids_checked fun allowed =>
    Logged.avoids_bind (Logged.avoids_ofExcept ?_) fun _ =>
      Logged.avoids_bind (Logged.avoids_log _) fun _ => Logged.avoids_pure _
  rw [helpersAmong]
  split
  · split
    · exact Except.avoids_ok _
    · exact Except.avoids_error rfl
  · exact Except.avoids_ok _

namespace Query

theorem avoids_membersOf (j : Json) : Except.Avoids Failure.isInside (membersOf j) := by
  rw [membersOf]
  split
  · exact Except.avoids_ok _
  · exact Except.avoids_error rfl

theorem avoids_literalOf (j : Json) : Except.Avoids Failure.isInside (literalOf j) := by
  rw [literalOf.eq_def]
  split
  · exact Except.avoids_ok _
  · split
    · exact Except.avoids_error rfl
    · split
      · exact Except.avoids_ok _
      · split
        · exact Except.avoids_ok _
        · exact Except.avoids_error rfl

theorem avoids_namespaceTestOf (uris places : Json) :
    Except.Avoids Failure.isInside (namespaceTestOf uris places) := by
  refine Except.avoids_bind (avoids_membersOf uris) fun uris _ =>
    Except.avoids_bind (Except.avoids_mapM (fun uri => ?_) uris) fun _ _ =>
      Except.avoids_ok _
  refine Except.avoids_bind (avoids_membersOf places) fun places _ =>
    Except.avoids_mapM (fun place => ?_) places
  exact Except.avoids_bind (avoids_literalOf uri) fun _ _ => Except.avoids_ok _

theorem avoids_tests (uris : List Json) (policy : Policy) :
    Except.Avoids Failure.isInside (Tests.of uris policy) :=
  Except.avoids_bind (avoids_namespaceTestOf _ _) fun _ _ =>
    Except.avoids_bind (avoids_namespaceTestOf _ _) fun _ _ =>
      Except.avoids_bind (avoids_literalOf _) fun _ _ =>
        Except.avoids_bind (avoids_literalOf _) fun _ _ => Except.avoids_ok _

end Query

theorem Policy.avoids_checkShield (policy : Policy) :
    Except.Avoids Failure.isInside policy.checkShield := by
  rw [checkShield, Query.check]
  split
  · exact Except.avoids_error rfl
  · split
    · exact Except.avoids_error rfl
    · exact Except.avoids_ok _

theorem Policy.avoids_matcher (p : Policy) : Except.Avoids Failure.isInside p.matcher := by
  rw [Policy.matcher]
  split
  · split
    · exact Except.avoids_ok _
    · exact Except.avoids_error rfl
  · exact Except.avoids_error rfl

theorem Policy.avoids_hashing (p : Policy) : Except.Avoids Failure.isInside p.hashing := by
  rw [Policy.hashing]
  split
  · split
    · exact Except.avoids_ok _
    · exact Except.avoids_error rfl
    · exact Except.avoids_error rfl
  · exact Except.avoids_error rfl

theorem Pass.avoids_pathsOf (root : Element) : Except.Avoids Failure.isInside (pathsOf root) := by
  refine Except.avoids_mapM (fun q => ?_) root.places
  split
  · exact Except.avoids_ok _
  · exact Except.avoids_error rfl

theorem Pass.avoids_prepare (policy : Policy) (selector : Selector) (d : Markup.Document)
    (file : Option String) : (prepare policy selector d file).Avoids Failure.isInside := by
  refine Logged.avoids_bind (Logged.avoids_ofExcept policy.avoids_matcher) fun _ => ?_
  refine Logged.avoids_bind (Logged.avoids_ofExcept (Pass.avoids_pathsOf d.root))
    fun _ => ?_
  have hrest : ∀ paths directives, (do
      let digest ← Logged.ofExcept (policy.hashing)
      return { file, hypertext := d.isHypertext, selector, directives, digest, paths
               markers := markersOf digest paths (selector.nodes d.root) } : Logged Pass).Avoids
        Failure.isInside :=
    fun _ _ => Logged.avoids_bind (Logged.avoids_ofExcept policy.avoids_hashing)
      fun _ => Logged.avoids_pure _
  dsimp only
  split
  · exact Logged.avoids_bind (Logged.avoids_ofExcept policy.avoids_checkShield)
      fun _ => hrest _ _
  · exact hrest _ _

theorem Pass.avoids_start (policy : Policy) (d : Markup.Document) (file : Option String) :
    (start policy d file).Avoids Failure.isInside := by
  refine Logged.avoids_bind (policy.avoids_classify d.root) fun uris => ?_
  have hselector : Except.Avoids Failure.isInside (Selector.of policy uris) :=
    Except.avoids_bind (Except.avoids_bind (Query.avoids_tests _ _) fun _ _ =>
      Except.avoids_ok _) fun _ _ => Except.avoids_ok _
  exact Logged.avoids_bind (Logged.avoids_ofExcept hselector) fun selector =>
    avoids_prepare policy selector d file

/-- Lexing fails when a pass starts or while nodes are worked on. -/
theorem Document.lex_error {policy : Policy} {d : Markup.Document} {file : Option String}
    {f : Failure} (h : (lex policy d file).run.1 = .error f) :
    f.isInside = false ∨ ∃ p, Pass.Starts policy d.root p ∧ p.file = file
      ∧ Working.nodes p (Working.start d.root) = .error f := by
  have hrun : lex policy d file [] = (.error f, (lex policy d file).run.2) := Prod.ext h rfl
  rcases Logged.bind_error hrun with hstart | ⟨p, l₁, hstart, hfrom⟩
  · exact .inl (Pass.avoids_start policy d file _ _ _ hstart)
  obtain ⟨hp, hfile, -⟩ := Pass.start_ok hstart
  rcases Logged.bind_error hfrom with hlog | ⟨_, l₂, -, hnodes⟩
  · exact .inl (Logged.avoids_log _ _ _ _ hlog)
  cases hresult : (Working.nodes p).run (Working.start d.root) with
  | error g =>
    rw [hresult] at hnodes
    cases hnodes
    exact .inr ⟨p, hp, hfile, hresult⟩
  | ok r =>
    rw [hresult] at hnodes
    rcases Logged.bind_error hnodes with hlog | ⟨_, l₃, -, hreturn⟩
    · exact .inl (Logged.avoids_log _ _ _ _ hlog)
    · exact .inl (Logged.avoids_pure _ _ _ _ hreturn)

end Start

end TemplateLexer
