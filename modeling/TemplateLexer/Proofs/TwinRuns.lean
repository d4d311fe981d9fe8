import TemplateLexer.Proofs.QueryTexts
import TemplateLexer.Proofs.ReadNames
import TemplateLexer.Proofs.TwinWork

set_option autoImplicit false

namespace TemplateLexer

open Markup

section Run

variable {policy : Policy} {root root' : Element} {p p' : Pass} {done done' todo todo' : List Place}

theorem Working.alike_forM_node (h : p.Twins policy root root' p')
    (hall : byDepth (p.selector.nodes root) = todo.reverse ++ done)
    (hall' : byDepth (p'.selector.nodes root') = todo'.reverse ++ done')
    (htodo : List.Forall₂ (fun q q' => q.masked policy = q'.masked policy) todo todo')
    (hdone : done.map (Place.masked policy) = done'.map (Place.masked policy))
    (hfills : p.Fills done) (hfills' : p'.Fills done') {ts ts' : List Token}
    (hw : Work.Alike policy root root'
      { p.workAfter root (p.selector.nodes root) done with tokens := ts }
      { p'.workAfter root' (p'.selector.nodes root') done' with tokens := ts' }) :
    Working.Alike policy root root' (fun _ _ => True)
      ((todo.map (p.markerOf (p.selector.nodes root))).forM (node p))
      ((todo'.map (p'.markerOf (p'.selector.nodes root'))).forM (node p'))
      { p.workAfter root (p.selector.nodes root) done with tokens := ts }
      { p'.workAfter root' (p'.selector.nodes root') done' with tokens := ts' } := by
  induction htodo generalizing done done' ts ts' with
  | nil => exact alike_pure hw trivial
  | @cons q q' todo todo' hq hrest ih =>
    rw [List.reverse_cons, List.append_assoc, List.singleton_append] at hall hall'
    have hdue := Pass.due_of_nodes hall
    have hdue' := Pass.due_of_nodes hall'
    have habreast : Pass.Abreast policy root root' p p' done done' q q' :=
      ⟨h, hdue, hdue', hfills, hfills', hq, hdone⟩
    refine alike_bind (alike_node habreast hw) fun _ _ v v' hv hv' _ hvv => ?_
    obtain ⟨b, hb, hdescribes, -, hafter⟩ := node_ok rfl hdue hv
    obtain ⟨b', hb', hdescribes', -, hafter'⟩ := node_ok rfl hdue' hv'
    subst hb hb'
    by_cases hroot : b.place.address = []
    · -- The root is the last one.
      obtain rfl := Pass.eq_nil_of_root hall hroot
      cases hrest
      exact alike_pure hvv trivial
    · have hroot' : b'.place.address ≠ [] := habreast.address_eq ▸ hroot
      have hnew : p.Fills (b.place :: done) :=
        List.forall_mem_cons.2 ⟨fun hne => hdescribes.placeholder hne, hfills⟩
      have hnew' : p'.Fills (b'.place :: done') :=
        List.forall_mem_cons.2 ⟨fun hne => hdescribes'.placeholder hne, hfills'⟩
      rw [hafter hroot, hafter' hroot'] at hvv ⊢
      exact ih hall hall' (by rw [List.map_cons, List.map_cons, hq, hdone]) hnew hnew' hvv

theorem Working.alike_nodes (h : p.Twins policy root root' p') :
    Working.Alike policy root root' (fun _ _ => True) (nodes p) (nodes p') (start root)
      (start root') := by
  have htodo : List.Forall₂ (fun q q' => q.masked policy = q'.masked policy)
      (byDepth (p.selector.nodes root)).reverse (byDepth (p'.selector.nodes root')).reverse := by
    refine List.rel_reverse ?_
    have hnodes := congrArg byDepth h.nodes_eq
    rw [← map_masked_byDepth, ← map_masked_byDepth, ← List.forall₂_eq_eq_eq,
      List.forall₂_map_left_iff, List.forall₂_map_right_iff] at hnodes
    exact hnodes
  rw [nodes, nodes, Pass.schedule_eq (p.selector.pairwise_nodes root) h.left.starts.markers,
    Pass.schedule_eq (p'.selector.pairwise_nodes root') h.right.starts.markers,
    ← p.workAfter_nil root (p.selector.nodes root),
    ← p'.workAfter_nil root' (p'.selector.nodes root')]
  have hnone : ∀ pass : Pass, pass.Fills [] := fun _ _ hr => by cases hr
  exact alike_forM_node h (by simp) (by simp) htodo rfl (hnone p) (hnone p') ⟨.nil, .nil, rfl⟩

end Run

namespace Logged

variable {α β γ δ : Type} {R : α → β → Prop} {S : γ → δ → Prop} {x : Logged α} {y : Logged β}

/-- Computations that fail alike or return related values, whatever was logged before. -/
def Alike (R : α → β → Prop) (x : Logged α) (y : Logged β) : Prop :=
  ∀ log log', Except.Alike R (x log).1 (y log').1

theorem alike_bind_at {f : α → Logged γ} {g : β → Logged δ} {log log' : List LogEntry}
    (hxy : Except.Alike R (x log).1 (y log').1)
    (hfg : ∀ a b, R a b → Logged.Alike S (f a) (g b)) :
    Except.Alike S ((x >>= f) log).1 ((y >>= g) log').1 := by
  obtain ⟨r, mid, hx⟩ : ∃ r mid, x log = (r, mid) := ⟨_, _, rfl⟩
  obtain ⟨r', mid', hy⟩ : ∃ r mid, y log' = (r, mid) := ⟨_, _, rfl⟩
  rw [hx, hy] at hxy
  cases hxy with
  | ok h =>
    rw [bind_of_ok hx, bind_of_ok hy]
    exact hfg _ _ h mid mid'
  | error e =>
    rw [bind_of_error hx, bind_of_error hy]
    exact .error e

theorem alike_bind {f : α → Logged γ} {g : β → Logged δ} (hxy : Logged.Alike R x y)
    (hfg : ∀ a b, R a b → Logged.Alike S (f a) (g b)) : Logged.Alike S (x >>= f) (y >>= g) :=
  fun log log' => alike_bind_at (hxy log log') hfg

theorem alike_pure {a : α} {b : β} (h : R a b) : Logged.Alike R (pure a) (pure b) :=
  fun _ _ => .ok h

theorem alike_fail (f : Failure) : Logged.Alike R (fail f) (fail f) := fun _ _ => .error f

theorem alike_log (e e' : LogEntry) : Logged.Alike (fun _ _ => True) (log e) (log e') :=
  fun _ _ => .ok trivial

theorem alike_ofExcept {a : Except Failure α} {b : Except Failure β} (h : Except.Alike R a b) :
    Logged.Alike R (ofExcept a) (ofExcept b) := by
  cases h with
  | ok h => exact alike_pure h
  | error e => exact alike_fail e

theorem alike_ofExcept_self (a : Except Failure α) : Logged.Alike Eq (ofExcept a) (ofExcept a) :=
  alike_ofExcept (Except.alike_self a fun _ _ => rfl)

theorem Alike.outcome {x : Logged α} (h : Logged.Alike Eq x x) :
    Logged.Alike (fun a b => a = b ∧ x.run.1 = .ok a) x x := by
  intro log log'
  have hleft : Except.Alike Eq (x log).1 x.run.1 := h log []
  have hright := h log log'
  generalize (x log).1 = r, (x log').1 = r' at hleft hright
  cases hright with
  | error e => exact .error e
  | @ok a b hab =>
    subst hab
    generalize x.run.1 = r at hleft
    cases hleft with
    | ok hrun => exact .ok ⟨rfl, congrArg _ hrun.symm⟩

theorem alike_forM {ι : Type} {f : ι → Logged Unit}
    (h : ∀ i, Logged.Alike (fun _ _ => True) (f i) (f i)) (is : List ι) :
    Logged.Alike (fun _ _ => True) (is.forM f) (is.forM f) := by
  induction is with
  | nil => exact alike_pure trivial
  | cons i is ih => exact alike_bind (h i) fun _ _ _ => ih

end Logged

section Start

variable {policy : Policy} {root root' : Element} {uris uris' : List String} {u : String}

namespace Policy

theorem alike_checked (policy : Policy) :
    Logged.Alike Eq policy.checked policy.checked := by
  rw [checked]
  split
  · exact Logged.alike_pure rfl
  · refine Logged.alike_bind (Logged.alike_ofExcept_self _) fun both both' hboth => ?_
    subst hboth
    refine Logged.alike_bind (Logged.alike_forM (fun uri => ?_) both) fun _ _ _ =>
      Logged.alike_pure rfl
    split
    · exact Logged.alike_fail _
    · exact Logged.alike_log _ _

theorem classify_of_helpersAmong {allowed : List Json} (hallowed : policy.checked.run.1 = .ok allowed)
    (h : policy.helpersAmong allowed (declaredNamespaces root) = .ok uris) :
    (policy.classify root).run.1 = .ok uris := by
  obtain ⟨log, hallowed⟩ := Logged.run_ok hallowed
  show (policy.classify root []).1 = .ok uris
  rw [classify, Logged.bind_of_ok hallowed, h]
  rfl

/-- A namespace that holds helpers in one document holds helpers in every other one that declares
it. -/
theorem mem_of_classify (h : (policy.classify root).run.1 = .ok uris)
    (h' : (policy.classify root').run.1 = .ok uris') (hu : u ∈ uris)
    (hdeclared : u ∈ declaredNamespaces root') : u ∈ uris' := by
  obtain ⟨allowed, log, hallowed, hhelpers⟩ := helpersAmong_of_classify h
  obtain ⟨allowed', log', hallowed', hhelpers'⟩ := helpersAmong_of_classify h'
  cases hallowed.symm.trans hallowed'
  obtain ⟨-, denied, hdenied, hholds⟩ := mem_of_helpersAmong hhelpers hu
  rw [helpersAmong, hdenied] at hhelpers'
  cases hhelpers'
  exact List.mem_filter.2 ⟨hdeclared, hholds⟩

end Policy

theorem declares_iff (h : root.masked policy = root'.masked policy) :
    root.Declares policy u ↔ root'.Declares policy u :=
  exists_exposed_iff h fun _ => Iff.rfl

theorem mem_declaredNamespaces (h : root.Declares policy u) : u ∈ declaredNamespaces root := by
  obtain ⟨q, hq, d, hd, rfl⟩ := h
  rw [declaredNamespaces, mem_distinct, List.mem_flatMap]
  exact ⟨q, (mem_exposed_iff.1 hq).1, List.mem_map_of_mem hd⟩

/-- Whether nothing inside the shielding elements of a document reaches out of them: they are
helpers, what is declared inside them makes no helpers of names without a namespace and the like,
nothing inside them is taken for a placeholder, and everything inside them has a path. -/
structure Markup.Element.IsContained (policy : Policy) (root : Element) : Prop where
  helpers : ∀ uris, (policy.classify root).run.1 = .ok uris → ∀ q ∈ root.exposed policy,
    policy.shields q.tag = true → q.tag.name.isIn uris = true
  tacit : ∀ uris, (policy.classify root).run.1 = .ok uris → ∀ u ∈ policy.tacit, u ∈ uris →
    root.Declares policy u
  hidden : ∀ selections, policy.placeholders = .ok selections → ∀ q ∈ root.places,
    q.above.any policy.shields = true → selections.any (·.holds q.tag.name) = false
  readable : ∀ q ∈ root.places, q.above.any policy.shields = true →
    root.path? q.address ≠ none

theorem mem_uris_of_masked (hmasked : root.masked policy = root'.masked policy)
    (hc : root.IsContained policy) (h : (policy.classify root).run.1 = .ok uris)
    (h' : (policy.classify root').run.1 = .ok uris') (hknown : root.Knows policy u)
    (hu : u ∈ uris) : u ∈ uris' := by
  have hdeclares : root.Declares policy u := hknown.elim (fun ht => hc.tacit uris h u ht hu) id
  exact Policy.mem_of_classify h h' hu (mem_declaredNamespaces ((declares_iff hmasked).1 hdeclares))

theorem Markup.Tag.IsRead.namesWithin {q : Place} (h : q.tag.IsRead q.above)
    (hq : q ∈ root.exposed policy) : q.tag.NamesWithin (root.Knows policy) := by
  have hknown : ∀ n : Name, (∀ u, n.uri = some u → u = xmlUri ∨ ∃ d ∈ q.bindings, d.uri = u) →
      root.Knows policy (n.uri.getD "") := by
    intro n hn
    cases huri : n.uri with
    | none => exact .inl (by simp [Policy.tacit])
    | some u =>
      rcases hn u huri with rfl | ⟨d, hd, rfl⟩
      · exact .inl (by simp [Policy.tacit])
      · exact .inr ⟨q, hq, d, hd, rfl⟩
  refine ⟨hknown _ fun u hu => ?_, fun a ha => hknown _ fun u hu => ?_⟩
  · exact (h.named u hu).imp id fun hd => ⟨_, hd, rfl⟩
  · rcases h.bound a ha u hu with hxml | ⟨x, -, hd⟩
    · exact .inl hxml
    · exact .inr ⟨_, hd, rfl⟩

/-- Two documents that differ inside shielding elements only, where twins take up as many lines. -/
structure Markup.Element.IsTwin (policy : Policy) (root root' : Element) : Prop where
  masked : root.masked policy = root'.masked policy
  lines : ∀ q q', Place.Twins policy root root' q q' →
    lineBreaks q.markup.toList = lineBreaks q'.markup.toList

section Passes

variable {file : Option String} {p p' : Pass}

/-- Passes that start over such documents. -/
theorem Pass.Starts.twins (hp : Starts policy root p) (hp' : Starts policy root' p')
    (hfile : p.file = p'.file) (hhypertext : p.hypertext = p'.hypertext)
    (htwin : root.IsTwin policy root') (hc : root.IsContained policy)
    (hc' : root'.IsContained policy) (hread : ∀ q ∈ root.places, q.tag.IsRead q.above)
    (hread' : ∀ q ∈ root'.places, q.tag.IsRead q.above) : p.Twins policy root root' p' := by
  have hnames : ∀ q ∈ root.exposed policy, q.tag.NamesWithin (root.Knows policy) :=
    fun q hq => (hread q (mem_exposed_iff.1 hq).1).namesWithin hq
  have hnames' : ∀ q ∈ root'.exposed policy, q.tag.NamesWithin (root'.Knows policy) :=
    fun q hq => (hread' q (mem_exposed_iff.1 hq).1).namesWithin hq
  have hknows : ∀ u, root.Knows policy u → root'.Knows policy u :=
    fun u hu => hu.imp id (declares_iff htwin.masked).1
  have hselector : p.selector.Agrees (root.Knows policy) p'.selector := by
    refine ⟨hp.policy_eq.trans hp'.policy_eq.symm, ?_, fun u hu => ?_⟩
    · rw [hp.selector, hp'.selector]
    · rw [Bool.eq_iff_iff, List.contains_iff_mem, List.contains_iff_mem]
      exact ⟨mem_uris_of_masked htwin.masked hc hp.uris hp'.uris hu,
        mem_uris_of_masked htwin.masked.symm hc' hp'.uris hp.uris (hknows u hu)⟩
  have hdigest : p.digest = p'.digest := Except.ok.inj (hp.digest.symm.trans hp'.digest)
  have hpaths : ∀ a, root.Exposes policy a → p.pathAt a = p'.pathAt a := by
    rintro _ ⟨q, hq, rfl⟩
    obtain ⟨q', hq', hmasked⟩ := exists_masked_eq htwin.masked hq
    have haddress : q'.address = q.address := by simpa using congrArg Place.address hmasked
    have hleft := path?_of_pathsOf hp.paths (mem_exposed_iff.1 hq).1
    have hright := path?_of_pathsOf hp'.paths (mem_exposed_iff.1 hq').1
    rw [← path?_masked hq] at hleft
    rw [← path?_masked hq', haddress, ← htwin.masked, hleft] at hright
    exact Option.some.inj hright
  have hnodes := Selector.map_masked_nodes hp.policy_eq hselector htwin.masked hnames
  have hleft : p.Contains policy root :=
    ⟨hp, hnames, hc.helpers _ hp.uris, hc.hidden⟩
  have hmarkers : p.markers = p'.markers := by
    rw [hp.markers, hp'.markers, markersOf_eq (p.selector.pairwise_nodes root),
      markersOf_eq (p'.selector.pairwise_nodes root')]
    refine (List.map_congr_left fun q hq => ?_).trans (map_eq_of_map_masked (fun _ => rfl) hnodes)
    exact Pass.markerOf_eq hdigest hpaths hnodes
      (fun r hr => hleft.exposed_of_mem_nodes hr) hq
  exact ⟨hleft, ⟨hp', hnames', hc'.helpers _ hp'.uris, hc'.hidden⟩, htwin.masked,
    ⟨hfile, hhypertext, hselector, Except.ok.inj (hp.directives.symm.trans hp'.directives), hdigest, hpaths,
      hmarkers⟩, htwin.lines⟩

end Passes

section Beginnings

theorem Except.mapM_error {ε α β : Type} {f : α → Except ε β} {xs : List α} {e : ε}
    (h : xs.mapM f = .error e) : ∃ x ∈ xs, f x = .error e := by
  induction xs with
  | nil => cases h
  | cons x xs ih =>
    rw [List.mapM_cons] at h
    cases hx : f x with
    | error e' =>
      rw [hx] at h
      cases h
      exact ⟨x, List.mem_cons_self .., hx⟩
    | ok y =>
      rw [hx] at h
      cases hxs : xs.mapM f with
      | error e' =>
        rw [hxs] at h
        cases h
        obtain ⟨z, hz, he⟩ := ih hxs
        exact ⟨z, List.mem_cons_of_mem _ hz, he⟩
      | ok ys =>
        rw [hxs] at h
        cases h

theorem Pass.pathsOf_error {e : Failure} (h : pathsOf root = .error e) :
    e = .unreadablePath ∧ ∃ q ∈ root.places, root.path? q.address = none := by
  obtain ⟨q, hq, he⟩ := Except.mapM_error h
  split at he
  · cases he
  · rename_i hnone
    cases he
    exact ⟨rfl, q, hq, hnone⟩

theorem Pass.alike_pathsOf (hmasked : root.masked policy = root'.masked policy)
    (hc : root.IsContained policy) (hc' : root'.IsContained policy) :
    Except.Alike (fun _ _ => True) (pathsOf root) (pathsOf root') := by
  have hnone : ∀ {r r' : Element}, r.masked policy = r'.masked policy → r.IsContained policy →
      ∀ {e paths}, pathsOf r = .error e → pathsOf r' = .ok paths → False := by
    intro r r' hmasked hc e paths he hok
    obtain ⟨-, q, hq, hnone⟩ := pathsOf_error he
    have hout : q.above.any policy.shields = false :=
      Bool.eq_false_iff.2 fun hin => hc.readable q hq hin hnone
    have hexposed := mem_exposed_iff.2 ⟨hq, hout⟩
    obtain ⟨q', hq', hsame⟩ := exists_masked_eq hmasked hexposed
    have haddress : q'.address = q.address := by simpa using congrArg Place.address hsame
    have hpath := path?_of_pathsOf hok (mem_exposed_iff.1 hq').1
    rw [← path?_masked hq', haddress, ← hmasked, path?_masked hexposed, hnone] at hpath
    cases hpath
  cases hpaths : pathsOf root with
  | ok paths =>
    cases hpaths' : pathsOf root' with
    | ok paths' => exact .ok trivial
    | error e => exact (hnone hmasked.symm hc' hpaths' hpaths).elim
  | error e =>
    cases hpaths' : pathsOf root' with
    | ok paths' => exact (hnone hmasked hc hpaths hpaths').elim
    | error e' =>
      rw [(pathsOf_error hpaths).1, (pathsOf_error hpaths').1]
      exact .error _

theorem Query.alike_tests (policy : Policy) (uris uris' : List String) :
    Except.Alike (fun _ _ => True) (Tests.of (uris.map .str) policy)
      (Tests.of (uris'.map .str) policy) := by
  have hself : Except.Alike Eq (literalOf policy.rawUri) (literalOf policy.rawUri) :=
    Except.alike_self _ fun _ _ => rfl
  have hbase : Except.Alike Eq (literalOf policy.rawBase) (literalOf policy.rawBase) :=
    Except.alike_self _ fun _ _ => rfl
  have htest : ∀ (us : List String) (place : String),
      namespaceTestOf (.arr (us.map .str)) (.arr [.str place]) = .ok (namespaceTest us [place]) :=
    fun us place => namespaceTestOf_eq us [place]
  rw [Tests.of, Tests.of, htest, htest, htest, htest]
  exact hself.bind fun _ _ _ _ _ => hbase.bind fun _ _ _ _ _ => .ok trivial

theorem Selector.alike_of (policy : Policy) (uris uris' : List String) :
    Except.Alike (fun s s' => s.uris = uris ∧ s'.uris = uris')
      (Selector.of policy uris) (Selector.of policy uris') := by
  have htests : Except.Alike Eq (discard (Query.Tests.of (uris.map .str) policy))
      (discard (Query.Tests.of (uris'.map .str) policy)) :=
    (Query.alike_tests policy uris uris').bind fun _ _ _ _ _ => .ok rfl
  exact htests.bind fun _ _ _ _ _ => .ok ⟨rfl, rfl⟩

theorem Markup.Element.IsContained.isEmpty_uris (hc : root.IsContained policy) {q : Place}
    (hq : q ∈ root.exposed policy) (hshields : policy.shields q.tag = true)
    (h : (policy.classify root).run.1 = .ok uris) : uris.isEmpty = false := by
  have hin := hc.helpers uris h q hq hshields
  cases uris with
  | nil =>
    rw [Name.isIn] at hin
    split at hin <;> cases hin
  | cons _ _ => rfl

theorem Policy.alike_helpersAmong {allowed : List Json} {declared declared' : List String}
    (h : ∀ uris, policy.helpersAmong allowed declared = .ok uris → uris.isEmpty = false)
    (h' : ∀ uris, policy.helpersAmong allowed declared' = .ok uris → uris.isEmpty = false) :
    Except.Alike (fun uris uris' => uris.isEmpty = false ∧ uris'.isEmpty = false)
      (policy.helpersAmong allowed declared) (policy.helpersAmong allowed declared') := by
  cases hdenied : policy.denied with
  | none =>
    have herror : ∀ declared : List String,
        (∀ uris, policy.helpersAmong allowed declared = .ok uris → uris.isEmpty = false) →
          policy.helpersAmong allowed declared = .error .badType := by
      intro declared h
      have hrun : policy.helpersAmong allowed declared
          = if declared.isEmpty then .ok [] else .error .badType := by
        rw [helpersAmong, hdenied]
      cases hempty : declared.isEmpty with
      | false => rw [hrun, hempty, if_neg Bool.false_ne_true]
      | true => cases h [] (by rw [hrun, hempty, if_pos rfl])
    rw [herror _ h, herror _ h']
    exact .error _
  | some denied =>
    have hok : ∀ declared, ∃ uris, policy.helpersAmong allowed declared = .ok uris :=
      fun declared => ⟨_, by rw [helpersAmong, hdenied]⟩
    obtain ⟨uris, huris⟩ := hok declared
    obtain ⟨uris', huris'⟩ := hok declared'
    rw [huris, huris']
    exact .ok ⟨h uris huris, h' uris' huris'⟩

theorem Policy.alike_classify (hmasked : root.masked policy = root'.masked policy)
    (hc : root.IsContained policy) (hc' : root'.IsContained policy) {q : Place}
    (hq : q ∈ root.exposed policy) (hshields : policy.shields q.tag = true) :
    Logged.Alike (fun uris uris' => uris.isEmpty = false ∧ uris'.isEmpty = false)
      (policy.classify root) (policy.classify root') := by
  obtain ⟨q', hq', hsame⟩ := exists_masked_eq hmasked hq
  have htag : q'.tag = q.tag := by simpa using congrArg Place.tag hsame
  refine Logged.alike_bind policy.alike_checked.outcome fun allowed allowed' hallowed => ?_
  obtain ⟨rfl, hallowed⟩ := hallowed
  have hhelpers := alike_helpersAmong
    (fun uris h => hc.isEmpty_uris hq hshields (classify_of_helpersAmong hallowed h))
    (fun uris h => hc'.isEmpty_uris hq' (htag ▸ hshields) (classify_of_helpersAmong hallowed h))
  refine Logged.alike_bind (Logged.alike_ofExcept hhelpers) fun uris uris' huris => ?_
  exact Logged.alike_bind (Logged.alike_log _ _) fun _ _ _ => Logged.alike_pure huris

theorem Pass.alike_start {d d' : Markup.Document}
    (hmasked : d.root.masked policy = d'.root.masked policy)
    (hc : d.root.IsContained policy) (hc' : d'.root.IsContained policy) {q : Place}
    (hq : q ∈ d.root.exposed policy) (hshields : policy.shields q.tag = true)
    (file : Option String) :
    Logged.Alike (fun _ _ => True) (start policy d file) (start policy d' file) := by
  refine Logged.alike_bind (Policy.alike_classify hmasked hc hc' hq hshields)
    fun uris uris' huris => ?_
  refine Logged.alike_bind (Logged.alike_ofExcept (Selector.alike_of policy uris uris'))
    fun s s' hs => ?_
  refine Logged.alike_bind (Logged.alike_ofExcept_self _) fun m m' _ => ?_
  refine Logged.alike_bind (Logged.alike_ofExcept (alike_pathsOf hmasked hc hc'))
    fun paths paths' _ => ?_
  rw [hs.1, hs.2, huris.1, huris.2]
  refine Logged.alike_bind (Logged.alike_ofExcept_self _) fun _ _ _ => ?_
  exact Logged.alike_bind (Logged.alike_ofExcept_self _) fun _ _ _ => Logged.alike_pure trivial

end Beginnings

end Start

namespace Document

variable {policy : Policy} {d d' : Markup.Document}

theorem alike_passes (hhypertext : d.isHypertext = d'.isHypertext)
    (htwin : d.root.IsTwin policy d'.root) (hc : d.root.IsContained policy)
    (hc' : d'.root.IsContained policy) (hread : ∀ q ∈ d.root.places, q.tag.IsRead q.above)
    (hread' : ∀ q ∈ d'.root.places, q.tag.IsRead q.above) (file : Option String) :
    Except.Alike (fun p p' => Except.Alike
        (fun r r' => List.Forall₂ (Token.Alike policy d.root d'.root) r.2.tokens r'.2.tokens)
        ((Working.nodes p).run (Working.start d.root))
        ((Working.nodes p').run (Working.start d'.root)))
      (Pass.start policy d file).run.1 (Pass.start policy d' file).run.1 := by
  by_cases hshield : ∃ q ∈ d.root.exposed policy, policy.shields q.tag = true
  · obtain ⟨q, hq, hshields⟩ := hshield
    have hstart := Pass.alike_start htwin.masked hc hc' hq hshields file [] []
    refine hstart.imp fun p p' hp hp' _ => ?_
    obtain ⟨log, hp⟩ := Logged.run_ok hp
    obtain ⟨log', hp'⟩ := Logged.run_ok hp'
    obtain ⟨hstarts, hfile, htype⟩ := Pass.start_ok hp
    obtain ⟨hstarts', hfile', htype'⟩ := Pass.start_ok hp'
    have htwins := hstarts.twins hstarts' (hfile.trans hfile'.symm)
      (htype.trans (hhypertext.trans htype'.symm)) htwin hc hc' hread hread'
    exact (Working.alike_nodes htwins).imp fun _ _ _ _ hw => hw.2.tokens
  · -- Where nothing shields, there is nothing in which the documents differ.
    have hnone : ∀ q ∈ d.root.exposed policy, policy.shields q.tag = false :=
      fun q hq => Bool.eq_false_iff.2 fun hshields => hshield ⟨q, hq, hshields⟩
    have hnone' : ∀ q ∈ d'.root.exposed policy, policy.shields q.tag = false := by
      intro q' hq'
      obtain ⟨q, hq, hsame⟩ := exists_masked_eq htwin.masked.symm hq'
      have htag : q.tag = q'.tag := by simpa using congrArg Place.tag hsame
      exact htag ▸ hnone q hq
    have hroot : d.root = d'.root := by
      rw [← Element.masked_eq_self hnone, htwin.masked, Element.masked_eq_self hnone']
    have hstart : Pass.start policy d file = Pass.start policy d' file := by
      simp only [Pass.start, Pass.prepare, hroot, hhypertext]
    rw [← hstart, ← hroot]
    exact Except.alike_self _ fun p _ => Except.alike_self _ fun r _ =>
      List.forall₂_same.2 fun t _ => .same t

/-- Lexing two documents that differ inside shielding elements only. -/
theorem alike_lex (hversion : d.version = d'.version) (hencoding : d.encoding = d'.encoding)
    (hhypertext : d.isHypertext = d'.isHypertext) (htwin : d.root.IsTwin policy d'.root) (hc : d.root.IsContained policy)
    (hc' : d'.root.IsContained policy) (hread : ∀ q ∈ d.root.places, q.tag.IsRead q.above)
    (hread' : ∀ q ∈ d'.root.places, q.tag.IsRead q.above) (file : Option String) :
    Except.Alike (fun s s' => List.Forall₂ (Token.Alike policy d.root d'.root) s.toList s'.toList)
      (lex policy d file).run.1 (lex policy d' file).run.1 := by
  refine Logged.alike_bind_at (alike_passes hhypertext htwin hc hc' hread hread' file) fun p p' hnodes => ?_
  refine Logged.alike_bind (Logged.alike_log _ _) fun _ _ _ => ?_
  generalize (Working.nodes p).run (Working.start d.root) = r,
    (Working.nodes p').run (Working.start d'.root) = r' at hnodes
  cases hnodes with
  | error e => exact Logged.alike_fail e
  | ok hw =>
    refine Logged.alike_bind (Logged.alike_log _ _) fun _ _ _ => Logged.alike_pure ?_
    show List.Forall₂ _ (property .xmlVersion d.version :: property .xmlEncoding d.encoding :: _)
      (property .xmlVersion d'.version :: property .xmlEncoding d'.encoding :: _)
    rw [hversion, hencoding]
    exact .cons (.same _) (.cons (.same _) hw)

end Document

end TemplateLexer
