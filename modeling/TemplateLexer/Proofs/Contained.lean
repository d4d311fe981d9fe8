import TemplateLexer.Proofs.TwinRuns
/-!
What is inside shielding elements stays there. Whether two documents differ inside shielding elements
only, and whether nothing inside them reaches out, can be decided; if so, the streams of the
documents are the same but for the markup of these elements.
-/

set_option autoImplicit false

namespace TemplateLexer

open Markup

namespace Markup

mutual

def Node.isSame : Node → Node → Bool
  | .element t xs, .element t' ys => t == t' && allSame xs ys
  | .text s, .text s' => s == s'
  | .cdata s, .cdata s' => s == s'
  | .comment s, .comment s' => s == s'
  | .instruction t d, .instruction t' d' => t == t' && d == d'
  | .reference s, .reference s' => s == s'
  | _, _ => false

def allSame : List Node → List Node → Bool
  | [], [] => true
  | m :: ms, n :: ns => m.isSame n && allSame ms ns
  | _, _ => false

end

mutual

theorem Node.isSame_iff {m n : Node} : m.isSame n = true ↔ m = n := by
  cases m with
  | element t xs =>
    cases n with
    | element t' ys =>
      have hxs : allSame xs ys = true ↔ xs = ys := allSame_iff
      simp [Node.isSame, hxs]
    | text _ | cdata _ | comment _ | instruction _ _ | reference _ => simp [Node.isSame]
  | text _ | cdata _ | comment _ | instruction _ _ | reference _ =>
    cases n <;> simp [Node.isSame]

theorem allSame_iff {ms ns : List Node} : allSame ms ns = true ↔ ms = ns := by
  cases ms with
  | nil => cases ns <;> simp [allSame]
  | cons m ms =>
    cases ns with
    | nil => simp [allSame]
    | cons n ns =>
      have hm : m.isSame n = true ↔ m = n := Node.isSame_iff
      have hms : allSame ms ns = true ↔ ms = ns := allSame_iff
      simp [allSame, hm, hms]

end

instance : DecidableEq Element := fun e e' =>
  decidable_of_iff (e.tag = e'.tag ∧ allSame e.children e'.children = true) (by
    rw [allSame_iff, ← Element.mk.injEq])

instance : DecidableEq Place := fun q q' =>
  decidable_of_iff (q.address = q'.address ∧ q.above = q'.above ∧ q.element = q'.element) (by
    rw [← Place.mk.injEq])

end Markup

section Decidable

variable {policy : Policy} {root root' : Element}

theorem Except.forall_toOption {ε α : Type} {x : Except ε α} {P : α → Prop} :
    (∀ a ∈ x.toOption, P a) ↔ ∀ a, x = .ok a → P a := by
  cases x with
  | error e => simp [Except.toOption]
  | ok a => simp [Except.toOption]

instance (u : String) : Decidable (root.Declares policy u) :=
  inferInstanceAs (Decidable (∃ q ∈ root.exposed policy, ∃ d ∈ q.bindings, d.uri = u))

instance : Decidable (root.IsTwin policy root') :=
  decidable_of_iff (root.masked policy = root'.masked policy
      ∧ ∀ q ∈ root.exposed policy, ∀ q' ∈ root'.exposed policy,
        q.masked policy = q'.masked policy → policy.shields q.tag = true →
          lineBreaks q.markup.toList = lineBreaks q'.markup.toList)
    ⟨fun h => ⟨h.1, fun q q' ht => h.2 q ht.mem q' ht.mem' ht.masked ht.shields⟩,
      fun h => ⟨h.masked, fun q hq q' hq' hm hs => h.lines q q' ⟨hq, hq', hm, hs⟩⟩⟩

instance : Decidable (root.IsContained policy) :=
  decidable_of_iff ((∀ uris ∈ (policy.classify root).run.1.toOption,
        (∀ q ∈ root.exposed policy, policy.shields q.tag = true → q.tag.name.isIn uris = true)
          ∧ ∀ u ∈ policy.tacit, u ∈ uris → root.Declares policy u)
      ∧ (∀ selections ∈ policy.placeholders.toOption, ∀ q ∈ root.places,
        q.above.any policy.shields = true → selections.any (·.holds q.tag.name) = false)
      ∧ ∀ q ∈ root.places, q.above.any policy.shields = true → root.path? q.address ≠ none) (by
    rw [Except.forall_toOption, Except.forall_toOption]
    exact ⟨fun h => ⟨fun uris hu => (h.1 uris hu).1, fun uris hu => (h.1 uris hu).2, h.2.1, h.2.2⟩,
      fun h => ⟨fun uris hu => ⟨h.helpers uris hu, h.tacit uris hu⟩, h.hidden, h.readable⟩⟩)

end Decidable

/-- Two sources that differ only in what is inside shielding elements, in markup that takes up as many
lines. Both or none of them are hypertext. If nothing there reaches out, both are lexed or both fail with the same failure, and the
tokens are the same but for the content of shielding elements and their markup in expressions. -/
theorem lexSource_contained {policy : Policy} {source source' : Source} {d d' : Markup.Document}
    {file : Option String} (hload : source.load file = .ok d) (hload' : source'.load file = .ok d')
    (hversion : d.version = d'.version) (hencoding : d.encoding = d'.encoding)
    (hhypertext : d.isHypertext = d'.isHypertext) (htwin : d.root.IsTwin policy d'.root)
    (hc : d.root.IsContained policy) (hc' : d'.root.IsContained policy) :
    Except.Alike (fun s s' => List.Forall₂ (Token.Alike policy d.root d'.root) s.toList s'.toList)
      (lexSource policy source file).run.1 (lexSource policy source' file).run.1 := by
  have hlex : ∀ {source : Source} {d : Markup.Document}, source.load file = .ok d →
      (lexSource policy source file).run.1 = (Document.lex policy d file).run.1 := by
    intro source d hload
    rw [lexSource, hload]
    rfl
  rw [hlex hload, hlex hload']
  exact Document.alike_lex hversion hencoding hhypertext htwin hc hc' (Source.isRead_of_load hload)
    (Source.isRead_of_load hload') file

/-- The source of a document with a shielding element in an expression. -/
def sourceWithRaw (inside : String) : Source :=
  .text ("<r xmlns:e=\"http://elixir.mohiva.com\" a=\"1\">\x7b% a <e:Raw>" ++ inside
    ++ "</e:Raw> %\x7d</r>")

theorem lexSource_contained_sample : ∃ d d', (sourceWithRaw "<i/>").load none = .ok d
    ∧ (sourceWithRaw "<e:j e:k='\x7b%'>&amp;<!--c--></e:j>").load none = .ok d'
    ∧ d.version = d'.version ∧ d.encoding = d'.encoding ∧ d.isHypertext = d'.isHypertext
    ∧ d.root.IsTwin .standard d'.root ∧ d.root.IsContained .standard ∧ d'.root.IsContained .standard
    ∧ (lexSource .standard (sourceWithRaw "<i/>") none).run.1.isOk = true
    ∧ Except.Alike
      (fun s s' => List.Forall₂ (Token.Alike .standard d.root d'.root) s.toList s'.toList)
      (lexSource .standard (sourceWithRaw "<i/>") none).run.1
      (lexSource .standard (sourceWithRaw "<e:j e:k='\x7b%'>&amp;<!--c--></e:j>") none).run.1 := by
  have hchecks : ((sourceWithRaw "<i/>").load none).toOption.any (fun d =>
      ((sourceWithRaw "<e:j e:k='\x7b%'>&amp;<!--c--></e:j>").load none).toOption.any fun d' =>
        decide (d.version = d'.version ∧ d.encoding = d'.encoding
          ∧ d.isHypertext = d'.isHypertext ∧ d.root.IsTwin .standard d'.root
          ∧ d.root.IsContained .standard ∧ d'.root.IsContained .standard)) = true := by
    decide +kernel
  obtain ⟨d, hload, hchecks⟩ := Except.exists_of_any hchecks
  obtain ⟨d', hload', hchecks⟩ := Except.exists_of_any hchecks
  obtain ⟨hversion, hencoding, hhypertext, htwin, hc, hc'⟩ := of_decide_eq_true hchecks
  have hlexes : (lexSource .standard (sourceWithRaw "<i/>") none).run.1.isOk = true := by
    decide +kernel
  exact ⟨d, d', hload, hload', hversion, hencoding, hhypertext, htwin, hc, hc', hlexes,
    lexSource_contained hload hload' hversion hencoding hhypertext htwin hc hc'⟩

theorem Except.Alike.map_length {ε σ α : Type} {S : α → α → Prop}
    {x y : Except ε (TokenStream σ α)}
    (h : Except.Alike (fun s s' => List.Forall₂ S s.toList s'.toList) x y) :
    x.toOption.map (·.toList.length) = y.toOption.map (·.toList.length) := by
  cases h with
  | ok h => exact congrArg some h.length_eq
  | error e => rfl

/-- Where the empty namespace is declared inside a shielding element, an attribute outside is taken
for a helper, although shielding elements are helpers in both documents. -/
theorem lexSource_contained_emptyUri : ∃ d d', (sourceWithRaw "<b/>").load none = .ok d
    ∧ (sourceWithRaw "<b xmlns=\"\"/>").load none = .ok d'
    ∧ d.version = d'.version ∧ d.encoding = d'.encoding ∧ d.isHypertext = d'.isHypertext
    ∧ d.root.IsTwin .standard d'.root
    ∧ ((Policy.classify .standard d.root).run.1.toOption.any
        (·.contains "http://elixir.mohiva.com")) = true
    ∧ ((Policy.classify .standard d'.root).run.1.toOption.any
        (·.contains "http://elixir.mohiva.com")) = true
    ∧ ¬ Except.Alike
      (fun s s' => List.Forall₂ (Token.Alike .standard d.root d'.root) s.toList s'.toList)
      (lexSource .standard (sourceWithRaw "<b/>") none).run.1
      (lexSource .standard (sourceWithRaw "<b xmlns=\"\"/>") none).run.1 := by
  have hchecks : ((sourceWithRaw "<b/>").load none).toOption.any (fun d =>
      ((sourceWithRaw "<b xmlns=\"\"/>").load none).toOption.any fun d' =>
        decide (d.version = d'.version ∧ d.encoding = d'.encoding
          ∧ d.isHypertext = d'.isHypertext ∧ d.root.IsTwin .standard d'.root
          ∧ ((Policy.classify .standard d.root).run.1.toOption.any
            (·.contains "http://elixir.mohiva.com")) = true
          ∧ ((Policy.classify .standard d'.root).run.1.toOption.any
            (·.contains "http://elixir.mohiva.com")) = true)) = true := by
    decide +kernel
  obtain ⟨d, hload, hchecks⟩ := Except.exists_of_any hchecks
  obtain ⟨d', hload', hchecks⟩ := Except.exists_of_any hchecks
  obtain ⟨hversion, hencoding, hhypertext, htwin, hhelpers, hhelpers'⟩ :=
    of_decide_eq_true hchecks
  refine ⟨d, d', hload, hload', hversion, hencoding, hhypertext, htwin, hhelpers, hhelpers', fun h => ?_⟩
  have hlengths : (lexSource .standard (sourceWithRaw "<b/>") none).run.1.toOption.map
        (·.toList.length)
      ≠ (lexSource .standard (sourceWithRaw "<b xmlns=\"\"/>") none).run.1.toOption.map
        (·.toList.length) := by
    decide +kernel
  exact hlengths h.map_length

end TemplateLexer
