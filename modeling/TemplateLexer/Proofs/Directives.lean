import TemplateLexer.Content.Directive
import TemplateLexer.Policy.Use
import TemplateLexer.Proofs.Outcome
/-!
What is left of an element without its directives. Nothing goes but the directives: the other nodes
stay in their order, with all characters of texts and sections. Text that moves up to what comes
before a directive becomes one plain text with the characters there, so that sections beside
directives are lost; all other sections stay sections.
-/

set_option autoImplicit false

namespace TemplateLexer

open Markup

namespace Markup

/-- Puts a node in front of others. A text joins a text that is there, and an empty one is left
out. -/
def putFront : Node → List Node → List Node
  | .text s, .text t :: rest => .text (s ++ t) :: rest
  | .text s, rest => if s.isEmpty then rest else .text s :: rest
  | n, rest => n :: rest

mutual

/-- A node with all texts in it joined that are next to one another. -/
def Node.joined : Node → Node
  | .element tag children => .element tag (joinedAll children)
  | n => n

def joinedAll : List Node → List Node
  | [] => []
  | n :: rest => putFront n.joined (joinedAll rest)

end

mutual

/-- A node with text in place of the sections in it. -/
def Node.plain : Node → Node
  | .element tag children => .element tag (plainAll children)
  | .cdata s => .text s
  | n => n

def plainAll : List Node → List Node
  | [] => []
  | n :: rest => n.plain :: plainAll rest

end

mutual

/-- A node without the comments in it whose bodies pass a test. -/
def Node.pruned (test : String → Bool) : Node → Node
  | .element tag children => .element tag (prunedAll test children)
  | n => n

def prunedAll (test : String → Bool) : List Node → List Node
  | [] => []
  | .comment body :: rest =>
    if test body then prunedAll test rest else .comment body :: prunedAll test rest
  | n :: rest => n.pruned test :: prunedAll test rest

end

/-- Whether, before any other node comes, characters follow one of the comments that pass a test;
`behind` tells whether such a comment has come already. -/
def textFollows (test : String → Bool) : (behind : Bool) → List Node → Bool
  | behind, .text s :: rest | behind, .cdata s :: rest =>
    (behind && !s.isEmpty) || textFollows test behind rest
  | _, .comment body :: rest => test body && textFollows test true rest
  | _, _ => false

mutual

/-- A node without the comments in it whose bodies pass a test, where a section becomes text if such
a comment comes before it with only characters and more of them in between, or if one comes behind
it in this way and has characters behind it in turn. -/
def Node.opened (test : String → Bool) : Node → Node
  | .element tag children => .element tag (openedAll test false children)
  | n => n

def openedAll (test : String → Bool) (behind : Bool) : List Node → List Node
  | [] => []
  | .text s :: rest => .text s :: openedAll test behind rest
  | .cdata s :: rest =>
    (if behind || textFollows test false rest then .text s else .cdata s)
      :: openedAll test behind rest
  | .comment body :: rest =>
    if test body then openedAll test true rest else .comment body :: openedAll test false rest
  | n :: rest => n.opened test :: openedAll test false rest

end

section Joined

variable {xs ys ys' : List Node} {n n' : Node}

theorem joinedAll_append (xs ys : List Node) :
    joinedAll (xs ++ ys) = xs.foldr (fun n rest => putFront n.joined rest) (joinedAll ys) := by
  induction xs with
  | nil => rfl
  | cons n xs ih => rw [List.cons_append, joinedAll, ih, List.foldr_cons]

theorem joinedAll_congr (xs : List Node) (h : joinedAll ys = joinedAll ys') :
    joinedAll (xs ++ ys) = joinedAll (xs ++ ys') := by
  rw [joinedAll_append, joinedAll_append, h]

theorem joinedAll_cons_congr (h : n.joined = n'.joined) (hrest : joinedAll ys = joinedAll ys') :
    joinedAll (n :: ys) = joinedAll (n' :: ys') := by
  rw [joinedAll, joinedAll, h, hrest]

theorem putFront_empty (ys : List Node) : putFront (.text "") ys = ys := by
  cases ys with
  | nil => rfl
  | cons n ys => cases n <;> simp [putFront]

theorem putFront_putFront (s t : String) (ys : List Node) :
    putFront (.text s) (putFront (.text t) ys) = putFront (.text (s ++ t)) ys := by
  by_cases hys : ∃ u rest, ys = .text u :: rest
  · obtain ⟨u, rest, rfl⟩ := hys
    simp [putFront, String.append_assoc]
  · have hother : ∀ u, putFront (.text u) ys = if u.isEmpty then ys else .text u :: ys := by
      intro u
      cases ys with
      | nil => rfl
      | cons n ys =>
        cases n with
        | text v => exact absurd ⟨v, ys, rfl⟩ hys
        | _ => rfl
    rw [hother t]
    by_cases ht : t = ""
    · simp [ht]
    · rw [if_neg (by simpa using ht), putFront, hother, if_neg (by simp [ht])]

theorem joinedAll_empty (ys : List Node) : joinedAll (.text "" :: ys) = joinedAll ys := by
  rw [joinedAll, Node.joined, putFront_empty]
  simp

theorem joinedAll_text (s t : String) (ys : List Node) :
    joinedAll (.text s :: .text t :: ys) = joinedAll (.text (s ++ t) :: ys) := by
  simp only [joinedAll, Node.joined, putFront_putFront]

theorem joinedAll_run (run : List Node) (t : String) (ys : List Node) :
    joinedAll (run.map (fun n => .text n.characters) ++ .text t :: ys)
      = joinedAll (.text (runText run ++ t) :: ys) := by
  induction run with
  | nil => simp [runText]
  | cons n run ih =>
    have htext : runText (n :: run) = n.characters ++ runText run := by
      simp [runText, String.join_cons]
    rw [List.map_cons, List.cons_append, joinedAll, ih, ← joinedAll, joinedAll_text, htext,
      String.append_assoc]

end Joined

def openRun (before : List Node) : List Node :=
  (before.takeWhile Node.isCharacters).map (fun n => .text n.characters)
    ++ before.dropWhile Node.isCharacters

section Runs

variable {before : List Node} {n : Node}

theorem openRun_cons_of_characters (h : n.isCharacters = true) :
    openRun (n :: before) = .text n.characters :: openRun before := by
  rw [openRun, List.takeWhile_cons_of_pos h, List.dropWhile_cons_of_pos h]
  rfl

theorem openRun_cons_of_item (h : n.isCharacters = false) :
    openRun (n :: before) = n :: before := by
  rw [openRun, List.takeWhile_cons_of_neg (by simp [h]), List.dropWhile_cons_of_neg (by simp [h])]
  rfl

end Runs

end Markup

namespace Content

section Dropped

variable {m : Matcher} {before : List Node} {t : String}

theorem joinedAll_joinRun (before : List Node) (t : String) (ys : List Node) :
    joinedAll ((joinRun before t).reverse ++ ys)
      = joinedAll ((if t ≠ "" then openRun before else before).reverse ++ .text t :: ys) := by
  by_cases ht : t = ""
  · rw [joinRun, if_pos (by simp [ht]), if_neg (by simp [ht]), ht]
    exact joinedAll_congr _ (joinedAll_empty ys).symm
  · rw [joinRun, if_neg (by simpa using ht), if_pos ht, openRun, List.reverse_cons,
      List.reverse_append, List.append_assoc, List.append_assoc, List.singleton_append,
      ← List.map_reverse]
    exact joinedAll_congr _ (joinedAll_run _ t ys).symm

theorem openRun_joinRun (ht : t ≠ "") : openRun (joinRun before t) = joinRun before t := by
  have hitems : openRun (before.dropWhile Node.isCharacters)
      = before.dropWhile Node.isCharacters := by
    cases hrest : before.dropWhile Node.isCharacters with
    | nil => rfl
    | cons n rest =>
      refine openRun_cons_of_item ?_
      have hhead := List.head?_dropWhile_not Node.isCharacters before
      rw [hrest] at hhead
      simpa using hhead
  rw [joinRun, if_neg (by simpa using ht), openRun_cons_of_characters rfl, hitems]
  rfl

/-- Nodes without directives once those before a point are read: the sections before are lost once
a character moves up to them, and those that come behind a directive move up themselves. -/
def remaining (test : String → Bool) (before : List Node) (tail : Option String)
    (nodes : List Node) : List Node :=
  (if tail.getD "" ≠ "" ∨ textFollows test tail.isSome nodes then openRun before
      else before).reverse
    ++ .text (tail.getD "") :: openedAll test tail.isSome nodes

section Steps

variable {test : String → Bool} {tail : Option String} {rest : List Node} {n x y : Node}

theorem joinedAll_remaining_none (nodes : List Node) :
    joinedAll (remaining test before none nodes)
      = joinedAll ((if textFollows test false nodes then openRun before else before).reverse
        ++ openedAll test false nodes) := by
  simpa [remaining] using joinedAll_congr _ (joinedAll_empty (openedAll test false nodes))

theorem joinedAll_remaining_nil (before : List Node) (tail : Option String) :
    joinedAll (joinRun before (tail.getD "")).reverse
      = joinedAll (remaining test before tail []) := by
  simpa [remaining, textFollows, openedAll] using joinedAll_joinRun before (tail.getD "") []

theorem joinedAll_remaining_item (hx : x.isCharacters = false) (hxy : x.joined = y.joined)
    (hfollows : textFollows test tail.isSome (n :: rest) = false)
    (hopened : openedAll test tail.isSome (n :: rest) = y :: openedAll test false rest) :
    joinedAll (remaining test (x :: joinRun before (tail.getD "")) none rest)
      = joinedAll (remaining test before tail (n :: rest)) := by
  rw [joinedAll_remaining_none, openRun_cons_of_item hx, ite_self, List.reverse_cons,
    List.append_assoc, joinedAll_joinRun, remaining, hfollows, hopened]
  simp only [Bool.false_eq_true, or_false]
  exact joinedAll_congr _ (joinedAll_cons_congr rfl (joinedAll_cons_congr hxy rfl))

theorem joinedAll_remaining_kept (hn : n.isCharacters = true) :
    joinedAll (remaining test (n :: before) none rest)
      = joinedAll (remaining test before none (n :: rest)) := by
  rw [joinedAll_remaining_none, joinedAll_remaining_none, openRun_cons_of_characters hn]
  cases n with
  | text s | cdata s =>
    simp only [textFollows, openedAll, Bool.false_and, Bool.false_or]
    split <;> simp [Node.characters]
  | _ => cases hn

theorem joinedAll_remaining_moved (hn : n.isCharacters = true) :
    joinedAll (remaining test before (some (t ++ n.characters)) rest)
      = joinedAll (remaining test before (some t) (n :: rest)) := by
  cases n with
  | text s | cdata s =>
    have hmoves : (t ++ s ≠ "" ∨ textFollows test true rest = true)
        ↔ t ≠ "" ∨ (!s.isEmpty || textFollows test true rest) = true := by
      by_cases ht : t = "" <;> by_cases hs : s = "" <;> simp [ht, hs]
    simp only [remaining, Node.characters, Option.getD_some, Option.isSome_some, hmoves,
      textFollows, openedAll, Bool.true_and, Bool.true_or, if_true]
    exact joinedAll_congr _ (joinedAll_text t s _).symm
  | _ => cases hn

theorem joinedAll_remaining_directive {body : String} (h : test body = true) :
    joinedAll (remaining test (joinRun before (tail.getD "")) (some "") rest)
      = joinedAll (remaining test before tail (.comment body :: rest)) := by
  have hopened : openedAll test tail.isSome (.comment body :: rest) = openedAll test true rest := by
    rw [openedAll, if_pos h]
  have hfollows : textFollows test tail.isSome (.comment body :: rest)
      = textFollows test true rest := by
    rw [textFollows, h, Bool.true_and]
  rw [remaining, remaining, hfollows, hopened]
  by_cases ht : tail.getD "" = ""
  · have hsame : joinRun before "" = before := by simp [joinRun]
    rw [ht, hsame]
    rfl
  · rw [openRun_joinRun ht, ite_self, if_pos (.inl ht), joinedAll_joinRun, if_pos ht]
    exact joinedAll_congr _ (joinedAll_cons_congr rfl (joinedAll_empty _))

end Steps

mutual

theorem joined_withoutDirectives (m : Matcher) (n : Node) :
    (withoutDirectives m n).joined = (n.opened m.holds).joined := by
  cases n with
  | element tag children =>
    rw [withoutDirectives, Node.opened, Node.joined, Node.joined,
      joinedAll_dropDirectives m [] none children, joinedAll_remaining_none]
    simp [openRun]
  | text _ | cdata _ | comment _ | instruction _ _ | reference _ =>
    simp [withoutDirectives, Node.opened]

theorem joinedAll_dropDirectives (m : Matcher) (before : List Node) (tail : Option String)
    (nodes : List Node) : joinedAll (dropDirectives m before tail nodes)
      = joinedAll (remaining m.holds before tail nodes) := by
  cases nodes with
  | nil => exact joinedAll_remaining_nil before tail
  | cons n rest =>
    cases n with
    | text s | cdata s =>
      cases tail with
      | none =>
        rw [← joinedAll_remaining_kept rfl]
        exact joinedAll_dropDirectives m _ none rest
      | some t =>
        rw [← joinedAll_remaining_moved rfl]
        exact joinedAll_dropDirectives m before _ rest
    | comment body =>
      rw [dropDirectives]
      split
      · rename_i h
        rw [joinedAll_dropDirectives m _ (some "") rest, joinedAll_remaining_directive h]
      · rename_i h
        rw [joinedAll_dropDirectives m _ none rest]
        exact joinedAll_remaining_item rfl rfl (by simp [textFollows, h]) (by simp [openedAll, h])
    | element _ _ | instruction _ _ | reference _ =>
      rw [dropDirectives, joinedAll_dropDirectives m _ none rest]
      · exact joinedAll_remaining_item rfl (joined_withoutDirectives m _) (by simp [textFollows])
          (by simp [openedAll])
      all_goals simp

end

end Dropped

end Content

namespace Markup

section Plain

mutual

theorem joined_plain_joined (n : Node) : n.joined.plain.joined = n.plain.joined := by
  cases n with
  | element tag children =>
    simp only [Node.joined, Node.plain, joinedAll_plainAll_joinedAll children]
  | text _ | cdata _ | comment _ | instruction _ _ | reference _ => rfl

theorem joinedAll_plainAll_joinedAll (nodes : List Node) :
    joinedAll (plainAll (joinedAll nodes)) = joinedAll (plainAll nodes) := by
  cases nodes with
  | nil => rfl
  | cons n rest =>
    have hfront : ∀ (x : Node) (ys : List Node),
        joinedAll (plainAll (putFront x ys)) = joinedAll (x.plain :: plainAll ys) := by
      intro x ys
      cases x with
      | text s =>
        by_cases hs : s = ""
        · rw [hs, putFront_empty]
          exact (joinedAll_empty _).symm
        · cases ys with
          | nil => simp [putFront, hs, plainAll, Node.plain]
          | cons y ys =>
            cases y with
            | text t => exact (joinedAll_text s t _).symm
            | _ => simp [putFront, hs, plainAll, Node.plain]
      | _ => rfl
    rw [joinedAll, hfront, plainAll]
    exact joinedAll_cons_congr (joined_plain_joined n) (joinedAll_plainAll_joinedAll rest)

end

variable {test : String → Bool}

mutual

theorem plain_opened (test : String → Bool) (n : Node) :
    (n.opened test).plain = (n.pruned test).plain := by
  cases n with
  | element tag children =>
    simp only [Node.opened, Node.pruned, Node.plain, plainAll_openedAll test false children]
  | text _ | cdata _ | comment _ | instruction _ _ | reference _ => rfl

theorem plainAll_openedAll (test : String → Bool) (behind : Bool) (nodes : List Node) :
    plainAll (openedAll test behind nodes) = plainAll (prunedAll test nodes) := by
  cases nodes with
  | nil => rfl
  | cons n rest =>
    cases n with
    | text s =>
      simp only [openedAll, prunedAll, plainAll, Node.pruned, plainAll_openedAll test behind rest]
    | cdata s =>
      simp only [openedAll, prunedAll, plainAll, Node.pruned, plainAll_openedAll test behind rest]
      split <;> rfl
    | comment body =>
      simp only [openedAll, prunedAll]
      split
      · exact plainAll_openedAll test true rest
      · simp only [plainAll, plainAll_openedAll test false rest]
    | element _ _ | instruction _ _ | reference _ =>
      simp only [openedAll, prunedAll, plainAll, plain_opened test _,
        plainAll_openedAll test false rest]

end

end Plain

mutual

def Node.sections : Node → Nat
  | .element _ children => sectionsIn children
  | .cdata _ => 1
  | _ => 0

def sectionsIn : List Node → Nat
  | [] => 0
  | n :: rest => n.sections + sectionsIn rest

end

section Counted

mutual

theorem sections_joined (n : Node) : n.joined.sections = n.sections := by
  cases n with
  | element tag children =>
    simp only [Node.joined, Node.sections, sectionsIn_joinedAll children]
  | text _ | cdata _ | comment _ | instruction _ _ | reference _ => rfl

theorem sectionsIn_joinedAll (nodes : List Node) :
    sectionsIn (joinedAll nodes) = sectionsIn nodes := by
  cases nodes with
  | nil => rfl
  | cons n rest =>
    have hfront : ∀ (x : Node) (ys : List Node),
        sectionsIn (putFront x ys) = x.sections + sectionsIn ys := by
      intro x ys
      unfold putFront
      split <;> simp [sectionsIn, Node.sections]
      split <;> simp [sectionsIn, Node.sections]
    rw [joinedAll, hfront, sections_joined n, sectionsIn_joinedAll rest, sectionsIn]

end

mutual

theorem opened_eq_or_sections_lt (test : String → Bool) (n : Node) :
    n.opened test = n.pruned test ∨ (n.opened test).sections < (n.pruned test).sections := by
  cases n with
  | element tag children =>
    simpa [Node.opened, Node.pruned, Node.sections]
      using openedAll_eq_or_sectionsIn_lt test false children
  | text _ | cdata _ | comment _ | instruction _ _ | reference _ => exact .inl rfl

theorem openedAll_eq_or_sectionsIn_lt (test : String → Bool) (behind : Bool) (nodes : List Node) :
    openedAll test behind nodes = prunedAll test nodes
      ∨ sectionsIn (openedAll test behind nodes) < sectionsIn (prunedAll test nodes) := by
  cases nodes with
  | nil => exact .inl rfl
  | cons n rest =>
    have hboth : ∀ {x y : Node} {xs ys : List Node}, x = y ∨ x.sections < y.sections →
        xs = ys ∨ sectionsIn xs < sectionsIn ys →
        x :: xs = y :: ys ∨ sectionsIn (x :: xs) < sectionsIn (y :: ys) := by
      rintro x y xs ys (rfl | hx) (rfl | hxs)
      · exact .inl rfl
      all_goals exact .inr (by simp only [sectionsIn]; omega)
    cases n with
    | text s => exact hboth (.inl rfl) (openedAll_eq_or_sectionsIn_lt test behind rest)
    | cdata s =>
      refine hboth ?_ (openedAll_eq_or_sectionsIn_lt test behind rest)
      split
      · exact .inr Nat.zero_lt_one
      · exact .inl rfl
    | comment body =>
      rw [openedAll, prunedAll]
      split
      · exact openedAll_eq_or_sectionsIn_lt test true rest
      · exact hboth (.inl rfl) (openedAll_eq_or_sectionsIn_lt test false rest)
    | element _ _ | instruction _ _ | reference _ =>
      exact hboth (opened_eq_or_sections_lt test _) (openedAll_eq_or_sectionsIn_lt test false rest)

end

end Counted

end Markup

namespace Pattern

/-- Matches a word, and nothing behind it. -/
def word : List Char → Pattern
  | [] => ahead true any
  | c :: cs => both (char c) (word cs)

def anyWord : List String → Pattern
  | [] => oneOf false []
  | w :: words => either (both start (word w.toList)) (anyWord words)

theorem run_word (w : List Char) (n : Nat) (cs : List Char) :
    (word w).run false (fun _ => true) ⟨n, cs⟩ = (w == cs) := by
  induction w generalizing n cs with
  | nil => cases cs <;> simp [word, run]
  | cons c w ih =>
    cases cs with
    | nil => simp [word, char, run]
    | cons d cs =>
      have hchar : (decide (c ≤ d) && decide (d ≤ c)) = (c == d) := by
        rw [Bool.eq_iff_iff]
        simpa using ⟨fun h => Char.le_antisymm h.1 h.2, fun h => h ▸ ⟨c.le_refl, c.le_refl⟩⟩
      simp [word, char, run, CharRange.holds, ih, hchar]

theorem run_anyWord (words : List String) (n : Nat) (cs : List Char) :
    (anyWord words).run false (fun _ => true) ⟨n, cs⟩
      = (n == 0 && words.any (·.toList == cs)) := by
  induction words with
  | nil => cases cs <;> simp [anyWord, run]
  | cons w words ih =>
    rw [anyWord, run, ih, run, run, run_word, List.any_cons, Bool.and_or_distrib_left]

theorem foundFrom_anyWord (words : List String) (cs : List Char) :
    (anyWord words).foundFrom false 0 cs = words.any (·.toList == cs) := by
  have hlater : ∀ (n : Nat) (cs : List Char),
      (anyWord words).foundFrom false (n + 1) cs = false := by
    intro n cs
    induction cs generalizing n with
    | nil => simp [foundFrom, run_anyWord]
    | cons c cs ih => simp [foundFrom, run_anyWord, ih]
  cases cs with
  | nil => simp [foundFrom, run_anyWord]
  | cons c cs => simp [foundFrom, run_anyWord, hlater]

end Pattern

/-- Any test of some texts is a pattern. -/
theorem exists_pattern (test : String → Bool) (bodies : List String) :
    ∃ pattern : Pattern, ∀ body ∈ bodies, (pattern.matcher false).holds body = test body := by
  refine ⟨Pattern.anyWord (bodies.filter test), fun body hbody => ?_⟩
  change (Pattern.anyWord (bodies.filter test)).foundFrom false 0 body.toList = _
  rw [Pattern.foundFrom_anyWord, Bool.eq_iff_iff]
  simp only [List.any_eq_true, List.mem_filter, beq_iff_eq, String.toList_inj]
  exact ⟨fun ⟨w, ⟨_, hw⟩, h⟩ => h ▸ hw, fun h => ⟨body, ⟨hbody, h⟩, rfl⟩⟩

namespace Markup

mutual

/-- The bodies of the comments in a node. -/
def Node.bodies : Node → List String
  | .element _ children => bodiesIn children
  | .comment body => [body]
  | _ => []

def bodiesIn : List Node → List String
  | [] => []
  | n :: rest => n.bodies ++ bodiesIn rest

end

section Agreeing

variable {test test' : String → Bool}

theorem textFollows_congr (behind : Bool) (nodes : List Node)
    (h : ∀ body ∈ bodiesIn nodes, test body = test' body) :
    textFollows test behind nodes = textFollows test' behind nodes := by
  induction nodes generalizing behind with
  | nil => rfl
  | cons n rest ih =>
    have hrest := fun behind => ih behind fun body hbody => h body (List.mem_append_right _ hbody)
    cases n with
    | comment body =>
      rw [textFollows, textFollows, hrest,
        h body (List.mem_append_left _ (List.mem_singleton.2 rfl))]
    | _ => simp only [textFollows, hrest]

mutual

theorem opened_congr (n : Node) (h : ∀ body ∈ n.bodies, test body = test' body) :
    n.opened test = n.opened test' := by
  cases n with
  | element tag children => rw [Node.opened, Node.opened, openedAll_congr false children h]
  | text _ | cdata _ | comment _ | instruction _ _ | reference _ => rfl

theorem openedAll_congr (behind : Bool) (nodes : List Node)
    (h : ∀ body ∈ bodiesIn nodes, test body = test' body) :
    openedAll test behind nodes = openedAll test' behind nodes := by
  cases nodes with
  | nil => rfl
  | cons n rest =>
    have hn : ∀ body ∈ n.bodies, test body = test' body :=
      fun body hbody => h body (List.mem_append_left _ hbody)
    have hmore : ∀ body ∈ bodiesIn rest, test body = test' body :=
      fun body hbody => h body (List.mem_append_right _ hbody)
    cases n with
    | comment body =>
      rw [openedAll, openedAll, openedAll_congr true rest hmore, openedAll_congr false rest hmore,
        hn body (List.mem_singleton.2 rfl)]
    | cdata s =>
      rw [openedAll, openedAll, openedAll_congr behind rest hmore,
        textFollows_congr false rest hmore]
    | _ => simp only [openedAll, openedAll_congr _ rest hmore, opened_congr _ hn]

end

end Agreeing

/-- An element without its directives, whichever comments those are: nothing else goes and nothing
moves, and texts join that come next to one another. Sections that directives leave beside text are
text afterwards, so that an element without its directives is the one with just those comments left
out iff it has no such section. Where sections read as text there is no difference. -/
theorem Element.withoutDirectives_joined (e : Element) (test : String → Bool) :
    (∃ pattern : Pattern, ∀ body ∈ e.node.bodies,
        (pattern.matcher false).holds body = test body)
      ∧ ∀ m : Matcher, (∀ body ∈ e.node.bodies, m.holds body = test body) →
        (e.withoutDirectives m).node.joined = (e.node.opened test).joined
        ∧ ((e.withoutDirectives m).node.joined = (e.node.pruned test).joined
          ↔ e.node.opened test = e.node.pruned test)
        ∧ (e.withoutDirectives m).node.plain.joined = (e.node.pruned test).plain.joined := by
  refine ⟨exists_pattern test _, fun m hm => ?_⟩
  have hopened : (e.withoutDirectives m).node.joined = (e.node.opened test).joined := by
    rw [← opened_congr e.node hm, ← Content.joined_withoutDirectives]
    rfl
  refine ⟨hopened, ⟨fun h => ?_, fun h => hopened.trans (h ▸ rfl)⟩, ?_⟩
  · rcases opened_eq_or_sections_lt test e.node with hsame | hfewer
    · exact hsame
    · have hcount := congrArg Node.sections (hopened.symm.trans h)
      rw [sections_joined, sections_joined] at hcount
      exact absurd hcount (Nat.ne_of_lt hfewer)
  · rw [← joined_plain_joined, hopened, joined_plain_joined, plain_opened]

/-- An element with text around directives, with a directive further in, and with sections beside a
comment that is none. -/
def instructed : Element :=
  ⟨⟨.bare "r", [], [], 1⟩,
    [.text "a", .comment "%x%", .comment "%y%", .text "b", .element ⟨.bare "c", [], [], 1⟩
      [.comment "%z%"], .cdata "d", .comment "k", .cdata "e"]⟩

theorem Element.withoutDirectives_joined_sample :
    ∃ m, Policy.standard.matcher = .ok m
    ∧ (∀ body ∈ instructed.node.bodies, m.holds body = (body ≠ "k" : Bool))
    ∧ (instructed.withoutDirectives m).node.joined
      = .element ⟨.bare "r", [], [], 1⟩ [.text "ab", .element ⟨.bare "c", [], [], 1⟩ [],
        .cdata "d", .comment "k", .cdata "e"] := by
  have hm : Policy.standard.matcher.toOption.any (fun m =>
      instructed.node.bodies.all fun body => m.holds body == (body ≠ "k" : Bool)) = true := by
    decide +kernel
  obtain ⟨m, hread, hholds⟩ := Except.exists_of_any hm
  have hagree : ∀ body ∈ instructed.node.bodies, m.holds body = (body ≠ "k" : Bool) := by
    simpa using hholds
  obtain ⟨-, hiff, -⟩ := (withoutDirectives_joined instructed _).2 m hagree
  have hpruned : (instructed.withoutDirectives m).node.joined
      = (instructed.node.pruned fun body => (body ≠ "k" : Bool)).joined :=
    hiff.2 (by simp [instructed, Element.node, Node.opened, openedAll, Node.pruned, prunedAll,
      textFollows])
  refine ⟨m, hread, hagree, hpruned.trans ?_⟩
  simp [instructed, Element.node, Node.pruned, prunedAll, Node.joined, joinedAll, putFront]

/-- An element with a section behind a directive, and one with a section in front of a directive
that has text behind it. -/
def besideDirectives : List Element :=
  [⟨⟨.bare "r", [], [], 1⟩, [.comment "%x%", .cdata "c"]⟩,
    ⟨⟨.bare "r", [], [], 1⟩, [.cdata "a", .comment "%x%", .text "b"]⟩]

/-- Sections beside a directive are text once it is gone. -/
theorem Element.withoutDirectives_joined_section :
    ∃ m, Policy.standard.matcher = .ok m ∧ m.holds "%x%" = true
      ∧ ∀ e ∈ besideDirectives,
        (e.withoutDirectives m).node.joined ≠ (e.node.pruned m.holds).joined := by
  have hm : Policy.standard.matcher.toOption.any (fun m => m.holds "%x%"
      && besideDirectives.all fun e => (e.withoutDirectives m).node.joined.sections
        != (e.node.pruned m.holds).joined.sections) = true := by
    decide +kernel
  obtain ⟨m, hread, hholds⟩ := Except.exists_of_any hm
  rw [Bool.and_eq_true, List.all_eq_true] at hholds
  refine ⟨m, hread, hholds.1, fun e he h => ?_⟩
  have hfewer := hholds.2 e he
  rw [h] at hfewer
  simp at hfewer

end Markup

end TemplateLexer
