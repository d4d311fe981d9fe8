import Mathlib.Data.Finset.Card
import Mathlib.Data.Finset.Range
import Mathlib.Order.Bounds.Basic
import TemplateLexer.Proofs.RunScan
/-!
A scanner over many calls. Its line counts every line break so far; its depth, which never goes
below zero, is the greatest excess of opening over closing delimiters in what came last.
-/

set_option autoImplicit false

namespace TemplateLexer

namespace RunKind

/-- How many more delimiters open than close. -/
def excess (ks : List RunKind) : Int := ks.count .opens - ks.count .closes

/-- The depth after some kinds of runs, from depth zero. -/
def depth (ks : List RunKind) : Nat := ks.foldl Scanner.level 0

/-- Every opening delimiter has a closing one of its own, further on. -/
structure IsMatching (ks : List RunKind) (f : Nat → Nat) : Prop where
  closes : ∀ i, ks[i]? = some .opens → i < f i ∧ ks[f i]? = some .closes
  distinct : ∀ i j, ks[i]? = some .opens → ks[j]? = some .opens → f i = f j → i = j

variable {ks : List RunKind} {k : RunKind}

theorem excess_append (xs ys : List RunKind) : excess (xs ++ ys) = excess xs + excess ys := by
  simp only [excess, List.count_append]
  push_cast
  ring

theorem level_cast (d : Nat) (k : RunKind) :
    (Scanner.level d k : Int) = max 0 (d + excess [k]) := by
  cases k <;> simp [Scanner.level, excess]
  all_goals omega

/-- The depth is the greatest excess of what comes last. -/
theorem isGreatest_depth (ks : List RunKind) :
    IsGreatest {n | ∃ t, t <:+ ks ∧ n = excess t} (depth ks : Int) := by
  -- With one more run at the end, what comes last is empty or has that run at its end.
  induction ks using List.reverseRecOn with
  | nil =>
    refine ⟨⟨[], List.suffix_rfl, rfl⟩, ?_⟩
    rintro n ⟨t, ht, rfl⟩
    rw [List.suffix_nil.1 ht]
    rfl
  | append_singleton ks k ih =>
    obtain ⟨⟨t, ht, hdepth⟩, hbound⟩ := ih
    have hstep : (depth (ks ++ [k]) : Int) = max 0 (depth ks + excess [k]) := by
      rw [depth, List.foldl_append]
      exact level_cast _ k
    rw [hstep]
    constructor
    · rcases max_choice 0 ((depth ks : Int) + excess [k]) with h | h
      · exact ⟨[], List.nil_suffix, h⟩
      · have hsuffix : t ++ [k] <:+ ks ++ [k] := List.suffix_concat_iff.2 (.inr ⟨t, rfl, ht⟩)
        exact ⟨t ++ [k], hsuffix, by rw [h, excess_append, hdepth]⟩
    · rintro n ⟨u, hu, rfl⟩
      rcases List.suffix_concat_iff.1 hu with rfl | ⟨v, rfl, hv⟩
      · exact le_max_left _ _
      · rw [excess_append]
        exact le_max_of_le_right (Int.add_le_add_right (hbound ⟨v, hv, rfl⟩) _)

theorem depth_eq_zero_iff : depth ks = 0 ↔ ∀ t, t <:+ ks → excess t ≤ 0 := by
  obtain ⟨⟨t, ht, hdepth⟩, hbound⟩ := isGreatest_depth ks
  constructor
  · intro h u hu
    have := hbound ⟨u, hu, rfl⟩
    rwa [h] at this
  · intro h
    have := h t ht
    omega

def places (k : RunKind) (ks : List RunKind) : Finset Nat :=
  (Finset.range ks.length).filter fun i => ks[i]? = some k

theorem mem_places {i : Nat} : i ∈ places k ks ↔ ks[i]? = some k := by
  rw [places, Finset.mem_filter, Finset.mem_range, and_iff_right_iff_imp]
  exact fun h => (List.getElem?_eq_some_iff.1 h).1

theorem card_places (k : RunKind) (ks : List RunKind) : (places k ks).card = ks.count k := by
  induction ks using List.reverseRecOn with
  | nil => rfl
  | append_singleton ks l ih =>
    have hnew : ks.length ∉ places k ks := fun h => by simp [mem_places] at h
    have hplaces :
        places k (ks ++ [l]) = if l = k then insert ks.length (places k ks) else places k ks := by
      ext i
      rcases Nat.lt_trichotomy i ks.length with hi | rfl | hi
      · split <;> simp [mem_places, List.getElem?_append_left hi, Nat.ne_of_lt hi]
      · split <;> simp_all [mem_places]
      · have hnone : ks[i]? = none := List.getElem?_eq_none (Nat.le_of_lt hi)
        have hnone' : (ks ++ [l])[i]? = none :=
          List.getElem?_eq_none (by rw [List.length_append]; exact hi)
        split <;> simp [mem_places, hnone, hnone', Nat.ne_of_gt hi]
    rw [hplaces, List.count_append, List.count_singleton]
    split
    · rename_i h
      rw [Finset.card_insert_of_notMem hnew, ih, if_pos (beq_iff_eq.2 h)]
    · rename_i h
      rw [ih, if_neg (by simpa using h), Nat.add_zero]

theorem IsMatching.excess_le {f : Nat → Nat} (h : IsMatching ks f) : excess ks ≤ 0 := by
  have hcard : (places .opens ks).card ≤ (places .closes ks).card :=
    Finset.card_le_card_of_injOn f
      (fun i hi => mem_places.2 (h.closes i (mem_places.1 hi)).2)
      fun i hi j hj => h.distinct i j (mem_places.1 hi) (mem_places.1 hj)
  rw [card_places, card_places] at hcard
  rw [excess]
  omega

theorem IsMatching.tail {f : Nat → Nat} (h : IsMatching (k :: ks) f) :
    IsMatching ks fun i => f (i + 1) - 1 where
  closes i hi := by
    obtain ⟨hlt, hclose⟩ := h.closes (i + 1) hi
    refine ⟨by omega, ?_⟩
    rw [show f (i + 1) = f (i + 1) - 1 + 1 by omega] at hclose
    exact hclose
  distinct i j hi hj he := by
    have hi' := (h.closes (i + 1) hi).1
    have hj' := (h.closes (j + 1) hj).1
    have := h.distinct (i + 1) (j + 1) hi hj (by omega)
    omega

theorem IsMatching.excess_le_of_suffix {f : Nat → Nat} (h : IsMatching ks f) {t : List RunKind}
    (ht : t <:+ ks) : excess t ≤ 0 := by
  induction ks generalizing f with
  | nil =>
    rw [List.suffix_nil.1 ht]
    exact le_rfl
  | cons k ks ih =>
    rcases List.suffix_cons_iff.1 ht with rfl | ht
    · exact h.excess_le
    · exact ih h.tail ht

def matchFront (c : Nat) (f : Nat → Nat) : Nat → Nat
  | 0 => c + 1
  | i + 1 => f i + 1

theorem IsMatching.cons {f : Nat → Nat} {c : Nat} (h : IsMatching ks f)
    (hc : k = .opens → ks[c]? = some .closes ∧ ∀ i, ks[i]? = some .opens → f i ≠ c) :
    IsMatching (k :: ks) (matchFront c f) where
  closes i hi := by
    cases i with
    | zero => exact ⟨Nat.succ_pos c, (hc (by simpa using hi)).1⟩
    | succ i =>
      obtain ⟨hlt, hclose⟩ := h.closes i hi
      exact ⟨Nat.succ_lt_succ hlt, hclose⟩
  distinct i j hi hj he := by
    cases i with
    | zero =>
      cases j with
      | zero => rfl
      | succ j => exact absurd (Nat.succ.inj he).symm ((hc (by simpa using hi)).2 j hj)
    | succ i =>
      cases j with
      | zero => exact absurd (Nat.succ.inj he) ((hc (by simpa using hj)).2 i hi)
      | succ j => exact congrArg (· + 1) (h.distinct i j hi hj (Nat.succ.inj he))

theorem exists_isMatching (h : ∀ t, t <:+ ks → excess t ≤ 0) : ∃ f, IsMatching ks f := by
  induction ks with
  | nil => exact ⟨id, by simp, by simp⟩
  | cons k ks ih =>
    obtain ⟨f, hf⟩ := ih fun t ht => h t (ht.trans (List.suffix_cons k ks))
    by_cases hk : k = .opens
    · -- More delimiters close in the rest than are matched there, so that one is left.
      have hwhole : excess (k :: ks) ≤ 0 := h _ List.suffix_rfl
      have hfree : ((places .opens ks).image f).card < (places .closes ks).card := by
        have himage := Finset.card_image_le (s := places .opens ks) (f := f)
        rw [hk, excess, List.count_cons_self, List.count_cons_of_ne (by decide)] at hwhole
        rw [card_places] at himage ⊢
        omega
      obtain ⟨c, hclose, hfree⟩ := Finset.exists_mem_notMem_of_card_lt_card hfree
      refine ⟨matchFront c f, hf.cons fun _ => ⟨mem_places.1 hclose, fun i hi he => hfree ?_⟩⟩
      exact Finset.mem_image.2 ⟨i, mem_places.2 hi, he⟩
    · exact ⟨matchFront 0 f, hf.cons fun h => absurd h hk⟩

/-- The depth is zero where every opening delimiter can be matched. -/
theorem depth_eq_zero_iff_exists : depth ks = 0 ↔ ∃ f, IsMatching ks f := by
  rw [depth_eq_zero_iff]
  exact ⟨exists_isMatching, fun ⟨_, hf⟩ _ ht => hf.excess_le_of_suffix ht⟩

end RunKind

namespace Scanner

/-- What a scanner is asked to do. -/
inductive Call where
  | feed (text : String)
  | advance (markup : String)

namespace Call

def text : Call → List Char
  | feed text => text.toList
  | advance markup => markup.toList

/-- The pieces that a call gives when it is the only one, from a line on. -/
def alone (line : Int) : Call → List Piece
  | feed text => (splitText text line).map Run.piece
  | advance _ => []

end Call

def call (s : Scanner) : Call → List Run × Scanner
  | .feed text => s.feed text
  | .advance markup => ([], s.advance markup.toList)

/-- The runs of every call, and the scanner after the last one. -/
def calls (s : Scanner) : List Call → List (List Run) × Scanner
  | [] => ([], s)
  | c :: cs =>
    let (rs, next) := s.call c
    let (rest, last) := next.calls cs
    (rs :: rest, last)

variable {s : Scanner} {c : Call} {cs : List Call}

theorem calls_cons (s : Scanner) (c : Call) (cs : List Call) :
    s.calls (c :: cs)
      = ((s.call c).1 :: ((s.call c).2.calls cs).1, ((s.call c).2.calls cs).2) := rfl

theorem snd_runs (s : Scanner) (ps : List Piece) :
    (s.runs ps).2 = ⟨((s.runs ps).1.map Run.kind).foldl level s.depth,
      s.line + lineBreaks (ps.flatMap Piece.text)⟩ := by
  induction ps generalizing s with
  | nil => simp [runs, lineBreaks]
  | cons p ps ih =>
    rw [runs_cons, List.map_cons, List.foldl_cons, List.flatMap_cons, lineBreaks_append]
    dsimp only
    rw [ih, pass]
    push_cast
    rw [Int.add_assoc]

theorem snd_call (s : Scanner) (c : Call) :
    (s.call c).2 = ⟨((s.call c).1.map Run.kind).foldl level s.depth,
      s.line + lineBreaks c.text⟩ := by
  cases c with
  | feed text =>
    have h := snd_runs s (Piece.split text.toList)
    rwa [Piece.flatMap_split] at h
  | advance markup => rfl

theorem map_piece_call (s : Scanner) (c : Call) (line : Int) :
    (s.call c).1.map Run.piece = c.alone line := by
  cases c with
  | feed text => exact (map_piece_runs _ _).trans (map_piece_runs _ _).symm
  | advance markup => rfl

theorem line_of_call {before after : List Run} {r : Run} (h : (s.call c).1 = before ++ r :: after) :
    r.line = s.line + Run.breaks before := by
  cases c with
  | feed text => exact line_of_runs h
  | advance markup => simp [call] at h

theorem snd_calls (s : Scanner) (cs : List Call) :
    (s.calls cs).2 = ⟨((s.calls cs).1.flatten.map Run.kind).foldl level s.depth,
      s.line + lineBreaks (cs.flatMap Call.text)⟩ := by
  induction cs generalizing s with
  | nil => simp [calls, lineBreaks]
  | cons c cs ih =>
    rw [calls_cons, List.flatten_cons, List.map_append, List.foldl_append, List.flatMap_cons,
      lineBreaks_append]
    dsimp only
    rw [ih, snd_call]
    push_cast
    rw [Int.add_assoc]

theorem map_piece_calls (s : Scanner) (cs : List Call) (line : Int) :
    (s.calls cs).1.map (List.map Run.piece) = cs.map (Call.alone line) := by
  induction cs generalizing s with
  | nil => rfl
  | cons c cs ih => rw [calls_cons, List.map_cons, ih, map_piece_call s c line, List.map_cons]

theorem line_of_calls {i : Nat} {rs before after : List Run} {r : Run}
    (hrs : (s.calls cs).1[i]? = some rs) (h : rs = before ++ r :: after) :
    r.line = s.line + (lineBreaks ((cs.take i).flatMap Call.text) + Run.breaks before : Nat) := by
  induction cs generalizing s i with
  | nil => simp [calls] at hrs
  | cons c cs ih =>
    rw [calls_cons] at hrs
    cases i with
    | zero =>
      cases Option.some.inj hrs
      simpa [lineBreaks] using line_of_call h
    | succ i =>
      rw [ih hrs, snd_call, List.take_succ_cons, List.flatMap_cons, lineBreaks_append]
      push_cast
      ring

/-- What is told of the calls of a scanner that starts on a line: the runs of every call, and the
scanner after the last one. -/
structure Follows (line : Int) (cs : List Call) (out : List (List Run)) (last : Scanner) :
    Prop where
  alone : ∀ l, out.map (List.map Run.piece) = cs.map (Call.alone l)
  lines : ∀ i before r after, out[i]? = some (before ++ r :: after) →
    r.line = line + (lineBreaks ((cs.take i).flatMap Call.text) + Run.breaks before : Nat)
  line : last.line = line + lineBreaks (cs.flatMap Call.text)
  depth : IsGreatest {n | ∃ t, t <:+ out.flatten.map Run.kind ∧ n = RunKind.excess t}
    (last.depth : Int)
  matched : last.depth = 0 ↔ ∃ f, RunKind.IsMatching (out.flatten.map Run.kind) f

theorem calls_follows (line : Int) (cs : List Call) :
    Follows line cs ((start line).calls cs).1 ((start line).calls cs).2 := by
  have hlast := snd_calls (start line) cs
  have hdepth : ((start line).calls cs).2.depth
      = RunKind.depth (((start line).calls cs).1.flatten.map Run.kind) :=
    congrArg Scanner.depth hlast
  exact
    { alone := map_piece_calls _ cs
      lines := fun i before r after h => line_of_calls h rfl
      line := congrArg Scanner.line hlast
      depth := hdepth ▸ RunKind.isGreatest_depth _
      matched := hdepth ▸ RunKind.depth_eq_zero_iff_exists }

end Scanner

end TemplateLexer
