/-!
Runs of expression text. A text is cut into quoted literals, the delimiters `{%` and `%}`, and the
characters between them. A literal is looked for before a delimiter, so delimiters inside quotes
are not seen. Nothing of the text is lost.
-/

set_option autoImplicit false

namespace TemplateLexer

/-- What a run of expression text is. -/
inductive RunKind where
  | singleQuoted
  | doubleQuoted
  | opens
  | closes
  | characters
  deriving DecidableEq, Repr

/-- A run before lines are counted: its kind and its characters. -/
structure Piece where
  kind : RunKind
  text : List Char
  deriving DecidableEq, Repr

namespace Piece

/-- Splits after the first `quote` that does not directly follow a backslash;
`escaped` tells whether the character before the list is a backslash. -/
def firstBare (quote : Char) : (escaped : Bool) → List Char → Option (List Char × List Char)
  | _, [] => none
  | escaped, c :: cs =>
    if c = quote ∧ escaped = false then some ([c], cs)
    else (firstBare quote (c == '\\') cs).map fun (body, rest) => (c :: body, rest)

def lastQuote (quote : Char) : List Char → Option (List Char × List Char)
  | [] => none
  | c :: cs =>
    match lastQuote quote cs with
    | some (body, rest) => some (c :: body, rest)
    | none => if c = quote then some ([c], cs) else none

/-- The remainder of a literal after its opening quote: it ends at the first quote that no
backslash escapes, or, when all are escaped, at the last one. -/
def literal (quote : Char) (cs : List Char) : Option (List Char × List Char) :=
  (firstBare quote false cs).or (lastQuote quote cs)

def leading : List Char → Option (Piece × List Char)
  | '\'' :: cs => (literal '\'' cs).map fun (body, rest) => (⟨.singleQuoted, '\'' :: body⟩, rest)
  | '"' :: cs => (literal '"' cs).map fun (body, rest) => (⟨.doubleQuoted, '"' :: body⟩, rest)
  | '{' :: '%' :: cs => some (⟨.opens, ['{', '%']⟩, cs)
  | '%' :: '}' :: cs => some (⟨.closes, ['%', '}']⟩, cs)
  | _ => none

theorem firstBare_append {quote : Char} {escaped : Bool} {cs body rest : List Char}
    (h : firstBare quote escaped cs = some (body, rest)) : body ++ rest = cs := by
  induction cs generalizing escaped body with
  | nil => simp [firstBare] at h
  | cons c cs ih =>
    simp only [firstBare] at h
    split at h
    · simp only [Option.some.injEq, Prod.mk.injEq] at h
      simp [← h.1, ← h.2]
    · obtain ⟨⟨b, r⟩, hb, he⟩ := Option.map_eq_some_iff.1 h
      simp only [Prod.mk.injEq] at he
      obtain ⟨rfl, rfl⟩ := he
      rw [List.cons_append, ih hb]

theorem lastQuote_append {quote : Char} {cs body rest : List Char}
    (h : lastQuote quote cs = some (body, rest)) : body ++ rest = cs := by
  induction cs generalizing body with
  | nil => simp [lastQuote] at h
  | cons c cs ih =>
    simp only [lastQuote] at h
    split at h
    · rename_i b r hb
      simp only [Option.some.injEq, Prod.mk.injEq] at h
      obtain ⟨rfl, rfl⟩ := h
      rw [List.cons_append, ih hb]
    · split at h
      · simp only [Option.some.injEq, Prod.mk.injEq] at h
        obtain ⟨rfl, rfl⟩ := h
        rfl
      · simp at h

theorem literal_append {quote : Char} {cs body rest : List Char}
    (h : literal quote cs = some (body, rest)) : body ++ rest = cs := by
  simp only [literal, Option.or_eq_some_iff] at h
  rcases h with h | ⟨-, h⟩
  · exact firstBare_append h
  · exact lastQuote_append h

theorem leading_append {cs rest : List Char} {p : Piece} (h : leading cs = some (p, rest)) :
    p.text ++ rest = cs := by
  unfold leading at h
  split at h
  · obtain ⟨⟨b, r⟩, hb, he⟩ := Option.map_eq_some_iff.1 h
    simp only [Prod.mk.injEq] at he
    rw [← he.1, ← he.2]
    simp [literal_append hb]
  · obtain ⟨⟨b, r⟩, hb, he⟩ := Option.map_eq_some_iff.1 h
    simp only [Prod.mk.injEq] at he
    rw [← he.1, ← he.2]
    simp [literal_append hb]
  · simp only [Option.some.injEq, Prod.mk.injEq] at h
    simp [← h.1, ← h.2]
  · simp only [Option.some.injEq, Prod.mk.injEq] at h
    simp [← h.1, ← h.2]
  · simp at h

theorem leading_ne_nil {cs rest : List Char} {p : Piece} (h : leading cs = some (p, rest)) :
    p.text ≠ [] := by
  unfold leading at h
  split at h
  · obtain ⟨⟨b, r⟩, -, he⟩ := Option.map_eq_some_iff.1 h
    simp only [Prod.mk.injEq] at he
    simp [← he.1]
  · obtain ⟨⟨b, r⟩, -, he⟩ := Option.map_eq_some_iff.1 h
    simp only [Prod.mk.injEq] at he
    simp [← he.1]
  · simp only [Option.some.injEq, Prod.mk.injEq] at h
    simp [← h.1]
  · simp only [Option.some.injEq, Prod.mk.injEq] at h
    simp [← h.1]
  · simp at h

theorem leading_length {cs rest : List Char} {p : Piece} (h : leading cs = some (p, rest)) :
    rest.length < cs.length := by
  have happ := congrArg List.length (leading_append h)
  have hpos := List.length_pos_iff.2 (leading_ne_nil h)
  simp only [List.length_append] at happ
  omega

def plain (c : Char) : List Piece → List Piece
  | ⟨.characters, text⟩ :: ps => ⟨.characters, c :: text⟩ :: ps
  | ps => ⟨.characters, [c]⟩ :: ps

def split : List Char → List Piece
  | [] => []
  | c :: cs =>
    match _h : leading (c :: cs) with
    | some (p, rest) => p :: split rest
    | none => plain c (split cs)
  termination_by cs => cs.length
  decreasing_by
  · exact leading_length _h
  · simp

theorem flatMap_plain (c : Char) (ps : List Piece) :
    (plain c ps).flatMap Piece.text = c :: ps.flatMap Piece.text := by
  unfold plain
  split <;> simp

theorem flatMap_split (cs : List Char) : (split cs).flatMap Piece.text = cs := by
  fun_induction split cs with
  | case1 => rfl
  | case2 c cs p rest h ih => rw [List.flatMap_cons, ih, leading_append h]
  | case3 c cs h ih => rw [flatMap_plain, ih]

end Piece

/-- Whether a text holds a delimiter, inside quotes or not. -/
def hasDelimiter : List Char → Bool
  | '{' :: '%' :: _ => true
  | '%' :: '}' :: _ => true
  | _ :: cs => hasDelimiter cs
  | [] => false

end TemplateLexer
