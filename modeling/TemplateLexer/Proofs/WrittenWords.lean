import Mathlib.Data.List.TakeDrop
import Mathlib.Data.List.TakeWhile
import TemplateLexer.Json.Reader
import TemplateLexer.Json.Writer

set_option autoImplicit false

namespace TemplateLexer.Json

section Strings

variable {fuel n : Nat} {done cs rest : List Char} {c : Char}

theorem hexValue_hexDigit (h : n < 16) : hexValue (hexDigit n) = some n := by
  revert n
  decide

theorem unit?_hexDigits (h : n < 0x10000) (rest : List Char) :
    unit? (hexDigit (n / 4096 % 16) :: hexDigit (n / 256 % 16) :: hexDigit (n / 16 % 16)
      :: hexDigit (n % 16) :: rest) = some (n, rest) := by
  have hdigit : ∀ m, hexValue (hexDigit (m % 16)) = some (m % 16) :=
    fun m => hexValue_hexDigit (Nat.mod_lt _ (by decide))
  simp only [unit?, hdigit, Option.bind_eq_bind, Option.bind_some, Option.some.injEq,
    Prod.mk.injEq, and_true]
  omega

theorem joinUnits_of_alone (hhigh : ¬ (0xd800 ≤ n ∧ n < 0xdc00))
    (hlow : ¬ (0xdc00 ≤ n ∧ n < 0xe000)) : joinUnits n rest = (Char.ofNat n, rest) := by
  rw [joinUnits.eq_def, if_neg hhigh, if_neg hlow]

theorem joinUnits_pair (h : n < 0x100000) :
    joinUnits (0xd800 + n / 1024) (unitEscape (0xdc00 + n % 1024) ++ rest)
      = (Char.ofNat (0x10000 + n), rest) := by
  have hunit := unit?_hexDigits (show 0xdc00 + n % 1024 < 0x10000 by omega) rest
  have hlow : 0xdc00 ≤ 0xdc00 + n % 1024 ∧ 0xdc00 + n % 1024 < 0xe000 := by omega
  have hsum : 0x10000 + (0xd800 + n / 1024 - 0xd800) * 1024 + (0xdc00 + n % 1024 - 0xdc00)
      = 0x10000 + n := by omega
  rw [joinUnits.eq_def, if_pos (by omega)]
  simp only [unitEscape, List.cons_append, List.nil_append, hunit]
  rw [if_pos hlow, hsum]

theorem stringFrom_unitEscape (h : n < 0x10000) :
    stringFrom (fuel + 1) done (unitEscape n ++ rest)
      = stringFrom fuel ((joinUnits n rest).1 :: done) (joinUnits n rest).2 := by
  simp only [unitEscape, List.cons_append, List.nil_append, stringFrom, unit?_hexDigits h,
    Option.bind_eq_bind, Option.bind_some]

theorem stringFrom_escapeChar :
    stringFrom (fuel + 1) done (escapeChar c ++ rest) = stringFrom fuel (c :: done) rest := by
  have hvalid : c.toNat < 0xd800 ∨ 0xdfff < c.toNat ∧ c.toNat < 0x110000 := c.valid
  unfold escapeChar
  split_ifs with h₁ h₂ h₃ h₄ h₅ h₆ h₇ hprint hplane
  · subst h₁; rfl
  · subst h₂; rfl
  · subst h₃; rfl
  · subst h₄; rfl
  · subst h₅; rfl
  · subst h₆; rfl
  · subst h₇; rfl
  · have hspace : ¬ c.toNat < 0x20 := Nat.not_lt.2 hprint.1
    rw [List.singleton_append, stringFrom.eq_5 _ _ _ _ h₁ (fun _ hc => absurd hc h₂)
      (fun _ _ hc => absurd hc h₂), if_neg hspace]
  · rw [stringFrom_unitEscape hplane, joinUnits_of_alone (by omega) (by omega), Char.ofNat_toNat]
  · have hsum : 0x10000 + (c.toNat - 0x10000) = c.toNat := by omega
    rw [List.append_assoc, stringFrom_unitEscape (by omega), joinUnits_pair (by omega), hsum,
      Char.ofNat_toNat]

theorem length_flatMap_escapeChar (cs : List Char) :
    cs.length ≤ (cs.flatMap escapeChar).length := by
  have hone : ∀ c : Char, 1 ≤ (escapeChar c).length := by
    intro c
    unfold escapeChar
    split_ifs <;> simp [unitEscape]
  induction cs with
  | nil => exact Nat.le_refl _
  | cons c cs ih =>
    have := hone c
    rw [List.flatMap_cons, List.length_append, List.length_cons]
    omega

theorem stringFrom_escaped (h : cs.length < fuel) :
    stringFrom fuel done (cs.flatMap escapeChar ++ '"' :: rest)
      = some (String.ofList (done.reverse ++ cs), rest) := by
  induction cs generalizing fuel done with
  | nil =>
    obtain ⟨fuel, rfl⟩ := Nat.exists_eq_succ_of_ne_zero (Nat.ne_of_gt h)
    simp [stringFrom]
  | cons c cs ih =>
    obtain ⟨fuel, rfl⟩ := Nat.exists_eq_succ_of_ne_zero (Nat.ne_of_gt (Nat.zero_lt_of_lt h))
    rw [List.flatMap_cons, List.append_assoc, stringFrom_escapeChar, ih (by simpa using h),
      List.reverse_cons, List.append_assoc, List.singleton_append]

theorem quoteChars_append (s : String) (rest : List Char) :
    quoteChars s ++ rest = '"' :: (s.toList.flatMap escapeChar ++ '"' :: rest) := by
  simp [quoteChars]

theorem stringFrom_quoted (s : String) (rest : List Char) :
    stringFrom ((s.toList.flatMap escapeChar ++ '"' :: rest).length + 1) []
      (s.toList.flatMap escapeChar ++ '"' :: rest) = some (s, rest) := by
  have hlength := length_flatMap_escapeChar s.toList
  rw [stringFrom_escaped (by rw [List.length_append]; omega), List.reverse_nil, List.nil_append,
    String.ofList_toList]

end Strings

section Numbers

variable {n : Nat} {rest : List Char}

def Ends (rest : List Char) : Prop :=
  ∀ c ∈ rest.head?, c.isDigit = false ∧ c ≠ '.' ∧ c ≠ 'e' ∧ c ≠ 'E'

theorem ends_cons {c : Char} (h : c.isDigit = false ∧ c ≠ '.' ∧ c ≠ 'e' ∧ c ≠ 'E')
    (rest : List Char) : Ends (c :: rest) := by
  intro d hd
  obtain rfl := Option.mem_some.1 hd
  exact h

theorem Ends.fraction (h : Ends rest) : fraction rest = ([], rest) := by
  cases rest with
  | nil => rfl
  | cons c rest =>
    have hc := (h c rfl).2.1
    rw [Json.fraction.eq_2 _ fun _ h => hc (List.head_eq_of_cons_eq h)]

theorem Ends.exponent (h : Ends rest) : exponent rest = ([], rest) := by
  cases rest with
  | nil => rfl
  | cons c rest =>
    have hc := (h c rfl).2.2
    rw [Json.exponent.eq_def]
    exact if_neg (not_or.2 hc)

theorem digits_toDigits (h : Ends rest) :
    digits (Nat.toDigits 10 n ++ rest) = (Nat.toDigits 10 n, rest) := by
  have hall : ∀ d ∈ Nat.toDigits 10 n, d.isDigit = true :=
    fun d hd => Nat.isDigit_of_mem_toDigits (by decide) (by decide) hd
  have hrest : rest.takeWhile Char.isDigit = [] ∧ rest.dropWhile Char.isDigit = rest := by
    cases rest with
    | nil => exact ⟨rfl, rfl⟩
    | cons c rest => simp [(h c rfl).1]
  rw [digits, List.span_eq_takeWhile_dropWhile, List.takeWhile_append_of_pos hall,
    List.dropWhile_append_of_pos hall, hrest.1, hrest.2, List.append_nil]

theorem natOf_toDigits (n : Nat) : natOf (Nat.toDigits 10 n) = n := by
  have hfold : natOf (Nat.toDigits 10 n) = Nat.ofDigitChars 10 (Nat.toDigits 10 n) 0 := by
    unfold natOf Nat.ofDigitChars
    exact congrArg (fun f => List.foldl f 0 _) (funext₂ fun k d => by rw [Nat.mul_comm])
  rw [hfold, Nat.ofDigitChars_ten_toDigits]

theorem head?_toDigits (h : n ≠ 0) : (Nat.toDigits 10 n).head? ≠ some '0' := by
  induction n using Nat.strongRecOn with
  | ind n ih =>
    by_cases hsmall : n < 10
    · have hdigit : ∀ m < 10, m ≠ 0 → Nat.digitChar m ≠ '0' := by decide
      rw [Nat.toDigits_of_lt_base hsmall]
      simpa using hdigit n hsmall h
    · have hfront := ih (n / 10) (by omega) (by omega)
      rw [Nat.toDigits_of_base_le (by decide) (by omega)]
      cases hds : Nat.toDigits 10 (n / 10) with
      | nil => exact absurd hds Nat.toDigits_ne_nil
      | cons d ds => rwa [hds] at hfront

theorem numeral_signed (negative : Bool) (n : Nat) (h : Ends rest) :
    numeral ((if negative then ['-'] else []) ++ Nat.toDigits 10 n ++ rest)
      = some (int (if negative then -n else n), rest) := by
  have hdigits := digits_toDigits (n := n) h
  have hvalue := natOf_toDigits n
  by_cases hzero : n = 0
  · subst hzero
    cases negative <;> simp [numeral, numeralFrom, h.fraction, h.exponent, natOf]
  · have hhead := head?_toDigits hzero
    have hisDigit : ∀ d ∈ Nat.toDigits 10 n, d.isDigit = true :=
      fun d hd => Nat.isDigit_of_mem_toDigits (by decide) (by decide) hd
    cases hds : Nat.toDigits 10 n with
    | nil => exact absurd hds Nat.toDigits_ne_nil
    | cons d ds =>
      rw [hds] at hdigits hvalue hhead hisDigit
      have hd := hisDigit d List.mem_cons_self
      have hminus : d ≠ '-' := by rintro rfl; simp at hd
      have hleading : d ≠ '0' := by rintro rfl; simp at hhead
      rw [List.cons_append] at hdigits
      cases negative <;>
        simp [numeral, numeralFrom, hminus, hleading, hdigits, h.fraction, h.exponent, hvalue]

theorem toList_toString_int (n : Int) :
    (toString n).toList = (if n < 0 then ['-'] else []) ++ Nat.toDigits 10 n.natAbs := by
  have hdigits : ∀ m : Nat, (toString m).toList = Nat.toDigits 10 m := fun m => by
    rw [Nat.toString_eq_ofList_toDigits, String.toList_ofList]
  cases n with
  | ofNat m =>
    have hsign : ¬ Int.ofNat m < 0 := Int.not_lt.2 (Int.natCast_nonneg m)
    rw [if_neg hsign]
    exact hdigits m
  | negSucc m =>
    have hsign : toString (Int.negSucc m) = "-" ++ toString (m + 1) := rfl
    rw [if_pos (Int.negSucc_lt_zero m), hsign, String.toList_append, hdigits]
    rfl

theorem numeral_toString (n : Int) (h : Ends rest) :
    numeral ((toString n).toList ++ rest) = some (int n, rest) := by
  have hsigned := numeral_signed (decide (n < 0)) n.natAbs h
  have hvalue : (if n < 0 then -(n.natAbs : Int) else n.natAbs) = n := by omega
  simp only [decide_eq_true_eq] at hsigned
  rw [toList_toString_int, hsigned, hvalue]

theorem head_toString (n : Int) :
    ∃ c cs, (toString n).toList = c :: cs ∧
      (c.isDigit = true ∨ c = '-' ∧ ∃ d ds, cs = d :: ds ∧ d.isDigit = true) := by
  have hisDigit : ∀ d ∈ Nat.toDigits 10 n.natAbs, d.isDigit = true :=
    fun d hd => Nat.isDigit_of_mem_toDigits (by decide) (by decide) hd
  rw [toList_toString_int]
  cases hds : Nat.toDigits 10 n.natAbs with
  | nil => exact absurd hds Nat.toDigits_ne_nil
  | cons d ds =>
    have hd := hisDigit d (hds ▸ List.mem_cons_self)
    by_cases hn : n < 0
    · exact ⟨'-', d :: ds, by simp [hn], .inr ⟨rfl, d, ds, rfl, hd⟩⟩
    · exact ⟨d, ds, by simp [hn], .inl hd⟩

end Numbers

end TemplateLexer.Json
