import Mathlib.Data.List.Basic
import Mathlib.Data.List.TakeWhile
import TemplateLexer.Loading
import TemplateLexer.Proofs.TextBytes

set_option autoImplicit false

namespace TemplateLexer.Text

namespace Unicode

theorem toNat_ofNat {n : Nat} (h : n < 256) : (UInt8.ofNat n).toNat = n := by
  rw [UInt8.toNat_ofNat']
  exact Nat.mod_eq_of_lt h

theorem isTail_ofNat {y : Nat} (h : y < 64) : isTail (UInt8.ofNat (y + 128)) = true := by
  have hy := toNat_ofNat (n := y + 128) (by omega)
  simp only [isTail, UInt8.le_iff_toNat_le, UInt8.lt_iff_toNat_lt, hy, Bool.and_eq_true,
    decide_eq_true_eq]
  exact ⟨Nat.le_add_left .., by simp; omega⟩

theorem tail_ofNat {y : Nat} (h : y < 64) : tail (UInt8.ofNat (y + 128)) = y := by
  rw [tail, toNat_ofNat (by omega)]
  omega

theorem longChar?_eq {a : UInt8} {ys : List Nat} {n : Nat} (more : List UInt8)
    (hcount : (if a < 0xc2 then 0 else if a < 0xe0 then 1 else if a < 0xf0 then 2
      else if a < 0xf5 then 3 else 0) = ys.length)
    (hys : ∀ y ∈ ys, y < 64) (hpos : 0 < ys.length)
    (hn : ys.foldl (fun n y => n * 64 + y)
      (a.toNat % (if ys.length = 1 then 32 else if ys.length = 2 then 16 else 8)) = n)
    (hleast : (if ys.length = 1 then 0x80 else if ys.length = 2 then 0x800 else 0x10000) ≤ n)
    (hvalid : n.isValidChar) :
    longChar? a (ys.map (fun y => UInt8.ofNat (y + 128)) ++ more)
      = some (Char.ofNat n, ys.length) := by
  have htake : (ys.map (fun y => UInt8.ofNat (y + 128)) ++ more).take ys.length
      = ys.map fun y => UInt8.ofNat (y + 128) := List.take_left' (List.length_map ..)
  have hfold : ∀ start, (ys.map fun y => UInt8.ofNat (y + 128)).foldl
      (fun n b => n * 64 + tail b) start = ys.foldl (fun n y => n * 64 + y) start := by
    intro start
    rw [List.foldl_map]
    exact List.foldl_ext _ _ _ fun n y hy => by rw [tail_ofNat (hys y hy)]
  have htails : (ys.map fun y => UInt8.ofNat (y + 128)).all isTail = true := by
    simp only [List.all_map, List.all_eq_true]
    exact fun y hy => isTail_ofNat (hys y hy)
  unfold longChar?
  simp only [hcount, htake, hfold, hn, htails, List.length_map]
  rw [if_pos]
  simp only [Bool.and_eq_true, Bool.not_eq_true', Bool.and_eq_false_iff, decide_eq_true_eq,
    decide_eq_false_iff_not, beq_self_eq_true]
  unfold Nat.isValidChar at hvalid
  exact ⟨⟨⟨⟨⟨hpos, trivial⟩, trivial⟩, hleast⟩, by omega⟩, by omega⟩

theorem decode8_cons_ascii {b : UInt8} (h : b < 0x80) (bs : List UInt8) :
    decode8 (b :: bs) = Char.ofNat b.toNat :: decode8 bs := by
  rw [decode8, if_pos h]

theorem decode8_cons_long {b : UInt8} (h : ¬b < 0x80) {more bs : List UInt8} {c : Char}
    (hlong : longChar? b (more ++ bs) = some (c, more.length)) :
    decode8 (b :: (more ++ bs)) = c :: decode8 bs := by
  rw [decode8, if_neg h, hlong]
  simp only [List.drop_left]

theorem decode8_long {c : Char} {x : Nat} (ys : List Nat) (bs : List UInt8) (hx : 0xc2 ≤ x)
    (hx' : x < 256)
    (hcount : (if x < 0xe0 then 1 else if x < 0xf0 then 2 else if x < 0xf5 then 3 else 0)
      = ys.length)
    (hys : ∀ y ∈ ys, y < 64) (hpos : 0 < ys.length)
    (hn : ys.foldl (fun n y => n * 64 + y)
      (x % (if ys.length = 1 then 32 else if ys.length = 2 then 16 else 8)) = c.toNat)
    (hleast : (if ys.length = 1 then 0x80 else if ys.length = 2 then 0x800 else 0x10000)
      ≤ c.toNat) :
    decode8 (UInt8.ofNat x :: (ys.map (fun y => UInt8.ofNat (y + 128)) ++ bs))
      = c :: decode8 bs := by
  have hbyte := toNat_ofNat hx'
  have hlong : longChar? (UInt8.ofNat x) (ys.map (fun y => UInt8.ofNat (y + 128)) ++ bs)
      = some (Char.ofNat c.toNat, ys.length) := by
    refine longChar?_eq bs ?_ hys hpos (by rwa [hbyte]) hleast c.valid
    simp only [UInt8.lt_iff_toNat_lt, hbyte, UInt8.reduceToNat]
    rw [if_neg (by omega), hcount]
  rw [Char.ofNat_toNat, ← List.length_map (fun y => UInt8.ofNat (y + 128))] at hlong
  refine decode8_cons_long ?_ hlong
  simp only [UInt8.lt_iff_toNat_lt, hbyte, UInt8.reduceToNat]
  omega

theorem decode8_utf8EncodeChar (c : Char) (bs : List UInt8) :
    decode8 (String.utf8EncodeChar c ++ bs) = c :: decode8 bs := by
  have hlt : c.val.toNat < 0x110000 := by
    have hvalid : c.toNat.isValidChar := c.valid
    unfold Nat.isValidChar at hvalid
    simp only [Char.toNat] at hvalid
    omega
  -- A character has one byte, or up to four of which all but the first hold six bits each.
  unfold String.utf8EncodeChar
  dsimp only
  split
  · rename_i h
    have hbyte := toNat_ofNat (n := c.val.toNat) (by omega)
    rw [List.cons_append, decode8_cons_ascii, hbyte]
    · exact congrArg (· :: _) (Char.ofNat_toNat c)
    · simp only [UInt8.lt_iff_toNat_lt, hbyte, UInt8.reduceToNat]
      omega
  · split
    · refine decode8_long [c.val.toNat % 64] bs (by omega) (by omega) ?_ ?_ (by simp) ?_ ?_
      · rw [if_pos (by omega)]
        rfl
      · simp only [List.mem_singleton, forall_eq]
        omega
      · rw [if_pos (by rfl)]
        simp only [List.foldl_cons, List.foldl_nil, Char.toNat]
        omega
      · rw [if_pos (by rfl), Char.toNat]
        omega
    · split
      · refine decode8_long [c.val.toNat / 64 % 64, c.val.toNat % 64] bs (by omega)
          (by omega) ?_ ?_ (by simp) ?_ ?_
        · rw [if_neg (by omega), if_pos (by omega)]
          rfl
        · simp only [List.mem_cons, List.not_mem_nil, or_false, forall_eq_or_imp, forall_eq]
          omega
        · rw [if_neg (by simp), if_pos (by rfl)]
          simp only [List.foldl_cons, List.foldl_nil, Char.toNat]
          omega
        · rw [if_neg (by simp), if_pos (by rfl), Char.toNat]
          omega
      · refine decode8_long
          [c.val.toNat / 4096 % 64, c.val.toNat / 64 % 64, c.val.toNat % 64] bs (by omega)
          (by omega) ?_ ?_ (by simp) ?_ ?_
        · rw [if_neg (by omega), if_neg (by omega), if_pos (by omega)]
          rfl
        · simp only [List.mem_cons, List.not_mem_nil, or_false, forall_eq_or_imp, forall_eq]
          omega
        · rw [if_neg (by simp), if_neg (by simp)]
          simp only [List.foldl_cons, List.foldl_nil, Char.toNat]
          omega
        · rw [if_neg (by simp), if_neg (by simp), Char.toNat]
          omega

theorem decode8_flatMap (cs : List Char) : decode8 (cs.flatMap String.utf8EncodeChar) = cs := by
  induction cs with
  | nil => rw [List.flatMap_nil, decode8]
  | cons c cs ih => rw [List.flatMap_cons, decode8_utf8EncodeChar, ih]

end Unicode

def bytewise (bs : List UInt8) : List Char := bs.map fun b => Char.ofNat b.toNat

def narrowed (cs : List Char) : List UInt8 := cs.map fun c => UInt8.ofNat c.toNat

def AreAscii (cs : List Char) : Prop := ∀ c ∈ cs, c.toNat < 128

section Narrow

variable {cs front : List Char}

theorem bytewise_narrowed (h : ∀ c ∈ cs, c.toNat < 256) : bytewise (narrowed cs) = cs := by
  rw [bytewise, narrowed, List.map_map]
  refine (List.map_congr_left fun c hc => ?_).trans (List.map_id cs)
  rw [Function.comp, Unicode.toNat_ofNat (h c hc), Char.ofNat_toNat, id]

theorem utf8EncodeChar_ascii {c : Char} (h : c.toNat < 128) :
    String.utf8EncodeChar c = [UInt8.ofNat c.toNat] := by
  have hc : c.val.toNat ≤ 127 := Nat.le_of_lt_succ h
  rw [String.utf8EncodeChar, if_pos hc]
  rfl

theorem flatMap_ascii (h : AreAscii cs) : cs.flatMap String.utf8EncodeChar = narrowed cs := by
  induction cs with
  | nil => rfl
  | cons c cs ih =>
    obtain ⟨hc, hcs⟩ := List.forall_mem_cons.1 h
    rw [List.flatMap_cons, utf8EncodeChar_ascii hc, ih hcs]
    rfl

end Narrow

namespace Encoding

/-- An encoding with one byte for each of its characters up to a number below 256, or UTF-8. -/
def IsPlain (e : Encoding) : Prop := e = utf8 ∨ ∃ n ≤ 256, e = lowest n

variable {e : Encoding} {cs front rest : List Char} {bs : List UInt8}

theorem encode_utf8 (cs : List Char) : utf8.encode cs = .ok (cs.flatMap String.utf8EncodeChar) := by
  rw [encode, Markup.toUTF8_toList, String.toList_ofList]

theorem encode_lowest {n : Nat} (h : (lowest n).encode cs = .ok bs) :
    bs = narrowed cs ∧ ∀ c ∈ cs, c.toNat < n := by
  rw [encode, encodeEach] at h
  split at h
  · rename_i hall
    have hcs : ∀ c ∈ cs, c.toNat < n := by
      intro c hc
      by_contra hn
      have := List.dropWhile_eq_nil_iff.1 hall c hc
      rw [if_neg hn] at this
      cases this
    refine ⟨?_, hcs⟩
    injection h with h
    rw [← h, narrowed, List.map_eq_flatMap]
    exact List.flatMap_congr fun c hc => by rw [if_pos (hcs c hc)]; rfl
  · cases h

theorem decode_encode (he : e.IsPlain) (h : e.encode cs = .ok bs) : e.decode bs = some cs := by
  rcases he with rfl | ⟨n, hn, rfl⟩
  · rw [encode_utf8] at h
    injection h with h
    rw [decode, ← h, Unicode.decode8_flatMap]
  · obtain ⟨rfl, hcs⟩ := encode_lowest h
    have hlt : ∀ c ∈ cs, c.toNat < 256 := fun c hc => Nat.lt_of_lt_of_le (hcs c hc) hn
    have hall : ((narrowed cs).all fun b => b.toNat < n) = true := by
      simp only [narrowed, List.all_map, List.all_eq_true, Function.comp, decide_eq_true_eq]
      intro c hc
      rw [Unicode.toNat_ofNat (hlt c hc)]
      exact hcs c hc
    rw [decode, if_pos hall]
    exact congrArg some (bytewise_narrowed hlt)

theorem exists_narrowed_append (he : e.IsPlain) (hfront : AreAscii front)
    (h : e.encode (front ++ rest) = .ok bs) : ∃ bs', bs = narrowed front ++ bs' := by
  rcases he with rfl | ⟨n, hn, rfl⟩
  · rw [encode_utf8, List.flatMap_append, flatMap_ascii hfront] at h
    injection h with h
    exact ⟨_, h.symm⟩
  · obtain ⟨rfl, -⟩ := encode_lowest h
    exact ⟨narrowed rest, List.map_append ..⟩

end Encoding

section Fronts

variable {cs front rest : List Char}

theorem bytewise_append (hfront : AreAscii front) (bs : List UInt8) :
    bytewise (narrowed front ++ bs) = front ++ bytewise bs := by
  have h : bytewise (narrowed front) = front :=
    bytewise_narrowed fun c hc => Nat.lt_of_lt_of_le (hfront c hc) (by decide)
  rw [bytewise, List.map_append]
  exact congrArg (· ++ _) h

theorem toNat_char {n : Nat} (h : n.isValidChar) : (Char.ofNat n).toNat = n := by
  rw [Char.ofNat, dif_pos h]
  exact UInt32.toNat_ofNatLT ..

theorem le_of_longChar? {a : UInt8} {more : List UInt8} {c : Char} {count : Nat}
    (h : Unicode.longChar? a more = some (c, count)) : 128 ≤ c.toNat := by
  unfold Unicode.longChar? at h
  dsimp only at h
  generalize (if a < 0xc2 then _ else _ : Nat) = k at h
  generalize hlow : (if k = 1 then 0x80 else if k = 2 then 0x800 else 0x10000) = least at h
  generalize List.foldl _ _ _ = n at h
  split at h
  · rename_i hall
    injection h with h
    injection h with h
    simp only [Bool.and_eq_true, Bool.not_eq_true', Bool.and_eq_false_iff, decide_eq_true_eq,
      decide_eq_false_iff_not] at hall
    obtain ⟨⟨⟨-, hleast⟩, hlt⟩, hvalid⟩ := hall
    have hn : n.isValidChar := by
      unfold Nat.isValidChar
      omega
    rw [← h, toNat_char hn]
    refine Nat.le_trans ?_ hleast
    rw [← hlow]
    split
    · decide
    · split <;> decide
  · cases h

theorem decode8_head {b : UInt8} (h : ¬b < 0x80) (bs : List UInt8) :
    ∃ c rest, Unicode.decode8 (b :: bs) = c :: rest ∧ (c = '\x00' ∨ 128 ≤ c.toNat) := by
  rw [Unicode.decode8, if_neg h]
  cases hlong : Unicode.longChar? b bs with
  | none => exact ⟨'\x00', [], rfl, .inl rfl⟩
  | some r => exact ⟨r.1, _, rfl, .inr (le_of_longChar? hlong)⟩

theorem prefix_decode8_iff (hfront : AreAscii front) (hnull : '\x00' ∉ front) (bs : List UInt8) :
    front <+: Unicode.decode8 bs ↔ front <+: bytewise bs := by
  induction front generalizing bs with
  | nil => simp only [List.nil_prefix]
  | cons c front ih =>
    obtain ⟨hc, hfront⟩ := List.forall_mem_cons.1 hfront
    rw [List.mem_cons, not_or] at hnull
    cases bs with
    | nil => rw [Unicode.decode8, bytewise, List.map_nil]
    | cons b bs =>
      rw [bytewise, List.map_cons]
      by_cases hb : b < 0x80
      · rw [Unicode.decode8_cons_ascii hb, List.cons_prefix_cons, List.cons_prefix_cons,
          ih hfront hnull.2]
        rfl
      · obtain ⟨d, rest, hd, hlarge⟩ := decode8_head hb bs
        have hbyte : 128 ≤ (Char.ofNat b.toNat).toNat := by
          have hlt := b.toNat_lt
          have hle : 128 ≤ b.toNat := Nat.not_lt.1 (UInt8.lt_iff_toNat_lt.not.1 hb)
          rwa [toNat_char (by unfold Nat.isValidChar; omega)]
        rw [hd, List.cons_prefix_cons, List.cons_prefix_cons]
        refine iff_of_false (fun h => ?_) fun h => ?_
        · rcases hlarge with hzero | hlarge
          · exact hnull.1 (hzero ▸ h.1.symm)
          · rw [← h.1] at hlarge
            omega
        · rw [← h.1] at hbyte
          omega

end Fronts

section Names

/-- The encodings of the names that are used most, in letters of either case; all characters are
meant where none is named. -/
def usual? : Option String → Option Encoding
  | none => some .utf8
  | some name =>
    match DeclaredName.upper name with
    | "UTF-8" => some .utf8
    | "ASCII" | "US-ASCII" => some (.lowest 128)
    | "ISO-8859-1" => some (.lowest 256)
    | _ => none

variable {name : String} {e : Encoding}

theorem eq_of_usual? (h : usual? (some name) = some e) :
    (DeclaredName.upper name = "UTF-8" ∧ e = .utf8)
      ∨ (DeclaredName.upper name = "ASCII" ∧ e = .lowest 128)
      ∨ (DeclaredName.upper name = "US-ASCII" ∧ e = .lowest 128)
      ∨ (DeclaredName.upper name = "ISO-8859-1" ∧ e = .lowest 256) := by
  simp only [usual?] at h
  split at h
  · rename_i hname
    exact .inl ⟨hname, by injection h with h; exact h.symm⟩
  · rename_i hname
    exact .inr (.inl ⟨hname, by injection h with h; exact h.symm⟩)
  · rename_i hname
    exact .inr (.inr (.inl ⟨hname, by injection h with h; exact h.symm⟩))
  · rename_i hname
    exact .inr (.inr (.inr ⟨hname, by injection h with h; exact h.symm⟩))
  · cases h

theorem isPlain_of_usual? {name? : Option String} (h : usual? name? = some e) : e.IsPlain := by
  cases name? with
  | none =>
    cases h
    exact .inl rfl
  | some name =>
    rcases eq_of_usual? h with ⟨-, rfl⟩ | ⟨-, rfl⟩ | ⟨-, rfl⟩ | ⟨-, rfl⟩
    · exact .inl rfl
    · exact .inr ⟨128, by decide, rfl⟩
    · exact .inr ⟨128, by decide, rfl⟩
    · exact .inr ⟨256, by decide, rfl⟩

theorem toUpper_of_le {c : Char} (h : 128 ≤ c.toNat) : c.toUpper = c := by
  have hlower : ¬(c.val ≥ 'a'.val ∧ c.val ≤ 'z'.val) := by
    intro hlower
    have hval : c.val.toNat ≤ 'z'.val.toNat := UInt32.le_iff_toNat_le.1 hlower.2
    simp only [Char.toNat, Char.reduceVal, UInt32.reduceToNat] at h hval
    omega
  exact dif_neg hlower

theorem toUpper_facts (c : Char) : c.toUpper.toUpper = c.toUpper ∧ c.toUpper.toLower = c.toLower
    ∧ WrittenForm.isNameChar c.toUpper = WrittenForm.isNameChar c := by
  by_cases h : c.toNat < 128
  · have hall : ∀ n < 128, (Char.ofNat n).toUpper.toUpper = (Char.ofNat n).toUpper
        ∧ (Char.ofNat n).toUpper.toLower = (Char.ofNat n).toLower
        ∧ WrittenForm.isNameChar (Char.ofNat n).toUpper
          = WrittenForm.isNameChar (Char.ofNat n) := by decide +kernel
    have hc := hall c.toNat h
    rwa [Char.ofNat_toNat] at hc
  · rw [toUpper_of_le (Nat.not_lt.1 h)]
    exact ⟨toUpper_of_le (Nat.not_lt.1 h), rfl, rfl⟩

theorem encoding?_upper (name : String) :
    DeclaredName.encoding? (DeclaredName.upper name) = DeclaredName.encoding? name := by
  have hupper : DeclaredName.upper (DeclaredName.upper name) = DeclaredName.upper name := by
    simp only [DeclaredName.upper, String.toList_ofList, List.map_map, Function.comp_def,
      (toUpper_facts _).1]
  rw [DeclaredName.encoding?, DeclaredName.encoding?, hupper]

theorem named?_upper (name : String) :
    WrittenForm.named? (DeclaredName.upper name) = WrittenForm.named? name := by
  have hnormalized : ∀ cs gap, WrittenForm.normalized gap (cs.map Char.toUpper)
      = WrittenForm.normalized gap cs := by
    intro cs
    induction cs with
    | nil => intro gap; rfl
    | cons c cs ih =>
      intro gap
      simp only [List.map_cons, WrittenForm.normalized, (toUpper_facts _).2.1,
        (toUpper_facts _).2.2, ih]
  have hname : WrittenForm.normalizedName (DeclaredName.upper name)
      = WrittenForm.normalizedName name := by
    simp only [WrittenForm.normalizedName, DeclaredName.upper, String.toList_ofList,
      List.dropWhile_map, Function.comp_def, (toUpper_facts _).2.2, hnormalized]
  rw [WrittenForm.named?, WrittenForm.named?, hname]

theorem encoding?_of_usual? (h : usual? (some name) = some e) :
    DeclaredName.encoding? name = some e := by
  rw [← encoding?_upper]
  rcases eq_of_usual? h with ⟨hname, rfl⟩ | ⟨hname, rfl⟩ | ⟨hname, rfl⟩ | ⟨hname, rfl⟩ <;>
    rw [hname] <;> rfl

theorem named?_of_usual? {name? : Option String} (h : usual? name? = some e) :
    WrittenForm.named? (name?.getD "utf-8") = some (.plain e) := by
  cases name? with
  | none =>
    cases h
    rfl
  | some name =>
    rw [Option.getD_some, ← named?_upper]
    rcases eq_of_usual? h with ⟨hname, rfl⟩ | ⟨hname, rfl⟩ | ⟨hname, rfl⟩ | ⟨hname, rfl⟩ <;>
      rw [hname] <;> rfl

end Names

end TemplateLexer.Text
