import TemplateLexer.Proofs.AlikeDocuments

set_option autoImplicit false

namespace TemplateLexer.Markup

def Input.behind (s : Input) (front rest : List Char) (change : Remarks → Remarks) : Input :=
  { s with
    here := { s.here with rest, line := s.here.line + front.count '\n' }
    remarks := change s.remarks }

theorem Input.behind_behind (s : Input) (front front' rest rest' : List Char)
    (change change' : Remarks → Remarks) :
    (s.behind front rest change).behind front' rest' change'
      = s.behind (front ++ front') rest' (change' ∘ change) := by
  simp only [Input.behind, List.count_append, Nat.add_assoc, Function.comp]

def IsQuote (q : Char) : Prop := q = '"' ∨ q = '\''

/-- How a setting of a declaration is written: the blanks in front of it and around its equals sign,
and its quotes. -/
structure Setting where
  gap : List Char
  front : List Char
  back : List Char
  quote : Char
  gap_ne : gap ≠ []
  gap_blank : ∀ c ∈ gap, isBlank c = true
  front_blank : ∀ c ∈ front, isBlank c = true
  back_blank : ∀ c ∈ back, isBlank c = true
  isQuote : IsQuote quote

namespace Setting

/-- What is written behind the word of the setting. -/
def valued (t : Setting) (value : List Char) : List Char :=
  (t.front ++ '=' :: t.back) ++ t.quote :: (value ++ [t.quote])

def written (t : Setting) (word : String) (value : List Char) : List Char :=
  t.gap ++ (word.toList ++ t.valued value)

end Setting

/-- The name of an encoding: a letter, and what may stand in such names. -/
def IsEncodingName (name : String) : Prop :=
  (∃ c cs, name.toList = c :: cs ∧ c.isAlpha = true)
    ∧ ∀ c ∈ name.toList, Source.isEncodingChar c = true

/-- A declaration of a document as it is written. The version begins with one and a point. -/
structure WrittenHeading where
  version : Setting
  digits : List Char
  encoding : Option (Setting × { name // IsEncodingName name })
  standalone : Option (Setting × Bool)
  trail : List Char
  digits_digit : ∀ c ∈ digits, c.isDigit = true
  trail_blank : ∀ c ∈ trail, isBlank c = true

namespace WrittenHeading

/-- The answer to whether a document stands alone. -/
def answer (alone : Bool) : List Char := if alone then "yes".toList else "no".toList

def name? (t : WrittenHeading) : Option String := t.encoding.map (·.2.1)

/-- What a declaration says. -/
def heading (t : WrittenHeading) : Reading.Heading :=
  ⟨String.ofList ('1' :: '.' :: t.digits), t.name?, (t.standalone.map (·.2)).getD false⟩

/-- The blanks in front of the end, which begins with the last setting if that is given. -/
def gap (t : WrittenHeading) : List Char := (t.standalone.map (·.1.gap)).getD t.trail

def ending (t : WrittenHeading) : List Char :=
  match t.standalone with
  | some (setting, alone) =>
    "standalone".toList ++ (setting.valued (answer alone) ++ (t.trail ++ ['?']))
  | none => ['?']

def encoded (t : WrittenHeading) : List Char :=
  (t.encoding.map fun (setting, name) => setting.written "encoding" name.1.toList).getD []

/-- What is written between the name of the markup language and the bracket at the end. -/
def inside (t : WrittenHeading) : List Char :=
  t.version.written "version" ('1' :: '.' :: t.digits)
    ++ (t.encoded ++ (t.gap ++ t.ending))

def written (t : WrittenHeading) : List Char := "<?xml".toList ++ (t.inside ++ ['>'])

def change (t : WrittenHeading) : Remarks → Remarks :=
  if t.digits = ['0'] then id else fun r => r.add .warning 0

end WrittenHeading

namespace Reading

variable {α β : Type}

/-- Whether a step passes a front part of the text and returns a value, wherever the text goes on
in some way. -/
def Reads (x : Reading α) (front : List Char) (a : α) (change : Remarks → Remarks)
    (next : List Char → Prop) : Prop :=
  ∀ s rest, s.here.rest = front ++ rest → next rest → x s = .ok (a, s.behind front rest change)

def Stops (p : Char → Bool) (cs : List Char) : Prop := ∀ c, cs.head? = some c → p c = false

section Steps

theorem reads_bind {x : Reading α} {f : α → Reading β} {front front' : List Char} {a : α} {b : β}
    {change change' : Remarks → Remarks} {next next' : List Char → Prop}
    (hx : Reads x front a change next) (hf : Reads (f a) front' b change' next')
    (hnext : ∀ rest, next' rest → next (front' ++ rest)) :
    Reads (x >>= f) (front ++ front') b (change' ∘ change) next' := by
  intro s rest hs hrest
  have h := hx s (front' ++ rest) (hs.trans (List.append_assoc ..)) (hnext rest hrest)
  rw [bind_of_ok h, hf _ rest rfl hrest, Input.behind_behind]

theorem reads_then {x : Reading α} {f : α → Reading β} {front front' : List Char} {a : α} {b : β}
    {change : Remarks → Remarks} {next next' : List Char → Prop} (hx : Reads x front a id next)
    (hf : Reads (f a) front' b change next') (hnext : ∀ rest, next' rest → next (front' ++ rest)) :
    Reads (x >>= f) (front ++ front') b change next' :=
  reads_bind hx hf hnext

theorem reads_pure (a : α) {next : List Char → Prop} : Reads (pure a) [] a id next := by
  intro s rest hs _
  rw [Input.behind, List.count_nil, Nat.add_zero, ← List.nil_append rest, ← hs]
  rfl

theorem reads_first {x : Reading α} {f : α → Reading β} {front front' : List Char} {a : α} {b : β}
    {change : Remarks → Remarks} {next next' : List Char → Prop} (hx : Reads x front a change next)
    (hf : Reads (f a) front' b id next') (hnext : ∀ rest, next' rest → next (front' ++ rest)) :
    Reads (x >>= f) (front ++ front') b change next' := by
  have h := reads_bind hx hf hnext
  rwa [Function.id_comp] at h

theorem reads_last {x : Reading α} {f : α → Reading β} {front : List Char} {a : α} {b : β}
    {change : Remarks → Remarks} {next : List Char → Prop} (hx : Reads x front a id next)
    (hf : Reads (f a) [] b change next) : Reads (x >>= f) front b change next := by
  have h := reads_then hx hf fun _ hrest => hrest
  rwa [List.append_nil] at h

theorem reads_returns {x : Reading α} {f : α → Reading β} {front : List Char} {a : α} {b : β}
    {change : Remarks → Remarks} {next : List Char → Prop} (hx : Reads x front a change next)
    (hf : f a = pure b) : Reads (x >>= f) front b change next := by
  have hlast : Reads (f a) [] b id next := hf ▸ reads_pure b
  have h := reads_bind hx hlast fun _ hrest => hrest
  rwa [List.append_nil] at h

theorem reads_rest (next : List Char → Prop) {f : List Char → Reading α} {front : List Char}
    {a : α} {change : Remarks → Remarks}
    (h : ∀ rest, next rest → ∀ s : Input, s.here.rest = front ++ rest →
      f (front ++ rest) s = .ok (a, s.behind front rest change)) :
    Reads (rest >>= f) front a change next := by
  intro s cs hs hcs
  have hrest : rest s = .ok (s.here.rest, s) := rfl
  rw [bind_of_ok hrest, hs]
  exact h cs hcs s hs

theorem reads_passes (mark : String) : Reads (passes mark) mark.toList true id fun _ => True := by
  refine reads_rest _ fun rest _ s _ => ?_
  rw [if_pos (List.isPrefixOf_iff_prefix.2 ⟨rest, rfl⟩), ← String.length_toList,
    List.drop_left]
  rfl

theorem reads_passes_none (mark : String) :
    Reads (passes mark) [] false id fun cs => mark.toList.isPrefixOf cs = false := by
  refine reads_rest _ fun rest hrest s hs => ?_
  rw [List.nil_append, hrest]
  exact (reads_pure false : Reads _ [] false id fun _ => True) s rest hs trivial

theorem reads_need (mark : String) : Reads (need mark) mark.toList () id fun _ => True :=
  reads_returns (reads_passes mark) rfl

theorem takeWhile_append {p : Char → Bool} {front : List Char} (rest : List Char)
    (h : ∀ c ∈ front, p c = true) (hrest : Stops p rest) :
    (front ++ rest).takeWhile p = front ∧ (front ++ rest).dropWhile p = rest := by
  rw [List.takeWhile_append_of_pos h, List.dropWhile_append_of_pos h]
  cases rest with
  | nil => simp
  | cons c rest => simp [hrest c rfl]

theorem reads_takeWhile {p : Char → Bool} {front : List Char} (h : ∀ c ∈ front, p c = true) :
    Reads (takeWhile p) front front id (Stops p) := by
  refine reads_rest _ fun rest hrest s _ => ?_
  obtain ⟨htake, hdrop⟩ := takeWhile_append _ h hrest
  rw [htake, hdrop]
  rfl

theorem reads_blanks {front : List Char} (h : ∀ c ∈ front, isBlank c = true) :
    Reads blanks front (!front.isEmpty) id (Stops isBlank) :=
  reads_returns (reads_takeWhile h) rfl

theorem reads_discard {x : Reading α} {front : List Char} {a : α} {change : Remarks → Remarks}
    {next : List Char → Prop} (h : Reads x front a change next) :
    Reads (discard x) front () change next := by
  have hdiscard : discard x = x >>= fun _ => pure PUnit.unit := rfl
  rw [hdiscard]
  exact reads_returns h rfl

theorem reads_skip {x : Reading α} {f : α → Reading β} {front : List Char} {a : α} {b : β}
    {change : Remarks → Remarks} {next next' : List Char → Prop} (hx : Reads x [] a id next)
    (hf : Reads (f a) front b change next') (hnext : ∀ rest, next' rest → next (front ++ rest)) :
    Reads (x >>= f) front b change next' :=
  reads_then hx hf hnext

theorem stops_cons {p : Char → Bool} {c : Char} {cs : List Char} (h : p c = false) :
    Stops p (c :: cs) := by
  intro d hd
  cases hd
  exact h

theorem reads_needQuote {q : Char} (h : IsQuote q) : Reads needQuote [q] q id fun _ => True := by
  have hquote : Reads quote? [q] (some q) id fun _ => True := by
    refine reads_rest _ fun rest _ s _ => ?_
    rcases h with rfl | rfl
    · rfl
    · rfl
  exact reads_returns hquote rfl

theorem reads_equals {front back : List Char} (hfront : ∀ c ∈ front, isBlank c = true)
    (hback : ∀ c ∈ back, isBlank c = true) :
    Reads equals (front ++ '=' :: back) () id (Stops isBlank) := by
  have hsign : Reads (need "=") ['='] () id fun _ => True := reads_need "="
  refine reads_then (reads_discard (reads_blanks hfront)) (reads_then hsign
    (reads_discard (reads_blanks hback)) fun _ _ => trivial) fun rest _ => ?_
  exact stops_cons (by decide)

theorem reads_quotedValue {p : Char → Bool} {q : Char} {value : List Char} (hq : IsQuote q)
    (hvalue : ∀ c ∈ value, p c = true) (hp : p q = false) :
    Reads (quotedValue p) (q :: (value ++ [q])) value id fun _ => True := by
  have hclose : Reads (need (String.ofList [q])) [q] () id fun _ => True := by
    have h := reads_need (String.ofList [q])
    rwa [String.toList_ofList] at h
  have hend : Reads (do need (String.ofList [q]); return value) [q] value id fun _ => True :=
    reads_returns hclose rfl
  exact reads_then (reads_needQuote hq)
    (reads_then (reads_takeWhile hvalue) hend fun _ _ => stops_cons hp) fun _ _ => trivial

end Steps

section Settings

theorem reads_valued (t : Setting) {p : Char → Bool} {value : List Char}
    (hvalue : ∀ c ∈ value, p c = true) (hp : ∀ q, IsQuote q → p q = false) :
    Reads (do equals; quotedValue p) (t.valued value) value id fun _ => True :=
  reads_then (reads_equals t.front_blank t.back_blank)
    (reads_quotedValue t.isQuote hvalue (hp _ t.isQuote)) fun _ _ => stops_cons <| by
      rcases t.isQuote with h | h <;> rw [h] <;> decide

theorem reads_warning :
    Reads (remark .warning) [] () (fun r => r.add .warning 0) fun _ => True := by
  intro s rest hs _
  rw [Input.behind, List.count_nil, Nat.add_zero, ← List.nil_append rest, ← hs]
  rfl

theorem reads_version (t : WrittenHeading) :
    Reads version (t.version.valued ('1' :: '.' :: t.digits))
      (String.ofList ('1' :: '.' :: t.digits)) t.change fun _ => True := by
  have hvalue : ∀ c ∈ '1' :: '.' :: t.digits, (c.isDigit || c == '.') = true := by
    intro c hc
    rcases List.mem_cons.1 hc with rfl | hc
    · rfl
    · rcases List.mem_cons.1 hc with rfl | hc
      · rfl
      · rw [t.digits_digit c hc, Bool.true_or]
  have hpoint : t.digits.contains '.' = false := by
    rw [← Bool.not_eq_true, List.contains_iff_mem]
    exact fun h => absurd (t.digits_digit _ h) (by decide)
  have hquote : ∀ q, IsQuote q → (q.isDigit || q == '.') = false := by
    rintro q (rfl | rfl) <;> decide
  have hvalued := reads_valued t.version hvalue hquote
  unfold version
  rw [← bind_assoc]
  refine reads_last hvalued ?_
  simp only [hpoint]
  rw [if_neg (by decide), WrittenHeading.change]
  by_cases hfirst : t.digits = ['0']
  · rw [if_pos hfirst, hfirst]
    exact reads_pure _
  · have hne : ('1' :: '.' :: t.digits != ['1', '.', '0']) = true := by
      rw [bne_iff_ne]
      exact fun h => hfirst (by injection h with _ h; injection h)
    rw [if_neg hfirst, if_pos hne]
    exact reads_returns reads_warning rfl

theorem reads_standalone (t : Setting) (alone : Bool) :
    Reads standalone (t.valued (WrittenHeading.answer alone)) alone id fun _ => True := by
  have hquote : ∀ q, IsQuote q → q.isAlpha = false := by
    rintro q (rfl | rfl) <;> decide
  have hanswer : ∀ c ∈ WrittenHeading.answer alone, c.isAlpha = true :=
    List.all_eq_true.1 (by cases alone <;> decide)
  unfold standalone
  rw [← bind_assoc]
  cases alone with
  | true => exact reads_returns (reads_valued t hanswer hquote) rfl
  | false => exact reads_returns (reads_valued t hanswer hquote) rfl

theorem reads_encodingName (t : Setting) {judge : String → Verdict} {name : String}
    (hname : IsEncodingName name) (hjudge : judge name = .accepted) :
    Reads (encodingName judge) (t.valued name.toList) name id fun _ => True := by
  obtain ⟨⟨c, cs, hcs, hc⟩, hall⟩ := hname
  have hclose : Reads (need (String.ofList [t.quote])) [t.quote] () id fun _ => True := by
    have h := reads_need (String.ofList [t.quote])
    rwa [String.toList_ofList] at h
  have hstops : ∀ rest, Stops Source.isEncodingChar ([t.quote] ++ rest) := by
    refine fun rest => stops_cons ?_
    rcases t.isQuote with h | h <;> rw [h] <;> decide
  unfold encodingName
  refine reads_then (reads_equals t.front_blank t.back_blank) ?_ fun rest _ => stops_cons ?_
  · refine reads_then (reads_needQuote t.isQuote) ?_ fun _ _ => trivial
    refine reads_then (reads_takeWhile hall) ?_ fun rest _ => hstops rest
    simp only [hcs, hc]
    rw [if_neg (by decide), ← hcs, String.ofList_toList, hjudge]
    exact reads_returns hclose rfl
  · rcases t.isQuote with h | h <;> rw [h] <;> decide

def headingEnd (v : String) (name : Option String) (gap : Bool) : Reading Heading := do
  if gap && (← passes "standalone") then
    let alone ← standalone
    discard blanks
    need "?>"
    return ⟨v, name, alone⟩
  else
    need "?>"
    return ⟨v, name, false⟩

def headingSteps (judge : String → Verdict) : Reading Heading := do
  need "<?xml"
  discard blanks
  need "version"
  let v ← version
  let gap ← blanks
  if gap && (← passes "encoding") then
    let name ← encodingName judge
    headingEnd v (some name) (← blanks)
  else headingEnd v none gap

theorem heading_eq (judge : String → Verdict) :
    heading judge = rest >>= fun cs =>
      if !startsHeading cs then pure .plain else headingSteps judge := rfl

theorem reads_headingEnd (t : WrittenHeading) (v : String) (name : Option String) :
    Reads (headingEnd v name (!t.gap.isEmpty)) (t.ending ++ ['>'])
      ⟨v, name, (t.standalone.map (·.2)).getD false⟩ id fun _ => True := by
  have hclose : ∀ alone, Reads (do need "?>"; return (⟨v, name, alone⟩ : Heading)) ['?', '>']
      ⟨v, name, alone⟩ id fun _ => True := fun alone => reads_returns (reads_need "?>") rfl
  unfold headingEnd WrittenHeading.gap WrittenHeading.ending
  cases h : t.standalone with
  | none =>
    refine reads_skip (reads_passes_none "standalone") ?_ fun _ _ => rfl
    rw [if_neg (by rw [Bool.and_false]; decide)]
    exact hclose false
  | some setting =>
    obtain ⟨setting, alone⟩ := setting
    have hgap : (!setting.gap.isEmpty) = true := by
      rw [Bool.not_eq_true', List.isEmpty_eq_false_iff]
      exact setting.gap_ne
    simp only [Option.map_some, Option.getD_some, List.append_assoc]
    refine reads_then (reads_passes "standalone") ?_ fun _ _ => trivial
    rw [if_pos (by rw [Bool.and_true]; exact hgap)]
    refine reads_then (reads_standalone setting alone) ?_ fun _ _ => trivial
    exact reads_then (reads_discard (reads_blanks t.trail_blank)) (hclose alone) fun _ _ =>
      stops_cons (by decide)

theorem exists_ending (t : WrittenHeading) :
    ∃ c cs, t.ending = c :: cs ∧ isBlank c = false ∧ c ≠ 'e' := by
  unfold WrittenHeading.ending
  split
  · exact ⟨'s', _, rfl, by decide, by decide⟩
  · exact ⟨'?', _, rfl, by decide, by decide⟩

theorem reads_encoded (t : WrittenHeading) {judge : String → Verdict}
    (hjudge : ∀ n, t.name? = some n → judge n = .accepted) (v : String) :
    Reads (do
      let gap ← blanks
      if gap && (← passes "encoding") then
        let name ← encodingName judge
        headingEnd v (some name) (← blanks)
      else headingEnd v none gap) (t.encoded ++ (t.gap ++ (t.ending ++ ['>'])))
      ⟨v, t.name?, (t.standalone.map (·.2)).getD false⟩ id fun _ => True := by
  have hgap : ∀ c ∈ t.gap, isBlank c = true := by
    unfold WrittenHeading.gap
    cases t.standalone with
    | none => exact t.trail_blank
    | some setting => exact setting.1.gap_blank
  obtain ⟨c, cs, hcs, hblank, he⟩ := exists_ending t
  have hstops : ∀ rest, Stops isBlank (t.ending ++ ['>'] ++ rest) := by
    intro rest
    rw [hcs]
    exact stops_cons hblank
  have hend := fun name => reads_then (f := fun gap => headingEnd v name gap) (reads_blanks hgap)
    (reads_headingEnd t v name) fun rest _ => hstops rest
  unfold WrittenHeading.encoded
  -- Without an encoding, the blanks that were read are those in front of what ends the heading.
  cases h : t.encoding with
  | none =>
    rw [Option.map_none, Option.getD_none, List.nil_append]
    refine reads_then (reads_blanks hgap) ?_ fun rest _ => hstops rest
    refine reads_skip (reads_passes_none "encoding") ?_ fun rest _ => ?_
    · rw [if_neg (by rw [Bool.and_false]; decide), WrittenHeading.name?, h]
      exact reads_headingEnd t v none
    · rw [hcs]
      exact Bool.and_eq_false_imp.2 fun h => absurd (beq_iff_eq.1 h).symm he
  | some encoding =>
    obtain ⟨setting, name, hname⟩ := encoding
    have hsome : t.name? = some name := by rw [WrittenHeading.name?, h]; rfl
    have hne : (!setting.gap.isEmpty) = true := by
      rw [Bool.not_eq_true', List.isEmpty_eq_false_iff]
      exact setting.gap_ne
    simp only [Option.map_some, Option.getD_some, Setting.written, List.append_assoc]
    refine reads_then (reads_blanks setting.gap_blank) ?_ fun rest _ => stops_cons (by decide)
    refine reads_then (reads_passes "encoding") ?_ fun _ _ => trivial
    rw [if_pos (by rw [Bool.and_true]; exact hne), hsome]
    exact reads_then (reads_encodingName setting hname (hjudge name hsome)) (hend (some name))
      fun _ _ => trivial

theorem reads_headingSteps (t : WrittenHeading) {judge : String → Verdict}
    (hjudge : ∀ n, t.name? = some n → judge n = .accepted) :
    Reads (headingSteps judge) t.written t.heading t.change fun _ => True := by
  have hwritten : t.written = "<?xml".toList ++ (t.version.gap ++ ("version".toList
      ++ (t.version.valued ('1' :: '.' :: t.digits)
      ++ (t.encoded ++ (t.gap ++ (t.ending ++ ['>'])))))) := by
    simp only [WrittenHeading.written, WrittenHeading.inside, Setting.written, List.append_assoc]
  rw [hwritten]
  unfold headingSteps
  refine reads_then (reads_need "<?xml") ?_ fun _ _ => trivial
  refine reads_then (reads_discard (reads_blanks t.version.gap_blank)) ?_ fun _ _ =>
    stops_cons (by decide)
  refine reads_then (reads_need "version") ?_ fun _ _ => trivial
  exact reads_first (reads_version t) (reads_encoded t hjudge _) fun _ _ => trivial

theorem startsHeading_written (t : WrittenHeading) (rest : List Char) :
    startsHeading (t.written ++ rest) = true := by
  have hblank := t.version.gap_blank
  have hne := t.version.gap_ne
  cases hgap : t.version.gap with
  | nil => exact absurd hgap hne
  | cons c gap =>
    rw [WrittenHeading.written, WrittenHeading.inside, Setting.written, hgap]
    exact hblank c (hgap ▸ List.mem_cons_self)

theorem heading_written (t : WrittenHeading) {judge : String → Verdict}
    (hjudge : ∀ n, t.name? = some n → judge n = .accepted) (rest : List Char) :
    heading judge (.start (t.written ++ rest))
      = .ok (t.heading, (Input.start (t.written ++ rest)).behind t.written rest t.change) := by
  have hrest : Reading.rest (.start (t.written ++ rest))
      = .ok (t.written ++ rest, .start (t.written ++ rest)) := rfl
  rw [heading_eq, bind_of_ok hrest, startsHeading_written]
  exact reads_headingSteps t hjudge _ rest rfl trivial

theorem heading_of_not_startsHeading {cs : List Char} (h : startsHeading cs = false)
    (judge : String → Verdict) : heading judge (.start cs) = .ok (.plain, .start cs) := by
  have hrest : Reading.rest (.start cs) = .ok (cs, .start cs) := rfl
  rw [heading_eq, bind_of_ok hrest, h]
  rfl

theorem resembles_behind (t : WrittenHeading) (rest : List Char) :
    ((Input.start (t.written ++ rest)).behind t.written rest t.change).Resembles (.start rest) := by
  have hremarks : (t.change Remarks.none).Covers .none := by
    unfold WrittenHeading.change
    split
    · exact .refl _
    · exact ⟨rfl, Nat.zero_le _, nofun, rfl⟩
  exact ⟨⟨rfl, rfl⟩, .nil, rfl, nofun, rfl, rfl, rfl, rfl, rfl, hremarks⟩

end Settings

section Bodies

/-- Whether a step gives nothing where the text goes on in some way. -/
def Fails (x : Reading α) (next : List Char → Prop) : Prop :=
  ∀ s, next s.here.rest → ∀ r, x s ≠ .ok r

theorem fails_bind {x : Reading α} {f : α → Reading β} {next : List Char → Prop}
    (h : Fails x next) : Fails (x >>= f) next := by
  intro s hs ⟨b, t⟩ hr
  obtain ⟨a, mid, ha, -⟩ := stateT_bind_ok hr
  exact h s hs _ ha

theorem fails_after {x : Reading α} {f : α → Reading β} {front : List Char} {a : α}
    {change : Remarks → Remarks} {next next' here : List Char → Prop}
    (hx : Reads x front a change next) (hf : Fails (f a) next')
    (h : ∀ cs, here cs → ∃ rest, cs = front ++ rest ∧ next rest ∧ next' rest) :
    Fails (x >>= f) here := by
  intro s hs r hr
  obtain ⟨rest, hcs, hrest, hrest'⟩ := h _ hs
  rw [bind_of_ok (hx s rest hcs hrest)] at hr
  exact hf _ hrest' r hr

theorem fails_refuse (next : List Char → Prop) : Fails (refuse : Reading α) next := by
  intro s _ r hr
  cases hr

theorem reads_sees (mark : String) (seen : Bool) :
    Reads (sees mark) [] seen id fun cs => mark.toList.isPrefixOf cs = seen := by
  refine reads_rest _ fun rest hrest s hs => ?_
  rw [List.nil_append, hrest]
  exact (reads_pure seen : Reads _ [] seen id fun _ => True) s rest hs trivial

theorem reads_name (c : Char) (cs : List Char) (hc : startsName c = true)
    (hcs : ∀ d ∈ cs, inName d = true) :
    Reads name (c :: cs) (String.ofList (c :: cs)) id (Stops inName) := by
  have hfront : Reads (takeFront name?) (c :: cs) (some (String.ofList (c :: cs))) id
      (Stops inName) := by
    refine reads_rest _ fun rest hrest s hs => ?_
    obtain ⟨htake, hdrop⟩ := takeWhile_append _ hcs hrest
    rw [List.cons_append, name?, if_pos hc, htake, hdrop]
    rfl
  exact reads_returns hfront rfl

def Redeclares (cs : List Char) : Prop := ∃ rest, cs = "<?xml".toList ++ rest ∧ Stops inName rest

theorem fails_remarkNode? : Fails remarkNode? Redeclares := by
  have hname : Reads name "xml".toList "xml" id (Stops inName) :=
    reads_name 'x' ['m', 'l'] (by decide) (List.all_eq_true.1 (by decide))
  have htarget : Fails target fun cs => ∃ rest, cs = "xml".toList ++ rest ∧ Stops inName rest :=
    fails_after hname (fails_bind (fails_refuse fun _ => True))
      fun cs ⟨rest, hcs, hrest⟩ => ⟨rest, hcs, hrest, trivial⟩
  have hinstruction : Fails instruction Redeclares :=
    fails_after (reads_need "<?") (fails_bind htarget) fun cs ⟨rest, hcs, hrest⟩ =>
      ⟨_, hcs, trivial, rest, rfl, hrest⟩
  refine fails_after (reads_sees "<!--" false) (?_ : Fails _ Redeclares) fun cs h =>
    ⟨cs, rfl, ?_, h⟩
  · refine fails_after (reads_sees "<?" true) (fails_bind hinstruction) fun cs h => ⟨cs, rfl, ?_, h⟩
    obtain ⟨rest, rfl, -⟩ := h
    rfl
  · obtain ⟨rest, rfl, -⟩ := h
    rfl

def IsForeign (cs : List Char) : Prop :=
  ∃ c rest, cs = c :: rest ∧ isBlank c = false ∧ c ≠ '<'

theorem IsForeign.isPrefixOf {cs : List Char} (h : IsForeign cs) (mark : List Char) :
    ('<' :: mark).isPrefixOf cs = false := by
  obtain ⟨c, rest, rfl, -, hc⟩ := h
  exact Bool.and_eq_false_imp.2 fun h => absurd (beq_iff_eq.1 h).symm hc

theorem IsForeign.stops {cs : List Char} (h : IsForeign cs) : Stops isBlank cs := by
  obtain ⟨c, rest, rfl, hc, -⟩ := h
  exact stops_cons hc

theorem reads_mono {x : Reading α} {front : List Char} {a : α} {change : Remarks → Remarks}
    {next next' : List Char → Prop} (h : Reads x front a change next)
    (hnext : ∀ rest, next' rest → next rest) : Reads x front a change next' :=
  fun s rest hs hrest => h s rest hs (hnext rest hrest)

theorem reads_discardBlanks : Reads (discard blanks) [] () id (Stops isBlank) :=
  reads_discard (reads_blanks (by simp))

theorem reads_prolog_foreign (size : Nat) :
    Reads (prolog (size + 1)) [] ([], none, []) id IsForeign := by
  have hsees : ∀ mark : String, mark.toList.head? = some '<' →
      Reads (sees mark) [] false id IsForeign := by
    intro mark hmark
    refine reads_mono (reads_sees mark false) fun rest hrest => ?_
    obtain ⟨cs, hcs⟩ : ∃ cs, mark.toList = '<' :: cs := List.head?_eq_some_iff.1 hmark
    rw [hcs]
    exact hrest.isPrefixOf cs
  have hnode : Reads remarkNode? [] none id IsForeign :=
    reads_then (hsees "<!--" rfl) (reads_returns (hsees "<?" rfl) rfl) fun _ h => h
  have hmisc : Reads (misc (size + 1) []) [] [] id IsForeign :=
    reads_then (reads_mono reads_discardBlanks fun _ h => h.stops) (reads_returns hnode rfl)
      fun _ h => h
  exact reads_then hmisc (reads_returns (hsees "<!DOCTYPE" rfl) rfl) fun _ h => h

theorem fails_need_foreign : Fails (need "<") IsForeign := by
  refine fails_after (reads_mono (reads_passes_none "<") fun _ h => h.isPrefixOf [])
    (fails_refuse fun _ => True) fun cs h => ⟨cs, rfl, h, trivial⟩

theorem fails_body (h : Heading) (encoding : String) :
    Fails (body h encoding) fun cs => Redeclares cs ∨ IsForeign cs := by
  have hredeclares : ∀ size, Fails (prolog (size + 1)) Redeclares := fun size =>
    fails_bind (fails_after reads_discardBlanks (fails_bind fails_remarkNode?) fun cs h =>
      ⟨cs, rfl, by obtain ⟨rest, rfl, -⟩ := h; exact stops_cons (by decide), h⟩)
  have hforeign : ∀ size p, Fails (ending h encoding size p) IsForeign := fun size p =>
    fails_bind (fails_bind (fails_bind fails_need_foreign))
  rintro s (hs | hs) r hr
  · exact fails_bind (hredeclares _) { s with standalone := h.standalone } hs r hr
  · have hprolog := fails_after (reads_prolog_foreign s.here.rest.length)
      (hforeign (s.here.rest.length + 1) _) fun cs h => ⟨cs, rfl, h, h⟩
    exact hprolog { s with standalone := h.standalone } hs r hr

theorem body_encoding (h : Heading) (encoding encoding' : String) :
    body h encoding = (fun d : Document => { d with encoding }) <$> body h encoding' := by
  unfold body ending
  simp only [map_bind]
  refine congrArg (_ >>= ·) (funext fun _ => ?_)
  refine congrArg (rest >>= ·) (funext fun cs => ?_)
  refine congrArg (prolog _ >>= ·) (funext fun p => ?_)
  refine congrArg (rootElement >>= ·) (funext fun root => ?_)
  refine congrArg (misc _ [] >>= ·) (funext fun after => ?_)
  refine congrArg (rest >>= ·) (funext fun cs => congrArg (get >>= ·) (funext fun s => ?_))
  split
  · simp only [map_bind, map_pure]
  · simp only [map_pure]

end Bodies

end Reading

theorem Document.read_congr {judge judge' : String → Reading.Verdict}
    {encoding encoding' : Reading.Heading → String} {cs : List Char} {h : Reading.Heading}
    {s : Input} (hs : Reading.heading judge (.start cs) = .ok (h, s))
    (hs' : Reading.heading judge' (.start cs) = .ok (h, s)) (hname : encoding h = encoding' h) :
    Document.read judge encoding cs = Document.read judge' encoding' cs := by
  rw [Document.read, Reading.document_eq, Reading.bind_of_ok hs, Document.read,
    Reading.document_eq, Reading.bind_of_ok hs', hname]

theorem Document.read_encoding {judge judge' : String → Reading.Verdict}
    {encoding : Reading.Heading → String} (encoding' : Reading.Heading → String) {cs : List Char}
    {h : Reading.Heading} {s : Input} (hs : Reading.heading judge (.start cs) = .ok (h, s))
    (hs' : Reading.heading judge' (.start cs) = .ok (h, s)) :
    Document.read judge encoding cs
      = (Document.read judge' encoding' cs).map fun d => { d with encoding := encoding h } := by
  rw [Document.read, Reading.document_eq, Reading.bind_of_ok hs, Document.read,
    Reading.document_eq, Reading.bind_of_ok hs', Reading.body_encoding h _ (encoding' h)]
  have hmap : ((fun d : Document => { d with encoding := encoding h })
      <$> Reading.body h (encoding' h)) s = Reading.body h (encoding' h) s >>= fun r =>
        .ok ({ r.1 with encoding := encoding h }, r.2) := rfl
  rw [hmap]
  cases hd : Reading.body h (encoding' h) s with
  | error line => rfl
  | ok r =>
    obtain ⟨d, s'⟩ := r
    simp only [bind, Except.bind]
    split <;> rfl

theorem Document.begins_of_read {judge : String → Reading.Verdict}
    {encoding : Reading.Heading → String} {t : WrittenHeading} {rest : List Char} {d : Document}
    (hjudge : ∀ n, t.name? = some n → judge n = .accepted)
    (hread : Document.read judge encoding (t.written ++ rest) = .ok d) :
    ¬(Reading.Redeclares rest ∨ Reading.IsForeign rest) := by
  intro h
  rw [Document.read, Reading.document_eq,
    Reading.bind_of_ok (Reading.heading_written t hjudge rest)] at hread
  split at hread
  · cases hread
  · rename_i hrun
    exact Reading.fails_body _ _ _ h _ hrun

theorem Reading.startsHeading_of_not_redeclares {cs : List Char} (h : ¬Reading.Redeclares cs) :
    Reading.startsHeading cs = false := by
  rw [← Bool.not_eq_true]
  intro hstarts
  unfold Reading.startsHeading at hstarts
  split at hstarts
  · rename_i c rest
    refine h ⟨c :: rest, rfl, Reading.stops_cons ?_⟩
    simp only [isBlank, Bool.or_eq_true, beq_iff_eq] at hstarts
    rcases hstarts with ((rfl | rfl) | rfl) | rfl <;> decide
  · cases hstarts

/-- A document is read behind its declaration as the same text without it, unless entities are
declared and the text without it is not read. -/
theorem Document.read_written {judge : String → Reading.Verdict}
    {encoding : Reading.Heading → String} {t : WrittenHeading} {rest : List Char} {d : Document}
    (hjudge : ∀ n, t.name? = some n → judge n = .accepted)
    (hread : Document.read judge encoding (t.written ++ rest) = .ok d)
    (encoding' : Reading.Heading → String) :
    (∃ d', Document.read judge encoding' rest = .ok d' ∧ d.Resembles d')
      ∨ ((∃ e, DoctypeItem.entity e ∈ d.items)
        ∧ ∀ d', Document.read judge encoding' rest ≠ .ok d') := by
  have hbegins := begins_of_read hjudge hread
  have hplain := Reading.heading_of_not_startsHeading
    (Reading.startsHeading_of_not_redeclares fun h => hbegins (.inl h)) judge
  exact read_resembles (Reading.heading_written t hjudge rest) hplain
    (Reading.resembles_behind t rest) rfl hread

end TemplateLexer.Markup
