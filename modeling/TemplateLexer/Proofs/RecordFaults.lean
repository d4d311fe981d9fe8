import TemplateLexer.Proofs.Caching
import TemplateLexer.Proofs.KeyedJson

set_option autoImplicit false

namespace TemplateLexer

section Lists

variable {α β ε : Type} {P Q : α → Prop} {f : α → Except ε β} {xs before after : List α} {x : α}
  {e : ε}

theorem forall_or_exists_first (h : ∀ x ∈ xs, P x ∨ Q x) :
    (∀ x ∈ xs, P x) ∨
      ∃ before x after, xs = before ++ x :: after ∧ (∀ y ∈ before, P y) ∧ Q x := by
  induction xs with
  | nil => exact .inl fun x hx => nomatch hx
  | cons x xs ih =>
    obtain ⟨hx, hxs⟩ := List.forall_mem_cons.1 h
    rcases hx with hP | hQ
    · rcases ih hxs with hall | ⟨before, y, after, rfl, hbefore, hy⟩
      · exact .inl (List.forall_mem_cons.2 ⟨hP, hall⟩)
      · exact .inr ⟨x :: before, y, after, rfl, List.forall_mem_cons.2 ⟨hP, hbefore⟩, hy⟩
    · exact .inr ⟨[], x, xs, rfl, (fun _ hy => by cases hy), hQ⟩

theorem Except.exists_mapM_of_forall (h : ∀ x ∈ xs, ∃ y, f x = .ok y) :
    ∃ ys, xs.mapM f = .ok ys := by
  induction xs with
  | nil => exact ⟨[], rfl⟩
  | cons x xs ih =>
    obtain ⟨⟨y, hy⟩, hxs⟩ := List.forall_mem_cons.1 h
    obtain ⟨ys, hys⟩ := ih hxs
    refine ⟨y :: ys, ?_⟩
    rw [List.mapM_cons, hy, hys]
    rfl

theorem Except.mapM_eq_error (hbefore : ∀ x ∈ before, ∃ y, f x = .ok y) (hx : f x = .error e) :
    (before ++ x :: after).mapM f = .error e := by
  obtain ⟨ys, hys⟩ := exists_mapM_of_forall hbefore
  rw [List.mapM_append, hys, List.mapM_cons, hx]
  rfl

end Lists

namespace Shape

def standards (s : Shape) : List (String × Json) :=
  ("lineno", .null) :: ("source_file", .null) :: s.fields

def keys (s : Shape) : List String := s.standards.map Prod.fst

theorem name_ne (s : Shape) : s.name ≠ streamShape := by
  cases s <;> decide

end Shape

/-- Whether a failure says that a value is bad. Other failures are not meant for the caller. -/
def Failure.isRefusal : Failure → Bool
  | badJson | badRecord _ | badValue => true
  | _ => false

namespace Record

variable {r : Record} {j line : Json} {f : Failure} {shape : Shape} {kind : TokenKind}
  {entries : List (String × Json)} {items : List Json} {fields : List (String × Record)}
  {P : Json → Prop} {room inner : Room}

/-- What is no name of a list: scalars are told, arrays and objects are not looked for. -/
inductive IsNoName (names : List String) (fault : String → RecordFault) : Json → Failure → Prop
  | scalar {j : Json} (h : j.isScalar = true) (hj : ∀ s ∈ names, j ≠ .str s) :
    IsNoName names fault j (.badRecord (fault j.display))
  | nested {j : Json} (h : j.isScalar = false) : IsNoName names fault j .badType

/-- What is taken for tokens where no array is: nothing, the characters of a text, the keys of an
object. Other values cannot be gone over. -/
inductive IsNoArray (room : Room) : Json → Failure → Prop
  | text {s : String} (h : s ≠ "") : IsNoArray room (.str s) (notRecord room)
  | keys {entries : List (String × Json)} (h : entries ≠ []) :
    IsNoArray room (.obj entries) (notRecord room)
  | scalar {j : Json} (h : j.isScalar = true) (hj : ∀ s, j ≠ .str s) : IsNoArray room j .badType

/-- Values that are read as tokens and streams, in which the items of lists of tokens have a
property. A field of a token need not have its type. There is room for all records in each other. -/
inductive IsRecord (P : Json → Prop) : Room → Json → Prop
  | bare {room inner : Room} {entries : List (String × Json)} (hroom : room.below? = some inner)
    (hshape : lookupKey shapeKey entries = some (.str streamShape))
    (htokens : lookupKey "tokens" entries ∈ [none, some (.str ""), some (.obj [])]) :
    IsRecord P room (.obj entries)
  | stream {room inner : Room} {entries : List (String × Json)} {items : List Json}
    (hroom : room.below? = some inner)
    (hshape : lookupKey shapeKey entries = some (.str streamShape))
    (htokens : lookupKey "tokens" entries = some (.arr items)) (hitems : ∀ j ∈ items, P j)
    (h : ∀ j ∈ items, IsRecord P inner j) : IsRecord P room (.obj entries)
  | token {room inner : Room} {entries : List (String × Json)} {shape : Shape} {kind : TokenKind}
    {line : Json} (hroom : room.below? = some inner)
    (hshape : lookupKey shapeKey entries = some (.str shape.name))
    (hkind : lookupKey "type" entries = some (.str kind.name))
    (hline : lookupKey "lineno" entries = some line)
    (h : ∀ key ∈ shape.keys, ∀ j, lookupKey key entries = some j → isStream j →
      IsRecord P inner j) :
    IsRecord P room (.obj entries)

/-- Values that are not read, each with its first fault in reading order. -/
inductive Fails : Room → Json → Failure → Prop
  | noRoom {room : Room} {j : Json} (hroom : room.below? = none) : Fails room j .tooDeep
  | noObject {room inner : Room} {j : Json} (hroom : room.below? = some inner)
    (h : ∀ entries, j ≠ .obj entries) : Fails room j .notAnObject
  | noShape {room inner : Room} {entries : List (String × Json)}
    (hroom : room.below? = some inner) (hshape : lookupKey shapeKey entries ∈ [none, some .null]) :
    Fails room (.obj entries) (.badRecord .noShape)
  | shape {room inner : Room} {entries : List (String × Json)} {j : Json} {f : Failure}
    (hroom : room.below? = some inner) (hshape : lookupKey shapeKey entries = some j)
    (hnull : j ≠ .null)
    (hf : IsNoName (streamShape :: Shape.all.map Shape.name) .unknownShape j f) :
    Fails room (.obj entries) f
  | tokens {room inner : Room} {entries : List (String × Json)} {j : Json} {f : Failure}
    (hroom : room.below? = some inner)
    (hshape : lookupKey shapeKey entries = some (.str streamShape))
    (htokens : lookupKey "tokens" entries = some j) (hf : IsNoArray inner j f) :
    Fails room (.obj entries) f
  | item {room inner : Room} {entries : List (String × Json)} {before after : List Json} {j : Json}
    {f : Failure} (hroom : room.below? = some inner)
    (hshape : lookupKey shapeKey entries = some (.str streamShape))
    (htokens : lookupKey "tokens" entries = some (.arr (before ++ j :: after)))
    (hbefore : ∀ i ∈ before, IsRecord (fun _ => True) inner i) (h : Fails inner j f) :
    Fails room (.obj entries) f
  | kind {room inner : Room} {entries : List (String × Json)} {shape : Shape} {j : Json}
    {f : Failure} (hroom : room.below? = some inner)
    (hshape : lookupKey shapeKey entries = some (.str shape.name))
    (hkind : lookupKey "type" entries = some j)
    (hf : IsNoName (TokenKind.all.map TokenKind.name) .unknownKind j f) :
    Fails room (.obj entries) f
  | field {room inner : Room} {entries : List (String × Json)} {shape : Shape}
    {before after : List String} {key : String} {j : Json} {f : Failure}
    (hroom : room.below? = some inner)
    (hshape : lookupKey shapeKey entries = some (.str shape.name))
    (hkind : ∀ j, lookupKey "type" entries = some j → ∃ kind : TokenKind, j = .str kind.name)
    (hkeys : shape.keys = before ++ key :: after)
    (hbefore : ∀ key ∈ before, ∀ i, lookupKey key entries = some i → isStream i →
      IsRecord (fun _ => True) inner i)
    (hj : lookupKey key entries = some j) (hstream : isStream j) (h : Fails inner j f) :
    Fails room (.obj entries) f
  | unfinished {room inner : Room} {entries : List (String × Json)} {shape : Shape}
    (hroom : room.below? = some inner)
    (hshape : lookupKey shapeKey entries = some (.str shape.name))
    (hkind : ∀ j, lookupKey "type" entries = some j → ∃ kind : TokenKind, j = .str kind.name)
    (hfields : ∀ key ∈ shape.keys, ∀ i, lookupKey key entries = some i → isStream i →
      IsRecord (fun _ => True) inner i)
    (h : lookupKey "type" entries = none ∨ lookupKey "lineno" entries = none) :
    Fails room (.obj entries) .badType

section Names

variable {names : List String} {fault : String → RecordFault}

theorem exists_name_or (names : List String) (fault : String → RecordFault) (j : Json) :
    (∃ s ∈ names, j = .str s) ∨ ∃ f, IsNoName names fault j f := by
  by_cases hname : ∃ s ∈ names, j = .str s
  · exact .inl hname
  · refine .inr ?_
    cases hj : j.isScalar with
    | true => exact ⟨_, .scalar hj fun s hs h => hname ⟨s, hs, h⟩⟩
    | false => exact ⟨_, .nested hj⟩

def readName {α : Type} (named? : String → Option α) (fault : String → RecordFault) (j : Json) :
    Except Failure α :=
  match j with
  | .str s =>
    match named? s with
    | some a => .ok a
    | none => .error (.badRecord (fault j.display))
  | .arr _ | .obj _ => .error .badType
  | j => .error (.badRecord (fault j.display))

theorem readName_shape (j : Json) : Shape.read j = readName Shape.named? .unknownShape j := by
  cases j with
  | str s =>
    rw [Shape.read, readName]
    cases Shape.named? s <;> rfl
  | _ => rfl

theorem readName_kind (j : Json) :
    TokenKind.read j = readName TokenKind.named? .unknownKind j := by
  cases j with
  | str s =>
    rw [TokenKind.read, readName]
    cases TokenKind.named? s <;> rfl
  | _ => rfl

theorem IsNoName.readName_eq {α : Type} {named? : String → Option α}
    (h : IsNoName names fault j f) (hnamed : ∀ s, s ∉ names → named? s = none) :
    readName named? fault j = .error f := by
  cases h with
  | scalar h hj =>
    cases j with
    | str s =>
      have hnone := hnamed s fun hs => hj s hs rfl
      rw [readName, hnone]
    | arr | obj => cases h
    | _ => rfl
  | nested h =>
    cases j with
    | arr | obj => rfl
    | _ => cases h

theorem find?_name_eq_none {α : Type} {name : α → String} {all : List α} {s : String}
    (hs : s ∉ all.map name) : (all.find? fun a => name a == s) = none :=
  List.find?_eq_none.2 fun a ha heq =>
    hs (List.mem_map.2 ⟨a, ha, beq_iff_eq.1 heq⟩)

theorem IsNoName.read_shape (h : IsNoName (Shape.all.map Shape.name) .unknownShape j f) :
    Shape.read j = .error f := by
  rw [readName_shape]
  exact h.readName_eq fun s hs => find?_name_eq_none hs

theorem IsNoName.read_kind (h : IsNoName (TokenKind.all.map TokenKind.name) .unknownKind j f) :
    TokenKind.read j = .error f := by
  rw [readName_kind]
  exact h.readName_eq fun s hs => find?_name_eq_none hs

theorem IsNoArray.noTokens_eq (h : IsNoArray room j f) : noTokens room (some j) = .error f := by
  cases h with
  | @text s h => simp [noTokens]
  | @keys entries h =>
    cases entries with
    | nil => exact absurd rfl h
    | cons e rest => rfl
  | scalar h hj =>
    cases j with
    | arr | obj => cases h
    | str s => exact absurd rfl (hj s)
    | _ => rfl

end Names

section Reading

theorem IsNoName.ne {names : List String} {fault : String → RecordFault} {s : String}
    (h : IsNoName names fault j f) (hs : s ∈ names) : j ≠ .str s := by
  cases h with
  | scalar _ hj => exact hj s hs
  | nested h =>
    rintro rfl
    cases h

theorem IsNoName.mono {names others : List String} {fault : String → RecordFault}
    (h : IsNoName names fault j f) (hsub : ∀ s ∈ others, s ∈ names) :
    IsNoName others fault j f := by
  cases h with
  | scalar h hj => exact .scalar h fun s hs => hj s (hsub s hs)
  | nested h => exact .nested h

def readField (room : Room) (entries : List (String × Json)) (d : String × Json) :
    Except Failure (String × Record) :=
  match lookupKey d.1 entries with
  | some j => if isStream j then (read room j).map fun r => (d.1, r) else .ok (d.1, value j)
  | none => .ok (d.1, value d.2)

theorem readFields_eq (h : DistinctKeys entries) (shape : Shape) :
    readFields shape entries (readStreams room entries)
      = shape.standards.mapM (readField room entries) := by
  rw [readFields, Shape.standards]
  congr 1
  funext d
  obtain ⟨key, other⟩ := d
  simp only [readField, lookupKey_readStreams h]
  cases lookupKey key entries with
  | none => rfl
  | some j => cases hj : isStream j <;> simp [hj]

theorem readField_ok {d : String × Json} {g : String × Record} (h : readField room entries d = .ok g) :
    (∃ j, g.2 = value j) ∨
      ∃ j, lookupKey d.1 entries = some j ∧ isStream j ∧ read room j = .ok g.2 := by
  rw [readField] at h
  split at h
  · rename_i j hj
    split at h
    · rename_i hstream
      obtain ⟨r, hr, rfl⟩ := Except.map_eq_ok_iff.1 h
      exact .inr ⟨j, hj, hstream, hr⟩
    · cases h
      exact .inl ⟨j, rfl⟩
  · cases h
    exact .inl ⟨_, rfl⟩

theorem read_of_readField {d : String × Json} {g : String × Record}
    (hlookup : lookupKey d.1 entries = some j) (hstream : isStream j)
    (h : readField room entries d = .ok g) : read room j = .ok g.2 := by
  simp only [readField, hlookup, hstream, if_true] at h
  obtain ⟨r, hr, rfl⟩ := Except.map_eq_ok_iff.1 h
  exact hr

theorem exists_readField {d : String × Json}
    (h : ∀ j, lookupKey d.1 entries = some j → isStream j → ∃ r, read room j = .ok r) :
    ∃ g, readField room entries d = .ok g := by
  rw [readField]
  cases hj : lookupKey d.1 entries with
  | none => exact ⟨_, rfl⟩
  | some j =>
    dsimp only
    split
    · rename_i hstream
      obtain ⟨r, hr⟩ := h j hj hstream
      exact ⟨_, by rw [hr]; rfl⟩
    · exact ⟨_, rfl⟩

def readKind (entries : List (String × Json)) : Except Failure (Option TokenKind) :=
  match lookupKey "type" entries with
  | some j => (TokenKind.read j).map some
  | none => .ok none

def complete (shape : Shape) (kind : Option TokenKind) (line : Option Json)
    (fields : List (String × Record)) : Except Failure Record :=
  match kind, line with
  | some kind, some _ => .ok (token shape kind fields)
  | _, _ => .error .badType

theorem complete_ok {type : Option TokenKind} {number : Option Json}
    (h : complete shape type number fields = .ok r) : ∃ kind, r = token shape kind fields := by
  cases type with
  | none => cases h
  | some kind =>
    cases number with
    | none => cases h
    | some line =>
      cases h
      exact ⟨kind, rfl⟩

theorem read_of_shape (hroom : room.below? = some inner)
    (hshape : lookupKey shapeKey entries = some j) (hnull : j ≠ .null)
    (hstream : j ≠ .str streamShape) :
    read room (.obj entries)
      = Shape.read j >>= fun shape => readToken shape entries (readStreams inner entries) := by
  have hother : ¬ j.str? = some streamShape := by
    intro h
    cases j <;> cases h
    exact hstream rfl
  simp only [read, hroom, hshape]
  cases j with
  | null => exact absurd rfl hnull
  | _ => exact if_neg hother

theorem read_token (hroom : room.below? = some inner) (hkeys : DistinctKeys entries)
    (hshape : lookupKey shapeKey entries = some (.str shape.name)) :
    read room (.obj entries) = readKind entries >>= fun kind =>
      shape.standards.mapM (readField inner entries) >>= fun fields =>
        complete shape kind (lookupKey "lineno" entries) fields := by
  have hother : Json.str shape.name ≠ .str streamShape := fun h => shape.name_ne (Json.str.inj h)
  rw [read_of_shape hroom hshape (fun h => by cases h) hother, read_shape]
  simp only [bind, Except.bind, readToken, readFields_eq hkeys, readKind]
  cases lookupKey "type" entries <;> rfl

def readItems (room : Room) : Option Json → Except Failure (List Record)
  | some (.arr items) => items.mapM (read room)
  | other => noTokens room other

theorem read_stream_items (hroom : room.below? = some inner)
    (h : lookupKey shapeKey entries = some (.str streamShape)) :
    read room (.obj entries) = (readItems inner (lookupKey "tokens" entries)).map
      (stream true ((lookupKey "source" entries).getD (.str ""))) := by
  rw [read_stream hroom h]
  cases lookupKey "tokens" entries with
  | none => rfl
  | some j => cases j <;> rfl

theorem exists_stream_of_items (hroom : room.below? = some inner)
    (hshape : lookupKey shapeKey entries = some (.str streamShape))
    (htokens : lookupKey "tokens" entries = some (.arr items))
    (h : read room (.obj entries) = .ok r) :
    ∃ source tokens, r = stream true source tokens
      ∧ List.Forall₂ (fun j t => read inner j = .ok t) items tokens := by
  rw [read_stream_items hroom hshape, htokens] at h
  obtain ⟨tokens, hread, rfl⟩ := Except.map_eq_ok_iff.1 h
  exact ⟨_, tokens, rfl, Except.mapM_ok hread⟩

theorem exists_token_of_fields (hroom : room.below? = some inner) (hkeys : DistinctKeys entries)
    (hshape : lookupKey shapeKey entries = some (.str shape.name))
    (h : read room (.obj entries) = .ok r) :
    ∃ kind fields, r = token shape kind fields
      ∧ List.Forall₂ (fun d g => readField inner entries d = .ok g) shape.standards fields := by
  rw [read_token hroom hkeys hshape] at h
  obtain ⟨kind, -, h⟩ := Except.bind_ok h
  obtain ⟨fields, hfields, h⟩ := Except.bind_ok h
  obtain ⟨kind, rfl⟩ := complete_ok h
  exact ⟨kind, fields, rfl, Except.mapM_ok hfields⟩

theorem readItems_of_mem {tokens : Option Json}
    (h : tokens ∈ [none, some (.str ""), some (.obj [])]) : readItems room tokens = .ok [] := by
  simp only [List.mem_cons, List.not_mem_nil, or_false] at h
  rcases h with rfl | rfl | rfl <;> rfl

theorem IsRecord.exists_read (h : IsRecord P room j) (hj : j.IsKeyed) :
    ∃ r, read room j = .ok r := by
  induction h with
  | bare hroom hshape htokens =>
    rw [read_stream_items hroom hshape, readItems_of_mem htokens]
    exact ⟨_, rfl⟩
  | stream hroom hshape htokens _ _ ih =>
    have hitems := Json.isKeyed_arr_iff.1 (hj.of_lookupKey htokens)
    obtain ⟨tokens, hread⟩ := Except.exists_mapM_of_forall fun i hi => ih i hi (hitems i hi)
    rw [read_stream_items hroom hshape, htokens]
    exact ⟨_, Except.map_eq_ok_iff.2 ⟨tokens, hread, rfl⟩⟩
  | @token _ inner entries shape kind line hroom hshape hkind hline _ ih =>
    have hread : ∀ d ∈ shape.standards, ∃ g, readField inner entries d = .ok g := fun d hd =>
      exists_readField fun j hlookup hstream =>
        ih _ (List.mem_map_of_mem hd) j hlookup hstream (hj.of_lookupKey hlookup)
    obtain ⟨fields, hfields⟩ := Except.exists_mapM_of_forall hread
    refine ⟨Record.token shape kind fields, ?_⟩
    rw [read_token hroom (Json.isKeyed_obj_iff.1 hj).1 hshape, readKind, hkind, hline, hfields]
    simp only [read_kind]
    rfl

theorem IsNoArray.readItems_eq (h : IsNoArray room j f) :
    readItems room (some j) = .error f := by
  rw [← h.noTokens_eq]
  cases h with
  | text => rfl
  | keys => rfl
  | scalar h =>
    cases j with
    | arr => cases h
    | _ => rfl

theorem exists_readKind
    (h : ∀ j, lookupKey "type" entries = some j → ∃ kind : TokenKind, j = .str kind.name) :
    ∃ kind, readKind entries = .ok kind := by
  rw [readKind]
  cases hlookup : lookupKey "type" entries with
  | none => exact ⟨none, rfl⟩
  | some j =>
    obtain ⟨kind, rfl⟩ := h j hlookup
    exact ⟨some kind, by simp only [read_kind]; rfl⟩

theorem exists_of_keys {before after : List String} {key : String}
    (h : shape.keys = before ++ key :: after) :
    ∃ front d back, shape.standards = front ++ d :: back ∧ (∀ d ∈ front, d.1 ∈ before)
      ∧ d.1 = key := by
  obtain ⟨front, rest, hsplit, rfl, hrest⟩ := List.map_eq_append_iff.1 h
  obtain ⟨d, back, rfl, rfl, -⟩ := List.map_eq_cons_iff.1 hrest
  exact ⟨front, d, back, hsplit, fun d hd => List.mem_map_of_mem hd, rfl⟩

theorem Fails.read_eq (h : Fails room j f) (hj : j.IsKeyed) : read room j = .error f := by
  induction h with
  | @noRoom room j hroom => cases j <;> simp [read, notRecord, hroom]
  | @noObject room inner j hroom h =>
    cases j with
    | obj entries => exact absurd rfl (h entries)
    | _ => simp [read, notRecord, hroom]
  | noShape hroom hshape =>
    simp only [List.mem_cons, List.not_mem_nil, or_false] at hshape
    rcases hshape with hshape | hshape <;> simp only [read, hroom, hshape]
  | @shape room inner entries j f hroom hshape hnull hf =>
    have hstream : j ≠ .str streamShape := hf.ne List.mem_cons_self
    have hread := (hf.mono fun _ h => List.mem_cons_of_mem _ h).read_shape
    rw [read_of_shape hroom hshape hnull hstream, hread]
    rfl
  | @tokens room inner entries j f hroom hshape htokens hf =>
    rw [read_stream_items hroom hshape, htokens, hf.readItems_eq]
    rfl
  | @item room inner entries before after j f hroom hshape htokens hbefore _ ih =>
    have hitems := Json.isKeyed_arr_iff.1 (hj.of_lookupKey htokens)
    have hread : (before ++ j :: after).mapM (read inner) = .error f :=
      Except.mapM_eq_error
        (fun i hi => (hbefore i hi).exists_read (hitems i (List.mem_append_left _ hi)))
        (ih (hitems j (List.mem_append_right _ List.mem_cons_self)))
    rw [read_stream_items hroom hshape, htokens, readItems, hread]
    rfl
  | kind hroom hshape hkind hf =>
    rw [read_token hroom (Json.isKeyed_obj_iff.1 hj).1 hshape, readKind, hkind]
    simp only [hf.read_kind]
    rfl
  | @field room inner entries shape before after key j f hroom hshape hkind hkeys hbefore hlookup
      hstream _ ih =>
    obtain ⟨front, d, back, hsplit, hfront, hd⟩ := exists_of_keys hkeys
    obtain ⟨kind, hkind⟩ := exists_readKind hkind
    have hfirst : ∀ d ∈ front, ∃ g, readField inner entries d = .ok g := fun d hd =>
      exists_readField fun j hlookup hstream =>
        (hbefore d.1 (hfront d hd) j hlookup hstream).exists_read (hj.of_lookupKey hlookup)
    have hfield : readField inner entries d = .error f := by
      rw [readField, hd, hlookup]
      simp only [hstream, if_true, ih (hj.of_lookupKey hlookup)]
      rfl
    rw [read_token hroom (Json.isKeyed_obj_iff.1 hj).1 hshape, hkind, hsplit,
      Except.mapM_eq_error hfirst hfield]
    rfl
  | @unfinished room inner entries shape hroom hshape hkind hfields h =>
    obtain ⟨kind, hread⟩ := exists_readKind hkind
    have hall : ∀ d ∈ shape.standards, ∃ g, readField inner entries d = .ok g := fun d hd =>
      exists_readField fun j hlookup hstream =>
        (hfields d.1 (List.mem_map_of_mem hd) j hlookup hstream).exists_read
          (hj.of_lookupKey hlookup)
    obtain ⟨fields, hfields⟩ := Except.exists_mapM_of_forall hall
    rw [read_token hroom (Json.isKeyed_obj_iff.1 hj).1 hshape, hread, hfields]
    rcases h with htype | hline
    · rw [readKind, htype] at hread
      cases hread
      rfl
    · rw [hline]
      cases kind <;> rfl

end Reading

section Exhausted

def IsJudged (room : Room) (j : Json) : Prop :=
  IsRecord (fun _ => True) room j ∨ ∃ f, Fails room j f

theorem isJudged_stream (hroom : room.below? = some inner)
    (hshape : lookupKey shapeKey entries = some (.str streamShape))
    (hitems : ∀ items, lookupKey "tokens" entries = some (.arr items) →
      ∀ j ∈ items, IsJudged inner j) : IsJudged room (.obj entries) := by
  cases htokens : lookupKey "tokens" entries with
  | none => exact .inl (.bare hroom hshape (by simp [htokens]))
  | some j =>
    have hno : ∀ f, IsNoArray inner j f → IsJudged room (.obj entries) := fun f hf =>
      .inr ⟨f, .tokens hroom hshape htokens hf⟩
    cases j with
    | arr items =>
      rcases forall_or_exists_first (hitems items htokens) with
        hall | ⟨before, j, after, rfl, hbefore, f, hf⟩
      · exact .inl (.stream hroom hshape htokens (fun _ _ => trivial) hall)
      · exact .inr ⟨f, .item hroom hshape htokens hbefore hf⟩
    | str s =>
      by_cases hs : s = ""
      · exact .inl (.bare hroom hshape (by simp [htokens, hs]))
      · exact hno _ (.text hs)
    | obj es =>
      cases es with
      | nil => exact .inl (.bare hroom hshape (by simp [htokens]))
      | cons e rest => exact hno _ (.keys (List.cons_ne_nil e rest))
    | _ => exact hno _ (.scalar rfl fun s h => by cases h)

theorem isJudged_token (hroom : room.below? = some inner)
    (hshape : lookupKey shapeKey entries = some (.str shape.name))
    (hfields : ∀ key j, lookupKey key entries = some j → IsJudged inner j) :
    IsJudged room (.obj entries) := by
  have hkinds : (∀ j, lookupKey "type" entries = some j → ∃ kind : TokenKind, j = .str kind.name)
      ∨ ∃ j f, lookupKey "type" entries = some j
        ∧ IsNoName (TokenKind.all.map TokenKind.name) .unknownKind j f := by
    cases htype : lookupKey "type" entries with
    | none => exact .inl fun j h => by cases h
    | some j =>
      rcases exists_name_or (TokenKind.all.map TokenKind.name) .unknownKind j with
        ⟨s, hs, rfl⟩ | ⟨f, hf⟩
      · obtain ⟨kind, -, rfl⟩ := List.mem_map.1 hs
        refine .inl fun j h => ?_
        cases h
        exact ⟨kind, rfl⟩
      · exact .inr ⟨j, f, rfl, hf⟩
  have hkeys : ∀ key ∈ shape.keys,
      (∀ j, lookupKey key entries = some j → isStream j → IsRecord (fun _ => True) inner j)
        ∨ ∃ j f, lookupKey key entries = some j ∧ isStream j ∧ Fails inner j f := by
    intro key _
    by_cases hgood : ∀ j, lookupKey key entries = some j → isStream j →
        IsRecord (fun _ => True) inner j
    · exact .inl hgood
    · push Not at hgood
      obtain ⟨j, hj, hstream, hbad⟩ := hgood
      obtain ⟨f, hf⟩ := (hfields key j hj).resolve_left hbad
      exact .inr ⟨j, f, hj, hstream, hf⟩
  rcases hkinds with hkind | ⟨j, f, htype, hf⟩
  · rcases forall_or_exists_first hkeys with
      hall | ⟨before, key, after, hsplit, hbefore, j, f, hj, hstream, hf⟩
    · cases htype : lookupKey "type" entries with
      | none => exact .inr ⟨_, .unfinished hroom hshape hkind hall (.inl htype)⟩
      | some j =>
        obtain ⟨kind, rfl⟩ := hkind j htype
        cases hline : lookupKey "lineno" entries with
        | none => exact .inr ⟨_, .unfinished hroom hshape hkind hall (.inr hline)⟩
        | some line => exact .inl (.token hroom hshape htype hline hall)
    · exact .inr ⟨f, .field hroom hshape hkind hsplit hbefore hj hstream hf⟩
  · exact .inr ⟨f, .kind hroom hshape htype hf⟩

theorem isJudged_of_below (h : ∀ inner, room.below? = some inner → IsJudged room j) :
    IsJudged room j := by
  cases hroom : room.below? with
  | none => exact .inr ⟨_, .noRoom hroom⟩
  | some inner => exact h inner hroom

theorem isJudged_obj (hroom : room.below? = some inner)
    (hitems : ∀ items, lookupKey "tokens" entries = some (.arr items) →
      ∀ j ∈ items, IsJudged inner j)
    (hfields : ∀ key j, lookupKey key entries = some j → IsJudged inner j) :
    IsJudged room (.obj entries) := by
  cases hshape : lookupKey shapeKey entries with
  | none => exact .inr ⟨_, .noShape hroom (by simp [hshape])⟩
  | some j =>
    by_cases hnull : j = .null
    · exact .inr ⟨_, .noShape hroom (by simp [hshape, hnull])⟩
    rcases exists_name_or (streamShape :: Shape.all.map Shape.name) .unknownShape j with
      ⟨s, hs, rfl⟩ | ⟨f, hf⟩
    · rcases List.mem_cons.1 hs with rfl | hname
      · exact isJudged_stream hroom hshape hitems
      · obtain ⟨shape, -, rfl⟩ := List.mem_map.1 hname
        exact isJudged_token hroom hshape hfields
    · exact .inr ⟨f, .shape hroom hshape hnull hf⟩

theorem isJudged (hj : j.IsKeyed) (room : Room) : IsJudged room j := by
  -- An array is never read by itself, but its items are read where it is a list of tokens.
  suffices h : ∀ room, IsJudged room j ∧ ∀ items, j = .arr items → ∀ i ∈ items, IsJudged room i by
    exact (h room).1
  induction hj with
  | @scalar j h =>
    have hobj : ∀ entries, j ≠ .obj entries := by
      rintro entries rfl
      cases h
    refine fun room => ⟨isJudged_of_below fun inner hroom => .inr ⟨_, .noObject hroom hobj⟩,
      fun items heq => ?_⟩
    rw [heq] at h
    cases h
  | arr h ih =>
    refine fun room => ⟨isJudged_of_below fun inner hroom => .inr ⟨_, .noObject hroom ?_⟩,
      fun items heq i hi => ?_⟩
    · exact fun entries heq => by cases heq
    · cases heq
      exact (ih i hi room).1
  | obj hkeys h ih =>
    refine fun room => ⟨isJudged_of_below fun inner hroom => isJudged_obj hroom ?_ ?_,
      fun items heq => by cases heq⟩
    · exact fun items hlookup => (ih _ (mem_of_lookupKey hlookup) inner).2 items rfl
    · exact fun key j hlookup => (ih _ (mem_of_lookupKey hlookup) inner).1

theorem exists_read_iff (hj : j.IsKeyed) :
    (∃ r, read room j = .ok r) ↔ IsRecord (fun _ => True) room j := by
  constructor
  · rintro ⟨r, hr⟩
    refine (isJudged hj room).resolve_right ?_
    rintro ⟨f, hf⟩
    rw [hf.read_eq hj] at hr
    cases hr
  · exact fun h => h.exists_read hj

theorem read_eq_error_iff (hj : j.IsKeyed) : read room j = .error f ↔ Fails room j f := by
  constructor
  · intro h
    rcases isJudged hj room with hrecord | ⟨g, hg⟩
    · obtain ⟨r, hr⟩ := hrecord.exists_read hj
      rw [hr] at h
      cases h
    · rw [hg.read_eq hj] at h
      cases h
      exact hg
  · exact fun h => h.read_eq hj

theorem IsNoName.refused_or {names : List String} {fault : String → RecordFault}
    (h : IsNoName names fault j f) : f.isRefusal = true ∨ f = .notAnObject ∨ f = .badType := by
  cases h with
  | scalar => exact .inl rfl
  | nested => exact .inr (.inr rfl)

theorem notRecord_eq_or (room : Room) : notRecord room = .notAnObject ∨ notRecord room = .tooDeep := by
  rw [notRecord]
  split
  · exact .inl rfl
  · exact .inr rfl

/-- What is not refused fails as what is no object, of a wrong type or too deep. -/
theorem Fails.refused_or (h : Fails room j f) :
    f.isRefusal = true ∨ f = .notAnObject ∨ f = .badType ∨ f = .tooDeep := by
  induction h with
  | noRoom => exact .inr (.inr (.inr rfl))
  | noObject => exact .inr (.inl rfl)
  | noShape => exact .inl rfl
  | shape _ _ _ hf | kind _ _ _ hf => exact hf.refused_or.imp_right (.imp_right .inl)
  | @tokens room inner _ _ _ _ _ _ hf =>
    cases hf with
    | text | keys => exact .inr ((notRecord_eq_or inner).imp_right .inr)
    | scalar => exact .inr (.inr (.inl rfl))
  | item _ _ _ _ _ ih => exact ih
  | field _ _ _ _ _ _ _ _ ih => exact ih
  | unfinished => exact .inr (.inr (.inl rfl))

end Exhausted

end Record

end TemplateLexer
