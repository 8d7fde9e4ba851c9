import CharLcd.Proofs.Json.Lexing

/-!
# The document of a text in the grammar

A text that spells a value has that value as its document, and nothing after it.

- `Place.read`: the document when the rest of a text follows at a place.
- `Place.Awaits`, `Place.AwaitsKey`: places where a value, or a key, is put into its frame.
- `read_spelled`: after the spelling of a value the value has been delivered.
- `Value.Spelled.items`, `Value.Spelled.members`: the parts of a value that is spelled.
- `ofText_of_spells`: the document of a text that spells a value.
-/

namespace CharLcd.Json

open Mode

namespace Place

/-- The document when the rest of a text follows at a place. -/
def read (p : Place) (rest : List Char) : Document :=
  ((between.run [] rest).foldl step p).finish

variable {p : Place}

theorem read_spaces {space : List Char} (h : Spaces space) (rest : List Char) :
    p.read (space ++ rest) = p.read rest := by
  rw [read, run_spaces h]
  rfl

/-- A text that begins with a token. -/
theorem read_token {cs rest : List Char} {t : Token}
    (h : between.run [] (cs ++ rest) = t :: between.run [] rest) :
    p.read (cs ++ rest) = (p.step t).read rest := by
  rw [read, h]
  rfl

/-- A mark between tokens. -/
theorem read_mark {c : Char} {t : Token} (h : start c = ([t], .between)) (rest : List Char) :
    p.read (c :: rest) = (p.step t).read rest := by
  rw [read, run_mark h]
  rfl

/-- A place where a value goes into some frames. It is also one where an array may be closed. -/
def Awaits (p : Place) (frames : List Frame) : Prop :=
  ∀ t, t ≠ .closeArray → p.step t = beginValue frames t

theorem awaits_value (frames : List Frame) : (value frames).Awaits frames := fun _ _ => rfl

theorem awaits_first (frames : List Frame) : (first frames).Awaits (.array [] :: frames) := by
  intro t ht
  cases t <;> first | rfl | exact absurd rfl ht

/-- A place where a key goes after some members. -/
def AwaitsKey (p : Place) (members : List (Option String × Value)) (frames : List Frame) : Prop :=
  ∀ key, p.step (.string key) = colon members key frames

end Place

open Json.Place

/-! ## From texts to values -/

theorem read_paddedKey {p : Place} {members : List (Option String × Value)} {frames : List Frame}
    (hp : p.AwaitsKey members frames) {key : Option String} {ks : List Char} (h : PaddedKey key ks)
    (rest : List Char) : p.read (ks ++ ':' :: rest) =
      (value (.object members key :: frames)).read rest := by
  cases h with
  | mk hbefore h hafter =>
    rw [List.append_assoc, read_spaces hbefore, List.append_assoc, read_token (run_quoted h _),
      hp, read_spaces hafter, read_mark rfl]
    rfl

mutual

/-- After the spelling of a value the value has been delivered. -/
theorem read_spelled {v : Value} {cs : List Char} (h : v.Spelled cs) {p : Place}
    {frames : List Frame} (hp : p.Awaits frames) {rest : List Char} (hrest : Delimited rest) :
    p.read (cs ++ rest) = (deliver v frames).read rest := by
  match h with
  | .null =>
    rw [read_token (run_null rest), hp _ (by decide)]
    rfl
  | .true =>
    rw [read_token (run_true rest), hp _ (by decide)]
    rfl
  | .false =>
    rw [read_token (run_false rest), hp _ (by decide)]
    rfl
  | .number h =>
    rw [read_token (run_numeral h hrest), hp _ Token.noConfusion]
    rfl
  | .string h =>
    rw [read_token (run_quoted h rest), hp _ Token.noConfusion]
    rfl
  | .emptyArray h =>
    rw [List.cons_append, List.append_assoc, read_mark (c := '[') rfl, hp _ (by decide),
      read_spaces h, List.singleton_append, read_mark (c := ']') rfl]
    rfl
  | .array h =>
    rw [List.cons_append, List.append_assoc, read_mark (c := '[') rfl, hp _ (by decide)]
    exact read_items h (awaits_first frames) rest
  | .emptyObject h =>
    rw [List.cons_append, List.append_assoc, read_mark (c := '\x7b') rfl, hp _ (by decide),
      read_spaces h, List.singleton_append, read_mark (c := '\x7d') rfl]
    rfl
  | .object h =>
    rw [List.cons_append, List.append_assoc, read_mark (c := '\x7b') rfl, hp _ (by decide)]
    have hkey : (firstKey frames).AwaitsKey [] frames := fun _ => rfl
    exact read_members h hkey rest

theorem read_padded {v : Value} {cs : List Char} (h : v.Padded cs) {p : Place}
    {frames : List Frame} (hp : p.Awaits frames) {rest : List Char} (hrest : Delimited rest) :
    p.read (cs ++ rest) = (deliver v frames).read rest := by
  match h with
  | .mk hbefore h hafter =>
    rw [List.append_assoc, read_spaces hbefore, List.append_assoc,
      read_spelled h hp (delimited_spaces hafter hrest), read_spaces hafter]

/-- The items of an array are gathered until the array is closed. -/
theorem read_items {items : List Value} {cs : List Char} (h : ItemsSpelled items cs) {p : Place}
    {before : List Value} {frames : List Frame} (hp : p.Awaits (.array before :: frames))
    (rest : List Char) : p.read (cs ++ ']' :: rest) =
      (deliver (.array (before.reverse ++ items) .closed) frames).read rest := by
  match h with
  | @ItemsSpelled.last v _ h =>
    rw [read_padded h hp (delimited_cons (by decide)), read_mark (c := ']') rfl]
    show (deliver (.array (v :: before).reverse .closed) frames).read rest = _
    rw [List.reverse_cons]
  | @ItemsSpelled.more v items _ _ h hitems =>
    rw [List.append_assoc, List.cons_append, read_padded h hp (delimited_cons (by decide)),
      read_mark (c := ',') rfl]
    show (Place.value (.array (v :: before) :: frames)).read _ = _
    rw [read_items hitems (awaits_value _), List.reverse_cons, List.append_assoc,
      List.singleton_append]

/-- The members of an object are gathered until the object is closed. -/
theorem read_members {members : List (Option String × Value)} {cs : List Char}
    (h : MembersSpelled members cs) {p : Place} {before : List (Option String × Value)}
    {frames : List Frame} (hp : p.AwaitsKey before frames) (rest : List Char) :
    p.read (cs ++ '\x7d' :: rest) =
      (deliver (.object (before.reverse ++ members) .closed) frames).read rest := by
  match h with
  | @MembersSpelled.last key v _ _ hkey h =>
    rw [List.append_assoc, List.cons_append, read_paddedKey hp hkey,
      read_padded h (awaits_value _) (delimited_cons (by decide)), read_mark (c := '\x7d') rfl]
    show (deliver (.object ((key, v) :: before).reverse .closed) frames).read rest = _
    rw [List.reverse_cons]
  | @MembersSpelled.more key v members _ _ _ hkey h hmembers =>
    rw [List.append_assoc, List.cons_append, List.append_assoc, List.cons_append,
      read_paddedKey hp hkey, read_padded h (awaits_value _) (delimited_cons (by decide)),
      read_mark (c := ',') rfl]
    show (Place.nextKey ((key, v) :: before) frames).read _ = _
    rw [read_members hmembers (fun _ => rfl), List.reverse_cons, List.append_assoc,
      List.singleton_append]

end

/-- What is spelled in the grammar is skipped without a fault. -/
theorem skipFault?_of_spelled {v : Value} {cs : List Char} (h : v.Spelled cs) :
    v.skipFault? = none := by
  cases h <;> rfl

/-! ## Parts of values -/

theorem Value.Padded.spelled {v : Value} {cs : List Char} (h : v.Padded cs) :
    ∃ ds, v.Spelled ds := by
  cases h with
  | mk _ h _ => exact ⟨_, h⟩

theorem ItemsSpelled.spelled {items : List Value} {cs : List Char} (h : ItemsSpelled items cs) :
    ∀ v ∈ items, ∃ ds, v.Spelled ds := by
  intro v hv
  match h with
  | .last h =>
    obtain rfl := List.mem_singleton.mp hv
    exact h.spelled
  | .more h hrest =>
    rcases List.mem_cons.mp hv with rfl | hv
    · exact h.spelled
    · exact hrest.spelled v hv

theorem MembersSpelled.spelled {members : List (Option String × Value)} {cs : List Char}
    (h : MembersSpelled members cs) : ∀ m ∈ members, ∃ ds, m.2.Spelled ds := by
  intro m hm
  match h with
  | .last _ h =>
    obtain rfl := List.mem_singleton.mp hm
    exact h.spelled
  | .more _ h hrest =>
    rcases List.mem_cons.mp hm with rfl | hm
    · exact h.spelled
    · exact hrest.spelled m hm

/-- The items of an array that is spelled in the grammar are, too. -/
theorem Value.Spelled.items {items : List Value} {cs : List Char}
    (h : (Value.array items .closed).Spelled cs) : ∀ v ∈ items, ∃ ds, v.Spelled ds := by
  cases h with
  | emptyArray => exact nofun
  | array h => exact h.spelled

/-- The values in an object that is spelled in the grammar are, too. -/
theorem Value.Spelled.members {members : List (Option String × Value)} {cs : List Char}
    (h : (Value.object members .closed).Spelled cs) : ∀ m ∈ members, ∃ ds, m.2.Spelled ds := by
  cases h with
  | emptyObject => exact nofun
  | object h => exact h.spelled

theorem Value.Spelled.ofMembers {members : List (String × Value)} {cs : List Char}
    (h : (Value.ofMembers members).Spelled cs) : ∀ m ∈ members, ∃ ds, m.2.Spelled ds := by
  intro m hm
  exact h.members (some m.1, m.2) (List.mem_map_of_mem hm)

/-- The document of a text that spells a value is the value and nothing else. -/
theorem ofText_of_spells {text : String} {v : Value} (h : Spells text v) :
    Document.ofText text = ⟨v, false⟩ := by
  have hread := read_padded h (awaits_value []) delimited_nil
  rw [List.append_nil] at hread
  exact hread

end CharLcd.Json
