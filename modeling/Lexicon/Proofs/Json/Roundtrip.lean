import Lexicon.Proofs.Json.Keys
import Lexicon.Proofs.Json.Number
import Lexicon.Proofs.Json.Quoted

/-!
# Lexicon — JSON written and read

What has been written as JSON is read as it was, to the last entry.

* `Value.Storable`        — a value that JSON can hold: no not-a-number in it, every double as
                            it is held, and every key once.
* `Json.ReadsBack`        — a value is read back from its text, whatever follows; no more steps
                            are taken than the text has characters.
* `Json.readItems_write`, `readEntries_write` — what is between brackets is read back, if each
                            of its values is.
* `Json.readValue_write`  — every storable value is read back.
* `Json.read_write`       — a text that has been written is read as the value it is of.
-/

namespace Lexicon

-- ---------------------------------------------------------------------------
-- Storable values
-- ---------------------------------------------------------------------------

/-- A value that JSON can hold. -/
inductive Value.Storable : Value → Prop
  | null : Storable .null
  | bool {b : Bool} : Storable (.bool b)
  | int {n : Int} : Storable (.int n)
  | float {x : Double} (hNumber : x ≠ .nan) (hRegular : x.Regular) : Storable (.float x)
  | text {s : String} : Storable (.text s)
  | list {items : List Value} (hItems : ∀ v ∈ items, Storable v) : Storable (.list items)
  | mapping {entries : Fields} (hKeys : (entries.map Prod.fst).Nodup)
      (hValues : ∀ e ∈ entries, Storable e.2) : Storable (.mapping entries)

theorem Value.Storable.keyed {v : Value} (h : v.Storable) : v.Keyed := by
  induction h with
  | null => exact .null
  | bool => exact .bool
  | int => exact .int
  | float _ _ => exact .float
  | text => exact .text
  | list _ ih => exact .list ih
  | mapping hKeys _ ih => exact .mapping hKeys ih

/-- Entries whose keys occur once are gathered as they are. -/
theorem Fields.ofList_eq_self {entries : Fields} (hKeys : (entries.map Prod.fst).Nodup) :
    Fields.ofList entries = entries := by
  have hPut : ∀ (key : String) (value : Value) (fields : Fields), key ∉ fields.map Prod.fst →
      Fields.put key value fields = fields ++ [(key, value)] := by
    intro key value fields hKey
    induction fields with
    | nil => rfl
    | cons e rest ih =>
      obtain ⟨k, v⟩ := e
      rw [List.map_cons, List.mem_cons, not_or] at hKey
      rw [Fields.put, if_neg (Ne.symm hKey.1), ih hKey.2, List.cons_append]
  have hMerge : ∀ changes base : Fields, ((base ++ changes).map Prod.fst).Nodup →
      Fields.merge base changes = base ++ changes := by
    intro changes
    induction changes with
    | nil => exact fun base _ => (List.append_nil base).symm
    | cons e rest ih =>
      intro base hBase
      obtain ⟨k, v⟩ := e
      have hFresh : k ∉ base.map Prod.fst := by
        intro hMem
        rw [List.map_append, List.map_cons] at hBase
        exact (List.disjoint_of_nodup_append hBase) hMem (List.mem_cons_self ..)
      have hStep : Fields.merge base ((k, v) :: rest)
          = Fields.merge (base ++ [(k, v)]) rest := by
        rw [← hPut k v base hFresh]
        rfl
      rw [hStep, ih (base ++ [(k, v)]) (by simpa using hBase), List.append_assoc]
      rfl
  exact hMerge entries [] hKeys

namespace Json

-- ---------------------------------------------------------------------------
-- Blanks
-- ---------------------------------------------------------------------------

theorem toList_newLine (depth : Nat) :
    (newLine depth).toList = '\n' :: List.replicate (2 * depth) ' ' := by
  rw [newLine, String.toList_ofList]

theorem skipSpace_newLine (depth : Nat) (rest : List Char) :
    skipSpace ((newLine depth).toList ++ rest) = skipSpace rest := by
  rw [toList_newLine]
  refine List.dropWhile_append_of_pos ?_
  intro c hc
  rcases List.mem_cons.mp hc with rfl | hc
  · rfl
  · rw [(List.mem_replicate.mp hc).2]
    rfl

theorem skipSpace_cons {c : Char} (h : isSpace c = false) (rest : List Char) :
    skipSpace (c :: rest) = c :: rest :=
  List.dropWhile_cons_of_neg (by rw [h]; decide)

theorem stops_newLine (depth : Nat) (rest : List Char) : Stops ((newLine depth).toList ++ rest) := by
  rw [toList_newLine]
  exact stops_newline _

/-- The text opens with a character that is no blank, closes no list and marks no byte order. -/
def Opens (text : List Char) : Prop :=
  ∃ c tail, text = c :: tail ∧ isSpace c = false ∧ c ≠ ']' ∧ c ≠ byteOrderMark

theorem Opens.append {text : List Char} (h : Opens text) (rest : List Char) :
    Opens (text ++ rest) := by
  obtain ⟨c, tail, rfl, hOpens⟩ := h
  exact ⟨c, tail ++ rest, rfl, hOpens⟩

theorem Opens.skipSpace {text : List Char} (h : Opens text) : skipSpace text = text := by
  obtain ⟨c, tail, rfl, hSpace, -⟩ := h
  exact skipSpace_cons hSpace tail

-- ---------------------------------------------------------------------------
-- Scalars
-- ---------------------------------------------------------------------------

/-- What is read as a number opens with a digit, or with a sign and a digit. -/
theorem readNumber_opens {text : List Char} {found : Value × List Char}
    (h : readNumber text = some found) :
    ∃ negative d tail, text = signText negative ++ d :: tail ∧ d.isDigit = true := by
  have hWhole : ∀ body : List Char, takeWhole body ≠ none →
      ∃ d tail, body = d :: tail ∧ d.isDigit = true := by
    intro body hBody
    unfold takeWhole at hBody
    split at hBody
    · exact ⟨_, _, rfl, rfl⟩
    · split at hBody
      · next hDigit => exact ⟨_, _, rfl, hDigit⟩
      · exact absurd rfl hBody
    · exact absurd rfl hBody
  unfold readNumber at h
  split at h
  next negative unsigned hSplit =>
  have hSome : takeWhole unsigned ≠ none := by
    intro hNone
    rw [hNone] at h
    cases h
  obtain ⟨d, tail, rfl, hDigit⟩ := hWhole unsigned hSome
  split at hSplit
  · cases hSplit
    exact ⟨true, d, tail, rfl, hDigit⟩
  · cases hSplit
    exact ⟨false, d, tail, rfl, hDigit⟩

theorem dropWord_of_ne {w c : Char} (h : w ≠ c) (word rest : List Char) :
    dropWord (w :: word) (c :: rest) = none := by
  rw [dropWord, if_neg h]

/-- A number is no word. -/
theorem words_number (negative : Bool) {d : Char} (hDigit : d.isDigit = true) (tail : List Char) :
    (words.findSome? fun (word, value) =>
      (dropWord word (signText negative ++ d :: tail)).map fun rest => (value, rest)) = none := by
  have hDigitNe : ∀ w : Char, w.isDigit = false → w ≠ d := by
    rintro w hw rfl
    rw [hw] at hDigit
    cases hDigit
  have hDrop : ∀ word ∈ words.map Prod.fst, dropWord word (signText negative ++ d :: tail) = none := by
    intro word hWord
    simp only [words, List.map_cons, List.map_nil, List.mem_cons, List.not_mem_nil, or_false] at hWord
    cases negative with
    | true =>
      rcases hWord with rfl | rfl | rfl | rfl | rfl | rfl
      · exact dropWord_of_ne (by decide) _ _
      · exact dropWord_of_ne (by decide) _ _
      · exact dropWord_of_ne (by decide) _ _
      · exact dropWord_of_ne (by decide) _ _
      · exact dropWord_of_ne (by decide) _ _
      · exact dropWord_of_ne (hDigitNe 'I' rfl) _ _
    | false =>
      rcases hWord with rfl | rfl | rfl | rfl | rfl | rfl
      · exact dropWord_of_ne (hDigitNe 'n' rfl) _ _
      · exact dropWord_of_ne (hDigitNe 't' rfl) _ _
      · exact dropWord_of_ne (hDigitNe 'f' rfl) _ _
      · exact dropWord_of_ne (hDigitNe 'N' rfl) _ _
      · exact dropWord_of_ne (hDigitNe 'I' rfl) _ _
      · exact dropWord_of_ne (hDigitNe '-' rfl) _ _
  rw [List.findSome?_eq_none_iff]
  intro e he
  show (dropWord e.1 _).map _ = none
  rw [hDrop e.1 (List.mem_map_of_mem he)]
  rfl

theorem readScalar_number {text : List Char} {found : Value × List Char}
    (h : readNumber text = some found) : readScalar text = .ok found := by
  obtain ⟨negative, d, tail, rfl, hDigit⟩ := readNumber_opens h
  rw [readScalar, words_number negative hDigit tail, h]

theorem opens_digit {d : Char} (h : d.isDigit = true) (tail : List Char) : Opens (d :: tail) := by
  refine ⟨d, tail, rfl, ?_, ?_, ?_⟩
  · have hNe : ∀ w : Char, w.isDigit = false → (d == w) = false := by
      intro w hw
      rw [beq_eq_false_iff_ne]
      rintro rfl
      rw [hw] at h
      cases h
    rw [isSpace, hNe ' ' rfl, hNe '\t' rfl, hNe '\n' rfl, hNe '\r' rfl]
    rfl
  · rintro rfl
    cases h
  · rintro rfl
    cases h

theorem opens_number {text : List Char} {found : Value × List Char}
    (h : readNumber text = some found) : Opens text := by
  obtain ⟨negative, d, tail, rfl, hDigit⟩ := readNumber_opens h
  cases negative with
  | true => exact ⟨'-', d :: tail, rfl, rfl, by decide, by decide⟩
  | false => exact opens_digit hDigit tail

/-- What opens with none of the three marks is a word or a number. -/
theorem readValue_scalar {text : List Char} (hQuote : ∀ tail, text ≠ '"' :: tail)
    (hBrace : ∀ tail, text ≠ '\x7b' :: tail) (hBracket : ∀ tail, text ≠ '[' :: tail) (fuel : Nat) :
    readValue (fuel + 1) text = readScalar text := by
  unfold readValue
  split
  · exact absurd rfl (hQuote _)
  · exact absurd rfl (hBrace _)
  · exact absurd rfl (hBracket _)
  · rfl

-- ---------------------------------------------------------------------------
-- Values
-- ---------------------------------------------------------------------------

/-- The value is read back, in every place and whatever stops it; no more steps are taken than
its text has characters. -/
def ReadsBack (v : Value) : Prop :=
  ∀ depth fuel rest, (writeAt depth v).toList.length ≤ fuel → Stops rest →
    readValue fuel ((writeAt depth v).toList ++ rest) = .ok (v, rest)

theorem toList_intercalate_one (s : String) : (",".intercalate [s]).toList = s.toList := by
  rw [String.toList_intercalate, List.map_singleton, List.intercalate_singleton]

theorem toList_intercalate_cons (s t : String) (rest : List String) :
    (",".intercalate (s :: t :: rest)).toList
      = s.toList ++ ',' :: (",".intercalate (t :: rest)).toList := by
  rw [String.toList_intercalate, String.toList_intercalate, List.map_cons, List.map_cons,
    List.intercalate_cons_cons, List.append_assoc]
  rfl

/-- The text of some items, each on a line of its own. -/
def itemsText (depth : Nat) (items : List Value) : List Char :=
  (",".intercalate (writeItems depth items)).toList

theorem itemsText_one (depth : Nat) (v : Value) :
    itemsText depth [v] = (newLine depth).toList ++ (writeAt depth v).toList := by
  rw [itemsText, writeItems, writeItems, toList_intercalate_one, String.toList_append]

theorem itemsText_cons (depth : Nat) (v w : Value) (items : List Value) :
    itemsText depth (v :: w :: items)
      = (newLine depth).toList ++ ((writeAt depth v).toList ++ ',' :: itemsText depth (w :: items)) := by
  rw [itemsText, itemsText, writeItems, writeItems, toList_intercalate_cons, String.toList_append,
    List.append_assoc]

/-- Items are read back, up to the closing bracket. -/
theorem readItems_write {items : List Value} (hNil : items ≠ [])
    (hOpens : ∀ v ∈ items, ∀ depth, Opens (writeAt depth v).toList)
    (hItems : ∀ v ∈ items, ReadsBack v) (depth outer fuel : Nat) (tail : List Char)
    (hFuel : (itemsText depth items).length ≤ fuel) :
    readItems fuel (skipSpace (itemsText depth items ++ ((newLine outer).toList ++ ']' :: tail)))
      = .ok (items, tail) := by
  induction items generalizing fuel with
  | nil => exact absurd rfl hNil
  | cons v items ih =>
    have hOpensItem := hOpens v (List.mem_cons_self ..) depth
    have hItem := hItems v (List.mem_cons_self ..)
    cases items with
    | nil =>
      rw [itemsText_one, List.length_append, toList_newLine, List.length_cons] at hFuel
      obtain ⟨fuel, rfl⟩ : ∃ n, fuel = n + 1 := ⟨fuel - 1, by omega⟩
      have hValue := hItem depth fuel _ (by omega) (stops_newLine outer (']' :: tail))
      rw [itemsText_one, List.append_assoc, skipSpace_newLine, (hOpensItem.append _).skipSpace,
        readItems, hValue, ok_bind]
      dsimp only
      rw [skipSpace_newLine, skipSpace_cons rfl]
      rfl
    | cons w items =>
      have hMore := ih (by simp) (fun u hu => hOpens u (List.mem_cons_of_mem _ hu))
        (fun u hu => hItems u (List.mem_cons_of_mem _ hu))
      rw [itemsText_cons, List.length_append, List.length_append, toList_newLine, List.length_cons,
        List.length_cons] at hFuel
      obtain ⟨fuel, rfl⟩ : ∃ n, fuel = n + 1 := ⟨fuel - 1, by omega⟩
      have hValue := hItem depth fuel _ (by omega) (stops_comma (itemsText depth (w :: items) ++
        ((newLine outer).toList ++ ']' :: tail)))
      rw [itemsText_cons, List.append_assoc, List.append_assoc, skipSpace_newLine,
        (hOpensItem.append _).skipSpace, readItems, List.cons_append, hValue, ok_bind]
      dsimp only
      rw [skipSpace_cons rfl]
      show (readItems fuel (skipSpace _) >>= fun found => .ok (v :: found.1, found.2)) = _
      rw [hMore fuel (by omega)]
      rfl

/-- The text of some entries, each on a line of its own. -/
def entriesText (depth : Nat) (entries : Fields) : List Char :=
  (",".intercalate (writeEntries depth entries)).toList

/-- The text of an entry, with what follows it. -/
def entryText (depth : Nat) (key : String) (v : Value) (rest : List Char) : List Char :=
  '"' :: (key.toList.flatMap escapeChar ++ '"' :: ':' :: ' ' :: ((writeAt depth v).toList ++ rest))

theorem entriesText_one (depth : Nat) (key : String) (v : Value) (rest : List Char) :
    entriesText depth [(key, v)] ++ rest = (newLine depth).toList ++ entryText depth key v rest := by
  rw [entriesText, writeEntries, writeEntries, toList_intercalate_one, entryText]
  simp [toList_writeString]

theorem entriesText_cons (depth : Nat) (key : String) (v : Value) (e : String × Value)
    (entries : Fields) (rest : List Char) :
    entriesText depth ((key, v) :: e :: entries) ++ rest
      = (newLine depth).toList ++ entryText depth key v (',' :: (entriesText depth (e :: entries)
          ++ rest)) := by
  rw [entriesText, entriesText, writeEntries, writeEntries, toList_intercalate_cons, entryText]
  simp [toList_writeString]

/-- The key of an entry is read back, then its value. -/
theorem readEntries_entry {v : Value} (hOpens : ∀ depth, Opens (writeAt depth v).toList)
    (hValue : ReadsBack v) (depth fuel : Nat) (key : String) {rest : List Char} (hRest : Stops rest)
    (hFuel : (writeAt depth v).toList.length ≤ fuel) :
    readEntries (fuel + 1) (entryText depth key v rest) =
      match skipSpace rest with
      | '\x7d' :: rest => .ok ([(key, v)], rest)
      | ',' :: rest => readEntries fuel (skipSpace rest) >>= fun found =>
          .ok ((key, v) :: found.1, found.2)
      | rest => faultAt .expectedComma rest := by
  rw [entryText, readEntries, readString_write, ok_bind]
  dsimp only
  rw [skipSpace_cons rfl]
  show (readValue fuel (skipSpace (' ' :: ((writeAt depth v).toList ++ rest))) >>= _) = _
  have hBlank : skipSpace (' ' :: ((writeAt depth v).toList ++ rest))
      = (writeAt depth v).toList ++ rest := (hOpens depth |>.append rest).skipSpace
  rw [hBlank, hValue depth fuel rest hFuel hRest, ok_bind, String.ofList_toList]
  rfl

/-- Entries are read back, up to the closing brace. -/
theorem readEntries_write {entries : Fields} (hNil : entries ≠ [])
    (hOpens : ∀ e ∈ entries, ∀ depth, Opens (writeAt depth e.2).toList)
    (hEntries : ∀ e ∈ entries, ReadsBack e.2) (depth outer fuel : Nat) (tail : List Char)
    (hFuel : (entriesText depth entries).length ≤ fuel) :
    readEntries fuel (skipSpace (entriesText depth entries ++
      ((newLine outer).toList ++ '\x7d' :: tail))) = .ok (entries, tail) := by
  induction entries generalizing fuel with
  | nil => exact absurd rfl hNil
  | cons e entries ih =>
    obtain ⟨key, v⟩ := e
    have hOpensValue : ∀ depth, Opens (writeAt depth v).toList :=
      hOpens (key, v) (List.mem_cons_self ..)
    have hValue : ReadsBack v := hEntries (key, v) (List.mem_cons_self ..)
    have hSkip : ∀ rest, skipSpace (entryText depth key v rest) = entryText depth key v rest :=
      fun rest => skipSpace_cons rfl _
    cases entries with
    | nil =>
      have hLength := congrArg List.length (entriesText_one depth key v [])
      rw [List.append_nil, List.length_append, toList_newLine, entryText] at hLength
      simp only [List.length_cons, List.length_append, List.append_nil] at hLength
      obtain ⟨fuel, rfl⟩ : ∃ n, fuel = n + 1 := ⟨fuel - 1, by omega⟩
      rw [entriesText_one, skipSpace_newLine, hSkip, readEntries_entry hOpensValue hValue depth fuel
        key (stops_newLine outer _) (by omega), skipSpace_newLine, skipSpace_cons rfl]
      rfl
    | cons e entries =>
      have hMore := ih (by simp) (fun x hx => hOpens x (List.mem_cons_of_mem _ hx))
        (fun x hx => hEntries x (List.mem_cons_of_mem _ hx))
      have hLength := congrArg List.length (entriesText_cons depth key v e entries [])
      rw [List.append_nil, List.length_append, toList_newLine, entryText] at hLength
      simp only [List.length_cons, List.length_append, List.append_nil] at hLength
      obtain ⟨fuel, rfl⟩ : ∃ n, fuel = n + 1 := ⟨fuel - 1, by omega⟩
      rw [entriesText_cons, skipSpace_newLine, hSkip, readEntries_entry hOpensValue hValue depth fuel
        key (stops_comma _) (by omega), skipSpace_cons rfl]
      show (readEntries fuel (skipSpace _) >>= fun found => .ok ((key, v) :: found.1, found.2)) = _
      rw [hMore fuel (by omega)]
      rfl

theorem writeAt_list (depth : Nat) {items : List Value} (hNil : items ≠ []) :
    (writeAt depth (.list items)).toList
      = '[' :: (itemsText (depth + 1) items ++ ((newLine depth).toList ++ [']'])) := by
  rw [writeAt]
  · simp [itemsText]
  · exact hNil

theorem writeAt_mapping (depth : Nat) {entries : Fields} (hNil : entries ≠ []) :
    (writeAt depth (.mapping entries)).toList
      = '\x7b' :: (entriesText (depth + 1) entries ++ ((newLine depth).toList ++ ['\x7d'])) := by
  rw [writeAt]
  · simp [entriesText]
  · exact hNil

/-- The text of a value opens as a value does. -/
theorem writeAt_opens {v : Value} (h : v.Storable) (depth : Nat) :
    Opens (writeAt depth v).toList := by
  cases h with
  | null =>
    rw [writeAt]
    exact ⟨'n', _, rfl, rfl, by decide, by decide⟩
  | @bool b =>
    cases b with
    | true =>
      rw [writeAt]
      exact ⟨'t', _, rfl, rfl, by decide, by decide⟩
    | false =>
      rw [writeAt]
      exact ⟨'f', _, rfl, rfl, by decide, by decide⟩
  | @int n =>
    have hNumber := readNumber_int n stops_nil
    rw [List.append_nil] at hNumber
    rw [writeAt]
    exact opens_number hNumber
  | @float x hNumber hRegular =>
    rw [writeAt]
    cases x with
    | nan => exact absurd rfl hNumber
    | infinite negative =>
      cases negative with
      | true => exact ⟨'-', _, rfl, rfl, by decide, by decide⟩
      | false => exact ⟨'I', _, rfl, rfl, by decide, by decide⟩
    | finite negative m e =>
      have hRead := readNumber_double hRegular stops_nil
      rw [List.append_nil] at hRead
      rw [writeDouble, String.toList_ofList]
      · exact opens_number hRead
      all_goals
        intros
        contradiction
  | @text s =>
    rw [writeAt, toList_writeString]
    exact ⟨'"', _, rfl, rfl, by decide, by decide⟩
  | @list items hItems =>
    cases items with
    | nil =>
      rw [writeAt]
      exact ⟨'[', _, rfl, rfl, by decide, by decide⟩
    | cons v items =>
      rw [writeAt_list depth (by simp)]
      exact ⟨'[', _, rfl, rfl, by decide, by decide⟩
  | @mapping entries hKeys hValues =>
    cases entries with
    | nil =>
      rw [writeAt]
      exact ⟨'\x7b', _, rfl, rfl, by decide, by decide⟩
    | cons e entries =>
      rw [writeAt_mapping depth (by simp)]
      exact ⟨'\x7b', _, rfl, rfl, by decide, by decide⟩

/-- A list that is not closed at once has items. -/
theorem readValue_bracket (fuel : Nat) {rest tail : List Char} {c : Char}
    (hText : skipSpace rest = c :: tail) (hClose : c ≠ ']') :
    readValue (fuel + 1) ('[' :: rest)
      = readItems fuel (c :: tail) >>= fun found => .ok (.list found.1, found.2) := by
  unfold readValue
  split
  · next h => cases h
  · next h => cases h
  · next h =>
    cases h
    rw [hText]
    split
    · next h =>
      cases h
      exact absurd rfl hClose
    · rfl
  · next h =>
    exact absurd rfl (h rest)

/-- A mapping that is not closed at once has entries. -/
theorem readValue_brace (fuel : Nat) {rest tail : List Char} {c : Char}
    (hText : skipSpace rest = c :: tail) (hClose : c ≠ '\x7d') :
    readValue (fuel + 1) ('\x7b' :: rest) = readEntries fuel (c :: tail) >>= fun found =>
      .ok (.mapping (Fields.ofList found.1), found.2) := by
  unfold readValue
  split
  · next h => cases h
  · next h =>
    cases h
    rw [hText]
    split
    · next h =>
      cases h
      exact absurd rfl hClose
    · rfl
  · next h => cases h
  · next h _ =>
    exact absurd rfl (h rest)

theorem readValue_list {items : List Value} (hNil : items ≠ [])
    (hOpens : ∀ v ∈ items, ∀ depth, Opens (writeAt depth v).toList)
    (hItems : ∀ v ∈ items, ReadsBack v) : ReadsBack (.list items) := by
  intro depth fuel rest hFuel _
  rw [writeAt_list depth hNil, List.length_cons, List.length_append] at hFuel
  obtain ⟨fuel, rfl⟩ : ∃ n, fuel = n + 1 := ⟨fuel - 1, by omega⟩
  have hRead := readItems_write hNil hOpens hItems (depth + 1) depth fuel rest (by omega)
  -- the first item does not close the list
  obtain ⟨c, tail, hText, hSpace, hClose, -⟩ : Opens (skipSpace (itemsText (depth + 1) items ++
      ((newLine depth).toList ++ ']' :: rest))) := by
    obtain ⟨v, items, rfl⟩ := List.exists_cons_of_ne_nil hNil
    have hFirst := hOpens v (List.mem_cons_self ..) (depth + 1)
    cases items with
    | nil =>
      rw [itemsText_one, List.append_assoc, skipSpace_newLine, (hFirst.append _).skipSpace]
      exact hFirst.append _
    | cons w items =>
      rw [itemsText_cons, List.append_assoc, List.append_assoc, skipSpace_newLine,
        (hFirst.append _).skipSpace]
      exact hFirst.append _
  rw [writeAt_list depth hNil, List.cons_append, List.append_assoc, List.append_assoc]
  show readValue (fuel + 1) ('[' :: (itemsText (depth + 1) items ++
    ((newLine depth).toList ++ ']' :: rest))) = _
  rw [readValue_bracket fuel hText hClose, ← hText, hRead, ok_bind]

theorem readValue_mapping {entries : Fields} (hNil : entries ≠ [])
    (hKeys : (entries.map Prod.fst).Nodup)
    (hOpens : ∀ e ∈ entries, ∀ depth, Opens (writeAt depth e.2).toList)
    (hEntries : ∀ e ∈ entries, ReadsBack e.2) : ReadsBack (.mapping entries) := by
  intro depth fuel rest hFuel _
  rw [writeAt_mapping depth hNil, List.length_cons, List.length_append] at hFuel
  obtain ⟨fuel, rfl⟩ : ∃ n, fuel = n + 1 := ⟨fuel - 1, by omega⟩
  have hRead := readEntries_write hNil hOpens hEntries (depth + 1) depth fuel rest (by omega)
  -- the first key does not close the mapping
  obtain ⟨tail, hText⟩ : ∃ tail, skipSpace (entriesText (depth + 1) entries ++
      ((newLine depth).toList ++ '\x7d' :: rest)) = '"' :: tail := by
    obtain ⟨⟨key, v⟩, entries, rfl⟩ := List.exists_cons_of_ne_nil hNil
    cases entries with
    | nil =>
      rw [entriesText_one, skipSpace_newLine]
      exact ⟨_, skipSpace_cons rfl _⟩
    | cons e entries =>
      rw [entriesText_cons, skipSpace_newLine]
      exact ⟨_, skipSpace_cons rfl _⟩
  rw [writeAt_mapping depth hNil, List.cons_append, List.append_assoc, List.append_assoc]
  show readValue (fuel + 1) ('\x7b' :: (entriesText (depth + 1) entries ++
    ((newLine depth).toList ++ '\x7d' :: rest))) = _
  rw [readValue_brace fuel hText (by decide), ← hText, hRead, ok_bind, Fields.ofList_eq_self hKeys]

/-- A value whose text opens with none of the three marks is read back if it is read back as a
word or a number. -/
theorem readsBack_scalar {v : Value} {text : List Char}
    (hText : ∀ depth, (writeAt depth v).toList = text)
    (hOpens : ∃ c tail, text = c :: tail ∧ c ∉ ['"', '\x7b', '['])
    (hScalar : ∀ rest, Stops rest → readScalar (text ++ rest) = .ok (v, rest)) : ReadsBack v := by
  intro depth fuel rest hFuel hRest
  obtain ⟨c, tail, rfl, hMark⟩ := hOpens
  rw [hText] at hFuel ⊢
  rw [List.length_cons] at hFuel
  obtain ⟨fuel, rfl⟩ : ∃ n, fuel = n + 1 := ⟨fuel - 1, by omega⟩
  have hHead : ∀ d ∈ ['"', '\x7b', '['], ∀ more, c :: tail ++ rest ≠ d :: more := by
    intro d hd more hEq
    exact hMark ((List.cons.inj hEq).1 ▸ hd)
  rw [readValue_scalar (hHead _ (by simp)) (hHead _ (by simp)) (hHead _ (by simp))]
  exact hScalar rest hRest

/-- A number is read back. -/
theorem readsBack_number {v : Value} {text : List Char}
    (hText : ∀ depth, (writeAt depth v).toList = text)
    (hNumber : ∀ rest, Stops rest → readNumber (text ++ rest) = some (v, rest)) : ReadsBack v := by
  have hBare := hNumber [] stops_nil
  rw [List.append_nil] at hBare
  obtain ⟨negative, d, tail, hOpens, hDigit⟩ := readNumber_opens hBare
  refine readsBack_scalar hText ?_ fun rest hRest => readScalar_number (hNumber rest hRest)
  cases negative with
  | true => exact ⟨'-', d :: tail, hOpens, by decide⟩
  | false =>
    refine ⟨d, tail, hOpens, ?_⟩
    intro hMark
    simp only [List.mem_cons, List.not_mem_nil, or_false] at hMark
    rcases hMark with rfl | rfl | rfl <;> cases hDigit

/-- **A value is read back**, whatever follows in the text. -/
theorem readValue_write {v : Value} (h : v.Storable) : ReadsBack v := by
  induction h with
  | null =>
    exact readsBack_scalar (fun _ => by rw [writeAt]; rfl) ⟨'n', "ull".toList, rfl, by decide⟩
      fun _ _ => rfl
  | @bool b =>
    cases b with
    | true =>
      exact readsBack_scalar (fun _ => by rw [writeAt]; rfl) ⟨'t', "rue".toList, rfl, by decide⟩
        fun _ _ => rfl
    | false =>
      exact readsBack_scalar (fun _ => by rw [writeAt]; rfl) ⟨'f', "alse".toList, rfl, by decide⟩
        fun _ _ => rfl
  | @int n =>
    exact readsBack_number (fun _ => by rw [writeAt]) fun rest hRest => readNumber_int n hRest
  | @float x hNumber hRegular =>
    cases x with
    | nan => exact absurd rfl hNumber
    | infinite negative =>
      cases negative with
      | true =>
        exact readsBack_scalar (fun _ => by rw [writeAt, writeDouble]; rfl)
          ⟨'-', "Infinity".toList, rfl, by decide⟩ fun _ _ => rfl
      | false =>
        exact readsBack_scalar (fun _ => by rw [writeAt, writeDouble]; rfl)
          ⟨'I', "nfinity".toList, rfl, by decide⟩ fun _ _ => rfl
    | finite negative m e =>
      refine readsBack_number (fun _ => ?_) fun rest hRest => readNumber_double hRegular hRest
      rw [writeAt]
      exact String.toList_ofList
  | @text s =>
    intro depth fuel rest hFuel _
    rw [writeAt, toList_writeString] at hFuel ⊢
    obtain ⟨fuel, rfl⟩ : ∃ n, fuel = n + 1 := ⟨fuel - 1, by rw [List.length_cons] at hFuel; omega⟩
    rw [List.cons_append, List.append_assoc]
    show (readString _ (s.toList.flatMap escapeChar ++ '"' :: rest) >>= fun found =>
      .ok (Value.text (String.ofList found.1), found.2)) = _
    rw [readString_write, ok_bind, String.ofList_toList]
  | @list items hItems ih =>
    by_cases hNil : items = []
    · subst hNil
      intro depth fuel rest hFuel _
      rw [writeAt] at hFuel ⊢
      obtain ⟨fuel, rfl⟩ : ∃ n, fuel = n + 1 := ⟨fuel - 1, by simp at hFuel; omega⟩
      rfl
    · exact readValue_list hNil (fun v hv depth => writeAt_opens (hItems v hv) depth) ih
  | @mapping entries hKeys hValues ih =>
    by_cases hNil : entries = []
    · subst hNil
      intro depth fuel rest hFuel _
      rw [writeAt] at hFuel ⊢
      obtain ⟨fuel, rfl⟩ : ∃ n, fuel = n + 1 := ⟨fuel - 1, by simp at hFuel; omega⟩
      rfl
    · exact readValue_mapping hNil hKeys (fun e he depth => writeAt_opens (hValues e he) depth) ih

/-- **A text that has been written is read as the value it is of.** -/
theorem read_write {v : Value} (h : v.Storable) : read (write v) = .ok v := by
  obtain ⟨c, tail, hText, hSpace, -, hMark⟩ := writeAt_opens h 0
  have hOpens : Opens (write v).toList := writeAt_opens h 0
  have hWhole : readWhole (write v).toList = .ok v := by
    have hValue := readValue_write h 0 (2 * (write v).toList.length + 2) [] (by
      show (write v).toList.length ≤ _
      omega) stops_nil
    rw [List.append_nil] at hValue
    rw [readWhole, hOpens.skipSpace]
    show (readValue _ (writeAt 0 v).toList >>= _) = _
    rw [hValue]
    rfl
  have hNoMark : (write v).toList.head? ≠ some byteOrderMark := by
    show (writeAt 0 v).toList.head? ≠ _
    rw [hText]
    exact fun hEq => hMark (Option.some.inj hEq)
  rw [read, if_neg hNoMark, readText, hWhole]

end Json

end Lexicon
