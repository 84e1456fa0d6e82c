import Lexicon.Encoding.Unicode

/-!
# Lexicon — text through bytes and back

What is written as UTF-8 is decoded as it was, and as long as no carriage return is in it, it
is also what is read from a file.

* `Utf8.opening_char`      — the bytes of a character, whatever follows them, open with it.
* `Utf8.decode_encode`     — decoding undoes encoding.
* `fileText_encode`        — a text without carriage returns is read back from a file.
-/

namespace Lexicon.Encoding

namespace Utf8

-- ---------------------------------------------------------------------------
-- Bytes
-- ---------------------------------------------------------------------------

theorem toNat_byte {n : Nat} (h : n < 256) : (UInt8.ofNat n).toNat = n := by
  rw [UInt8.toNat_ofNat']
  exact Nat.mod_eq_of_lt h

/-- The bytes that are left are put behind those that were passed. -/
theorem toList_loop (bytes : ByteArray) (i : Nat) (passed : List UInt8) :
    ByteArray.toList.loop bytes i passed = passed.reverse ++ bytes.data.toList.drop i := by
  induction i, passed using ByteArray.toList.loop.induct bytes with
  | case1 i passed hLt ih =>
    have hLen : i < bytes.data.toList.length := by
      rw [Array.length_toList]
      exact hLt
    have hGet : bytes.get! i = bytes.data.toList[i] := by
      show bytes.data[i]! = _
      rw [getElem!_pos bytes.data i (by simpa using hLen), Array.getElem_toList]
    rw [ByteArray.toList.loop, if_pos hLt, ih, List.reverse_cons, List.append_assoc,
      List.drop_eq_getElem_cons hLen, hGet]
    rfl
  | case2 i passed hGe =>
    have hDrop : bytes.data.toList.drop i = [] := by
      rw [List.drop_eq_nil_iff, Array.length_toList]
      exact Nat.le_of_not_lt hGe
    rw [ByteArray.toList.loop, if_neg hGe, hDrop, List.append_nil]

/-- The bytes of a text are those of its characters, one after the other. -/
theorem encode_eq (text : String) : encode text = text.toList.flatMap String.utf8EncodeChar := by
  have hBytes : text.toUTF8.data.toList = text.toList.flatMap String.utf8EncodeChar := by
    show text.toByteArray.data.toList = _
    rw [← String.utf8Encode_toList, List.utf8Encode, List.data_toByteArray]
  rw [encode, ByteArray.toList, toList_loop, hBytes]
  rfl

-- ---------------------------------------------------------------------------
-- Characters
-- ---------------------------------------------------------------------------

/-- A byte made of six bits continues a sequence, and gives them back. -/
theorem isTail_byte (n : Nat) : isTail (UInt8.ofNat (n % 64 + 128)) = true := by
  have hByte : (UInt8.ofNat (n % 64 + 128)).toNat = n % 64 + 128 := toNat_byte (by omega)
  simp only [isTail, Bool.and_eq_true, decide_eq_true_eq, UInt8.le_iff_toNat_le, hByte]
  constructor
  · show 128 ≤ n % 64 + 128
    omega
  · show n % 64 + 128 ≤ 191
    omega

theorem tailBits_byte (n : Nat) : tailBits (UInt8.ofNat (n % 64 + 128)) = n % 64 := by
  have hByte : (UInt8.ofNat (n % 64 + 128)).toNat = n % 64 + 128 := toNat_byte (by omega)
  unfold tailBits
  omega

theorem byte_lt_iff {n : Nat} (h : n < 256) (b : UInt8) : UInt8.ofNat n < b ↔ n < b.toNat := by
  rw [UInt8.lt_iff_toNat_lt, toNat_byte h]

theorem lt_byte_iff {n : Nat} (h : n < 256) (b : UInt8) : b < UInt8.ofNat n ↔ b.toNat < n := by
  rw [UInt8.lt_iff_toNat_lt, toNat_byte h]

theorem byte_eq_iff {n : Nat} (h : n < 256) (b : UInt8) : UInt8.ofNat n = b ↔ n = b.toNat := by
  rw [← UInt8.toNat_inj, toNat_byte h]

/-- A byte in this range is no character by itself, and may be the first of several. -/
theorem leads_byte {n : Nat} (hLow : 194 ≤ n) (hHigh : n ≤ 244) :
    ¬ UInt8.ofNat n < 0x80 ∧ ¬ (UInt8.ofNat n < 0xC2 ∨ 0xF4 < UInt8.ofNat n) := by
  have hByte : n < 256 := by omega
  rw [byte_lt_iff hByte, byte_lt_iff hByte, lt_byte_iff hByte]
  show ¬ n < 128 ∧ ¬ (n < 194 ∨ 244 < n)
  omega

/-- A second byte that continues a sequence fits its first one, unless the first is one of the
four after which not every byte may stand. -/
theorem fits_of_isTail {lead second : UInt8} (hTail : isTail second = true)
    (hLow : lead = 0xE0 → 0xA0 ≤ second) (hHigh : lead = 0xED → second < 0xA0)
    (hLowest : lead = 0xF0 → 0x90 ≤ second) (hHighest : lead = 0xF4 → second < 0x90) :
    fits lead second = true := by
  simp only [fits, hTail, Bool.true_and, Bool.and_eq_true, Bool.not_eq_true', Bool.and_eq_false_iff,
    beq_eq_false_iff_ne, decide_eq_false_iff_not, UInt8.not_lt, UInt8.not_le]
  refine ⟨⟨⟨?_, ?_⟩, ?_⟩, ?_⟩
  · exact Decidable.or_iff_not_imp_left.mpr fun h => hLow (Decidable.not_not.mp h)
  · exact Decidable.or_iff_not_imp_left.mpr fun h => hHigh (Decidable.not_not.mp h)
  · exact Decidable.or_iff_not_imp_left.mpr fun h => hLowest (Decidable.not_not.mp h)
  · exact Decidable.or_iff_not_imp_left.mpr fun h => hHighest (Decidable.not_not.mp h)

section Opening

variable {v : Nat} (rest : List UInt8)

theorem opening_one (h : v ≤ 127) :
    opening (UInt8.ofNat v :: rest) = .char (Char.ofNat v) rest := by
  have hByte : (UInt8.ofNat v).toNat = v := toNat_byte (by omega)
  have hLt : UInt8.ofNat v < 0x80 := by
    rw [byte_lt_iff (by omega)]
    show v < 128
    omega
  simp only [opening, if_pos hLt, hByte]

theorem opening_two (hLow : 127 < v) (hHigh : v ≤ 2047) :
    opening (UInt8.ofNat (v / 64 % 32 + 192) :: UInt8.ofNat (v % 64 + 128) :: rest)
      = .char (Char.ofNat v) rest := by
  have hLead : v / 64 % 32 + 192 < 256 := by omega
  have hByte := toNat_byte hLead
  obtain ⟨hAscii, hStart⟩ := leads_byte (n := v / 64 % 32 + 192) (by omega) (by omega)
  have hTwo : UInt8.ofNat (v / 64 % 32 + 192) < 0xE0 := by
    rw [byte_lt_iff hLead]
    show _ < 224
    omega
  have hValue : (v / 64 % 32 + 192 - 0xC0) * 64 + v % 64 = v := by omega
  simp only [opening, if_neg hAscii, Bool.or_eq_true, decide_eq_true_eq, if_neg hStart, if_pos hTwo,
    isTail_byte, if_true, hByte, tailBits_byte, hValue]

/-- The range of the characters that is left out is that of the halves. -/
theorem opening_three (hLow : 2047 < v) (hHigh : v ≤ 65535) (hHalves : v < 0xD800 ∨ 0xDFFF < v) :
    opening (UInt8.ofNat (v / 4096 % 16 + 224) :: UInt8.ofNat (v / 64 % 64 + 128) ::
      UInt8.ofNat (v % 64 + 128) :: rest) = .char (Char.ofNat v) rest := by
  have hLead : v / 4096 % 16 + 224 < 256 := by omega
  have hSecond : v / 64 % 64 + 128 < 256 := by omega
  have hByte := toNat_byte hLead
  obtain ⟨hAscii, hStart⟩ := leads_byte (n := v / 4096 % 16 + 224) (by omega) (by omega)
  have hTwo : ¬ UInt8.ofNat (v / 4096 % 16 + 224) < 0xE0 := by
    rw [byte_lt_iff hLead]
    show ¬ _ < 224
    omega
  have hThree : UInt8.ofNat (v / 4096 % 16 + 224) < 0xF0 := by
    rw [byte_lt_iff hLead]
    show _ < 240
    omega
  have hFits : fits (UInt8.ofNat (v / 4096 % 16 + 224)) (UInt8.ofNat (v / 64 % 64 + 128))
      = true := by
    refine fits_of_isTail (isTail_byte _) ?_ ?_ ?_ ?_
    · rw [byte_eq_iff hLead, UInt8.le_iff_toNat_le, toNat_byte hSecond]
      show _ = 224 → 160 ≤ _
      omega
    · rw [byte_eq_iff hLead, byte_lt_iff hSecond]
      show _ = 237 → _ < 160
      omega
    · rw [byte_eq_iff hLead]
      show _ = 240 → _
      omega
    · rw [byte_eq_iff hLead]
      show _ = 244 → _
      omega
  have hValue : ((v / 4096 % 16 + 224 - 0xE0) * 64 + v / 64 % 64) * 64 + v % 64 = v := by omega
  simp only [opening, if_neg hAscii, Bool.or_eq_true, decide_eq_true_eq, if_neg hStart,
    if_neg hTwo, if_pos hThree, hFits, Bool.not_true, Bool.false_eq_true, if_false, isTail_byte,
    if_true, hByte, tailBits_byte, hValue]

theorem opening_four (hLow : 65535 < v) (hHigh : v < 0x110000) :
    opening (UInt8.ofNat (v / 262144 % 8 + 240) :: UInt8.ofNat (v / 4096 % 64 + 128) ::
      UInt8.ofNat (v / 64 % 64 + 128) :: UInt8.ofNat (v % 64 + 128) :: rest)
      = .char (Char.ofNat v) rest := by
  have hLead : v / 262144 % 8 + 240 < 256 := by omega
  have hSecond : v / 4096 % 64 + 128 < 256 := by omega
  have hByte := toNat_byte hLead
  obtain ⟨hAscii, hStart⟩ := leads_byte (n := v / 262144 % 8 + 240) (by omega) (by omega)
  have hTwo : ¬ UInt8.ofNat (v / 262144 % 8 + 240) < 0xE0 := by
    rw [byte_lt_iff hLead]
    show ¬ _ < 224
    omega
  have hThree : ¬ UInt8.ofNat (v / 262144 % 8 + 240) < 0xF0 := by
    rw [byte_lt_iff hLead]
    show ¬ _ < 240
    omega
  have hFits : fits (UInt8.ofNat (v / 262144 % 8 + 240)) (UInt8.ofNat (v / 4096 % 64 + 128))
      = true := by
    refine fits_of_isTail (isTail_byte _) ?_ ?_ ?_ ?_
    · rw [byte_eq_iff hLead]
      show _ = 224 → _
      omega
    · rw [byte_eq_iff hLead]
      show _ = 237 → _
      omega
    · rw [byte_eq_iff hLead, UInt8.le_iff_toNat_le, toNat_byte hSecond]
      show _ = 240 → 144 ≤ _
      omega
    · rw [byte_eq_iff hLead, byte_lt_iff hSecond]
      show _ = 244 → _ < 144
      omega
  have hValue : (((v / 262144 % 8 + 240 - 0xF0) * 64 + v / 4096 % 64) * 64 + v / 64 % 64) * 64
      + v % 64 = v := by omega
  simp only [opening, if_neg hAscii, Bool.or_eq_true, decide_eq_true_eq, if_neg hStart,
    if_neg hTwo, if_neg hThree, hFits, Bool.not_true, Bool.false_eq_true, if_false, isTail_byte,
    if_true, hByte, tailBits_byte, hValue]

end Opening

/-- **The bytes of a character open with that character**, whatever follows them. -/
theorem opening_char (c : Char) (rest : List UInt8) :
    opening (String.utf8EncodeChar c ++ rest) = .char c rest := by
  have hValid : c.val.toNat < 0xD800 ∨ 0xDFFF < c.val.toNat ∧ c.val.toNat < 0x110000 := c.valid
  have hChar : Char.ofNat c.val.toNat = c := Char.ofNat_toNat c
  unfold String.utf8EncodeChar
  dsimp only
  generalize c.val.toNat = v at hValid hChar
  subst hChar
  split
  · next hOne => exact opening_one rest hOne
  · split
    · next hOne hTwo => exact opening_two rest (by omega) hTwo
    · split
      · next hOne hTwo hThree => exact opening_three rest (by omega) hThree (by omega)
      · next hOne hTwo hThree => exact opening_four rest (by omega) (by omega)

-- ---------------------------------------------------------------------------
-- Texts
-- ---------------------------------------------------------------------------

/-- With one step for each character and one to see the end, all characters are decoded. -/
theorem decodeFrom_chars (cs : List Char) (fuel offset : Nat) (read : List Char)
    (hFuel : cs.length < fuel) :
    decodeFrom fuel offset read (cs.flatMap String.utf8EncodeChar) = .ok (read.reverse ++ cs) := by
  induction cs generalizing fuel offset read with
  | nil =>
    obtain ⟨fuel, rfl⟩ : ∃ n, fuel = n + 1 := ⟨fuel - 1, by simp at hFuel; omega⟩
    rw [List.append_nil]
    rfl
  | cons c cs ih =>
    obtain ⟨fuel, rfl⟩ : ∃ n, fuel = n + 1 := ⟨fuel - 1, by simp at hFuel; omega⟩
    rw [List.flatMap_cons, decodeFrom, opening_char]
    show decodeFrom fuel _ (c :: read) _ = _
    rw [ih fuel _ (c :: read) (by simpa using hFuel), List.reverse_cons, List.append_assoc]
    rfl

theorem length_le_encoded (cs : List Char) :
    cs.length ≤ (cs.flatMap String.utf8EncodeChar).length := by
  induction cs with
  | nil => exact Nat.le_refl 0
  | cons c cs ih =>
    have hChar : 0 < (String.utf8EncodeChar c).length :=
      List.length_pos_iff.mpr String.utf8EncodeChar_ne_nil
    rw [List.flatMap_cons, List.length_append, List.length_cons]
    omega

/-- **Decoding undoes encoding.** -/
theorem decode_encode (text : String) : decode (encode text) = .ok text.toList := by
  rw [decode, encode_eq]
  exact decodeFrom_chars text.toList _ 0 [] (Nat.lt_succ_of_le (length_le_encoded text.toList))

end Utf8

-- ---------------------------------------------------------------------------
-- Files
-- ---------------------------------------------------------------------------

theorem unifyLineEnds_eq_self {cs : List Char} (h : '\r' ∉ cs) : unifyLineEnds cs = cs := by
  induction cs with
  | nil => rfl
  | cons c cs ih =>
    rw [List.mem_cons, not_or] at h
    obtain ⟨hHead, hTail⟩ := h
    rw [unifyLineEnds, ih hTail]
    · rintro rest rfl
      exact absurd rfl hHead
    · rintro rfl
      exact absurd rfl hHead

/-- **A text without carriage returns is read from a file as it was written.** -/
theorem fileText_encode {text : String} (h : '\r' ∉ text.toList) :
    fileText (Utf8.encode text) = .ok text.toList := by
  rw [fileText, Utf8.decode_encode]
  show Except.ok (unifyLineEnds text.toList) = _
  rw [unifyLineEnds_eq_self h]

end Lexicon.Encoding
