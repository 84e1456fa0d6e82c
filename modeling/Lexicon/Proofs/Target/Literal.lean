import Lexicon.Target.Syntax

/-!
# Lexicon — string literals read back

A literal is read character by character: a backslash announces an escape, a quote ends the
literal, and any other character stands for itself. What the escapes are depends on the reader. A
literal that is written here needs two of them, the backslash and the quote, and every reader that
knows these two reads it back.

* `readUntilQuote`, `readLiteralWith` — readers of any escapes.
* `flatMap_escaped`      — escaping is two replacements, one after the other.
* `readUntilQuote_text`, `readLiteralWith_literal` — what a reader of the two escapes reads.
* `readLiteral`          — reads the literal that a text opens with.
* `readLiteral_literal`  — a literal that was written is read as the text it was written for,
                           whatever follows it.
-/

namespace Lexicon.Target

-- ---------------------------------------------------------------------------
-- Readers
-- ---------------------------------------------------------------------------

/-- What a character stands for behind a backslash. -/
def unescaped? (c : Char) : Option Char :=
  [('\\', '\\'), ('"', '"'), ('\'', '\''), ('n', '\n'), ('r', '\r'), ('t', '\t'),
    ('0', '\x00')].lookup c

/-- Reads up to the closing quote: what stands before it, and what comes after it. -/
def readQuoted : List Char → Option (List Char × List Char)
  | '"' :: rest => some ([], rest)
  | '\\' :: d :: rest =>
    match unescaped? d with
    | some c => (readQuoted rest).map fun (text, left) => (c :: text, left)
    | none => none
  | c :: rest => (readQuoted rest).map fun (text, left) => (c :: text, left)
  | [] => none

/-- Reads the literal that a text opens with: the text it stands for, and what comes after
it. -/
def readLiteral : List Char → Option (String × List Char)
  | '"' :: rest => (readQuoted rest).map fun (text, left) => (String.ofList text, left)
  | _ => none

/-- Reads up to the first quote that no backslash escapes: what the text before it stands for, and
what comes after it. Behind a backslash a character stands for what `escapes` has for it. -/
def readUntilQuote (escapes : Char → Option Char) : List Char → Option (List Char × List Char)
  | '"' :: rest => some ([], rest)
  | '\\' :: d :: rest =>
    match escapes d with
    | some c => (readUntilQuote escapes rest).map fun (text, left) => (c :: text, left)
    | none => none
  | c :: rest => (readUntilQuote escapes rest).map fun (text, left) => (c :: text, left)
  | [] => none

/-- Reads the literal that a text opens with, by the escapes of a reader. -/
def readLiteralWith (escapes : Char → Option Char) : List Char → Option (String × List Char)
  | '"' :: rest =>
    (readUntilQuote escapes rest).map fun (text, left) => (String.ofList text, left)
  | _ => none

/-- The reader of all escapes is one of these. -/
theorem readQuoted_eq (text : List Char) : readQuoted text = readUntilQuote unescaped? text := by
  fun_induction readQuoted text with
  | case1 rest => rfl
  | case2 d rest c hEscape ih => rw [readUntilQuote, hEscape, ih]
  | case3 d rest hEscape => rw [readUntilQuote, hEscape]
  | case4 c rest hQuote hBackslash ih =>
    rw [readUntilQuote, ih]
    · exact hQuote
    · exact hBackslash
  | case5 => rfl

theorem readLiteral_eq (text : List Char) :
    readLiteral text = readLiteralWith unescaped? text := by
  rw [readLiteral.eq_def, readLiteralWith.eq_def]
  simp only [readQuoted_eq]

-- ---------------------------------------------------------------------------
-- Escaping
-- ---------------------------------------------------------------------------

/-- The text with `image` in the place of each `c`. -/
def replaced (c : Char) (image text : List Char) : List Char :=
  text.flatMap fun d => if d = c then image else [d]

/-- **Escaping is two replacements.** The backslashes come first, since replacing the quotes makes
new ones. -/
theorem flatMap_escaped (text : List Char) :
    text.flatMap escaped = replaced '"' ['\\', '"'] (replaced '\\' ['\\', '\\'] text) := by
  have hEach : ∀ c, escaped c = (if c = '\\' then ['\\', '\\'] else [c]).flatMap fun d =>
      if d = '"' then ['\\', '"'] else [d] := by
    intro c
    by_cases hBackslash : c = '\\'
    · simp [escaped, hBackslash]
    · simp [escaped, hBackslash]
  rw [replaced, replaced, List.flatMap_assoc]
  exact congrArg text.flatMap (funext hEach)

-- ---------------------------------------------------------------------------
-- Reading what was written
-- ---------------------------------------------------------------------------

section Reading

variable {escapes : Char → Option Char} (hBackslash : escapes '\\' = some '\\')
  (hQuote : escapes '"' = some '"')

include hBackslash hQuote

/-- A character is read back from what stands for it. -/
theorem readUntilQuote_escaped (c : Char) (rest : List Char) :
    readUntilQuote escapes (escaped c ++ rest) =
      (readUntilQuote escapes rest).map fun (text, left) => (c :: text, left) := by
  rw [escaped]
  split
  · rename_i hIs
    simp [readUntilQuote, hBackslash, hIs]
  · split
    · rename_i hIs
      simp [readUntilQuote, hQuote, hIs]
    · rename_i hNoBackslash hNoQuote
      rw [List.singleton_append, readUntilQuote]
      · exact hNoQuote
      · exact fun _ _ h _ => hNoBackslash h

/-- No quote or backslash of the text ends it early: only the closing quote does. -/
theorem readUntilQuote_text (text rest : List Char) :
    readUntilQuote escapes (text.flatMap escaped ++ '"' :: rest) = some (text, rest) := by
  induction text with
  | nil => rw [List.flatMap_nil, List.nil_append, readUntilQuote]
  | cons c later ih =>
    rw [List.flatMap_cons, List.append_assoc, readUntilQuote_escaped hBackslash hQuote, ih]
    rfl

/-- **A literal stands for its text**, for every reader that knows the two escapes. -/
theorem readLiteralWith_literal (text : String) (rest : List Char) :
    readLiteralWith escapes ((literal text).toList ++ rest) = some (text, rest) := by
  have hChars : (literal text).toList ++ rest =
      '"' :: (text.toList.flatMap escaped ++ '"' :: rest) := by
    rw [literal, String.toList_ofList]
    simp
  rw [hChars, readLiteralWith, readUntilQuote_text hBackslash hQuote]
  exact congrArg (fun t => some (t, rest)) String.ofList_toList

end Reading

/-- **A literal stands for its text.** -/
theorem readLiteral_literal (text : String) (rest : List Char) :
    readLiteral ((literal text).toList ++ rest) = some (text, rest) := by
  have hBackslash : unescaped? '\\' = some '\\' := rfl
  have hQuote : unescaped? '"' = some '"' := rfl
  rw [readLiteral_eq]
  exact readLiteralWith_literal hBackslash hQuote text rest

end Lexicon.Target
