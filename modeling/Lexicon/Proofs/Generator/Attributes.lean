import Lexicon.Generator
import Lexicon.Proofs.Target.Literal

/-!
# Lexicon — attributes and the literals in them

An attribute sets a key to a text, which stands in it as a string literal. Whoever reads it goes
from the opening quote to the first quote that is not escaped. Wire names, the tails of references
and tags are any texts, with quotes and backslashes in any order, and none of them makes a reader
stop before its end or go beyond it.

* `toList_serdeAttribute` — the parts of an attribute.
* `literal_delimited`     — a literal is read as its text, up to its own closing quote, and so is
                            the literal of an attribute.
-/

namespace Lexicon.Generator

open Target

/-- An attribute is its opening with the key, the literal, and what closes it. -/
theorem toList_serdeAttribute (key value : String) :
    (serdeAttribute key value).toList =
      ("#[serde(" ++ key ++ " = ").toList ++ ((literal value).toList ++ [')', ']']) := by
  rw [serdeAttribute, String.toList_append, String.toList_append, List.append_assoc]
  rfl

/-- What follows the key of an attribute, with any text behind the attribute. -/
theorem drop_serdeAttribute (key value : String) (rest : List Char) :
    ((serdeAttribute key value).toList ++ rest).drop ("#[serde(" ++ key ++ " = ").toList.length =
      (literal value).toList ++ ')' :: ']' :: rest := by
  rw [toList_serdeAttribute, List.append_assoc, List.drop_left, List.append_assoc]
  rfl

/-- **Literals are delimited.** The literal of a text is the text with its backslashes doubled and
then its quotes escaped, between quotes. A reader that knows these two escapes, whatever others it
knows, reads from it this text and leaves what follows the literal; in an attribute this is what
closes the attribute. Different texts have different literals. -/
theorem literal_delimited {escapes : Char → Option Char} (hBackslash : escapes '\\' = some '\\')
    (hQuote : escapes '"' = some '"') (value : String) :
    (literal value).toList =
        '"' :: replaced '"' ['\\', '"'] (replaced '\\' ['\\', '\\'] value.toList) ++ ['"'] ∧
      (∀ rest, readLiteralWith escapes ((literal value).toList ++ rest) = some (value, rest)) ∧
      (∀ key rest, readLiteralWith escapes
          (((serdeAttribute key value).toList ++ rest).drop
            ("#[serde(" ++ key ++ " = ").toList.length) = some (value, ')' :: ']' :: rest)) ∧
      ∀ other, literal value = literal other ↔ value = other := by
  have hRead := fun text rest => readLiteralWith_literal hBackslash hQuote text rest
  refine ⟨?_, hRead value, fun key rest => ?_, fun other => ⟨fun hSame => ?_, congrArg literal⟩⟩
  · rw [literal, String.toList_ofList, flatMap_escaped]
  · rw [drop_serdeAttribute, hRead]
  · -- one literal cannot be read as two texts
    have hValue := hRead value []
    rw [hSame, hRead other []] at hValue
    exact (Prod.mk.inj (Option.some.inj hValue)).1.symm

/-- The two escapes that a literal needs, and no other. -/
def twoEscapes (c : Char) : Option Char := if c = '\\' ∨ c = '"' then some c else none

/-- A text that looks like the end of its attribute, with a backslash at its own end, and a quote
behind the attribute. -/
theorem literal_delimited_closing :
    twoEscapes '\\' = some '\\' ∧ twoEscapes '"' = some '"' ∧
    literal "a\")]\\" = "\"a\\\")]\\\\\"" ∧
    readLiteralWith twoEscapes ((literal "a\")]\\").toList ++ ['"']) =
      some ("a\")]\\", ['"']) ∧
    readLiteralWith twoEscapes (((serdeAttribute "tag" "a\")]\\").toList ++ ['"']).drop
      ("#[serde(" ++ "tag" ++ " = ").toList.length) = some ("a\")]\\", [')', ']', '"']) := by
  have hBackslash : twoEscapes '\\' = some '\\' := by decide
  have hQuote : twoEscapes '"' = some '"' := by decide
  obtain ⟨-, hRead, hAttribute, -⟩ := literal_delimited hBackslash hQuote "a\")]\\"
  exact ⟨hBackslash, hQuote, by decide, hRead ['"'], hAttribute "tag" ['"']⟩

end Lexicon.Generator
