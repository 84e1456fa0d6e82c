import Lexicon.Schema.Node

/-!
# Lexicon — equal nodes

Two nodes are equal when they are of one kind and say the same; in which order an
object lists its properties does not matter, while the order of everything else
does.

* `Node.same`, `ObjectSchema.same` — the tests.
-/

namespace Lexicon.Schema

mutual

/-- Do two nodes say the same? -/
def Node.same : Node → Node → Bool
  | .leaf d l, .leaf d' l' => d == d' && l == l'
  | .array d i r, .array d' i' r' => d == d' && i.same i' && r == r'
  | .object s, .object s' => s.same s'
  | .params d ps r, .params d' ps' r' =>
    d == d' && ps.length == ps'.length && sameProperties ps ps' && r == r'
  | .record d k s, .record d' k' s' => d == d' && k == k' && s.same s'
  | .query d p o es, .query d' p' o' es' =>
    d == d' && sameOptional p p' && sameBody o o' && es == es'
  | .procedure d p i o es, .procedure d' p' i' o' es' =>
    d == d' && sameOptional p p' && sameBody i i' && sameBody o o' && es == es'
  | .subscription d p m es, .subscription d' p' m' es' =>
    d == d' && sameOptional p p' && sameMessage m m' && es == es'
  | _, _ => false

/-- Do two object schemas say the same? -/
def ObjectSchema.same : ObjectSchema → ObjectSchema → Bool
  | .mk d ps r n, .mk d' ps' r' n' =>
    d == d' && ps.length == ps'.length && sameProperties ps ps' && r == r' && n == n'

/-- Has every property an equal one of the same name among the others? -/
def sameProperties : List (String × Node) → List (String × Node) → Bool
  | [], _ => true
  | (name, node) :: rest, others =>
    (match others.lookup name with
      | some other => node.same other
      | none => false) && sameProperties rest others

/-- Are both nodes absent, or both there and equal? -/
def sameOptional : Option Node → Option Node → Bool
  | none, none => true
  | some a, some b => a.same b
  | _, _ => false

/-- Are both bodies absent, or both there and equal? -/
def sameBody : Option (Body Node) → Option (Body Node) → Bool
  | none, none => true
  | some ⟨e, none, d⟩, some ⟨e', none, d'⟩ => e == e' && d == d'
  | some ⟨e, some a, d⟩, some ⟨e', some b, d'⟩ => e == e' && a.same b && d == d'
  | _, _ => false

/-- Are both messages absent, or both there and equal? -/
def sameMessage : Option (Message Node) → Option (Message Node) → Bool
  | none, none => true
  | some ⟨a, d⟩, some ⟨b, d'⟩ => a.same b && d == d'
  | _, _ => false

end

end Lexicon.Schema
