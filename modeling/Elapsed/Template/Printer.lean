import Elapsed.Template.Basic

/-!
# Writing templates

The plainest text of nodes (`Node.writeAll`), and the lists of nodes that some template is read
into (`Node.AllExpressible`): no literal is empty, a literal of two or more characters holds no
brace and no backslash and does not follow another such literal, and every placeholder has a code.
-/

namespace Elapsed

/-! ## Texts -/

/-- The plainest text of a node. A single character is protected by a backslash, and a span without
a code stands for an invalid node. -/
def Node.write : Node → List Char
  | .literal [c] => ['\\', c]
  | .literal text => text
  | .placeholder p => '{' :: p.code ++ ['}']
  | .invalid => ['{', '}']

/-- The plainest text of nodes. -/
def Node.writeAll (nodes : List Node) : List Char :=
  nodes.flatMap Node.write

/-! ## What can be written -/

/-- Whether a placeholder has a code: a letter at least, and behind a question mark only a text
that does not close the span. -/
def Placeholder.Expressible (p : Placeholder) : Prop :=
  1 ≤ p.digits ∧ '}' ∉ p.tail ∧ (p.optional = false → p.tail = [])

/-- Whether a node is a literal of two or more characters. -/
def Node.isLong : Node → Bool
  | .literal text => 2 ≤ text.length
  | _ => false

/-- Whether a node can come from a template. -/
def Node.Expressible : Node → Prop
  | .literal text => text ≠ [] ∧ (2 ≤ text.length → ∀ c ∈ text, Segment.isPlain c)
  | .placeholder p => p.Expressible
  | .invalid => True

/-- Whether nodes can come from a template one after the other. -/
def Node.AllExpressible : List Node → Prop
  | [] => True
  | n :: rest =>
    n.Expressible ∧ (n.isLong → ∀ next ∈ rest.head?, ¬ next.isLong) ∧ AllExpressible rest

end Elapsed
