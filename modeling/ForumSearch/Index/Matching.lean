import ForumSearch.Index.Expression
import ForumSearch.Index.Term

/-!
When a stored text satisfies a match expression. A phrase occurs at a position of the terms of a
text, and two phrases are near each other when few terms lie between an occurrence of one and an
occurrence of the other. A phrase without terms occurs nowhere, and it asks for nothing where
another phrase stands beside it.
-/

namespace ForumSearch.Index

def document (keep : Analyzer) (content : Text) : List Text :=
  terms keep (tokens content)

def fits (words doc : List Text) : Bool :=
  words.isPrefixOf doc

/-- Like fits, but the last word may be the beginning of a token. -/
def fitsStarting : List Text → List Text → Bool
  | [], _ => true
  | [w], t :: _ => w.isPrefixOf t
  | w :: ws, t :: ts => w = t && fitsStarting ws ts
  | _ :: _, [] => false

def occurrences (words doc : List Text) : List Nat :=
  (List.range doc.length).filter fun i => fits words (doc.drop i)

/-- At most window tokens lie between two phrases at given positions; phrases that overlap have
none between them. -/
def close (i m j n window : Nat) : Bool :=
  if i ≤ j then j ≤ i + m + window else i ≤ j + n + window

def occurs (words doc : List Text) : Bool :=
  !words.isEmpty && !(occurrences words doc).isEmpty

def occursStarting (words doc : List Text) : Bool :=
  !words.isEmpty && (List.range doc.length).any fun i => fitsStarting words (doc.drop i)

/-- Two phrases occur near each other, or the only one of them that has terms occurs. -/
def occurNear (left right doc : List Text) (window : Nat) : Bool :=
  if left.isEmpty then occurs right doc
  else if right.isEmpty then occurs left doc
  else (occurrences left doc).any fun i =>
    (occurrences right doc).any fun j => close i left.length j right.length window

namespace Expression

/-- The expression is made of phrases without terms. -/
def isVoid (keep : Analyzer) : Expression → Bool
  | .phrase words => (terms keep words).isEmpty
  | .starting words => (terms keep words).isEmpty
  | .both l r => l.isVoid keep && r.isVoid keep
  | _ => false

end Expression

def holds (keep : Analyzer) (doc : List Text) : Expression → Bool
  | .phrase words => occurs (terms keep words) doc
  | .starting words => occursStarting (terms keep words) doc
  | .both l r =>
    if l.isVoid keep then holds keep doc r
    else if r.isVoid keep then holds keep doc l
    else holds keep doc l && holds keep doc r
  | .either l r => holds keep doc l || holds keep doc r
  | .without l r => holds keep doc l && !holds keep doc r
  | .near l r window => occurNear (terms keep l) (terms keep r) doc window
  | .parens e => holds keep doc e

end ForumSearch.Index
