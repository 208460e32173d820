import ForumSearch.Text.Integer

/-!
Match expressions of the full-text index and their written form. Phrases that stand side by side
must all match and bind tightest, then comes NOT, then OR; parentheses are part of the
expression.
-/

namespace ForumSearch.Index

inductive Expression where
  /-- A run of consecutive tokens. -/
  | phrase (words : List Text)
  /-- A run whose last token may go on. -/
  | starting (words : List Text)
  | both (left right : Expression)
  | either (left right : Expression)
  | without (left right : Expression)
  | near (left right : List Text) (window : Nat)
  | parens (inner : Expression)
  deriving DecidableEq, Repr

namespace Expression

def quote (words : List Text) : Text :=
  '"' :: Text.joinWith [' '] words ++ ['"']

def text : Expression → Text
  | .phrase words => quote words
  | .starting words => quote words ++ ['*']
  | .both l r => l.text ++ ' ' :: r.text
  | .either l r => l.text ++ [' ', 'O', 'R', ' '] ++ r.text
  | .without l r => l.text ++ [' ', 'N', 'O', 'T', ' '] ++ r.text
  | .near l r window =>
    ['N', 'E', 'A', 'R', '('] ++ quote l ++ ' ' :: quote r ++ [',', ' '] ++ Text.ofNat window ++
      [')']
  | .parens e => '(' :: e.text ++ [')']

/-- One expression out of several, joined from the left. -/
def joinLeft (op : Expression → Expression → Expression) : List Expression → Option Expression
  | [] => none
  | e :: es => some (es.foldl op e)

theorem joinLeft_concat {op : Expression → Expression → Expression} {es : List Expression}
    {l : Expression} (hl : joinLeft op es = some l) (r : Expression) :
    joinLeft op (es ++ [r]) = some (op l r) := by
  cases es with
  | nil => exact absurd hl (by simp [joinLeft])
  | cons e es =>
    obtain rfl := Option.some.inj hl
    simp [joinLeft]

/-- What holds of a single expression, and is kept when one more is joined on the right, holds of
any expressions and their join. -/
theorem joinLeft_induction {op : Expression → Expression → Expression}
    {motive : ∀ (es : List Expression) (e : Expression), joinLeft op es = some e → Prop}
    (one : ∀ e, motive [e] e rfl)
    (more : ∀ es l (hl : joinLeft op es = some l) (r : Expression), motive es l hl →
      motive (es ++ [r]) (op l r) (joinLeft_concat hl r))
    {es : List Expression} {e : Expression} (h : joinLeft op es = some e) : motive es e h := by
  have hrest : ∀ rest front l (hl : joinLeft op front = some l), motive front l hl →
      ∃ h, motive (front ++ rest) (rest.foldl op l) h := by
    intro rest
    induction rest with
    | nil => exact fun front l hl hfront => ⟨by simpa using hl, by simpa using hfront⟩
    | cons r rest ih =>
      intro front l hl hfront
      simpa using ih (front ++ [r]) (op l r) (joinLeft_concat hl r) (more front l hl r hfront)
  cases es with
  | nil => exact absurd h (by simp [joinLeft])
  | cons x rest =>
    obtain rfl := Option.some.inj h
    exact (hrest rest [x] x rfl (one x)).2

end Expression

end ForumSearch.Index
