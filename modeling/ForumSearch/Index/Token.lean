import ForumSearch.Text.Alphanumeric
import ForumSearch.Text.Integer

/-!
Segmentation of texts into index tokens. A CJK character is a token of its own, other letters
and digits join into words, and a symbol beyond ASCII becomes a word that spells its code point.
-/

namespace ForumSearch.Index

/-- Kana, ideographs of every extension, hangul syllables and compatibility ideographs. -/
def isCjk (c : Char) : Bool :=
  Text.inRanges [(0x3040, 0x30ff), (0x3400, 0x4dbf), (0x4e00, 0x9fff), (0xac00, 0xd7af),
    (0xf900, 0xfaff), (0x20000, 0x2fa1f)] c.toNat

inductive Kind where
  | single
  | letter
  | gap
  | symbol
  deriving DecidableEq, Repr

def kind (c : Char) : Kind :=
  if isCjk c then .single
  else if Text.isAlphanumeric c then .letter
  else if Text.isBlank c || c.toNat < 128 then .gap
  else .symbol

def codeWord (c : Char) : Text :=
  'u' :: Text.hexDigits c.toNat

/-- A word before other tokens, if it has any letters. -/
def consWord (word : Text) (rest : List Text) : List Text :=
  if word.isEmpty then rest else word :: rest

/-- The word at the head of a text, which is empty where none begins, and the tokens after it. -/
def headAndTokens : Text → Text × List Text
  | [] => ([], [])
  | c :: cs =>
    let (word, rest) := headAndTokens cs
    match kind c with
    | .single => ([], [c] :: consWord word rest)
    | .letter => (c :: word, rest)
    | .gap => ([], consWord word rest)
    | .symbol => ([], codeWord c :: consWord word rest)

def tokens (s : Text) : List Text :=
  let (word, rest) := headAndTokens s
  consWord word rest

/-- The tokens of a text with single spaces between them, the form that is stored. -/
def segment (s : Text) : Text :=
  Text.joinWith [' '] (tokens s)

end ForumSearch.Index
