import ForumSearch.Index.Expression
import ForumSearch.Index.Token
import ForumSearch.Query.Keyword

/-!
Match expressions for keywords. Texts without tokens drop out: a group of such texts, or an
excluded word of that kind, has no expression at all.
-/

namespace ForumSearch.Index

def phraseOf (s : Text) : Option (List Text) :=
  if (tokens s).isEmpty then none else some (tokens s)

/-- The words of a text as phrases, those without tokens left out. -/
def wordPhrases (s : Text) : List (List Text) :=
  (Text.words s).filterMap phraseOf

/-- Every word must occur somewhere, the last one as the beginning of a word. -/
def looseExpression (s : Text) : Option Expression :=
  match (wordPhrases s).getLast? with
  | none => none
  | some last =>
    Expression.joinLeft .both ((wordPhrases s).dropLast.map .phrase ++ [.starting last])

def keywordExpression : Keyword → Option Expression
  | .starting s => looseExpression s
  | .exact s => (phraseOf s).map .phrase

/-- More than one phrase stands side by side in the expression of a keyword. -/
def isCompound : Keyword → Bool
  | .starting s => 1 < (wordPhrases s).length
  | .exact _ => false

/-- An alternative among others, in parentheses when it is compound. -/
def alternative (k : Keyword) : Option Expression :=
  (keywordExpression k).map fun e => if isCompound k then .parens e else e

def groupExpression (group : Keyword.Group) : Option Expression :=
  match group.filterMap keywordExpression with
  | [] => none
  | [e] => some e
  | _ => (Expression.joinLeft .either (group.filterMap alternative)).map .parens

/-- The distance in tokens within which a marker exempts an excluded word. -/
def exemptionWindow : Nat := 8

/-- Holds where the word occurs, unless a marker stands near it. -/
def exclusionExpression (word : Text) (markers : List Text) (window : Nat) : Option Expression :=
  (phraseOf word).map fun target =>
    let markers := markers.filterMap phraseOf
    match Expression.joinLeft .either (markers.map (.near target · window)) with
    | none => .phrase target
    | some nears => .parens (.without (.phrase target) (.parens nears))

end ForumSearch.Index
