import ForumSearch.Text.Basic

/-!
Keywords and how lists of them are written. Commas separate groups that must all match, slashes
the alternatives of one group; an alternative in quotes is an exact phrase, any other the
beginning of a word.
-/

namespace ForumSearch

inductive Keyword where
  | starting (text : Text)
  | exact (text : Text)
  deriving DecidableEq, Repr

namespace Keyword

abbrev Group := List Keyword

def isComma (c : Char) : Bool := c = ',' || c = '，'

def isSlash (c : Char) : Bool := c = '/' || c = '／'

def parse (raw : Text) : Option Keyword :=
  let term := raw.trim
  if term.isEmpty then none
  else if 2 < term.length ∧ term.head? = some '"' ∧ term.getLast? = some '"' then
    let inner := Text.trim term.tail.dropLast
    if inner.isEmpty then none else some (.exact inner)
  else some (.starting term)

def parseGroup (raw : Text) : Group :=
  (Text.splitAtEach isSlash raw).filterMap parse

def parseGroups (input : Text) : List Group :=
  ((Text.splitAtEach isComma input).map parseGroup).filter fun group => !group.isEmpty

/-- Excluded words stand between commas, half-width slashes and blanks. -/
def splitExcluded (input : Text) : List Text :=
  (Text.splitAtEach (fun c => isComma c || c = '/' || Text.isBlank c) input).filter
    fun word => !word.isEmpty

end Keyword

end ForumSearch
