import ForumSearch.Index.Matching
import ForumSearch.Search.Filter
import ForumSearch.Store.Basic
import ForumSearch.Store.Pattern

/-!
Conditions on stored threads, the form in which the store is asked for candidates: columns are
compared with numbers or looked up in lists, and the other tables are asked for rows of the thread.
Times are columns of whole seconds.
-/

namespace ForumSearch

inductive Column where
  | id
  | channel
  | author
  | createdAt
  | lastActiveAt
  | reactions
  | replies
  | misses
  deriving DecidableEq, Repr

def Column.read (t : Thread) : Column → Int
  | .id => t.id
  | .channel => t.channel
  | .author => t.author
  | .createdAt => t.createdAt.seconds
  | .lastActiveAt => t.lastActiveAt.seconds
  | .reactions => t.reactions
  | .replies => t.replies
  | .misses => t.misses

inductive Comparison where
  | equal
  | less
  | atMost
  | more
  | atLeast
  deriving DecidableEq, Repr

def Comparison.compare (a b : Int) : Comparison → Bool
  | .equal => a = b
  | .less => a < b
  | .atMost => a ≤ b
  | .more => b < a
  | .atLeast => b ≤ a

inductive Condition where
  | always
  | compare (column : Column) (comparison : Comparison) (n : Int)
  | among (column : Column) (ids : List Int)
  /-- The author of the thread is known and goes by a name. -/
  | authorNamed (name : Text)
  | linked (tagIds : List Int)
  /-- The index row of the thread satisfies a match expression. -/
  | indexed (e : Index.Expression)
  | collected (user : Int)
  | neg (c : Condition)
  | both (a b : Condition)
  deriving DecidableEq, Repr

/-- The user name up to case, or a part of the global or the display name. -/
def Author.isNamed (a : Author) (name : Text) : Bool :=
  a.name.map Text.asciiLower = name.map Text.asciiLower ||
    (a.globalName.any (Wildcard.like (Wildcard.containing name))) ||
    Wildcard.like (Wildcard.containing name) a.displayName

namespace Store

def hasTag (s : Store) (thread tag : Int) : Bool :=
  s.links.contains (thread, tag)

/-- The index row of a thread satisfies a match expression, by what an analyzer keeps of the
tokens of both. -/
def textHolds (s : Store) (keep : Index.Analyzer) (thread : Int) (e : Index.Expression) : Bool :=
  (s.contents.get? thread).any fun content => Index.holds keep (Index.document keep content) e

def meets (s : Store) (t : Thread) : Condition → Bool
  | .always => true
  | .compare column comparison n => comparison.compare (column.read t) n
  | .among column ids => ids.contains (column.read t)
  | .authorNamed name => (s.authors.get? t.author).any (·.isNamed name)
  | .linked tagIds => tagIds.any (s.hasTag t.id)
  | .indexed e => s.textHolds Index.standard t.id e
  | .collected user => s.collections.contains (user, t.id)
  | .neg c => !s.meets t c
  | .both a b => s.meets t a && s.meets t b

end Store

end ForumSearch
