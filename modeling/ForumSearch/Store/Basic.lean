import ForumSearch.Forum.Basic
import ForumSearch.Forum.Vote
import ForumSearch.Index.Token

/-!
The store of a forum and its writes. Vote counters are kept beside the votes and move with them;
times are kept in whole seconds; the index row of a thread is its segmented title and excerpt.
-/

namespace ForumSearch

structure Store where
  authors : Table Int Author
  tags : Table Int Text
  threads : Table Int Thread
  /-- The index row of each thread. -/
  contents : Table Int Text
  links : Table (Int × Int) Counters
  /-- The stored vote of each user, thread and tag. -/
  votes : Table (Int × Int × Int) Int
  /-- When each user collected each thread, in seconds. -/
  collections : Table (Int × Int) Int

namespace Store

def empty : Store := ⟨.empty, .empty, .empty, .empty, .empty, .empty, .empty⟩

def upsertAuthor (s : Store) (a : Author) : Store :=
  { s with authors := s.authors.insert a.id a }

def upsertTag (s : Store) (t : Tag) : Store :=
  { s with tags := s.tags.insert t.id t.name }

def searchedText (t : Thread) : Text :=
  t.title ++ ' ' :: t.excerpt.getD []

def addLink (thread : Int) (links : Table (Int × Int) Counters) (tag : Int) :
    Table (Int × Int) Counters :=
  if links.contains (thread, tag) then links else links.insert (thread, tag) .zero

/-- Tags that are dropped lose their counters, tags that stay keep them. -/
def relink (links : Table (Int × Int) Counters) (thread : Int) (tagIds : List Int) :
    Table (Int × Int) Counters :=
  tagIds.foldl (addLink thread) (links.filter fun k _ => k.1 ≠ thread || tagIds.contains k.2)

def upsertThread (s : Store) (t : Thread) (tagIds : List Int) : Store :=
  { s with
    threads := s.threads.insert t.id
      { t with createdAt := t.createdAt.floor, lastActiveAt := t.lastActiveAt.floor }
    contents := s.contents.insert t.id (Index.segment (searchedText t))
    links := relink s.links t.id tagIds }

def collect (s : Store) (user thread : Int) (at_ : Instant) : Store :=
  { s with collections := s.collections.insert (user, thread) at_.seconds }

/-- Stores what stands of a vote, or takes it out. -/
def putVote (votes : Table (Int × Int × Int) Int) (key : Int × Int × Int) :
    Option Ballot → Table (Int × Int × Int) Int
  | some b => votes.insert key b.toInt
  | none => votes.erase key

/-- A vote on a tag that the thread does not carry changes nothing. -/
def applyVote (s : Store) (v : Vote) : Option Transition × Store :=
  match s.links.get? (v.thread, v.tag) with
  | none => (none, s)
  | some counters =>
    let key := (v.user, v.thread, v.tag)
    let transition := Transition.plan ((s.votes.get? key).bind Ballot.ofInt?) v.ballot
    (some transition,
      { s with
        votes := putVote s.votes key transition.outcome
        links := s.links.insert (v.thread, v.tag) (counters.add transition.change) })

end Store

end ForumSearch
