import ForumSearch.Calendar.Instant
import ForumSearch.Text.Basic

/-!
The things a forum consists of: threads, their authors, and the tags under which threads are
filed. One tag name may stand for several tags, one in each channel.
-/

namespace ForumSearch

structure Thread where
  id : Int
  channel : Int
  author : Int
  title : Text
  createdAt : Instant
  lastActiveAt : Instant
  reactions : Int
  replies : Int
  excerpt : Option Text
  thumbnails : List Text
  /-- Times that the thread was looked for and not found. -/
  misses : Int
  deriving DecidableEq, Repr

structure Author where
  id : Int
  name : Text
  globalName : Option Text
  displayName : Text
  deriving DecidableEq, Repr

def Author.shownName (a : Author) : Text :=
  if a.displayName.isEmpty then a.globalName.getD a.name else a.displayName

structure Tag where
  id : Int
  name : Text
  deriving DecidableEq, Repr

/-- A thread together with what belongs to it elsewhere in the forum. -/
structure ThreadRecord where
  thread : Thread
  authorName : Option Text
  tagIds : List Int
  deriving DecidableEq, Repr

end ForumSearch
