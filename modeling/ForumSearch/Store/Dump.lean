import ForumSearch.Forum.Format
import ForumSearch.Json.Reader
import ForumSearch.Store.Basic

/-!
Dumps of a forum in JSON: authors, tags, threads with the tags they carry, and collections. A
dump is read as a whole before anything of it is stored.
-/

namespace ForumSearch

structure Dump where
  authors : List Author
  tags : List Tag
  threads : List (Thread × List Int)
  collections : List (Int × Int × Instant)

namespace Dump

def isEmpty (d : Dump) : Bool :=
  d.authors.isEmpty && d.tags.isEmpty && d.threads.isEmpty && d.collections.isEmpty

/-- The depth that a dump leaves to the fields of a thread. -/
def threadDepth : Nat := Json.maxDepth - 3

/-- A thread with its tag ids among its fields. Its other fields are read as a whole, so that also
those which are passed over must have content. -/
def thread? : Json → Option (Thread × List Int)
  | .object members => do
    guard (members.all fun m => m.2.isSound threadDepth)
    let r ← Json.Record.read? (Thread.fieldNames ++ ["tag_ids"]) (.object members)
    let t ← Thread.ofRecord? r
    let tagIds ← r.withDefault "tag_ids" [] (Json.list? Json.int64?)
    pure (t, tagIds)
  | _ => none

def collection? (j : Json) : Option (Int × Int × Instant) := do
  let r ← Json.Record.read? ["user_id", "thread_id", "collected_at"] j
  let user ← r.required "user_id" Json.int64?
  let thread ← r.required "thread_id" Json.int64?
  let time ← r.required "collected_at" Json.instant?
  pure (user, thread, time)

def ofJson? (j : Json) : Option Dump := do
  let r ← Json.Record.read? ["authors", "tags", "threads", "collections"] j
  let authors ← r.withDefault "authors" [] (Json.list? Author.ofJson?)
  let tags ← r.withDefault "tags" [] (Json.list? Tag.ofJson?)
  let threads ← r.withDefault "threads" [] (Json.list? thread?)
  let collections ← r.withDefault "collections" [] (Json.list? collection?)
  pure ⟨authors, tags, threads, collections⟩

end Dump

/-- Writes a dump over what is stored, in the order of its parts. -/
def Store.load (s : Store) (d : Dump) : Store :=
  let s := d.authors.foldl Store.upsertAuthor s
  let s := d.tags.foldl Store.upsertTag s
  let s := d.threads.foldl (fun s t => s.upsertThread t.1 t.2) s
  d.collections.foldl (fun s c => s.collect c.1 c.2.1 c.2.2) s

end ForumSearch
