import ForumSearch.Calendar.Timestamp
import ForumSearch.Forum.Basic
import ForumSearch.Forum.Vote
import ForumSearch.Json.Record

/-!
The JSON form of authors, tags, threads, votes and vote counters.
-/

namespace ForumSearch

namespace Json

def instant? (j : Json) : Option Instant :=
  j.text?.bind Timestamp.parse

def ofInstant (t : Instant) : Json :=
  .string (Timestamp.write t)

def ofTexts (texts : List Text) : Json :=
  .array (texts.map .string)

def ofOption {α : Type} (f : α → Json) : Option α → Json
  | none => .null
  | some a => f a

def record (members : List (String × Json)) : Json :=
  .object (members.map fun m => (m.1.toList, m.2))

end Json

namespace Thread

def fieldNames : List String :=
  ["id", "channel_id", "author_id", "title", "created_at", "last_active_at", "reaction_count",
    "reply_count", "first_message_excerpt", "thumbnail_urls", "not_found_count"]

def ofRecord? (r : Json.Record) : Option Thread := do
  let id ← r.required "id" Json.int64?
  let channel ← r.required "channel_id" Json.int64?
  let author ← r.required "author_id" Json.int64?
  let title ← r.required "title" Json.text?
  let createdAt ← r.required "created_at" Json.instant?
  let lastActiveAt ← r.required "last_active_at" Json.instant?
  let reactions ← r.withDefault "reaction_count" 0 Json.int64?
  let replies ← r.withDefault "reply_count" 0 Json.int64?
  let excerpt ← r.optional "first_message_excerpt" Json.text?
  let thumbnails ← r.withDefault "thumbnail_urls" [] (Json.list? Json.text?)
  let misses ← r.withDefault "not_found_count" 0 Json.int64?
  pure ⟨id, channel, author, title, createdAt, lastActiveAt, reactions, replies, excerpt,
    thumbnails, misses⟩

def ofJson? (j : Json) : Option Thread :=
  (Json.Record.read? fieldNames j).bind ofRecord?

end Thread

namespace Author

def ofJson? (j : Json) : Option Author := do
  let r ← Json.Record.read? ["id", "name", "global_name", "display_name"] j
  let id ← r.required "id" Json.int64?
  let name ← r.required "name" Json.text?
  let globalName ← r.optional "global_name" Json.text?
  let displayName ← r.required "display_name" Json.text?
  pure ⟨id, name, globalName, displayName⟩

end Author

namespace Tag

def ofJson? (j : Json) : Option Tag := do
  let r ← Json.Record.read? ["id", "name"] j
  let id ← r.required "id" Json.int64?
  let name ← r.required "name" Json.text?
  pure ⟨id, name⟩

end Tag

namespace Ballot

def name : Ballot → String
  | .up => "up"
  | .down => "down"

def ofJson? : Json → Option Ballot :=
  Json.choice? [("up", .up), ("down", .down)]

end Ballot

namespace Vote

def ofJson? (j : Json) : Option Vote := do
  let r ← Json.Record.read? ["user_id", "thread_id", "tag_id", "value"] j
  let user ← r.required "user_id" Json.int64?
  let thread ← r.required "thread_id" Json.int64?
  let tag ← r.required "tag_id" Json.int64?
  let ballot ← r.required "value" Ballot.ofJson?
  pure ⟨user, thread, tag, ballot⟩

end Vote

namespace Link

def ofJson? (j : Json) : Option Link := do
  let r ← Json.Record.read? ["thread_id", "tag_id", "upvotes", "downvotes"] j
  let thread ← r.required "thread_id" Json.int64?
  let tag ← r.required "tag_id" Json.int64?
  let up ← r.required "upvotes" Json.int64?
  let down ← r.required "downvotes" Json.int64?
  pure ⟨thread, tag, ⟨up, down⟩⟩

def toJson (l : Link) : Json :=
  .record [("thread_id", .integer l.thread), ("tag_id", .integer l.tag),
    ("upvotes", .integer l.counters.up), ("downvotes", .integer l.counters.down)]

end Link

/-- The votes under each tag name. -/
def statsJson (stats : Table Text VoteStats) : Json :=
  .object (stats.rows.map fun row => (row.1, .record [("upvotes", .integer row.2.up.toInt),
    ("downvotes", .integer row.2.down.toInt), ("score", .integer row.2.score.toInt)]))

end ForumSearch
