import ForumSearch.Store.Dump

/-!
The JSON form of a whole store, in which it is kept between runs. The index rows are not kept:
each is the segmented text of its thread.
-/

namespace ForumSearch

def Author.toJson (a : Author) : Json :=
  .record [("id", .integer a.id), ("name", .string a.name),
    ("global_name", Json.ofOption .string a.globalName), ("display_name", .string a.displayName)]

def Tag.toJson (t : Tag) : Json :=
  .record [("id", .integer t.id), ("name", .string t.name)]

def Thread.toJson (t : Thread) : Json :=
  .record [("id", .integer t.id), ("channel_id", .integer t.channel),
    ("author_id", .integer t.author), ("title", .string t.title),
    ("created_at", Json.ofInstant t.createdAt), ("last_active_at", Json.ofInstant t.lastActiveAt),
    ("reaction_count", .integer t.reactions), ("reply_count", .integer t.replies),
    ("first_message_excerpt", Json.ofOption .string t.excerpt),
    ("thumbnail_urls", Json.ofTexts t.thumbnails), ("not_found_count", .integer t.misses)]

namespace Store

def toJson (s : Store) : Json :=
  .record [("authors", .array (s.authors.values.map Author.toJson)),
    ("tags", .array (s.tags.rows.map fun row => Tag.toJson ⟨row.1, row.2⟩)),
    ("threads", .array (s.threads.values.map Thread.toJson)),
    ("links", .array (s.links.rows.map fun row =>
      Link.toJson ⟨row.1.1, row.1.2, row.2⟩)),
    ("votes", .array (s.votes.rows.map fun row =>
      .array [.integer row.1.1, .integer row.1.2.1, .integer row.1.2.2, .integer row.2])),
    ("collections", .array (s.collections.rows.map fun row =>
      .array [.integer row.1.1, .integer row.1.2, .integer row.2]))]

def vote? : Json → Option ((Int × Int × Int) × Int)
  | .array [user, thread, tag, value] => do
    pure ((← user.int64?, ← thread.int64?, ← tag.int64?), ← value.int64?)
  | _ => none

def collection? : Json → Option ((Int × Int) × Int)
  | .array [user, thread, time] => do
    pure ((← user.int64?, ← thread.int64?), ← time.int64?)
  | _ => none

def ofJson? (j : Json) : Option Store := do
  let authors ← Json.list? Author.ofJson? (← j.get? "authors")
  let tags ← Json.list? Tag.ofJson? (← j.get? "tags")
  let threads ← Json.list? Thread.ofJson? (← j.get? "threads")
  let links ← Json.list? Link.ofJson? (← j.get? "links")
  let votes ← Json.list? vote? (← j.get? "votes")
  let collections ← Json.list? collection? (← j.get? "collections")
  let s := tags.foldl upsertTag (authors.foldl upsertAuthor empty)
  let s := threads.foldl (fun s t => s.upsertThread t []) s
  pure { s with
    links := Table.ofList (links.map fun l => ((l.thread, l.tag), l.counters))
    votes := Table.ofList votes
    collections := Table.ofList collections }

end Store

end ForumSearch
