import ForumSearch.Forum.Format
import ForumSearch.Search.Page

/-!
The JSON form of pages. The score is left out when the order is not by score.
-/

namespace ForumSearch

def Summary.toJson (scoreText : Float → Json) (s : Summary) : Json :=
  let t := s.record.thread
  .record ([("thread_id", .integer t.id), ("channel_id", .integer t.channel),
    ("title", .string t.title), ("author_id", .integer t.author),
    ("author_name", Json.ofOption .string s.record.authorName),
    ("created_at", Json.ofInstant t.createdAt), ("last_active_at", Json.ofInstant t.lastActiveAt),
    ("reaction_count", .integer t.reactions), ("reply_count", .integer t.replies),
    ("first_message_excerpt", Json.ofOption .string t.excerpt),
    ("thumbnail_urls", Json.ofTexts t.thumbnails), ("tags", Json.ofTexts s.tags),
    ("collected", .bool s.collected)] ++
    match s.score with
    | some x => [("score", scoreText x)]
    | none => [])

def Page.toJson (scoreText : Float → Json) (p : Page) : Json :=
  .record [("total", .integer p.total), ("limit", .integer p.limit),
    ("offset", .integer p.offset), ("results", .array (p.results.map (·.toJson scoreText)))]

end ForumSearch
