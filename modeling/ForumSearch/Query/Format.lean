import ForumSearch.Json.Record
import ForumSearch.Query.Request

/-!
The JSON form of requests. Every field may be left out; only the optional ones may be null.
-/

namespace ForumSearch.Request

def fieldNames : List String :=
  ["query", "channel_ids", "include_tags", "exclude_tags", "tag_logic", "keywords",
    "exclude_keywords", "exclude_keyword_exemption_markers", "include_authors",
    "exclude_authors", "author_name", "created_after", "created_before", "active_after",
    "active_before", "reaction_count_range", "reply_count_range", "sort_method",
    "custom_base_sort", "sort_order", "limit", "offset", "exclude_thread_ids", "viewer_id",
    "collected_only"]

def tagLogic? : Json → Option TagLogic :=
  Json.choice? [("and", .all), ("or", .any)]

def direction? : Json → Option Direction :=
  Json.choice? [("asc", .ascending), ("desc", .descending)]

def ofJson? (j : Json) : Option Request := do
  let r ← Json.Record.read? fieldNames j
  let base : Request := {}
  let ints := Json.list? Json.int64?
  let texts := Json.list? Json.text?
  let query ← r.nullable "query" Json.text?
  let channels ← r.withDefault "channel_ids" base.channels ints
  let includeTags ← r.withDefault "include_tags" base.includeTags texts
  let excludeTags ← r.withDefault "exclude_tags" base.excludeTags texts
  let tagLogic ← r.withDefault "tag_logic" base.tagLogic tagLogic?
  let keywords ← r.nullable "keywords" Json.text?
  let excludeKeywords ← r.nullable "exclude_keywords" Json.text?
  let exemptionMarkers ← r.nullable "exclude_keyword_exemption_markers" texts
  let includeAuthors ← r.withDefault "include_authors" base.includeAuthors ints
  let excludeAuthors ← r.withDefault "exclude_authors" base.excludeAuthors ints
  let authorName ← r.nullable "author_name" Json.text?
  let createdAfter ← r.nullable "created_after" Json.text?
  let createdBefore ← r.nullable "created_before" Json.text?
  let activeAfter ← r.nullable "active_after" Json.text?
  let activeBefore ← r.nullable "active_before" Json.text?
  let reactionRange ← r.nullable "reaction_count_range" Json.text?
  let replyRange ← r.nullable "reply_count_range" Json.text?
  let sortMethod ← r.withDefault "sort_method" base.sortMethod Json.text?
  let customBase ← r.nullable "custom_base_sort" Json.text?
  let direction ← r.withDefault "sort_order" base.direction direction?
  let limit ← r.withDefault "limit" base.limit Json.int64?
  let offset ← r.withDefault "offset" base.offset Json.int64?
  let excludeThreads ← r.withDefault "exclude_thread_ids" base.excludeThreads ints
  let viewer ← r.nullable "viewer_id" Json.int64?
  let collectedOnly ← r.withDefault "collected_only" base.collectedOnly Json.bool?
  pure { query, channels, includeTags, excludeTags, tagLogic, keywords, excludeKeywords,
         exemptionMarkers, includeAuthors, excludeAuthors, authorName, createdAfter,
         createdBefore, activeAfter, activeBefore, reactionRange, replyRange, sortMethod,
         customBase, direction, limit, offset, excludeThreads, viewer, collectedOnly }

end ForumSearch.Request
