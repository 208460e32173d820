import ForumSearch.Forum.Voting
import ForumSearch.Ranking.Settings
import ForumSearch.Store.Read
import ForumSearch.Tag.Resolver

/-!
Sessions: a store, the tag snapshot in use and the ranking configuration in use, and the steps
that read and change them. Every step has an answer, and a failed one leaves no trace.
-/

namespace ForumSearch

/-- The store as a voting store. It never fails. -/
def Store.voteBackend : VoteBackend Store where
  apply v s := .ok (s.applyVote v)
  links thread s := .ok (s.linksOf thread)

structure Session where
  store : Store
  tags : TagResolver
  ranking : RankingSettings Float

namespace Session

def start : Session := ⟨.empty, .empty, .standard⟩

inductive Step where
  | author (a : Author)
  | tag (t : Tag)
  | thread (t : Thread) (tagIds : List Int)
  | collect (user thread : Int) (time : Instant)
  | rebuild (failure : Option String)
  | replaceTags (tags : List Tag)
  | configure (c : RankingConfig Float)
  | vote (v : Vote) (names : Option (Table Int Text))
  | applyVote (v : Vote)
  | stats (thread : Int) (names : Option (Table Int Text))
  | tagNames
  | loadTags
  | links (thread : Int)
  | search (r : Request) (now : Instant)
  | compile (r : Request) (now : Instant)
  | count (r : Request) (now : Instant)
  | rankRows (r : Request) (now : Instant) (tagIds : Option (List Int))
  | page (r : Request) (now : Instant) (order : PageOrder) (offset limit : Int)
  | fetch (ids : List Int)
  | collected (user : Int) (ids : List Int)

inductive Reply where
  | done
  | number (n : Int)
  | ids (ids : List Int)
  | names (names : List Text)
  | tags (tags : List Tag)
  | stats (stats : Table Text VoteStats)
  | transition (t : Option Transition)
  | links (links : List Link)
  | compiled (c : Compiled)
  | page (p : Page)
  | rows (rows : List RankRow)
  | records (records : List ThreadRecord)
  | rebuildFailed (reason : String)
  | failed (e : Error)

/-- The names in use, or those that a step brings along. -/
def nameOf (s : Session) : Option (Table Int Text) → Int → Option Text
  | some names => names.get?
  | none => s.tags.current.nameOf.get?

def settings (s : Session) : SearchSettings :=
  ⟨s.tags.current, s.ranking.current, Ranking.noBoost⟩

def compileRequest (s : Session) (r : Request) (now : Instant) : Except Error Compiled :=
  match r.validate now with
  | .ok q => .ok (q.compile s.tags.current)
  | .error cause => .error (.invalid cause)

def Reply.of {α : Type} (f : α → Reply) : Except Error α → Reply
  | .ok a => f a
  | .error e => .failed e

def step (s : Session) : Step → Reply × Session
  | .author a => (.done, { s with store := s.store.upsertAuthor a })
  | .tag t => (.done, { s with store := s.store.upsertTag t })
  | .thread t tagIds => (.done, { s with store := s.store.upsertThread t tagIds })
  | .collect user thread time => (.done, { s with store := s.store.collect user thread time })
  | .rebuild failure =>
    let loaded := match failure with
      | some reason => .error reason
      | none => .ok s.store.loadTags
    let (size, tags) := s.tags.rebuild loaded
    (match size with
      | .ok n => .number n
      | .error reason => .rebuildFailed reason, { s with tags })
  | .replaceTags tags => (.done, { s with tags := s.tags.replace (.ofTags tags) })
  | .configure c =>
    let (answer, ranking) := s.ranking.update c
    (match answer with
      | .ok () => .done
      | .error cause => .failed (.invalid cause), { s with ranking })
  | .vote v names =>
    let r := Voting.record Store.voteBackend (s.nameOf names) v s.store
    (.of .stats r.answer, { s with store := r.state })
  | .applyVote v =>
    let (transition, store) := s.store.applyVote v
    (.transition transition, { s with store })
  | .stats thread names =>
    (.of .stats (Voting.readStats Store.voteBackend (s.nameOf names) thread s.store), s)
  | .tagNames => (.names s.tags.current.names, s)
  | .loadTags => (.tags s.store.loadTags, s)
  | .links thread => (.links (s.store.linksOf thread), s)
  | .search r now => (.of .page (Search.run (s.store.backend .sqlite) s.settings r now).1, s)
  | .compile r now => (.of .compiled (s.compileRequest r now), s)
  | .count r now => (.of (fun c => .number (s.store.count c.filter)) (s.compileRequest r now), s)
  | .rankRows r now tagIds =>
    (.of (fun c => .rows (s.store.rankRows c.filter (tagIds.getD c.tagIds)))
      (s.compileRequest r now), s)
  | .page r now order offset limit =>
    (.of (fun c => .ids ((s.store.page c.filter order offset limit).map (·.thread.id)))
      (s.compileRequest r now), s)
  | .fetch ids => (.records (s.store.fetch ids), s)
  | .collected user ids => (.ids (s.store.collectedAmong user ids), s)

/-- The answers of a run of steps, and the session after it. -/
def run (s : Session) : List Step → List Reply × Session
  | [] => ([], s)
  | x :: xs =>
    let (reply, s) := s.step x
    let (replies, s) := s.run xs
    (reply :: replies, s)

end Session

end ForumSearch
