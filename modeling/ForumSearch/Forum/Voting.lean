import ForumSearch.Error
import ForumSearch.Forum.Vote

/-!
The voting service. It applies a vote and then reads the links of the thread; if
the vote cannot be applied, no links are read.
-/

namespace ForumSearch

structure VoteBackend (σ : Type) where
  apply : Vote → σ → Except String (Option Transition × σ)
  links : Int → σ → Except String (List Link)

inductive VoteCall where
  | apply (vote : Vote)
  | links (thread : Int)
  deriving DecidableEq, Repr

structure VoteResult (σ : Type) where
  answer : Except Error (Table Text VoteStats)
  state : σ
  calls : List VoteCall

namespace Voting

variable {σ : Type}

def readStats (b : VoteBackend σ) (names : Int → Option Text) (thread : Int) (state : σ) :
    Except Error (Table Text VoteStats) :=
  match b.links thread state with
  | .ok links => .ok (voteStats names links)
  | .error reason => .error (.internal reason)

/-- Casts a vote and gives the counters of the thread by tag name. -/
def record (b : VoteBackend σ) (names : Int → Option Text) (v : Vote) (state : σ) : VoteResult σ :=
  match b.apply v state with
  | .error reason => ⟨.error (.internal reason), state, [.apply v]⟩
  | .ok (_, state) => ⟨readStats b names v.thread state, state, [.apply v, .links v.thread]⟩

end Voting

end ForumSearch
