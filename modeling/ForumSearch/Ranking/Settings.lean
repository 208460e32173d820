import ForumSearch.Ranking.Config

/-!
The ranking configuration in use. An invalid configuration is never taken over.
-/

namespace ForumSearch

structure RankingSettings (α : Type) where
  current : RankingConfig α

namespace RankingSettings

variable {α : Type} [Arithmetic α]

def standard : RankingSettings α := ⟨.standard⟩

def make (c : RankingConfig α) : Except Invalid (RankingSettings α) :=
  c.validate.map fun _ => ⟨c⟩

def update (s : RankingSettings α) (c : RankingConfig α) :
    Except Invalid Unit × RankingSettings α :=
  match c.validate with
  | .ok () => (.ok (), ⟨c⟩)
  | .error cause => (.error cause, s)

end RankingSettings

end ForumSearch
