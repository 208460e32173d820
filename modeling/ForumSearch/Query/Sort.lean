import ForumSearch.Text.Basic

/-!
Orders of search results: by the composite score, by one column, or a custom order that stands
for another one.
-/

namespace ForumSearch

inductive Direction where
  | ascending
  | descending
  deriving DecidableEq, Repr

inductive SortColumn where
  | createdAt
  | lastActiveAt
  | reactions
  | replies
  | collectedAt
  deriving DecidableEq, Repr

namespace SortColumn

def name : SortColumn → String
  | .createdAt => "created_at"
  | .lastActiveAt => "last_active_at"
  | .reactions => "reaction_count"
  | .replies => "reply_count"
  | .collectedAt => "collected_at"

end SortColumn

inductive SortMethod where
  | comprehensive
  | column (column : SortColumn)
  | custom (base : SortMethod)
  deriving DecidableEq, Repr

namespace SortMethod

/-- An unknown name stands for the last activity. -/
def ofBaseName (name : Text) : SortMethod :=
  match String.ofList name with
  | "comprehensive" => .comprehensive
  | "created_at" => .column .createdAt
  | "reaction_count" => .column .reactions
  | "reply_count" => .column .replies
  | "collected_at" => .column .collectedAt
  | _ => .column .lastActiveAt

/-- A custom order never rests on another custom one. -/
def ofNames (name : Text) (base : Option Text) : SortMethod :=
  if String.ofList name.trim = "custom" then
    .custom (match base.map Text.trim with
      | none => .comprehensive
      | some b =>
        if b.isEmpty ∨ String.ofList b = "custom" then .comprehensive else ofBaseName b)
  else ofBaseName name.trim

def effective : SortMethod → SortMethod
  | .custom base => base.effective
  | m => m

end SortMethod

end ForumSearch
