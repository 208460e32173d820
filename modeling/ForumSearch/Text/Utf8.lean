import ForumSearch.Text.Basic

/-!
Texts as bytes, in UTF-8.
-/

namespace ForumSearch.Text

def charBytes (c : Char) : List UInt8 :=
  (String.singleton c).toUTF8.toList

/-- The text of some bytes; none if they are no text. -/
def ofBytes? (bytes : List UInt8) : Option Text :=
  (String.fromUTF8? ⟨bytes.toArray⟩).map String.toList

end ForumSearch.Text
