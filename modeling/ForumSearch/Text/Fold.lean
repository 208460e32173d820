import ForumSearch.Text.Case

/-!
The form under which the index compares letters: case is folded, and a mark on a Latin letter is
dropped. Cases that came into Unicode later than the index was made are kept apart.
-/

namespace ForumSearch.Text

/-- Lower-case letters that fold to another lower-case letter. -/
def foldedLetters : List (Nat × Nat) := [
  (0xb5, 0x3bc), (0x17f, 0x73), (0x345, 0x3b9), (0x3c2, 0x3c3), (0x3d0, 0x3b2), (0x3d1, 0x3b8),
  (0x3d5, 0x3c6), (0x3d6, 0x3c0), (0x3f0, 0x3ba), (0x3f1, 0x3c1), (0x3f5, 0x3b5),
  (0x1e9b, 0x1e61), (0x1fbe, 0x3b9)]

/-- Latin letters with one mark, under their plain letter. -/
def markedLetters : List (Char × String) := [
  ('a', "àáâãäåāăąǎȁȃȧḁạả"),
  ('b', "ḃḅḇ"),
  ('c', "çćĉċč"),
  ('d', "ďḋḍḏḑḓ"),
  ('e', "èéêëēĕėęěȅȇȩḙḛẹẻẽ"),
  ('f', "ḟ"),
  ('g', "ĝğġģǧǵḡ"),
  ('h', "ĥȟḣḥḧḩḫẖ"),
  ('i', "ìíîïĩīĭįǐȉȋḭỉị"),
  ('j', "ĵǰ"),
  ('k', "ķǩḱḳḵ"),
  ('l', "ĺļľḷḻḽ"),
  ('m', "ḿṁṃ"),
  ('n', "ñńņňǹṅṇṉṋ"),
  ('o', "òóôõöōŏőơǒǫȍȏȯọỏ"),
  ('p', "ṕṗ"),
  ('r', "ŕŗřȑȓṙṛṟ"),
  ('s', "śŝşšșṡṣ"),
  ('t', "ţťțṫṭṯṱẗ"),
  ('u', "ùúûüũūŭůűųưǔȕȗṳṵṷụủ"),
  ('v', "ṽṿ"),
  ('w', "ŵẁẃẅẇẉẘ"),
  ('x', "ẋẍ"),
  ('y', "ýÿŷȳẏẙỳỵỷỹ"),
  ('z', "źżžẑẓẕ")]

def plainLetter (c : Char) : Char :=
  match markedLetters.find? fun row => row.2.toList.contains c with
  | some row => row.1
  | none => c

/-- Code points between which all capital letters are too recent to be folded. -/
def unfoldedRanges : List (Nat × Nat) := [
  (0x37f, 0x37f), (0x528, 0x52f), (0x13a0, 0x13f5), (0x1c80, 0x1cbf), (0x2c2f, 0x2c2f),
  (0xa698, 0xa69b), (0xa796, 0xa79f), (0xa7ab, 0xa7f5), (0x104b0, 0x1e921)]

def fold (c : Char) : Char :=
  if c.toNat < 128 then asciiLower c
  else if inRanges unfoldedRanges c.toNat then c
  else
    let small := lower c
    match foldedLetters.lookup small.toNat with
    | some n => plainLetter (Char.ofNat n)
    | none => plainLetter small

def foldText (s : Text) : Text :=
  s.map fold

end ForumSearch.Text
