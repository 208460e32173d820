import ForumSearch.Index.Token
import ForumSearch.Text.Fold

/-!
What the index keeps of tokens. It knows fewer letters than segmentation does: at a vowel sign, a
circled letter or a middle dot it breaks a token, or drops it, and the pieces are folded.
-/

namespace ForumSearch.Index

/-- Code points between which no character of a token is a letter or digit to the index. -/
def breakRanges : List (Nat × Nat) := [
  (0x345, 0x36f), (0x5b0, 0x5c7), (0x610, 0x61a), (0x64b, 0x65f), (0x670, 0x670), (0x6d6, 0x6e4),
  (0x6e7, 0x6ed), (0x711, 0x711), (0x730, 0x73f), (0x7a6, 0x7b0), (0x816, 0x817), (0x81b, 0x823),
  (0x825, 0x827), (0x829, 0x82c), (0x8e4, 0x8fe), (0x900, 0x903), (0x93a, 0x93b), (0x93e, 0x94f),
  (0x955, 0x957), (0x962, 0x963), (0x981, 0x983), (0x9be, 0x9cc), (0x9d7, 0x9d7), (0x9e2, 0x9e3),
  (0xa01, 0xa03), (0xa3e, 0xa51), (0xa70, 0xa71), (0xa75, 0xa83), (0xabe, 0xacc), (0xae2, 0xae3),
  (0xb01, 0xb03), (0xb3e, 0xb57), (0xb62, 0xb63), (0xb82, 0xb82), (0xbbe, 0xbcc), (0xbd7, 0xbd7),
  (0xc01, 0xc03), (0xc3e, 0xc56), (0xc62, 0xc63), (0xc82, 0xc83), (0xcbe, 0xcd6), (0xce2, 0xce3),
  (0xd02, 0xd03), (0xd3e, 0xd4c), (0xd57, 0xd57), (0xd62, 0xd63), (0xd82, 0xd83), (0xdcf, 0xddf),
  (0xdf2, 0xdf3), (0xe31, 0xe31), (0xe34, 0xe3a), (0xe4d, 0xe4d), (0xeb1, 0xeb1), (0xeb4, 0xebc),
  (0xecd, 0xecd), (0xf71, 0xf83), (0xf8d, 0xfbc), (0x102b, 0x103e), (0x1056, 0x1059),
  (0x105e, 0x1060), (0x1062, 0x1064), (0x1067, 0x106d), (0x1071, 0x1074), (0x1082, 0x108d),
  (0x108f, 0x108f), (0x109a, 0x109d), (0x1712, 0x1713), (0x1732, 0x1733), (0x1752, 0x1753),
  (0x1772, 0x1773), (0x17b6, 0x17c8), (0x18a9, 0x18a9), (0x1920, 0x1938), (0x19b0, 0x19c0),
  (0x19c8, 0x19c9), (0x1a17, 0x1a1b), (0x1a55, 0x1a74), (0x1b00, 0x1b04), (0x1b35, 0x1b43),
  (0x1b80, 0x1b82), (0x1ba1, 0x1bad), (0x1be7, 0x1bf1), (0x1c24, 0x1c36), (0x1cf2, 0x1cf3),
  (0x1dd3, 0x1de6), (0x24b6, 0x24e9), (0x2de0, 0x2dff), (0x3099, 0x309c), (0x30a0, 0x30a0),
  (0x30fb, 0x30fb), (0xa674, 0xa67b), (0xa69f, 0xa69f), (0xa802, 0xa802), (0xa80b, 0xa80b),
  (0xa823, 0xa827), (0xa880, 0xa881), (0xa8b4, 0xa8c3), (0xa926, 0xa92a), (0xa947, 0xa952),
  (0xa980, 0xa983), (0xa9b4, 0xa9bf), (0xaa29, 0xaa36), (0xaa43, 0xaa43), (0xaa4c, 0xaa4d),
  (0xaa7b, 0xaa7b), (0xaab0, 0xaab0), (0xaab2, 0xaab4), (0xaab7, 0xaab8), (0xaabe, 0xaabe),
  (0xaaeb, 0xaaef), (0xaaf5, 0xaaf5), (0xabe3, 0xabea), (0xfb1e, 0xfb1e), (0x10a01, 0x10a0f),
  (0x11000, 0x11002), (0x11038, 0x11045), (0x11080, 0x11082), (0x110b0, 0x110b8),
  (0x11100, 0x11102), (0x11127, 0x11132), (0x11180, 0x11182), (0x111b3, 0x111bf),
  (0x116ab, 0x116b5), (0x16f51, 0x16f7e), (0x16f8f, 0x16f92), (0x1f130, 0x1f189)]

def isBreak (c : Char) : Bool :=
  Text.inRanges breakRanges c.toNat

def pieces (word : Text) : List Text :=
  (Text.splitAtEach isBreak word).filter fun piece => !piece.isEmpty

/-- What an index keeps of a token: its terms. -/
abbrev Analyzer := Text → List Text

/-- The analyzer of the store: it breaks a token into pieces and folds them. -/
def standard : Analyzer := fun word => (pieces word).map Text.foldText

/-- The terms that a run of tokens leaves in an index. -/
def terms (keep : Analyzer) (words : List Text) : List Text :=
  words.flatMap keep

end ForumSearch.Index
