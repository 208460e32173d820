import ForumSearch.Settings.Ron.Number

/-!
Settings written in RON. A group in parentheses, with or without a name in front of it, is a table
if a name and a colon come first in it, and a list otherwise; a name alone denotes nothing.
-/

namespace ForumSearch.Ron

/-- How many steps lead from the whole to a value inside of it at most: one into each group or list,
and one more to what it holds. -/
def maxDepth : Nat := 128

def deeper? : Nat → Option Nat
  | 0 => none
  | depth + 1 => some depth

/-- What a name denotes if it is not that of a group. -/
def ofName? (name : Text) : Option Setting :=
  match String.ofList name with
  | "true" => some (.bool true)
  | "false" => some (.bool false)
  | "None" => some .null
  | "inf" | "inff32" | "inff64" => some (.number (Numeral.infinity false))
  | "NaN" | "NaNf32" | "NaNf64" => some (.number Numeral.notANumber)
  | _ => none

def startsNumber (c : Char) : Bool :=
  Text.isDigit c || c = '+' || c = '-' || c = '.'

/-- A name and a colon come first. -/
def startsFields (s : Text) : Bool :=
  let after := do
    let (_, rest) ← readName? (← spacing.skip s)
    spacing.skip rest
  after.any fun s => s.head? = some ':'

/-- Spaces and at most one comma in front of a text are dropped. -/
def skipComma? (s : Text) : Option Text := do
  match ← spacing.skip s with
  | ',' :: rest => spacing.skip rest
  | rest => pure rest

def keyOf? : Setting → Option Text
  | .text s => some s
  | _ => none

mutual
/-- Reads a value at its first character. Every call takes at least one character before the next,
so a multiple of the length of the text is enough fuel. -/
def readValue? : Nat → Nat → Text → Option (Setting × Text)
  | 0, _, _ => none
  | fuel + 1, depth, s =>
    match readQuoted? fuel s with
    | some r => some r
    | none =>
      match s with
      | [] => none
      | '(' :: ')' :: rest => some (.null, rest)
      | '(' :: rest => readGroup? fuel depth rest
      | '[' :: rest => do
        let (items, rest) ← readItems? ']' fuel (← deeper? depth) rest
        pure (.list items, rest)
      | '\x7b' :: rest => do
        let (members, rest) ← readMembers? false fuel (← deeper? depth) [] rest
        pure (.table members, rest)
      | c :: _ =>
        if startsNumber c then
          let word := s.takeWhile isRaw
          (ofNumber? word).map (·, s.drop word.length)
        else readNamed? fuel depth s

def readNamed? : Nat → Nat → Text → Option (Setting × Text)
  | 0, _, _ => none
  | fuel + 1, depth, s => do
    let (plain, afterPlain) ← readPlainName? s
    match ofName? plain with
    | some value => pure (value, afterPlain)
    | none =>
      if plain = "Some".toList then readOption? fuel depth afterPlain
      else
        let (_, rest) ← readName? s
        match ← spacing.skip rest with
        | '(' :: rest => readGroup? fuel depth rest
        | rest => pure (.null, rest)

def readOption? : Nat → Nat → Text → Option (Setting × Text)
  | 0, _, _ => none
  | fuel + 1, depth, s => do
    match ← spacing.skip s with
    | '(' :: rest =>
      let (value, rest) ← readValue? fuel (← deeper? depth) (← spacing.skip rest)
      match ← skipComma? rest with
      | ')' :: rest => pure (value, rest)
      | _ => none
    | _ => none

def readGroup? : Nat → Nat → Text → Option (Setting × Text)
  | 0, _, _ => none
  | fuel + 1, depth, s => do
    let depth ← deeper? depth
    if startsFields s then
      let (members, rest) ← readMembers? true fuel depth [] s
      pure (.table members, rest)
    else
      let (items, rest) ← readItems? ')' fuel depth s
      pure (.list items, rest)

def readItems? (stop : Char) : Nat → Nat → Text → Option (List Setting × Text)
  | 0, _, _ => none
  | fuel + 1, depth, s => do
    let s ← spacing.skip s
    if s.head? = some stop then pure ([], s.drop 1)
    else
      let (item, rest) ← readValue? fuel (← deeper? depth) s
      match ← spacing.skip rest with
      | ',' :: rest =>
        let (items, rest) ← readItems? stop fuel depth rest
        pure (item :: items, rest)
      | rest => if rest.head? = some stop then pure ([item], rest.drop 1) else none

/-- The members of a table up to the character that closes it. Their keys are names, or values. -/
def readMembers? (named : Bool) : Nat → Nat → List (Text × Setting) → Text →
    Option (List (Text × Setting) × Text)
  | 0, _, _, _ => none
  | fuel + 1, depth, members, s => do
    let stop := if named then ')' else '\x7d'
    let s ← spacing.skip s
    if s.head? = some stop then pure (members, s.drop 1)
    else
      let below ← deeper? depth
      let (key, rest) ←
        if named then readName? s
        else do
          let (key, rest) ← readValue? fuel below s
          pure (← keyOf? key, rest)
      match ← spacing.skip rest with
      | ':' :: rest =>
        let (value, rest) ← readValue? fuel below (← spacing.skip rest)
        let members := Setting.put key value members
        match ← spacing.skip rest with
        | ',' :: rest => readMembers? named fuel depth members rest
        | rest => if rest.head? = some stop then pure (members, rest.drop 1) else none
      | _ => none
end

/-! Attributes -/

def attributeNames : List String :=
  ["unwrap_newtypes", "implicit_some", "unwrap_variant_newtypes", "explicit_struct_names"]

def skipMarks? : List String → Text → Option Text
  | [], s => some s
  | mark :: marks, s =>
    if mark.toList.isPrefixOf s then do skipMarks? marks (← spacing.skip (s.drop mark.length))
    else none

/-- What follows the names of an attribute, a comma after each but the last. -/
def skipNames? : Nat → Text → Option Text
  | 0, _ => none
  | fuel + 1, s => do
    let (name, rest) ← readName? s
    if attributeNames.contains (String.ofList name) then
      match ← spacing.skip rest with
      | ',' :: rest =>
        let rest ← spacing.skip rest
        if rest.head?.any startsWord then skipNames? fuel rest else pure rest
      | rest => pure rest
    else none

def skipAttributes? : Nat → Text → Option Text
  | 0, _ => none
  | fuel + 1, s => do
    let s ← spacing.skip s
    if s.head? = some '#' then
      let names ← skipMarks? ["#", "![", "enable", "("] s
      skipAttributes? fuel (← skipMarks? [")", "]"] (← skipNames? fuel names))
    else pure s

def read (s : Text) : Option Layer := do
  let s ← skipAttributes? (s.length + 1) s
  match ← readValue? (4 * s.length + 4) maxDepth s with
  | (.table members, rest) => if (← spacing.skip rest).isEmpty then pure members else none
  | _ => none

end ForumSearch.Ron
