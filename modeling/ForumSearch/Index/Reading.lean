import ForumSearch.Index.Expression

/-!
Reading of match expressions. What stands side by side belongs together first, then what NOT joins,
then what OR joins, each from the left; parentheses come before all of these. A text that is not
an expression has no reading.
-/

namespace ForumSearch.Index

inductive Lexeme where
  | quoted (inner : Text)
  | star
  | opening
  | closing
  | comma
  | number (n : Nat)
  | or
  | not
  | near
  deriving DecidableEq, Repr

namespace Lexeme

/-- Where a scan stands: between lexemes, after some characters of a quoted text, or after some
digits of a number. -/
inductive Place where
  | between
  | inQuotes (inner : Text)
  | inNumber (n : Nat)

/-- A quote is written twice inside quotes, and a number ends at a closing parenthesis. -/
def scan : Place → Text → Option (List Lexeme)
  | .between, [] => some []
  | .between, '"' :: s => scan (.inQuotes []) s
  | .between, ' ' :: s => scan .between s
  | .between, '*' :: s => (scan .between s).map (.star :: ·)
  | .between, '(' :: s => (scan .between s).map (.opening :: ·)
  | .between, ')' :: s => (scan .between s).map (.closing :: ·)
  | .between, ',' :: s => (scan .between s).map (.comma :: ·)
  | .between, 'O' :: 'R' :: s => (scan .between s).map (.or :: ·)
  | .between, 'N' :: 'O' :: 'T' :: s => (scan .between s).map (.not :: ·)
  | .between, 'N' :: 'E' :: 'A' :: 'R' :: s => (scan .between s).map (.near :: ·)
  | .between, c :: s => if Text.isDigit c then scan (.inNumber (Text.digitValue c)) s else none
  | .inQuotes _, [] => none
  | .inQuotes inner, '"' :: '"' :: s => scan (.inQuotes (inner ++ ['"'])) s
  | .inQuotes inner, c :: s =>
    if c = '"' then (scan .between s).map (.quoted inner :: ·)
    else scan (.inQuotes (inner ++ [c])) s
  | .inNumber _, [] => none
  | .inNumber n, c :: s =>
    if Text.isDigit c then scan (.inNumber (10 * n + Text.digitValue c)) s
    else if c = ')' then (scan .between s).map fun rest => .number n :: .closing :: rest
    else none

end Lexeme

/-- An expression under way: what the last OR follows, what the last NOT since then follows, and
what stands side by side since that. -/
structure Draft where
  choice : Option Expression
  minuend : Option Expression
  row : Option Expression

namespace Draft

def empty : Draft := ⟨none, none, none⟩

/-- An operand after others that may be missing. -/
def join (op : Expression → Expression → Expression) (left : Option Expression)
    (right : Expression) : Expression :=
  match left with
  | none => right
  | some l => op l right

def add (d : Draft) (e : Expression) : Draft :=
  { d with row := some (join .both d.row e) }

def difference? (d : Draft) : Option Expression :=
  d.row.map (join .without d.minuend)

def expression? (d : Draft) : Option Expression :=
  d.difference?.map (join .either d.choice)

def afterNot? (d : Draft) : Option Draft :=
  d.difference?.map fun e => ⟨d.choice, some e, none⟩

def afterOr? (d : Draft) : Option Draft :=
  d.expression?.map fun e => ⟨some e, none, none⟩

end Draft

namespace Expression

/-- The words of a quoted text, between spaces. -/
def quotedWords (inner : Text) : List Text :=
  (Text.splitAtEach (· = ' ') inner).filter fun w => !w.isEmpty

/-- Reads lexemes into a draft, inside the drafts that open parentheses interrupt. -/
def build : List Draft → Draft → List Lexeme → Option Expression
  | [], d, [] => d.expression?
  | outer, d, .quoted w :: .star :: ls => build outer (d.add (.starting (quotedWords w))) ls
  | outer, d, .quoted w :: ls => build outer (d.add (.phrase (quotedWords w))) ls
  | outer, d, .near :: .opening :: .quoted v :: .quoted w :: .comma :: .number n :: .closing :: ls =>
    build outer (d.add (.near (quotedWords v) (quotedWords w) n)) ls
  | outer, d, .opening :: ls => build (d :: outer) .empty ls
  | o :: outer, d, .closing :: ls =>
    d.expression?.bind fun e => build outer (o.add (.parens e)) ls
  | outer, d, .or :: ls => d.afterOr?.bind fun d => build outer d ls
  | outer, d, .not :: ls => d.afterNot?.bind fun d => build outer d ls
  | _, _, _ => none

def read? (s : Text) : Option Expression :=
  (Lexeme.scan .between s).bind (build [] .empty)

end Expression

end ForumSearch.Index
