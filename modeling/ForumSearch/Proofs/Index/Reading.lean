import ForumSearch.Index.Reading
import ForumSearch.Proofs.Text.Integer
import ForumSearch.Proofs.Text.Split

/-!
# Reading match expressions back

An expression whose operands stand where their operators let them stand is read back from its
written form. The scan gives its lexemes one after another; building them up follows the levels at
which an expression can stand.
-/

namespace ForumSearch.Index

/-- A word that can be written in quotes and found again between spaces. -/
def IsPlain (w : Text) : Prop :=
  w ≠ [] ∧ ∀ c ∈ w, c ≠ '"' ∧ c ≠ ' '

inductive Level where
  | item
  | row
  | difference
  | choice

/-- What can stand at a level without parentheses around it. -/
inductive Canonical : Level → Expression → Prop where
  | phrase {words : List Text} (h : ∀ w ∈ words, IsPlain w) : Canonical .item (.phrase words)
  | starting {words : List Text} (h : ∀ w ∈ words, IsPlain w) : Canonical .item (.starting words)
  | near {left right : List Text} {window : Nat} (hl : ∀ w ∈ left, IsPlain w)
      (hr : ∀ w ∈ right, IsPlain w) : Canonical .item (.near left right window)
  | parens {e : Expression} (h : Canonical .choice e) : Canonical .item (.parens e)
  | ofItem {e : Expression} (h : Canonical .item e) : Canonical .row e
  | both {l r : Expression} (hl : Canonical .row l) (hr : Canonical .item r) :
      Canonical .row (.both l r)
  | ofRow {e : Expression} (h : Canonical .row e) : Canonical .difference e
  | without {l r : Expression} (hl : Canonical .difference l) (hr : Canonical .row r) :
      Canonical .difference (.without l r)
  | ofDifference {e : Expression} (h : Canonical .difference e) : Canonical .choice e
  | either {l r : Expression} (hl : Canonical .choice l) (hr : Canonical .difference r) :
      Canonical .choice (.either l r)

lemma canonical_joinLeft_both {es : List Expression} {e : Expression}
    (h : Expression.joinLeft .both es = some e) (hes : ∀ x ∈ es, Canonical .item x) :
    Canonical .row e := by
  induction h using Expression.joinLeft_induction with
  | one e => exact .ofItem (List.forall_mem_singleton.mp hes)
  | more es l _ r ih =>
    obtain ⟨hl, hr⟩ := List.forall_mem_append.mp hes
    exact .both (ih hl) (List.forall_mem_singleton.mp hr)

lemma canonical_joinLeft_either {es : List Expression} {e : Expression}
    (h : Expression.joinLeft .either es = some e) (hes : ∀ x ∈ es, Canonical .difference x) :
    Canonical .choice e := by
  induction h using Expression.joinLeft_induction with
  | one e => exact .ofDifference (List.forall_mem_singleton.mp hes)
  | more es l _ r ih =>
    obtain ⟨hl, hr⟩ := List.forall_mem_append.mp hes
    exact .either (ih hl) (List.forall_mem_singleton.mp hr)

def quotedText (words : List Text) : Text :=
  Text.joinWith [' '] words

/-- The lexemes of a written expression. -/
def Expression.lexemes : Expression → List Lexeme
  | .phrase words => [.quoted (quotedText words)]
  | .starting words => [.quoted (quotedText words), .star]
  | .both l r => l.lexemes ++ r.lexemes
  | .either l r => l.lexemes ++ .or :: r.lexemes
  | .without l r => l.lexemes ++ .not :: r.lexemes
  | .near l r window => [.near, .opening, .quoted (quotedText l), .quoted (quotedText r), .comma,
      .number window, .closing]
  | .parens e => .opening :: e.lexemes ++ [.closing]

section Scan

open Lexeme

attribute [local simp] scan

/-- A quoted text ends at its quote, unless another quote follows. -/
lemma scan_inQuotes (inner s cs : Text) (hs : '"' ∉ s) (hcs : cs.head? ≠ some '"') :
    scan (.inQuotes inner) (s ++ '"' :: cs) =
      (scan .between cs).map (.quoted (inner ++ s) :: ·) := by
  induction s generalizing inner with
  | nil =>
    cases cs with
    | nil => simp
    | cons d cs =>
      have hd : d ≠ '"' := by simpa using hcs
      simp [hd]
  | cons c s ih =>
    obtain ⟨hc, hs⟩ := List.ne_and_not_mem_of_not_mem_cons hs
    have hc' : c ≠ '"' := Ne.symm hc
    rw [List.cons_append, scan]
    · rw [if_neg hc', ih _ hs]
      simp
    · simp [hc']

lemma quote_not_mem_quotedText {words : List Text} (h : ∀ w ∈ words, IsPlain w) :
    '"' ∉ quotedText words :=
  Text.not_mem_joinWith (by decide) fun w hw hquote => ((h w hw).2 _ hquote).1 rfl

lemma scan_quote {words : List Text} (h : ∀ w ∈ words, IsPlain w) (cs : Text)
    (hcs : cs.head? ≠ some '"') :
    scan .between (Expression.quote words ++ cs) =
      (scan .between cs).map (.quoted (quotedText words) :: ·) := by
  have hquote : Expression.quote words ++ cs = '"' :: (quotedText words ++ '"' :: cs) := by
    simp [Expression.quote, quotedText]
  rw [hquote, scan, scan_inQuotes [] _ _ (quote_not_mem_quotedText h) hcs]
  rfl

lemma scan_inNumber (n : Nat) (s cs : Text) (hs : ∀ c ∈ s, Text.isDigit c = true) :
    scan (.inNumber n) (s ++ ')' :: cs) =
      (scan .between cs).map fun rest =>
        .number (s.foldl (fun n c => 10 * n + Text.digitValue c) n) :: .closing :: rest := by
  induction s generalizing n with
  | nil =>
    have hclosing : Text.isDigit ')' = false := by decide
    simp [hclosing]
  | cons c s ih =>
    obtain ⟨hc, hs⟩ := List.forall_mem_cons.mp hs
    rw [List.cons_append, scan, if_pos hc, ih _ hs]
    rfl

/-- No digit begins another lexeme. -/
lemma scan_digit {c : Char} (hc : Text.isDigit c = true) (cs : Text) :
    scan .between (c :: cs) = scan (.inNumber (Text.digitValue c)) cs := by
  have hne (d : Char) (hd : Text.isDigit d = false) : c ≠ d := by
    rintro rfl
    rw [hc] at hd
    exact absurd hd (by decide)
  rw [scan]
  · rw [if_pos hc]
  iterate 6 exact hne _ (by decide)
  iterate 3 exact fun _ h => absurd h (hne _ (by decide))

lemma scan_ofNat (n : Nat) (cs : Text) :
    scan .between (Text.ofNat n ++ ')' :: cs) =
      (scan .between cs).map fun rest => .number n :: .closing :: rest := by
  obtain ⟨hdigits, hvalue⟩ := Text.digitsValue_ofNat n
  cases h : Text.ofNat n with
  | nil => exact absurd h (Text.ofNat_ne_nil n)
  | cons c s =>
    rw [h] at hdigits hvalue
    obtain ⟨hc, hs⟩ := List.forall_mem_cons.mp hdigits
    rw [List.cons_append, scan_digit hc, scan_inNumber _ _ _ hs]
    have hfold : s.foldl (fun n c => 10 * n + Text.digitValue c) (Text.digitValue c) = n := by
      simpa [Text.digitsValue] using hvalue
    rw [hfold]

/-- The lexemes of an expression stand before those of what is written after it. -/
lemma scan_text {level : Level} {e : Expression} (h : Canonical level e) (cs : Text)
    (hcs : cs.head? ≠ some '"') :
    scan .between (e.text ++ cs) = (scan .between cs).map (e.lexemes ++ ·) := by
  have hhead {c : Char} (hc : c ≠ '"') (cs : Text) : (c :: cs).head? ≠ some '"' := by
    simpa using hc
  have hmap (f g : List Lexeme → List Lexeme) (o : Option (List Lexeme)) :
      (o.map f).map g = o.map (g ∘ f) := Option.map_map g f o
  -- What comes after the left operand is its operator and the right one, so `cs` must vary.
  induction h generalizing cs with
  | phrase h => exact scan_quote h cs hcs
  | @starting words h =>
    have htext : (Expression.starting words).text ++ cs = Expression.quote words ++ '*' :: cs := by
      simp [Expression.text]
    rw [htext, scan_quote h _ (hhead (by decide) cs), scan, hmap]
    rfl
  | @near left right window hl hr =>
    have htext : (Expression.near left right window).text ++ cs =
        'N' :: 'E' :: 'A' :: 'R' :: '(' :: (Expression.quote left ++ ' ' ::
          (Expression.quote right ++ ',' :: ' ' :: (Text.ofNat window ++ ')' :: cs))) := by
      simp [Expression.text]
    rw [htext, scan, scan, scan_quote hl _ (hhead (by decide) _), scan,
      scan_quote hr _ (hhead (by decide) _), scan, scan, scan_ofNat]
    simp only [hmap]
    rfl
  | @parens e h ih =>
    have htext : (Expression.parens e).text ++ cs = '(' :: (e.text ++ ')' :: cs) := by
      simp [Expression.text]
    rw [htext, scan, ih _ (hhead (by decide) cs), scan, hmap, hmap]
    simp [Expression.lexemes, Function.comp_def]
  | ofItem h ih => exact ih cs hcs
  | @both l r hl hr ihl ihr =>
    have htext : (Expression.both l r).text ++ cs = l.text ++ ' ' :: (r.text ++ cs) := by
      simp [Expression.text]
    rw [htext, ihl _ (hhead (by decide) _), scan, ihr cs hcs, hmap]
    simp [Expression.lexemes, Function.comp_def]
  | ofRow h ih => exact ih cs hcs
  | @without l r hl hr ihl ihr =>
    have htext : (Expression.without l r).text ++ cs =
        l.text ++ ' ' :: 'N' :: 'O' :: 'T' :: ' ' :: (r.text ++ cs) := by
      simp [Expression.text]
    rw [htext, ihl _ (hhead (by decide) _), scan, scan, scan, ihr cs hcs, hmap, hmap]
    simp [Expression.lexemes, Function.comp_def]
  | ofDifference h ih => exact ih cs hcs
  | @either l r hl hr ihl ihr =>
    have htext : (Expression.either l r).text ++ cs =
        l.text ++ ' ' :: 'O' :: 'R' :: ' ' :: (r.text ++ cs) := by
      simp [Expression.text]
    rw [htext, ihl _ (hhead (by decide) _), scan, scan, scan, ihr cs hcs, hmap, hmap]
    simp [Expression.lexemes, Function.comp_def]

end Scan

section Build

open Expression

/-- Between the spaces of a quoted text stand the words that were put there. -/
lemma splitAtEach_quotedText {words : List Text} (hne : words ≠ []) (h : ∀ w ∈ words, IsPlain w) :
    Text.splitAtEach (· = ' ') (quotedText words) = words :=
  Text.splitAtEach_joinWith (by decide) hne fun w hw c hc => decide_eq_false ((h w hw).2 c hc).2

/-- The words of a quoted text are the ones that were written. -/
lemma quotedWords_quotedText {words : List Text} (h : ∀ w ∈ words, IsPlain w) :
    quotedWords (quotedText words) = words := by
  by_cases hne : words = []
  · rw [hne]
    rfl
  · rw [quotedWords, splitAtEach_quotedText hne h, List.filter_eq_self]
    intro w hw
    simpa using (h w hw).1

/-- What the lexemes of an expression do to the draft they are read into. -/
def Reads : Level → Expression → Prop
  | .item, e => ∀ outer d ls, ls.head? ≠ some .star →
    build outer d (e.lexemes ++ ls) = build outer (d.add e) ls
  | .row, e => ∀ outer choice minuend ls, ls.head? ≠ some .star →
    build outer ⟨choice, minuend, none⟩ (e.lexemes ++ ls) =
      build outer ⟨choice, minuend, some e⟩ ls
  | .difference, e => ∀ outer choice ls, ls.head? ≠ some .star →
    ∃ minuend row, Draft.join .without minuend row = e ∧
      build outer ⟨choice, none, none⟩ (e.lexemes ++ ls) =
        build outer ⟨choice, minuend, some row⟩ ls
  | .choice, e => ∀ outer ls, ls.head? ≠ some .star →
    ∃ d, d.expression? = some e ∧ build outer .empty (e.lexemes ++ ls) = build outer d ls

lemma build_phrase (outer : List Draft) (d : Draft) (w : Text) (ls : List Lexeme)
    (hls : ls.head? ≠ some .star) :
    build outer d (.quoted w :: ls) = build outer (d.add (.phrase (quotedWords w))) ls := by
  cases ls with
  | nil => rw [build]; simp
  | cons l ls =>
    cases l with
    | star => exact absurd rfl hls
    | _ => rw [build]; simp

/-- No expression begins with a star. -/
lemma head_lexemes {level : Level} {e : Expression} (h : Canonical level e) (ls : List Lexeme) :
    (e.lexemes ++ ls).head? ≠ some .star := by
  induction h generalizing ls with
  | phrase h => simp [lexemes]
  | starting h => simp [lexemes]
  | near hl hr => simp [lexemes]
  | parens h ih => simp [lexemes]
  | ofItem h ih => exact ih ls
  | ofRow h ih => exact ih ls
  | ofDifference h ih => exact ih ls
  | both hl hr ihl ihr =>
    rw [lexemes, List.append_assoc]
    exact ihl _
  | without hl hr ihl ihr =>
    rw [lexemes, List.append_assoc]
    exact ihl _
  | either hl hr ihl ihr =>
    rw [lexemes, List.append_assoc]
    exact ihl _

lemma reads {level : Level} {e : Expression} (h : Canonical level e) : Reads level e := by
  induction h with
  | phrase h =>
    intro outer d ls hls
    rw [lexemes, List.singleton_append, build_phrase _ _ _ _ hls, quotedWords_quotedText h]
  | starting h =>
    intro outer d ls hls
    rw [lexemes, List.cons_append, List.singleton_append, build, quotedWords_quotedText h]
  | near hl hr =>
    intro outer d ls hls
    simp only [lexemes, List.cons_append, List.nil_append]
    rw [build, quotedWords_quotedText hl, quotedWords_quotedText hr]
  | @parens e h ih =>
    intro outer d ls hls
    -- The draft `d` waits on the stack while the inner expression is built from nothing.
    obtain ⟨d', hd', hbuild⟩ := ih (d :: outer) (.closing :: ls) (by simp)
    have hlex : (Expression.parens e).lexemes ++ ls =
        .opening :: (e.lexemes ++ .closing :: ls) := by simp [lexemes]
    rw [hlex, build, hbuild, build, hd']
    rfl
  | ofItem h ih =>
    intro outer choice minuend ls hls
    exact ih outer ⟨choice, minuend, none⟩ ls hls
  | both hl hr ihl ihr =>
    intro outer choice minuend ls hls
    rw [lexemes, List.append_assoc, ihl _ _ _ _ (head_lexemes hr ls), ihr _ _ _ hls]
    rfl
  | @ofRow e h ih =>
    intro outer choice ls hls
    exact ⟨none, e, rfl, ih outer choice none ls hls⟩
  | @without l r hl hr ihl ihr =>
    intro outer choice ls hls
    obtain ⟨minuend, row, hjoin, hbuild⟩ :=
      ihl outer choice (.not :: (r.lexemes ++ ls)) (by simp)
    refine ⟨some l, r, rfl, ?_⟩
    have hlex : (Expression.without l r).lexemes ++ ls =
        l.lexemes ++ .not :: (r.lexemes ++ ls) := by simp [lexemes]
    have hnot : (⟨choice, minuend, some row⟩ : Draft).afterNot? = some ⟨choice, some l, none⟩ := by
      simp [Draft.afterNot?, Draft.difference?, hjoin]
    rw [hlex, hbuild, build, hnot]
    exact ihr outer choice (some l) ls hls
  | @ofDifference e h ih =>
    intro outer ls hls
    obtain ⟨minuend, row, hjoin, hbuild⟩ := ih outer none ls hls
    refine ⟨⟨none, minuend, some row⟩, ?_, hbuild⟩
    simp only [Draft.expression?, Draft.difference?, Option.map_some, hjoin]
    rfl
  | @either l r hl hr ihl ihr =>
    intro outer ls hls
    obtain ⟨d, hd, hbuild⟩ := ihl outer (.or :: (r.lexemes ++ ls)) (by simp)
    obtain ⟨minuend, row, hjoin, hbuild'⟩ := ihr outer (some l) ls hls
    have hlex : (Expression.either l r).lexemes ++ ls =
        l.lexemes ++ .or :: (r.lexemes ++ ls) := by simp [lexemes]
    have hor : d.afterOr? = some ⟨some l, none, none⟩ := by simp [Draft.afterOr?, hd]
    refine ⟨⟨some l, minuend, some row⟩, ?_, ?_⟩
    · simp only [Draft.expression?, Draft.difference?, Option.map_some, hjoin]
      rfl
    · rw [hlex, hbuild, build, hor]
      exact hbuild'

end Build

/-- A written expression is read back as it was. -/
theorem read?_text {e : Expression} (h : Canonical .choice e) :
    Expression.read? e.text = some e := by
  obtain ⟨d, hd, hbuild⟩ := reads h [] [] (by simp)
  have hscan := scan_text h [] (by simp)
  simp only [List.append_nil] at hscan hbuild
  have hlexemes : Lexeme.scan .between e.text = some e.lexemes := by
    rw [hscan, Lexeme.scan]
    simp
  rw [Expression.read?, hlexemes, Option.bind_some, hbuild, Expression.build, hd]

end ForumSearch.Index
