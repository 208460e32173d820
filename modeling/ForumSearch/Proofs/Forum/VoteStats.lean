import ForumSearch.Forum.Voting
import ForumSearch.Proofs.Store.VoteBounds
import ForumSearch.Proofs.Text.Integer

/-!
# Votes by tag name

Several tags may go by one name and some by none. The votes shown under a name are those of all
links whose tag goes by it, and what is shown under all names together are the votes of the links
whose tag has a name. All of this is counted in 64 bits; as long as no sum leaves them, it is what
integers add up to. A voting store may answer anything at all.
-/

namespace ForumSearch

/-- The links whose tag goes by a name. -/
def linksNamed (names : Int → Option Text) (name : Text) (links : List Link) : List Link :=
  links.filter fun link => names link.tag = some name

/-- The links whose tag has a name. -/
def namedLinks (names : Int → Option Text) (links : List Link) : List Link :=
  links.filter fun link => (names link.tag).isSome

def votesUp (links : List Link) : Int :=
  (links.map fun link => link.counters.up).sum

def votesDown (links : List Link) : Int :=
  (links.map fun link => link.counters.down).sum

/-- The votes of some links as one. -/
def VoteStats.total (links : List Link) : VoteStats :=
  VoteStats.of ⟨votesUp links, votesDown links⟩

section Tally

variable (names : Int → Option Text) (links : List Link) (link : Link)

lemma voteStats_concat :
    voteStats names (links ++ [link]) = addVotes names (voteStats names links) link := by
  simp [voteStats, List.foldl_append]

lemma get?_addVotes (stats : Table Text VoteStats) (name : Text) :
    (addVotes names stats link).get? name =
      if names link.tag = some name then
        some (((stats.get? name).getD .zero).add (.of link.counters))
      else stats.get? name := by
  unfold addVotes
  cases h : names link.tag with
  | none => simp
  | some other =>
    simp only [Table.get?_insert, Option.some.injEq]
    by_cases hname : other = name
    · simp [hname]
    · simp [hname]

lemma linksNamed_concat (name : Text) :
    linksNamed names name (links ++ [link]) =
      linksNamed names name links ++ if names link.tag = some name then [link] else [] := by
  by_cases h : names link.tag = some name
  · simp [linksNamed, h]
  · simp [linksNamed, h]

lemma total_concat :
    VoteStats.total (links ++ [link]) = (VoteStats.total links).add (.of link.counters) := by
  have hup : votesUp (links ++ [link]) = votesUp links + link.counters.up := by simp [votesUp]
  have hdown : votesDown (links ++ [link]) = votesDown links + link.counters.down := by
    simp [votesDown]
  unfold VoteStats.total VoteStats.of VoteStats.add
  rw [hup, hdown, VoteStats.mk.injEq]
  refine ⟨Int64.ofInt_add _ _, Int64.ofInt_add _ _, ?_⟩
  rw [← Int64.ofInt_sub, ← Int64.ofInt_sub, ← Int64.ofInt_sub, ← Int64.ofInt_add]
  refine congrArg Int64.ofInt ?_
  dsimp only
  omega

/-- A name is shown if the tag of a link goes by it, and then with the votes of all such links. -/
theorem get?_voteStats (name : Text) :
    (voteStats names links).get? name =
      if linksNamed names name links = [] then none
      else some (.total (linksNamed names name links)) := by
  induction links using List.reverseRecOn with
  | nil => rfl
  | append_singleton links link ih =>
    rw [voteStats_concat, get?_addVotes, linksNamed_concat, ih]
    by_cases h : names link.tag = some name
    · have hzero : VoteStats.zero = .total [] := rfl
      have hsome : linksNamed names name links ++ [link] ≠ [] := by simp
      rw [if_pos h, if_pos h, if_neg hsome, total_concat, hzero]
      by_cases hnone : linksNamed names name links = []
      · rw [if_pos hnone, hnone]
        rfl
      · rw [if_neg hnone]
        rfl
    · rw [if_neg h, if_neg h, List.append_nil]

lemma linksNamed_eq_nil_iff (name : Text) :
    linksNamed names name links = [] ↔ ∀ link ∈ links, names link.tag ≠ some name := by
  simp [linksNamed]

lemma eq_total_of_get? {name : Text} {s : VoteStats}
    (h : (voteStats names links).get? name = some s) :
    s = .total (linksNamed names name links) := by
  rw [get?_voteStats] at h
  split_ifs at h with hnone
  exact (Option.some.inj h).symm

lemma mem_keys_voteStats (name : Text) :
    name ∈ (voteStats names links).keys ↔ ∃ link ∈ links, names link.tag = some name := by
  rw [Table.mem_keys, Table.contains, get?_voteStats]
  by_cases hnone : linksNamed names name links = []
  · simpa [hnone] using (linksNamed_eq_nil_iff names links name).mp hnone
  · simpa [hnone] using mt (linksNamed_eq_nil_iff names links name).mpr hnone

lemma map_values_voteStats {α : Type} (f : VoteStats → α) :
    (voteStats names links).values.map f =
      (voteStats names links).keys.map fun name => f (.total (linksNamed names name links)) := by
  unfold Table.values Table.keys
  rw [List.map_map, List.map_map]
  refine List.map_congr_left ?_
  intro row hrow
  have hget := Table.get?_eq_some_iff.mpr hrow
  exact congrArg f (eq_total_of_get? names links hget)

/-- The links whose tag has a name are those of each name, if no name is missing or repeated. -/
lemma sum_linksNamed {keys : List Text} (hkeys : keys.Nodup)
    (hall : ∀ link ∈ links, ∀ name, names link.tag = some name → name ∈ keys) (f : Link → Int) :
    (keys.map fun name => ((linksNamed names name links).map f).sum).sum =
      ((namedLinks names links).map f).sum := by
  rw [← List.sum_toFinset _ hkeys]
  induction links with
  | nil => simp [linksNamed, namedLinks]
  | cons link links ih =>
    obtain ⟨hlink, hall⟩ := List.forall_mem_cons.mp hall
    have hcons (name : Text) : ((linksNamed names name (link :: links)).map f).sum =
        (if names link.tag = some name then f link else 0) +
          ((linksNamed names name links).map f).sum := by
      by_cases h : names link.tag = some name
      · simp [linksNamed, h]
      · simp [linksNamed, h]
    simp only [hcons]
    rw [Finset.sum_add_distrib, ih hall]
    cases h : names link.tag with
    | none => simp [namedLinks, h]
    | some name =>
      have hmem : name ∈ keys := hlink name h
      simp [namedLinks, h, hmem]

lemma sum_keys_voteStats (f : Link → Int) :
    ((voteStats names links).keys.map fun name =>
      ((linksNamed names name links).map f).sum).sum =
        ((namedLinks names links).map f).sum :=
  sum_linksNamed names links (Table.nodup_keys _)
    (fun link hlink name h => (mem_keys_voteStats names links name).mpr ⟨link, hlink, h⟩) f

lemma sum_map_ofInt {α : Type} (xs : List α) (f : α → Int) :
    (xs.map fun x => Int64.ofInt (f x)).sum = .ofInt (xs.map f).sum := by
  induction xs with
  | nil => rfl
  | cons x xs ih =>
    rw [List.map_cons, List.sum_cons, ih, List.map_cons, List.sum_cons, Int64.ofInt_add]

/-- Votes under names that are those of some links: a name is there if the tag of a link goes by it,
it has the votes of the links whose tag goes by it, and all names together have the votes of the
links whose tag has a name. Sums are of 64 bits. -/
structure Tallies (stats : Table Text VoteStats) : Prop where
  name : ∀ name, name ∈ stats.keys ↔ ∃ link ∈ links, names link.tag = some name
  up : ∀ name s, stats.get? name = some s →
    s.up = .ofInt (votesUp (linksNamed names name links))
  down : ∀ name s, stats.get? name = some s →
    s.down = .ofInt (votesDown (linksNamed names name links))
  score : ∀ name s, stats.get? name = some s → s.score = s.up - s.down
  allUp : (stats.values.map VoteStats.up).sum = .ofInt (votesUp (namedLinks names links))
  allDown : (stats.values.map VoteStats.down).sum = .ofInt (votesDown (namedLinks names links))
  allScores : (stats.values.map VoteStats.score).sum =
    .ofInt (votesUp (namedLinks names links)) - .ofInt (votesDown (namedLinks names links))

/-- No sum of the votes under a name leaves 64 bits. -/
structure Fits : Prop where
  up : ∀ name, Text.isInt64 (votesUp (linksNamed names name links)) = true
  down : ∀ name, Text.isInt64 (votesDown (linksNamed names name links)) = true
  score : ∀ name, Text.isInt64
    (votesUp (linksNamed names name links) - votesDown (linksNamed names name links)) = true

/-- The same votes as integers. -/
structure ExactTallies (stats : Table Text VoteStats) : Prop where
  up : ∀ name s, stats.get? name = some s →
    s.up.toInt = votesUp (linksNamed names name links)
  down : ∀ name s, stats.get? name = some s →
    s.down.toInt = votesDown (linksNamed names name links)
  score : ∀ name s, stats.get? name = some s → s.score.toInt = s.up.toInt - s.down.toInt
  allUp : (stats.values.map fun s => s.up.toInt).sum = votesUp (namedLinks names links)
  allDown : (stats.values.map fun s => s.down.toInt).sum = votesDown (namedLinks names links)
  allScores : (stats.values.map fun s => s.score.toInt).sum =
    votesUp (namedLinks names links) - votesDown (namedLinks names links)

lemma sum_votesUp :
    ((voteStats names links).keys.map fun name => votesUp (linksNamed names name links)).sum =
      votesUp (namedLinks names links) :=
  sum_keys_voteStats names links _

lemma sum_votesDown :
    ((voteStats names links).keys.map fun name => votesDown (linksNamed names name links)).sum =
      votesDown (namedLinks names links) :=
  sum_keys_voteStats names links _

lemma sum_votes :
    ((voteStats names links).keys.map fun name =>
      votesUp (linksNamed names name links) - votesDown (linksNamed names name links)).sum =
        votesUp (namedLinks names links) - votesDown (namedLinks names links) := by
  rw [← sum_votesUp, ← sum_votesDown]
  induction (voteStats names links).keys with
  | nil => rfl
  | cons name keys ih =>
    simp only [List.map_cons, List.sum_cons, ih]
    omega

theorem tallies_voteStats : Tallies names links (voteStats names links) where
  name := mem_keys_voteStats names links
  up name s h := by rw [eq_total_of_get? names links h]; rfl
  down name s h := by rw [eq_total_of_get? names links h]; rfl
  score name s h := by rw [eq_total_of_get? names links h]; rfl
  allUp := by
    rw [map_values_voteStats, ← sum_votesUp, ← sum_map_ofInt]
    rfl
  allDown := by
    rw [map_values_voteStats, ← sum_votesDown, ← sum_map_ofInt]
    rfl
  allScores := by
    rw [map_values_voteStats, ← Int64.ofInt_sub, ← sum_votes, ← sum_map_ofInt]
    simp only [VoteStats.total, VoteStats.of, Int64.ofInt_sub]

lemma toInt_ofInt_of_isInt64 {n : Int} (h : Text.isInt64 n = true) :
    (Int64.ofInt n).toInt = n := by
  obtain ⟨hmin, hmax⟩ := Text.isInt64_iff.mp h
  unfold Text.minInt64 at hmin
  unfold Text.maxInt64 at hmax
  exact Int64.toInt_ofInt_of_le (by omega) (by omega)

variable {links} in
lemma Fits.toInt_total (h : Fits names links) (name : Text) :
    (VoteStats.total (linksNamed names name links)).up.toInt =
        votesUp (linksNamed names name links) ∧
      (VoteStats.total (linksNamed names name links)).down.toInt =
        votesDown (linksNamed names name links) ∧
      (VoteStats.total (linksNamed names name links)).score.toInt =
        votesUp (linksNamed names name links) - votesDown (linksNamed names name links) := by
  refine ⟨toInt_ofInt_of_isInt64 (h.up name), toInt_ofInt_of_isInt64 (h.down name), ?_⟩
  unfold VoteStats.total VoteStats.of
  rw [← Int64.ofInt_sub]
  exact toInt_ofInt_of_isInt64 (h.score name)

lemma abs_votes_le :
    |votesUp links| + |votesDown links| ≤
      (links.map fun link => link.counters.weight).sum := by
  induction links with
  | nil => decide
  | cons link links ih =>
    have hup : |link.counters.up + votesUp links| ≤ |link.counters.up| + |votesUp links| :=
      abs_add_le _ _
    have hdown : |link.counters.down + votesDown links| ≤
        |link.counters.down| + |votesDown links| := abs_add_le _ _
    rw [List.map_cons, List.sum_cons, Counters.weight]
    simp only [votesUp, votesDown, List.map_cons, List.sum_cons] at *
    omega

variable {links} in
/-- It is enough that all counters together stay in 64 bits. -/
lemma fits_of_weight
    (h : (links.map fun link => link.counters.weight).sum ≤ Text.maxInt64) :
    Fits names links := by
  have hsub (name : Text) : ((linksNamed names name links).map fun link =>
      link.counters.weight).Sublist (links.map fun link => link.counters.weight) :=
    List.filter_sublist.map _
  have hbound (name : Text) :
      |votesUp (linksNamed names name links)| + |votesDown (linksNamed names name links)| ≤
        Text.maxInt64 := by
    refine (abs_votes_le _).trans (((hsub name).sum_le_sum ?_).trans h)
    exact List.forall_mem_map.mpr fun link _ => link.counters.weight_nonneg
  constructor <;>
  · intro name
    have hname := hbound name
    have hup := abs_le.mp (le_refl |votesUp (linksNamed names name links)|)
    have hdown := abs_le.mp (le_refl |votesDown (linksNamed names name links)|)
    rw [Text.isInt64_iff]
    unfold Text.minInt64 Text.maxInt64 at *
    omega

/-- No sum of what a store counts leaves 64 bits before it has been written 2 ^ 62 times. -/
lemma fits_linksOf_after (history : List Write) (thread : Int)
    (h : 2 * history.length ≤ Text.maxInt64) :
    Fits names ((Store.after history).linksOf thread) :=
  fits_of_weight names ((Store.sum_weight_linksOf_after history thread).trans h)

theorem exactTallies_voteStats (h : Fits names links) :
    ExactTallies names links (voteStats names links) where
  up name s hs := by
    rw [eq_total_of_get? names links hs]
    exact (h.toInt_total names name).1
  down name s hs := by
    rw [eq_total_of_get? names links hs]
    exact (h.toInt_total names name).2.1
  score name s hs := by
    obtain ⟨hup, hdown, hscore⟩ := h.toInt_total names name
    rw [eq_total_of_get? names links hs, hup, hdown, hscore]
  allUp := by
    rw [map_values_voteStats, ← sum_votesUp]
    simp only [h.toInt_total names]
  allDown := by
    rw [map_values_voteStats, ← sum_votesDown]
    simp only [h.toInt_total names]
  allScores := by
    rw [map_values_voteStats, ← sum_votes]
    simp only [h.toInt_total names]

variable {links}

/-- The links may stand in any order. -/
theorem voteStats_perm {links' : List Link} (h : links'.Perm links) :
    voteStats names links' = voteStats names links := by
  apply Table.ext_get?
  intro name
  have hnamed : (linksNamed names name links').Perm (linksNamed names name links) := h.filter _
  have htotal : VoteStats.total (linksNamed names name links') =
      .total (linksNamed names name links) := by
    rw [VoteStats.total, VoteStats.total, votesUp, votesDown, (hnamed.map _).sum_eq,
      (hnamed.map _).sum_eq]
    rfl
  have hnone : linksNamed names name links' = [] ↔ linksNamed names name links = [] := by
    rw [← List.length_eq_zero_iff, hnamed.length_eq, List.length_eq_zero_iff]
  rw [get?_voteStats, get?_voteStats, htotal]
  simp only [hnone]

end Tally

namespace Voting

/-- Whatever a voting store answers, what is shown of a thread are the votes of the links that were
read, in any order of these. A vote that the store takes, or leaves aside, is answered by what is
shown after it. If the store fails to take it, that is the answer, no links are read, and it does not
matter what they are. What the forum's own store counts fits. -/
theorem record_tallied {σ : Type} (b : VoteBackend σ) (names : Int → Option Text) :
    (∀ thread state links, b.links thread state = .ok links →
      ∃ stats, readStats b names thread state = .ok stats ∧ Tallies names links stats ∧
        (Fits names links → ExactTallies names links stats) ∧
        ∀ links', links'.Perm links → voteStats names links' = stats) ∧
    (∀ v state,
      match b.apply v state with
      | .ok (_, after) =>
        record b names v state =
          ⟨readStats b names v.thread after, after, [.apply v, .links v.thread]⟩
      | .error reason =>
        record b names v state = ⟨.error (.internal reason), state, [.apply v]⟩ ∧
          ∀ links, record { b with links } names v state = record b names v state) ∧
    ∀ history thread, 2 * history.length ≤ Text.maxInt64 →
      Fits names ((Store.after history).linksOf thread) := by
  refine ⟨?_, ?_, fits_linksOf_after names⟩
  · intro thread state links hlinks
    refine ⟨voteStats names links, ?_, tallies_voteStats names links,
      exactTallies_voteStats names links, ?_⟩
    · rw [readStats, hlinks]
    · intro links' hperm
      exact voteStats_perm names hperm
  · intro v state
    cases h : b.apply v state with
    | error reason => simp only [record, h, implies_true, and_self]
    | ok applied => simp only [record, h]

/-- Two tags go by one name and one by none; the vote is on a tag that the thread does not carry. -/
theorem record_tallied_shared_name :
    let names : Int → Option Text := (Table.ofList [(10, ['a']), (20, ['b']), (11, ['a'])]).get?
    let links : List Link := [⟨1, 10, ⟨2, 1⟩⟩, ⟨1, 20, ⟨0, 3⟩⟩, ⟨1, 30, ⟨5, 5⟩⟩, ⟨1, 11, ⟨4, 2⟩⟩]
    let b : VoteBackend Unit := ⟨fun _ _ => .ok (none, ()), fun _ _ => .ok links⟩
    let t : Thread := ⟨1, 1, 1, ['x'], ⟨0, 0⟩, ⟨0, 0⟩, 0, 0, none, [], 0⟩
    let history : List Write := [.thread t [10, 20], .vote ⟨7, 1, 10, .up⟩]
    b.links 1 () = .ok links ∧ Fits names links ∧ links.reverse.Perm links ∧
      (∃ stats, readStats b names 1 () = .ok stats ∧ Tallies names links stats ∧
        ExactTallies names links stats ∧ voteStats names links.reverse = stats ∧
        stats.rows = [(['a'], ⟨6, 3, 3⟩), (['b'], ⟨0, 3, -3⟩)] ∧
        record b names ⟨7, 1, 99, .up⟩ () =
          ⟨.ok stats, (), [.apply ⟨7, 1, 99, .up⟩, .links 1]⟩) ∧
      (Store.after history).linksOf 1 = [⟨1, 10, ⟨1, 0⟩⟩, ⟨1, 20, ⟨0, 0⟩⟩] ∧
      Fits names ((Store.after history).linksOf 1) := by
  intro names links b t history
  have hread : b.links 1 () = .ok links := rfl
  have hfits : Fits names links := fits_of_weight names (by decide)
  have hperm : links.reverse.Perm links := links.reverse_perm
  obtain ⟨hstats, hrecord, hstored⟩ := record_tallied b names
  obtain ⟨stats, hanswer, htallies, hexact, hsame⟩ := hstats 1 () links hread
  have hshown : stats.rows = [(['a'], ⟨6, 3, 3⟩), (['b'], ⟨0, 3, -3⟩)] := by
    rw [← hsame links (List.Perm.refl links)]
    decide
  refine ⟨hread, hfits, hperm, ⟨stats, hanswer, htallies, hexact hfits, hsame _ hperm, hshown, ?_⟩,
    by decide, hstored history 1 (by decide)⟩
  rw [← hanswer]
  exact hrecord ⟨7, 1, 99, .up⟩ ()

end Voting

/-- One vote more than 64 bits hold. -/
example :
    (voteStats (fun _ => some ['a'])
      [⟨1, 10, ⟨9223372036854775807, 0⟩⟩, ⟨1, 11, ⟨1, 0⟩⟩]).rows =
        [(['a'], ⟨Int64.minValue, 0, Int64.minValue⟩)] := by
  decide

end ForumSearch
