import GameJam.Proofs.Results.Categories
import GameJam.Proofs.Results.LabelFilter
import GameJam.Proofs.Text.Utf8
import Mathlib.Data.List.Permutation
import Mathlib.Data.List.Sort

/-!
# What is read from the games

Two things that a selector offers are read from the games, the categories of the rating and the
labels that occur.  In both lists each stands once, but their orders follow opposite laws.  A
category stands where it is first seen, so the order depends on that of the games, and further games
only add to its end.  Labels are in the order of their bytes, which does not depend on where they
were seen.

The categories are read in one go through the ranks of all games.  What is known after each rank is
said by `FirstSeen`, and one more rank either changes nothing or adds its category at the end.

## What is here

* `FirstSeen` — each of the things seen, in the order in which they were first seen;
  `FirstSeen.concat` for one more, and `firstSeen_eraseDups` for all of them.
* `pairwise_distinctLabels` — labels are in increasing order.
* `Rearranged` — the same games in another order, and with their labels in another order.
* `offers_of_games` — **the two lists and their orders**.
-/

set_option autoImplicit false

universe u

namespace GameJam

/-! ## Things in the order in which they are first seen -/

/-- Each of the things seen, in the order in which they were first seen. -/
structure FirstSeen {α : Type u} [DecidableEq α] (seen firsts : List α) : Prop where
  mem_iff : ∀ a, a ∈ firsts ↔ a ∈ seen
  ordered : firsts.Pairwise fun a b => seen.idxOf a < seen.idxOf b

section FirstSeen

variable {α : Type u} [DecidableEq α] {seen firsts : List α}

theorem FirstSeen.nodup (h : FirstSeen seen firsts) : firsts.Nodup :=
  h.ordered.imp fun hlt heq => absurd (congrArg (seen.idxOf ·) heq) hlt.ne

/-- One more thing is added at the end, unless it has been seen before. -/
theorem FirstSeen.concat (h : FirstSeen seen firsts) (c : α) :
    FirstSeen (seen ++ [c]) (if c ∈ seen then firsts else firsts ++ [c]) := by
  -- what has been seen is where it was
  have hold : firsts.Pairwise fun a b => (seen ++ [c]).idxOf a < (seen ++ [c]).idxOf b := by
    refine h.ordered.imp_of_mem fun ha hb hlt => ?_
    rw [h.mem_iff] at ha hb
    rwa [List.idxOf_append_of_mem ha, List.idxOf_append_of_mem hb]
  split_ifs with hc
  · refine ⟨fun a => ?_, hold⟩
    rw [h.mem_iff, List.mem_append, List.mem_singleton]
    exact ⟨.inl, fun ha => ha.elim id fun heq => heq ▸ hc⟩
  · refine ⟨fun a => ?_, List.pairwise_append.2 ⟨hold, List.pairwise_singleton _ _, ?_⟩⟩
    · rw [List.mem_append, List.mem_append, h.mem_iff]
    · intro a ha b hb
      rw [List.mem_singleton] at hb
      subst hb
      have hseen : a ∈ seen := (h.mem_iff a).1 ha
      rw [List.idxOf_append_of_mem hseen, List.idxOf_append_of_notMem hc]
      exact (List.idxOf_lt_length_of_mem hseen).trans_le (Nat.le_add_right _ _)

theorem eraseDups_concat (seen : List α) (c : α) :
    (seen ++ [c]).eraseDups = if c ∈ seen then seen.eraseDups else seen.eraseDups ++ [c] := by
  rw [List.eraseDups_append]
  split_ifs with hc <;> simp [List.removeAll, hc, List.eraseDups_cons]

/-- **Things without repetitions** are in the order in which they are first seen. -/
theorem firstSeen_eraseDups (seen : List α) : FirstSeen seen seen.eraseDups := by
  induction seen using List.reverseRecOn with
  | nil => exact ⟨fun _ => Iff.rfl, List.Pairwise.nil⟩
  | append_singleton seen c ih =>
    rw [eraseDups_concat]
    exact ih.concat c

end FirstSeen

/-! ## Labels in order -/

variable {games others : List Game} {field : LabelField}

/-- Labels are in increasing order. -/
theorem pairwise_distinctLabels (games : List Game) (field : LabelField) :
    (distinctLabels games field).Pairwise (· < ·) := by
  rw [distinctLabels]
  generalize games.flatMap (fun game => (game.labels? field).getD []) = seen
  have hsorted : (seen.eraseDups.mergeSort fun a b => !decide (b < a)).Pairwise
      fun a b => (!decide (b < a)) = true := by
    refine List.pairwise_mergeSort ?_ ?_ _
    · simp only [Bool.not_eq_true', decide_eq_false_iff_not, String.not_lt]
      exact fun a b c => String.le_trans
    · simp only [Bool.or_eq_true, Bool.not_eq_true', decide_eq_false_iff_not, String.not_lt]
      exact String.le_total
  have hnodup : (seen.eraseDups.mergeSort fun a b => !decide (b < a)).Nodup :=
    (List.mergeSort_perm _ _).nodup_iff.2 (firstSeen_eraseDups seen).nodup
  refine (hsorted.and hnodup).imp fun h => ?_
  have hle := h.1
  simp only [Bool.not_eq_true', decide_eq_false_iff_not, String.not_lt] at hle
  exact Std.lt_of_le_of_ne hle h.2

/-- The same games, but for the order of the games and the order of the labels in each list. -/
def Rearranged (field : LabelField) (games others : List Game) : Prop :=
  ∃ moved, games.Perm moved ∧
    List.Forall₂ (fun game other => Option.Rel List.Perm (game.labels? field) (other.labels? field))
      moved others

theorem hasLabel_iff_of_rel {game other : Game}
    (h : Option.Rel List.Perm (game.labels? field) (other.labels? field)) (label : String) :
    game.HasLabel field label ↔ other.HasLabel field label := by
  rw [Game.HasLabel, Game.HasLabel]
  generalize game.labels? field = labels, other.labels? field = moved at h
  cases h with
  | none => rfl
  | some hperm => simp [hperm.mem_iff]

theorem Rearranged.exists_hasLabel_iff (h : Rearranged field games others) (label : String) :
    (∃ game ∈ games, game.HasLabel field label) ↔ ∃ other ∈ others, other.HasLabel field label := by
  obtain ⟨moved, hperm, hlists⟩ := h
  simp only [hperm.mem_iff]
  clear hperm
  induction hlists with
  | nil => rfl
  | cons hlabels _ ih =>
    rw [List.exists_mem_cons_iff, List.exists_mem_cons_iff, ih, hasLabel_iff_of_rel hlabels]

/-- Labels do not depend on the order in which they are seen. -/
theorem Rearranged.distinctLabels_eq (h : Rearranged field games others) :
    distinctLabels others field = distinctLabels games field := by
  refine (pairwise_distinctLabels others field).eq_of_mem_iff (pairwise_distinctLabels games field)
    fun label => ?_
  rw [mem_distinctLabels_iff, mem_distinctLabels_iff, h.exists_hasLabel_iff]

/-! ## Both lists -/

/-- **What is read from the games.**  The categories are those of the ranks, each once, in the
order in which they are first seen, and further games add theirs behind them; the first game alone
has the first of them.  The labels of a list are those that some game has in it, in the order of
their bytes, whatever the order of the games and of their labels. -/
theorem offers_of_games (games : List Game) :
    let known := rankCategories games .allRecords
    (known.Nodup ∧
      (∀ category, category ∈ known ↔
        ∃ game ∈ games, ∃ rank ∈ game.ranks, rank.category = category) ∧
      FirstSeen (games.flatMap fun game => game.ranks.map Rank.category) known ∧
      (∀ further, known <+: rankCategories (games ++ further) .allRecords) ∧
      rankCategories games .firstRecord = rankCategories (games.take 1) .allRecords ∧
      rankCategories games .firstRecord <+: known) ∧
    ∀ field,
      (distinctLabels games field).Pairwise
        (fun label next => Utf8.encode label.toList < Utf8.encode next.toList) ∧
      (∀ label, label ∈ distinctLabels games field ↔
        ∃ game ∈ games, game.HasLabel field label) ∧
      ∀ others, Rearranged field games others →
        distinctLabels others field = distinctLabels games field := by
  intro known
  have hseen : FirstSeen (games.flatMap fun game => game.ranks.map Rank.category) known :=
    firstSeen_eraseDups _
  refine ⟨⟨hseen.nodup, fun _ => mem_rankCategories_iff, hseen,
    rankCategories_prefix_append games, rfl, rankCategories_prefix_allRecords games⟩,
    fun field => ⟨?_, fun _ => mem_distinctLabels_iff, fun _ => Rearranged.distinctLabels_eq⟩⟩
  exact (pairwise_distinctLabels games field).imp fun hlt =>
    Utf8.encode_lt_encode_iff.2 (String.lt_iff.1 hlt)

/-- Two games change places, and so do the labels of one of them. -/
theorem offers_of_games_rearranged :
    let tagged (tags : List String) : Game :=
      ⟨"", "", none, "", [], 0, [], none, none, none, some tags⟩
    let games := [tagged ["b", "a"], tagged ["é", "a"]]
    let others := [tagged ["é", "a"], tagged ["a", "b"]]
    Rearranged .tags games others ∧
      distinctLabels others .tags = distinctLabels games .tags ∧
      distinctLabels games .tags = ["a", "b", "é"] := by
  intro tagged games others
  have hmoved : Rearranged .tags games others :=
    ⟨_, .swap _ _ [], .cons (.some (.refl _)) (.cons (.some (.swap _ _ [])) .nil)⟩
  exact ⟨hmoved, ((offers_of_games games).2 .tags).2.2 others hmoved, by cbv⟩

end GameJam
