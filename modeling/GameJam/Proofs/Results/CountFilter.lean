import GameJam.Proofs.Filter.Descent
import GameJam.Proofs.Number.Rounding
import GameJam.Proofs.Paging
import GameJam.Results.Schema

/-!
# Filtering by a count

The votes and the authors of a game are whole numbers, and the operand of a row is a binary one.  To
be compared with it the count is made a binary number too.  Up to `2 ^ 53` nothing is lost by that,
and neither is it beyond as long as the operand is another number than the one that the count is
made.  If it is that number the two count as equal, though they may differ.

## What is here

* `CountField` — the counts of a game.
* `Game.CountMeets` — a count stands in a relation to the exact value of an operand.
* `holds_count_iff` — what the clause of a comparison asks of a count.
* `filter_by_count` — **the row for a count is exact but where the count is rounded to its
  operand**, with `equal_to_rounded_count` for two numbers that count as equal.
-/

set_option autoImplicit false

namespace GameJam

/-- The counts of a game that can be filtered by. -/
inductive CountField where
  | votes
  | authors
deriving DecidableEq, Repr

namespace CountField

/-- The name of a count in filters. -/
def name : CountField → String
  | .votes => "votesCount"
  | .authors => "authorsCount"

/-- The property that tests a count. -/
def property : CountField → Property
  | .votes => .numeric "votesCount" "Votes count" {}
  | .authors => .numeric "authorsCount" "Authors count" (wholeFrom 0)

/-- The count of a game. -/
def count (game : Game) : CountField → ℕ
  | .votes => game.ratingsCount.toNat
  | .authors => game.authors.length

/-- The count is served, if it has a place in 64 bits. -/
theorem exists_serve {field : CountField} {game : Game} (h : field.count game < 2 ^ 64) :
    ∃ n : UInt64, game.serve [field.name] = .number (.unsigned n) ∧
      n.toNat = field.count game := by
  cases field with
  | votes => exact ⟨game.ratingsCount, rfl, rfl⟩
  | authors =>
    refine ⟨saturate game.authors.length, rfl, ?_⟩
    rw [toNat_saturate]
    exact min_eq_left (Nat.le_sub_one_of_lt h)

theorem named?_name (field : CountField) (games : List Game) (source : CategorySource) :
    Property.named? (jamSchema games source) field.name = some field.property := by
  cases field <;> rfl

end CountField

/-- The count of the game stands in the relation to the exact value of the operand. -/
def Game.CountMeets (game : Game) (field : CountField) (operator : Operator)
    (operand : Binary64) : Prop :=
  ∃ value, operand.scaled = some value ∧
    operator.Relates ((field.count game * Binary64.unitsOfOne : ℕ) : ℤ) value

theorem Game.countMeets_iff {game : Game} {field : CountField} {operator : Operator}
    {operand : Binary64} {exact : ℤ} (hexact : operand.scaled = some exact) :
    game.CountMeets field operator operand ↔
      operator.Relates ((field.count game * Binary64.unitsOfOne : ℕ) : ℤ) exact := by
  rw [Game.CountMeets, hexact]
  refine ⟨?_, fun h => ⟨exact, rfl, h⟩⟩
  rintro ⟨value, hvalue, h⟩
  rwa [Option.some_inj.1 hvalue]

/-! ## Rows for a count -/

/-- A row that compares a count. -/
def countEntry (field : CountField) (operator : Operator) (value : EntryValue) : Entry :=
  ⟨[field.name], some operator.symbol, some value⟩

theorem compile?_countEntry (games : List Game) (source : CategorySource) (field : CountField)
    {operator : Operator} (hoperator : operator ∈ Operator.numeric) {value : EntryValue}
    {operand : Binary64} (hvalue : value.finiteNumber? = some operand) :
    (jamSchema games source).compile? (countEntry field operator value)
      = some (.numeric [field.name] operator (.real operand)) := by
  have hname : field.name ≠ "" := by cases field <;> decide
  rw [countEntry, compile?_of_named? hname (field.named?_name games source)]
  cases field <;> simp [CountField.property, Property.leafClause?, Property.operators, hoperator,
    hvalue]

/-- The comparisons that accept equal numbers. -/
theorem accepts_eq_iff {operator : Operator} (hoperator : operator ∈ Operator.numeric) :
    operator.accepts .eq = true ↔ operator ∈ [.eq, .le, .ge] := by
  revert hoperator
  cases operator <;> decide

/-- **The clause of a comparison asks what the exact values say**, unless the operand is the number
that the count is made.  Then the two count as equal. -/
theorem holds_count_iff {field : CountField} {game : Game} (hcount : field.count game < 2 ^ 64)
    {operator : Operator} (hoperator : operator ∈ Operator.numeric) {operand : Binary64} {exact : ℤ}
    (hexact : operand.scaled = some exact) :
    (Clause.numeric [field.name] operator (.real operand)).holds game.serve = true ↔
      if operand.scaled = (Binary64.ofInt (field.count game)).scaled then
        operator ∈ [.eq, .le, .ge]
      else game.CountMeets field operator operand := by
  obtain ⟨n, hserve, hn⟩ := CountField.exists_serve hcount
  have hcompare : (Number.unsigned n).compare? (.real operand)
      = (Binary64.ofInt (field.count game)).compare? operand := by
    rw [← hn]
    rfl
  rw [Clause.holds, Clause.numeric, hserve, Test.passes, FieldValue.asNumber?, Option.any_some,
    hcompare, Binary64.compare?_ofInt hcount hexact, Option.any_some]
  split_ifs with hsame
  · exact accepts_eq_iff hoperator
  · rw [accepts_iff_relates operator ((compare_iff _ _).1 rfl), Game.countMeets_iff hexact]

/-- Up to `2 ^ 53` the clause asks what the exact values say in any case. -/
theorem holds_count_iff_of_le {field : CountField} {game : Game}
    (hcount : field.count game ≤ 2 ^ 53) {operator : Operator}
    (hoperator : operator ∈ Operator.numeric) {operand : Binary64} {exact : ℤ}
    (hexact : operand.scaled = some exact) :
    (Clause.numeric [field.name] operator (.real operand)).holds game.serve = true ↔
      game.CountMeets field operator operand := by
  have hlt : field.count game < 2 ^ 64 := lt_of_le_of_lt hcount (by decide)
  rw [holds_count_iff hlt hoperator hexact, Binary64.scaled_ofInt hlt,
    Binary64.roundedUnits_of_le hcount]
  split_ifs with hsame
  · obtain rfl := Option.some_inj.1 (hexact.symm.trans hsame)
    rw [Game.countMeets_iff hexact, ← accepts_eq_iff hoperator]
    exact accepts_iff_relates operator ((compare_iff _ _).1 (compare_eq_iff_eq.2 rfl))
  · exact Iff.rfl

/-! ## What a row asks -/

/-- **A row for a count** of less than 64 bits has a clause, and of each game it asks what the exact
values of its count and of the operand say; but if the operand is the number that the count is made,
which no finite number is closer to, it asks of the operator that it accepts equal numbers.  A count
up to `2 ^ 53` is that number. -/
theorem filter_by_count (games : List Game) (source : CategorySource) (field : CountField)
    {operator : Operator} (hoperator : operator ∈ Operator.numeric) {value : EntryValue}
    {operand : Binary64} (hvalue : value.finiteNumber? = some operand) :
    ∃ clause, (jamSchema games source).compile? (countEntry field operator value) = some clause ∧
      ∀ game : Game, field.count game < 2 ^ 64 →
        let rounded := Binary64.ofInt (field.count game)
        rounded.ClosestTo (field.count game) ∧
        (operand.scaled ≠ rounded.scaled →
          (clause.holds game.serve = true ↔ game.CountMeets field operator operand)) ∧
        (operand.scaled = rounded.scaled →
          (clause.holds game.serve = true ↔ operator ∈ [.eq, .le, .ge])) ∧
        (field.count game ≤ 2 ^ 53 →
          (clause.holds game.serve = true ↔ game.CountMeets field operator operand)) := by
  obtain ⟨exact, hexact⟩ := Binary64.exists_scaled (isFinite_of_finiteNumber? hvalue)
  refine ⟨_, compile?_countEntry games source field hoperator hvalue, fun game hcount => ?_⟩
  have hholds := holds_count_iff hcount hoperator hexact
  exact ⟨Binary64.closestTo_ofInt hcount, fun hother => by rwa [if_neg hother] at hholds,
    fun hsame => by rwa [if_pos hsame] at hholds,
    fun hle => holds_count_iff_of_le hle hoperator hexact⟩

/-- A game with nothing but votes. -/
def Game.ofVotes (votes : UInt64) : Game :=
  ⟨"", "", none, "", [], votes, [], none, none, none, none⟩

/-- The first count that is not a binary number is made the one below it.  It does not count as more
than that one, but as less than the one above it. -/
theorem filter_by_count_beyond :
    let schema := jamSchema [] .allRecords
    let game := Game.ofVotes 9007199254740993
    let below := EntryValue.text "9007199254740992"
    let above := EntryValue.text "9007199254740994"
    (∃ clause, schema.compile? (countEntry .votes .gt below) = some clause ∧
      clause.holds game.serve = false) ∧
    ∃ clause, schema.compile? (countEntry .votes .lt above) = some clause ∧
      clause.holds game.serve = true := by
  intro schema game below above
  have hbelow : below.finiteNumber? = some (.ofInt 9007199254740992) := by decide +kernel
  have habove : above.finiteNumber? = some (.ofInt 9007199254740994) := by decide +kernel
  have hcount : CountField.votes.count game < 2 ^ 64 := UInt64.toNat_lt _
  constructor
  · obtain ⟨clause, hclause, hasks⟩ :=
      filter_by_count [] .allRecords .votes (show Operator.gt ∈ Operator.numeric by decide) hbelow
    refine ⟨clause, hclause, ?_⟩
    rw [← Bool.not_eq_true, (hasks game hcount).2.2.1 (by decide +kernel)]
    decide
  · obtain ⟨clause, hclause, hasks⟩ :=
      filter_by_count [] .allRecords .votes (show Operator.lt ∈ Operator.numeric by decide) habove
    refine ⟨clause, hclause, ((hasks game hcount).2.1 (by decide +kernel)).2 ?_⟩
    have hexact : (Binary64.ofInt 9007199254740994).scaled
        = some ((9007199254740994 * Binary64.unitsOfOne : ℕ) : ℤ) := by decide +kernel
    exact ⟨_, hexact, Int.ofNat_lt.2 (by decide +kernel)⟩

/-- A game that has one vote more than the operand is kept as one that has as many. -/
theorem equal_to_rounded_count :
    let game := Game.ofVotes 9007199254740993
    let operand := Binary64.ofInt 9007199254740992
    let clause := Clause.numeric ["votesCount"] .eq (.real operand)
    (jamSchema [game] .allRecords).compile? (countEntry .votes .eq (.number operand))
      = some clause ∧ clause.holds game.serve = true ∧ ¬game.CountMeets .votes .eq operand := by
  intro game operand clause
  have hexact : operand.scaled = some ((9007199254740992 * Binary64.unitsOfOne : ℕ) : ℤ) := by
    decide +kernel
  refine ⟨by decide +kernel, by decide +kernel, ?_⟩
  rintro ⟨value, hvalue, hsame⟩
  obtain rfl := Option.some_inj.1 (hexact.symm.trans hvalue)
  have hother : CountField.votes.count game * Binary64.unitsOfOne
      ≠ 9007199254740992 * Binary64.unitsOfOne := by decide +kernel
  exact hother (Int.ofNat_inj.1 hsame)

end GameJam
