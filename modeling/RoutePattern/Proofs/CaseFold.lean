import Mathlib.Data.List.Basic
import Mathlib.Data.List.Chain
import RoutePattern.Unicode.CaseFold

/-! # Orbits of case folding

`orbit c` holds exactly the characters whose folding is that of `c`.

The tables are checked rule by rule: they are ordered, so that at most one rule speaks of a code
point, and no rule sends anything to a code point that some rule moves on.
-/

namespace RoutePattern.Unicode

theorem toNat_ofNat {n : Nat} (valid : n.isValidChar) : (Char.ofNat n).toNat = n := by
  rw [Char.ofNat, dif_pos valid]
  rfl

namespace FoldRule

def all : List FoldRule := toAscii ++ beyondAscii

/-- No code point between the two is a surrogate, and all are characters. -/
def isScalarRange (first last : Nat) : Bool := last < 0xD800 || (0xDFFF < first && last < 0x110000)

/-- What `r` folds to is left alone by `s`: it lies on one side of the points of `s`, or between
them. -/
def apart (r s : FoldRule) : Bool :=
  Nat.blt (r.image r.last) s.first || Nat.blt s.last (r.image r.first) ||
    ((Nat.beq r.step 2 || Nat.beq r.first r.last) && Nat.beq s.step 2 &&
      Nat.beq ((r.image r.first + s.first) % 2) 1)

structure WellFormed (r : FoldRule) : Prop where
  nonempty : r.first ≤ r.last
  positive : 0 < r.first
  stepPositive : 0 < r.step
  scalar : isScalarRange r.first r.last = true
  imagePositive : 0 ≤ r.first + r.shift
  imageScalar : isScalarRange (r.image r.first) (r.image r.last) = true

/-! ## What the tables satisfy -/

/-- All that is to be checked about the tables, in one run over them. -/
theorem checked :
    (∀ r ∈ all, r.first ≤ r.last ∧ 0 < r.first ∧ 0 < r.step ∧
      isScalarRange r.first r.last = true ∧ 0 ≤ r.first + r.shift ∧
      isScalarRange (r.image r.first) (r.image r.last) = true) ∧
    (toAscii.IsChain fun r s => r.last < s.first) ∧
    (beyondAscii.IsChain fun r s => r.last < s.first) ∧
    (∀ r ∈ toAscii, r.image r.last ≤ 0x7F) ∧
    (∀ r ∈ beyondAscii, 0x7F < r.image r.first) ∧
    (∀ r ∈ beyondAscii, ∀ s ∈ toAscii,
      r.last < s.first ∨ s.last < r.first ∨ s.first = s.last ∧ r.has s.first = false) ∧
    (all.all fun r => all.all r.apart) = true := by decide +kernel

theorem all_wellFormed : ∀ r ∈ all, r.WellFormed := by
  intro r member
  obtain ⟨nonempty, positive, stepPositive, scalar, imagePositive, imageScalar⟩ :=
    checked.1 r member
  exact ⟨nonempty, positive, stepPositive, scalar, imagePositive, imageScalar⟩

theorem toAscii_ordered : toAscii.IsChain fun r s => r.last < s.first := checked.2.1

theorem beyondAscii_ordered : beyondAscii.IsChain fun r s => r.last < s.first := checked.2.2.1

theorem toAscii_image : ∀ r ∈ toAscii, r.image r.last ≤ 0x7F := checked.2.2.2.1

theorem beyondAscii_image : ∀ r ∈ beyondAscii, 0x7F < r.image r.first := checked.2.2.2.2.1

theorem beyondAscii_apart_toAscii : ∀ r ∈ beyondAscii, ∀ s ∈ toAscii,
    r.last < s.first ∨ s.last < r.first ∨ s.first = s.last ∧ r.has s.first = false :=
  checked.2.2.2.2.2.1

theorem all_apart : (all.all fun r => all.all r.apart) = true := checked.2.2.2.2.2.2

/-! ## One rule for a code point -/

theorem has_bounds {r : FoldRule} {n : Nat} (covered : r.has n = true) :
    r.first ≤ n ∧ n ≤ r.last ∧ (n - r.first) % r.step = 0 := by
  simpa [has, and_assoc] using covered

theorem find?_sound {rules : List FoldRule} {n : Nat} {r : FoldRule}
    (found : find? n rules = some r) : r ∈ rules ∧ r.has n = true := by
  induction rules with
  | nil => simp [find?] at found
  | cons s rules ih =>
    simp only [find?] at found
    split at found
    · cases found
    · split at found
      · rename_i covered
        cases found
        exact ⟨List.mem_cons_self, covered⟩
      · obtain ⟨member, covered⟩ := ih found
        exact ⟨List.mem_cons_of_mem _ member, covered⟩

theorem last_lt_first {s : FoldRule} {rules : List FoldRule}
    (nonempty : ∀ r ∈ rules, r.first ≤ r.last)
    (ordered : (s :: rules).IsChain fun r s => r.last < s.first) {r : FoldRule}
    (member : r ∈ rules) : s.last < r.first := by
  induction rules generalizing s with
  | nil => cases member
  | cons next rules ih =>
    obtain ⟨before, ordered⟩ := List.isChain_cons_cons.1 ordered
    rcases List.mem_cons.1 member with rfl | later
    · exact before
    · have bound := nonempty next List.mem_cons_self
      have behind := ih
        (fun r member => nonempty r (List.mem_cons_of_mem _ member)) ordered later
      omega

theorem find?_complete {rules : List FoldRule} (nonempty : ∀ r ∈ rules, r.first ≤ r.last)
    (ordered : rules.IsChain fun r s => r.last < s.first) {n : Nat} {r : FoldRule}
    (member : r ∈ rules) (covered : r.has n = true) : find? n rules = some r := by
  induction rules with
  | nil => cases member
  | cons s rules ih =>
    obtain ⟨lower, upper, -⟩ := has_bounds covered
    have nonempty' : ∀ r ∈ rules, r.first ≤ r.last :=
      fun r member => nonempty r (List.mem_cons_of_mem _ member)
    rcases List.mem_cons.1 member with rfl | later
    · simp [find?, Nat.not_lt.2 lower, covered]
    · -- The rule stands further back, so the first one ends before `n`.
      have behind := last_lt_first nonempty' ordered later
      have bound := nonempty s List.mem_cons_self
      have missed : s.has n = false := by
        simp only [has, Bool.and_eq_false_iff, decide_eq_false_iff_not]
        omega
      have notBefore : ¬ n < s.first := by omega
      simp only [find?, notBefore, missed, if_false]
      exact ih nonempty' ordered.tail later

theorem find?_toAscii {r : FoldRule} {n : Nat} (member : r ∈ toAscii) (covered : r.has n = true) :
    find? n toAscii = some r :=
  find?_complete (fun r member => (all_wellFormed r (List.mem_append_left _ member)).nonempty)
    toAscii_ordered member covered

theorem find?_beyondAscii {r : FoldRule} {n : Nat} (member : r ∈ beyondAscii)
    (covered : r.has n = true) : find? n beyondAscii = some r :=
  find?_complete (fun r member => (all_wellFormed r (List.mem_append_right _ member)).nonempty)
    beyondAscii_ordered member covered

/-- The two tables speak of different code points. -/
theorem find?_toAscii_eq_none {r : FoldRule} {n : Nat} (member : r ∈ beyondAscii)
    (covered : r.has n = true) : find? n toAscii = none := by
  cases found : find? n toAscii with
  | none => rfl
  | some s =>
    obtain ⟨other, also⟩ := find?_sound found
    have bounds := has_bounds covered
    have otherBounds := has_bounds also
    rcases beyondAscii_apart_toAscii r member s other with behind | before | ⟨single, missed⟩
    · omega
    · omega
    · have same : n = s.first := by omega
      rw [same, missed] at covered
      cases covered

/-! ## Images -/

theorem image_cast {r : FoldRule} {n : Nat} (wellFormed : r.WellFormed) (covered : r.has n = true) :
    (r.image n : Int) = n + r.shift := by
  have bounds := has_bounds covered
  have positive := wellFormed.imagePositive
  simp only [image]
  omega

theorem isValidChar_of_range {first last n : Nat} (scalar : isScalarRange first last = true)
    (lower : first ≤ n) (upper : n ≤ last) : n.isValidChar := by
  simp only [isScalarRange, Bool.or_eq_true, Bool.and_eq_true, decide_eq_true_eq] at scalar
  simp only [Nat.isValidChar]
  omega

theorem isValidChar_of_has {r : FoldRule} {n : Nat} (wellFormed : r.WellFormed)
    (covered : r.has n = true) : n.isValidChar := by
  obtain ⟨lower, upper, -⟩ := has_bounds covered
  exact isValidChar_of_range wellFormed.scalar lower upper

theorem image_bounds {r : FoldRule} {n : Nat}
    (covered : r.has n = true) : r.image r.first ≤ r.image n ∧ r.image n ≤ r.image r.last := by
  obtain ⟨lower, upper, -⟩ := has_bounds covered
  simp only [image]
  omega

theorem isValidChar_image {r : FoldRule} {n : Nat} (wellFormed : r.WellFormed)
    (covered : r.has n = true) : (r.image n).isValidChar := by
  obtain ⟨lower, upper⟩ := image_bounds covered
  exact isValidChar_of_range wellFormed.imageScalar lower upper

theorem preimage?_image {r : FoldRule} {n : Nat} (wellFormed : r.WellFormed)
    (covered : r.has n = true) : r.preimage? (r.image n) = some n := by
  have cast := image_cast wellFormed covered
  have origin : ((r.image n : Int) - r.shift).toNat = n := by omega
  simp only [preimage?, origin, covered, if_true]

theorem image_of_preimage? {r : FoldRule} {m n : Nat} (wellFormed : r.WellFormed)
    (found : r.preimage? m = some n) : r.has n = true ∧ r.image n = m := by
  simp only [preimage?] at found
  split at found
  · rename_i covered
    cases found
    refine ⟨covered, ?_⟩
    have lower := (has_bounds covered).1
    have positive := wellFormed.positive
    simp only [image]
    omega
  · cases found

/-- Nothing that a rule folds to is folded further. -/
theorem not_has_image {r s : FoldRule} {n : Nat} (member : r ∈ all) (other : s ∈ all)
    (covered : r.has n = true) : s.has (r.image n) = false := by
  have separate : r.apart s = true :=
    List.all_eq_true.1 (List.all_eq_true.1 all_apart r member) s other
  have wellFormed := all_wellFormed r member
  obtain ⟨lower, upper⟩ := image_bounds covered
  obtain ⟨above, below, even⟩ := has_bounds covered
  have cast := image_cast wellFormed covered
  have firstCast : (r.image r.first : Int) = r.first + r.shift := by
    have positive := wellFormed.imagePositive
    simp only [image]
    omega
  simp only [apart, Bool.or_eq_true, Bool.and_eq_true, Nat.beq_eq, Nat.blt_eq] at separate
  cases reached : s.has (r.image n) with
  | false => rfl
  | true =>
    obtain ⟨otherAbove, otherBelow, otherEven⟩ := has_bounds reached
    -- The image lies outside the range of the other rule, or on the other parity.
    rcases separate with (left | right) | ⟨⟨steps, twos⟩, odd⟩
    · omega
    · omega
    · rw [twos] at otherEven
      rcases steps with two | single
      · rw [two] at even
        omega
      · omega

theorem find?_image {r : FoldRule} {n : Nat} {rules : List FoldRule} (member : r ∈ all)
    (covered : r.has n = true) (sublist : ∀ s ∈ rules, s ∈ all) :
    find? (r.image n) rules = none := by
  cases found : find? (r.image n) rules with
  | none => rfl
  | some s =>
    obtain ⟨other, reached⟩ := find?_sound found
    rw [not_has_image member (sublist s other) covered] at reached
    cases reached

end FoldRule

open FoldRule

/-! ## Folding -/

/-- The rule that speaks of a character. -/
def rule? (c : Char) : Option FoldRule :=
  (find? c.toNat toAscii).or (find? c.toNat beyondAscii)

theorem fold_eq (c : Char) : fold c = (rule? c).elim c fun r => Char.ofNat (r.image c.toNat) := by
  simp only [fold, rule?]
  cases find? c.toNat toAscii with
  | some r => rfl
  | none => cases find? c.toNat beyondAscii <;> rfl

theorem rule?_sound {c : Char} {r : FoldRule} (found : rule? c = some r) :
    r ∈ all ∧ r.has c.toNat = true := by
  simp only [rule?, Option.or_eq_some_iff] at found
  rcases found with found | ⟨-, found⟩
  · exact ⟨List.mem_append_left _ (find?_sound found).1, (find?_sound found).2⟩
  · exact ⟨List.mem_append_right _ (find?_sound found).1, (find?_sound found).2⟩

theorem rule?_complete {c : Char} {r : FoldRule} (member : r ∈ all)
    (covered : r.has c.toNat = true) : rule? c = some r := by
  rcases List.mem_append.1 member with ascii | beyond
  · simp [rule?, find?_toAscii ascii covered]
  · simp [rule?, find?_toAscii_eq_none beyond covered, find?_beyondAscii beyond covered]

theorem toNat_fold {c : Char} {r : FoldRule} (found : rule? c = some r) :
    (fold c).toNat = r.image c.toNat := by
  obtain ⟨member, covered⟩ := rule?_sound found
  rw [fold_eq, found]
  exact toNat_ofNat (isValidChar_image (all_wellFormed r member) covered)

@[simp] theorem fold_fold (c : Char) : fold (fold c) = fold c := by
  cases found : rule? c with
  | none => rw [fold_eq c, found]; simp [fold_eq c, found]
  | some r =>
    obtain ⟨member, covered⟩ := rule?_sound found
    have still : rule? (fold c) = none := by
      rw [rule?, toNat_fold found,
        find?_image member covered (fun s => List.mem_append_left _),
        find?_image member covered (fun s => List.mem_append_right _)]
      rfl
    rw [fold_eq (fold c), still]
    rfl

/-- A character is among those that fold to its folding, unless it is its own folding. -/
theorem mem_unfold_fold {c : Char} {r : FoldRule} (found : rule? c = some r) :
    c ∈ unfold (fold c) := by
  obtain ⟨member, covered⟩ := rule?_sound found
  have wellFormed := all_wellFormed r member
  have back : r.preimage? (fold c).toNat = some c.toNat := by
    rw [toNat_fold found, preimage?_image wellFormed covered]
  obtain ⟨lower, upper⟩ := image_bounds covered
  simp only [unfold, List.mem_filterMap, Option.map_eq_some_iff]
  refine ⟨r, ?_, c.toNat, back, Char.ofNat_toNat c⟩
  rw [toNat_fold found]
  -- The table to search is told by the image alone.
  rcases List.mem_append.1 member with ascii | beyond
  · have bound := toAscii_image r ascii
    rw [if_pos (by omega)]
    exact ascii
  · have bound := beyondAscii_image r beyond
    rw [if_neg (by omega)]
    exact beyond

theorem fold_of_mem_unfold {c d : Char} (member : d ∈ unfold c) : fold d = c := by
  simp only [unfold, List.mem_filterMap, Option.map_eq_some_iff] at member
  obtain ⟨r, listed, n, back, rfl⟩ := member
  have known : r ∈ all := by
    split at listed
    · exact List.mem_append_left _ listed
    · exact List.mem_append_right _ listed
  have wellFormed := all_wellFormed r known
  obtain ⟨covered, image⟩ := image_of_preimage? wellFormed back
  have point : (Char.ofNat n).toNat = n :=
    toNat_ofNat (isValidChar_of_has wellFormed covered)
  have found : rule? (Char.ofNat n) = some r := rule?_complete known (by rw [point]; exact covered)
  rw [fold_eq, found, Option.elim_some, point, image, Char.ofNat_toNat]

/-- The orbit of a character is its class under equality of foldings. -/
theorem mem_orbit {c d : Char} : d ∈ orbit c ↔ fold d = fold c := by
  simp only [orbit, List.mem_cons]
  constructor
  · rintro (rfl | member)
    · exact fold_fold c
    · exact fold_of_mem_unfold member
  · intro same
    cases found : rule? d with
    | none =>
      left
      rw [← same, fold_eq d, found]
      rfl
    | some r =>
      right
      rw [← same]
      exact mem_unfold_fold found

theorem sameUpToCase_iff {c d : Char} : sameUpToCase c d = true ↔ fold c = fold d := by
  simp only [sameUpToCase, Bool.or_eq_true, beq_iff_eq, or_iff_right_iff_imp]
  rintro rfl
  rfl

end RoutePattern.Unicode
