import Mathlib.Algebra.Group.Nat.Defs
import RoutePattern.Proofs.Expr.Search

/-! # Searches that reach a limit

A search is limited in two ways. A plan that tries optional parts before a rest that fails for each way
through them comes back once for every choice but the last, so that the number of returns doubles with
each part (`run_optionals`). A repetition leaves a way to wait at each of its iterations, so the text that
it can take is not longer than the room for ways (`run_anyNumber_exhausted`).
-/

namespace RoutePattern

namespace Plan

open RoutePattern.Expr (char)

theorem waiting_of_room {left : Budget} {room : Nat} (free : left.room = room + 1)
    (first : Budget → Verdict) : left.waiting first = first ⟨room, left.returns⟩ := by
  rw [Budget.waiting, free]

theorem waiting_of_full {left : Budget} (full : left.room = 0) (first : Budget → Verdict) :
    left.waiting first = .exhausted := by
  rw [Budget.waiting, full]

/-- Where the first way reaches a limit or cannot be tried at all, there is no choice. -/
theorem choose_exhausted {first : Budget → Verdict} {left : Budget}
    (reached : ∀ room, left.room = room + 1 → first ⟨room, left.returns⟩ = .exhausted)
    (other : Budget → Verdict) : choose first other left = .exhausted := by
  unfold choose
  cases room : left.room with
  | zero =>
    rw [waiting_of_full room]
    rfl
  | succ room' =>
    rw [waiting_of_room room, reached room' room]
    rfl

/-- A settled character that may be left out. -/
def optional (s : CharSet) : Plan := rep (settle (char s)) 0 (some 1) true false

/-- Any number of settled characters. -/
def anyNumber (s : CharSet) : Plan := rep (settle (char s)) 0 none true false

/-- So many optional characters before a plan. -/
def optionals (s : CharSet) : Nat → Plan → Plan
  | 0, tail => tail
  | n + 1, tail => seq (optional s) (optionals s n tail)

/-- So many settled characters before a plan. -/
def characters (s : CharSet) : Nat → Plan → Plan
  | 0, tail => tail
  | n + 1, tail => seq (settle (char s)) (characters s n tail)

section Characters

variable {s : CharSet} {rest : Rest} {t : Thread}

theorem run_seq (a b : Plan) (t : Thread) (rest : Rest) (left : Budget) :
    (seq a b).run t rest left = a.run t (fun u left => b.run u rest left) left := rfl

theorem run_settle_char (t : Thread) (rest : Rest) (left : Budget) :
    (settle (char s)).run t rest left =
      match t.step? s with
      | some u => rest u left
      | none => .failed left.returns := by
  have same : t.clear (char s).groups = t := by simp [Expr.groups, Thread.clear, Thread.without]
  rw [run, same]
  cases step : t.step? s <;> simp [Expr.ends, step]

theorem run_optional (t : Thread) (rest : Rest) (left : Budget) :
    (optional s).run t rest left = choose ((settle (char s)).run t rest) (rest t) left := by
  have once : ∀ c bound last, iterate (settle (char s)).run 0 (some 1) true false rest (c :: bound) 1
      last = rest := by
    intro c bound last
    funext u left
    simp [iterate]
  have unfolded : (optional s).run t rest left =
      iterate (settle (char s)).run 0 (some 1) true false rest (' ' :: ' ' :: ' ' :: t.place.after)
        0 0 t left := rfl
  rw [unfolded, iterate]
  simp [either, once]

/-- The text ahead has only characters of the set. -/
def AheadIn (s : CharSet) (t : Thread) : Prop := ∀ c ∈ t.place.after, s.has c = true

theorem step?_aheadIn (held : AheadIn s t) (more : 0 < t.place.after.length) :
    ∃ u, t.step? s = some u ∧ AheadIn s u ∧
      u.place.after.length + 1 = t.place.after.length := by
  cases after : t.place.after with
  | nil => simp [after] at more
  | cons c r =>
    have here : s.has c = true := held c (by simp [after])
    refine ⟨_, Expr.step?_eq_some.2 ⟨c, r, after, here, rfl⟩, fun d member => ?_, rfl⟩
    exact held d (by simp [after, show d ∈ r from member])

/-- So many characters do not fit into a shorter text. -/
theorem run_characters_failed {tail : Plan} (n : Nat) (short : t.place.after.length < n)
    (left : Budget) : (characters s n tail).run t rest left = .failed left.returns := by
  induction n generalizing t with
  | zero => omega
  | succ n ih =>
    rw [characters, run_seq, run_settle_char]
    cases step : t.step? s with
    | none => rfl
    | some u =>
      obtain ⟨c, r, after, -, rfl⟩ := Expr.step?_eq_some.1 step
      have shorter : r.length < n := by simpa [after] using short
      exact ih shorter

/-! ## Returns -/

/-- Where the rest fails behind each choice, all choices but one are come back to. -/
theorem run_optionals {tail : Plan} {most : Nat} (fails : ∀ (t : Thread) (left : Budget),
      t.place.after.length < most → tail.run t rest left = .failed left.returns) (n : Nat)
    (held : AheadIn s t) (enough : n ≤ t.place.after.length) (short : t.place.after.length < most)
    (left : Budget) (room : n ≤ left.room) :
    (optionals s n tail).run t rest left =
      if 2 ^ n ≤ left.returns + 1 then .failed (left.returns + 1 - 2 ^ n) else .exhausted := by
  induction n generalizing t left with
  | zero => simp [optionals, fails t left short]
  | succ n ih =>
    obtain ⟨u, step, held', shorter⟩ := step?_aheadIn held (by omega)
    obtain ⟨room', free⟩ : ∃ room', left.room = room' + 1 := ⟨left.room - 1, by omega⟩
    have within : n ≤ room' := by omega
    have further := ih (t := u) held' (by omega) (by omega) ⟨room', left.returns⟩ within
    have stop := fun returns =>
      ih (t := t) held (by omega) short ⟨left.room, returns⟩ (Nat.le_of_succ_le room)
    have positive : 0 < 2 ^ n := Nat.two_pow_pos n
    rw [optionals, run_seq, run_optional, choose, waiting_of_room free, run_settle_char, step,
      Nat.pow_succ]
    simp only [further]
    by_cases many : 2 ^ n ≤ left.returns + 1
    · rw [if_pos many]
      obtain ⟨more, split⟩ : ∃ more, left.returns + 1 = 2 ^ n + more :=
        ⟨left.returns + 1 - 2 ^ n, by omega⟩
      have remaining : left.returns + 1 - 2 ^ n = more := by omega
      rw [remaining]
      cases more with
      | zero =>
        -- The way that takes the character used up all returns.
        have spent : ¬2 ^ n * 2 ≤ left.returns + 1 := by omega
        rw [if_neg spent]
        rfl
      | succ more =>
        simp only [Verdict.orElse, stop]
        by_cases enough' : 2 ^ n ≤ more + 1
        · rw [if_pos enough', if_pos (by omega)]
          congr 1
          omega
        · rw [if_neg enough', if_neg (by omega)]
    · rw [if_neg many, if_neg (by omega)]
      rfl

/-- A text of characters that all of the optional ones and all of the others could take. -/
theorem run_optionals_exhausted {tail : Plan} (n : Nat) (held : AheadIn s t)
    (whole : t.place.after.length = n + 1) {left : Budget} (room : n < left.room)
    (many : left.returns + 1 < 2 ^ n) :
    (optionals s (n + 1) (characters s (n + 1) tail)).run t rest left = .exhausted := by
  -- Only the way through no optional character leaves enough, and it is tried last.
  obtain ⟨u, step, held', shorter⟩ := step?_aheadIn held (by omega)
  have fails : ∀ (t : Thread) (left : Budget), t.place.after.length < n + 1 →
      (characters s (n + 1) tail).run t rest left = .failed left.returns :=
    fun t left short => run_characters_failed (n + 1) short left
  rw [optionals, run_seq, run_optional]
  refine choose_exhausted (fun room' free => ?_) _
  have within : n ≤ room' := by omega
  have further := run_optionals (t := u) fails n held' (by omega) (by omega) ⟨room', left.returns⟩
    within
  rw [run_settle_char, step]
  exact further.trans (if_neg (Nat.not_le_of_lt many))

/-! ## Room -/

theorem iterate_exhausted (bound : Text) {count last : Nat} {left : Budget} (held : AheadIn s t)
    (enough : t.place.after.length < bound.length) (long : left.room ≤ t.place.after.length) :
    iterate (settle (char s)).run 0 none true false rest bound count last t left = .exhausted := by
  induction bound generalizing count t left last with
  | nil => cases enough
  | cons _ bound ih =>
    rw [List.length_cons] at enough
    rw [iterate]
    simp only [reduceCtorEq, beq_iff_eq, if_false, Bool.false_and, Bool.false_eq_true, Nat.zero_le,
      if_true, either]
    refine choose_exhausted (fun room free => ?_) _
    -- An iteration takes a character, and a way waits from then on.
    obtain ⟨u, step, held', shorter⟩ := step?_aheadIn held (by omega)
    rw [run_settle_char, step]
    exact ih held' (by omega) (by show room ≤ _; omega)

/-- A text of characters that a repetition could take all. -/
theorem run_anyNumber_exhausted {left : Budget} (held : AheadIn s t)
    (long : left.room ≤ t.place.after.length) : (anyNumber s).run t rest left = .exhausted :=
  iterate_exhausted (' ' :: ' ' :: t.place.after) held (Nat.lt_add_of_pos_right Nat.two_pos) long

-- One way more may wait, and the same text is taken.
example : (anyNumber (.single 'a')).run (.ofPlace (.start ['a', 'a'])) accept ⟨2, 9⟩ = .exhausted ∧
    (anyNumber (.single 'a')).run (.ofPlace (.start ['a', 'a'])) accept ⟨3, 9⟩ =
      .found (.ofPlace ⟨2, ['a', 'a'], []⟩) 8 := by decide

end Characters

end Plan

namespace Program

variable {s : CharSet} {path : Text} {p tail : Plan}

/-- A search is given up if a run from the start of the text reaches a limit. -/
theorem search_gaveUp (exhausted : p.run (.ofPlace (.start path)) Plan.accept
      ⟨waitingLimit - 1, returnLimit⟩ = .exhausted) :
    (planned (.seq (.settle (.anchor .textStart)) p)).search path = .gaveUp := by
  obtain ⟨places, onward, -⟩ := Place.start_onward path
  have here : ((Expr.anchor .textStart).ends [(Thread.ofPlace (.start path)).clear
      (Expr.anchor .textStart).groups]).head? = some (.ofPlace (.start path)) := rfl
  rw [search, onward, searchPlan, Plan.run_seq, Plan.run, here]
  simp only [exhausted]

/-- With enough optional characters the limit on returns is reached on a text that they and the
characters behind them could share. -/
theorem search_optionals_gaveUp {n : Nat} (held : ∀ c ∈ path, s.has c = true)
    (whole : path.length = n + 1) (room : n + 1 < waitingLimit) (many : returnLimit + 1 < 2 ^ n) :
    (planned (.seq (.settle (.anchor .textStart))
      (.optionals s (n + 1) (.characters s (n + 1) tail)))).search path = .gaveUp :=
  search_gaveUp (Plan.run_optionals_exhausted (t := .ofPlace (.start path)) n held whole
    (Nat.lt_sub_of_add_lt room) many)

/-- A repetition reaches the limit on ways that wait on a text that is long enough. -/
theorem search_anyNumber_gaveUp (held : ∀ c ∈ path, s.has c = true)
    (long : waitingLimit ≤ path.length + 1) :
    (planned (.seq (.settle (.anchor .textStart)) (.seq (.anyNumber s) tail))).search path = .gaveUp :=
  search_gaveUp (Plan.run_anyNumber_exhausted (t := .ofPlace (.start path)) held
    (Nat.sub_le_iff_le_add.2 long))

end Program

end RoutePattern
