import RoutePattern.Proofs.Expr.Coverage
import RoutePattern.Proofs.Expr.Search

/-! # A failed search has tried every place

A run of a plan fails only if what follows fails at every place that the expression leads to
(`run_thorough`). So a search that is not given up finds a match if the expression leads anywhere from the
start of a text (`Program.isSome_find?`). Nothing is asked of the order of the ways or of captures here, so
iterations may take nothing and groups may have one length.
-/

namespace RoutePattern

open Place (Advancing Moves Steps steps_add)

namespace Expr

/-- The expression looks around only to what is ahead and needs no search, and neither has atomic groups
nor refers to any. -/
def isForward : Expr → Bool
  | empty | char _ | anchor _ => true
  | seq a b | alt a b => a.isForward && b.isForward
  | enclosed a | group _ a | rep a _ _ _ => a.isForward
  | look .ahead false a => !a.needsSearch []
  | look _ _ _ | atomic _ | backref _ => false

theorem ordered_of_settleable {e : Expr} (settleable : e.isSettleable = true) : e.ordered = true := by
  simp only [isSettleable, Bool.and_eq_true] at settleable
  exact settleable.1

end Expr

namespace Plan

/-- Where the rest fails, the place is refused. -/
def Refusing (subject : Text) (refused : Place → Prop) (rest : Rest) : Prop :=
  ∀ u : Thread, u.place.On subject → ∀ left returns, rest u left = .failed returns → refused u.place

/-- A run fails only if every place where `R` leads is refused. -/
def Thorough (subject : Text) (R : Place → Place → Prop) (run : Thread → Rest → Budget → Verdict) :
    Prop :=
  ∀ ⦃refused : Place → Prop⦄ ⦃rest : Rest⦄ ⦃t : Thread⦄ ⦃left : Budget⦄ ⦃returns : Nat⦄,
    Refusing subject refused rest → t.place.On subject → run t rest left = .failed returns →
      ∀ q, R t.place q → refused q

section Failures

variable {v : Verdict} {first other further stop : Budget → Verdict} {left : Budget}
  {room returns : Nat}

theorem orElse_failed (failed : v.orElse room other = .failed returns) :
    (∃ returns, v = .failed returns) ∧ ∃ left returns, other left = .failed returns := by
  cases v with
  | found t returns => cases failed
  | exhausted => cases failed
  | failed returns' =>
    cases returns' with
    | zero => cases failed
    | succ returns' => exact ⟨⟨_, rfl⟩, ⟨room, returns'⟩, returns, failed⟩

theorem choose_failed (failed : choose first other left = .failed returns) :
    (∃ left returns, first left = .failed returns) ∧ ∃ left returns, other left = .failed returns := by
  obtain ⟨⟨returns', waited⟩, second⟩ := orElse_failed failed
  unfold Budget.waiting at waited
  split at waited
  · cases waited
  · exact ⟨⟨_, returns', waited⟩, second⟩

theorem either_failed {greedy : Bool} (failed : either greedy further stop left = .failed returns) :
    (∃ left returns, further left = .failed returns) ∧ ∃ left returns, stop left = .failed returns := by
  cases greedy with
  | true => exact choose_failed failed
  | false => exact (choose_failed failed).symm

end Failures

/-! ## Repetition -/

/-- So many further iterations when `count` are behind. Once the least number is reached, each of them
takes characters. -/
inductive Course (R : Place → Place → Prop) (low : Nat) : (count n : Nat) → Place → Place → Prop where
  | stop {count : Nat} {p : Place} (least : low ≤ count) : Course R low count 0 p p
  | go {count n : Nat} {p r q : Place} (first : R p r) (takes : low ≤ count → p.index < r.index)
      (rest : Course R low (count + 1) n r q) : Course R low count (n + 1) p q

section Repetition

variable {subject : Text} {R : Place → Place → Prop} {low count m n k : Nat} {p q r : Place}

theorem Course.of_advancing (least : low ≤ count) (steps : Steps (Advancing R) k p q) :
    Course R low count k p q := by
  induction steps generalizing count with
  | none => exact .stop least
  | next first _ ih => exact .go first.1 (fun _ => first.2) (ih (Nat.le_succ_of_le least))

theorem Course.of_steps (steps : Steps R m p r) (short : count + m = low)
    (rest : Course R low low k r q) : Course R low count (m + k) p q := by
  induction steps generalizing count with
  | none =>
    obtain rfl : count = low := by omega
    rwa [Nat.zero_add]
  | @next m p s r first _ ih =>
    rw [Nat.succ_add]
    exact .go first (fun reached => by omega) (ih (by omega) rest)

/-- Where a number of steps leads, a course leads that is no longer, neither than these nor than the text
ahead. -/
theorem Course.exists_of_steps (moves : Moves subject R) (on : p.On subject) (least : low ≤ n)
    (steps : Steps R n p q) : ∃ k, low + k ≤ n ∧ k ≤ p.after.length ∧ Course R low 0 (low + k) p q := by
  obtain ⟨j, rfl⟩ : ∃ j, n = low + j := ⟨n - low, by omega⟩
  obtain ⟨r, must, more⟩ := steps_add.1 steps
  have onMust := must.on moves on
  obtain ⟨k, fewer, course⟩ := more.advancing moves onMust
  refine ⟨k, by omega, ?_, .of_steps must (Nat.zero_add low) (.of_advancing (Nat.le_refl low) course)⟩
  have behind := must.index_le moves
  have ahead := course.le_index
  have length := on.length
  have length' := (more.on moves onMust).length
  omega

theorem iterate_thorough {body : Thread → Rest → Budget → Verdict} (inner : Thorough subject R body)
    {high : Option Nat} {greedy nullable : Bool} {refused : Place → Prop} {rest : Rest}
    (refusing : Refusing subject refused rest) (bound : Text) {last returns : Nat} {left : Budget}
    {t : Thread} (on : t.place.On subject)
    (failed : iterate body low high greedy nullable rest bound count last t left = .failed returns)
    (enough : n < bound.length) (within : high.all (count + n ≤ ·) = true)
    (takes : low < count → last ≠ t.index) (course : Course R low count n t.place q) : refused q := by
  induction bound generalizing count n last left returns t with
  | nil => cases enough
  | cons _ bound ih =>
    rw [List.length_cons] at enough
    rw [iterate] at failed
    split at failed
    · -- The range is exhausted, so the course ends here.
      rename_i full
      obtain rfl : high = some count := by simpa using full
      cases course with
      | stop => exact refusing t on _ _ failed
      | go =>
        simp only [Option.all_some, decide_eq_true_eq] at within
        omega
    · split at failed
      · rename_i stuck
        simp only [Bool.and_eq_true, decide_eq_true_eq, beq_iff_eq] at stuck
        exact absurd stuck.2 (takes stuck.1.2)
      · -- Both going on and stopping have failed, where the search could choose.
        have both : (∃ left returns, body t (iterate body low high greedy nullable rest bound (count + 1)
              (if low ≤ count then t.index else last)) left = .failed returns) ∧
            (low ≤ count → ∃ left returns, rest t left = .failed returns) := by
          simp only at failed
          split at failed
          · rename_i reached
            rw [if_pos reached]
            exact (either_failed failed).imp_right fun stopped _ => stopped
          · rename_i short
            refine ⟨⟨left, returns, ?_⟩, fun reached => absurd reached short⟩
            rwa [if_neg short]
        obtain ⟨⟨_, _, further⟩, stopped⟩ := both
        cases course with
        | stop least =>
          obtain ⟨_, _, failed⟩ := stopped least
          exact refusing t on _ _ failed
        | @go _ n _ r _ first takes course =>
          -- The rest of the course starts at a place that the body leads to.
          have rests : Refusing subject (fun r => (low < count + 1 →
              (if low ≤ count then t.index else last) ≠ r.index) →
              Course R low (count + 1) n r q → refused q)
              (iterate body low high greedy nullable rest bound (count + 1)
                (if low ≤ count then t.index else last)) := by
            intro u onNext left returns failed takes course
            have within' : high.all (count + 1 + n ≤ ·) = true := by
              rwa [Nat.add_right_comm, Nat.add_assoc]
            exact ih onNext failed (by omega) within' takes course
          refine inner rests on further r first (fun reached => ?_) course
          have reached := Nat.le_of_lt_succ reached
          have ahead := takes reached
          simp only [reached, if_true, Thread.index]
          omega

end Repetition

/-! ## Plans -/

section Run

variable {subject : Text} {e a b : Expr} {p p' : Plan}

/-- A settled part leads to one place at most, so it is enough to try the first way. -/
theorem settle_thorough (direct : e.needsSearch [] = false) (ordered : e.ordered = true)
    (fixed : e.fixedLength = true) : Thorough subject e.Leads (settle e).run := by
  intro refused rest t left returns refusing on failed q leads
  have alone : ∀ u ∈ [t.clear e.groups], u.place.On subject := by simpa [Thread.clear] using on
  have stands := fun {q} => Expr.stands_ends direct ordered alone (q := q)
  simp only [Thread.stands_single, exists_eq_left] at stands
  rw [run] at failed
  cases first : (e.ends [t.clear e.groups]).head? with
  | none =>
    obtain ⟨u, member, -⟩ := stands.2 leads
    rw [List.head?_eq_none_iff.1 first] at member
    cases member
  | some u =>
    rw [first] at failed
    have leads' : e.Leads t.place u.place := stands.1 ⟨u, List.mem_of_head? first, rfl⟩
    rw [leads.unique fixed on leads']
    exact refusing u (leads'.on on) _ _ failed

theorem settles_thorough {role : Role} (settled : settles [] true role e = true)
    (planned : settle? e = some p) : Thorough subject e.Leads p.run := by
  obtain ⟨direct, fixed⟩ := settles_searched settled
  obtain ⟨settleable, rfl⟩ := settle?_eq_some.1 planned
  exact settle_thorough direct (Expr.ordered_of_settleable settleable) fixed

theorem anchor_thorough (c : Anchor) :
    Thorough subject (Expr.anchor c).Leads (settle (Expr.anchor c)).run := by
  intro refused rest t left returns refusing on failed q leads
  obtain ⟨holds, rfl⟩ := leads
  have first : ((Expr.anchor c).ends [t.clear (Expr.anchor c).groups]).head? =
      some (t.clear (Expr.anchor c).groups) := by
    simp [Expr.ends, Thread.clear, holds]
  rw [run, first] at failed
  exact refusing (t.clear (Expr.anchor c).groups) on _ _ failed

theorem seq_thorough (front : Thorough subject a.Leads p.run) (back : Thorough subject b.Leads p'.run) :
    Thorough subject (Expr.seq a b).Leads (seq p p').run := by
  intro refused rest t left returns refusing on failed q leads
  obtain ⟨r, first, second⟩ := leads
  have rests : Refusing subject (fun r => ∀ q, b.Leads r q → refused q)
      fun u left => p'.run u rest left := fun u on left returns failed => back refusing on failed
  exact front rests on failed r first q second

theorem alt_thorough (first : Thorough subject a.Leads p.run) (second : Thorough subject b.Leads p'.run) :
    Thorough subject (Expr.alt a b).Leads (alt p p').run := by
  intro refused rest t left returns refusing on failed q leads
  obtain ⟨⟨_, _, failed⟩, _, _, failed'⟩ := choose_failed failed
  rcases leads with leads | leads
  · exact first refusing on failed q leads
  · exact second refusing on failed' q leads

theorem group_thorough (n : Nat) (inside : Thorough subject a.Leads p.run) :
    Thorough subject (Expr.group n a).Leads (group n p).run := by
  intro refused rest t left returns refusing on failed q leads
  have rests : Refusing subject refused fun u left => rest (u.closeGroup n) left := by
    intro u on left returns failed
    rw [← Thread.closeGroup_place u n] at on ⊢
    exact refusing _ on _ _ failed
  exact inside (t := t.openGroup n) rests on failed q leads

theorem rep_thorough (inside : Thorough subject a.Leads p.run) (low : Nat) (high : Option Nat)
    (greedy nullable : Bool) :
    Thorough subject (Expr.rep a low high greedy).Leads (rep p low high greedy nullable).run := by
  intro refused rest t left returns refusing on failed q leads
  obtain ⟨n, least, most, steps⟩ := leads
  obtain ⟨k, fewer, short, course⟩ := Course.exists_of_steps (a.moves_leads subject) on least steps
  have within : high.all (0 + (low + k) ≤ ·) = true := by
    cases high with
    | none => rfl
    | some high =>
      simp only [Option.all_some, decide_eq_true_eq] at most ⊢
      omega
  refine iterate_thorough inside refusing _ on failed ?_ within (fun reached => by omega) course
  simp only [List.length_append, List.length_replicate]
  omega

theorem ahead_thorough (direct : a.needsSearch [] = false) (ordered : a.ordered = true) :
    Thorough subject (Expr.look .ahead false a).Leads (ahead false (settle a)).run := by
  intro refused rest t left returns refusing on failed q leads
  obtain ⟨rfl, r, ahead⟩ := leads
  have alone : ∀ u ∈ [t.clear a.groups], u.place.On subject := by simpa [Thread.clear] using on
  have stands := Expr.stands_ends direct ordered alone (q := r)
  simp only [Thread.stands_single, exists_eq_left] at stands
  rw [run, run] at failed
  cases first : (a.ends [t.clear a.groups]).head? with
  | none =>
    obtain ⟨u, member, -⟩ := stands.2 ahead
    rw [List.head?_eq_none_iff.1 first] at member
    cases member
  | some u =>
    rw [first] at failed
    exact refusing { u with place := t.place } on _ _ failed

/-- A run of the plan of an expression that never looks back tries every place the expression leads to. -/
theorem run_thorough {role : Role} (forward : e.isForward = true) (ordered : e.ordered = true)
    (planned : ofExpr? [] true role e = some p) : Thorough subject e.Leads p.run := by
  induction e generalizing role p with
  | empty | char s =>
    obtain rfl : settle _ = p := by simpa [ofExpr?] using planned
    exact settle_thorough rfl rfl rfl
  | anchor c =>
    obtain rfl : settle _ = p := by simpa [ofExpr?] using planned
    exact anchor_thorough c
  | seq a b first second =>
    rw [ofExpr?] at planned
    simp only [Expr.isForward, Expr.ordered, Bool.and_eq_true] at forward ordered
    split at planned
    · exact settles_thorough ‹_› planned
    · split at planned
      · -- Only the front is settled.
        rename_i fixed
        simp only [Bool.and_eq_true, Bool.not_eq_true'] at fixed
        simp only [Option.bind_eq_bind, Option.bind_eq_some_iff, Option.some.injEq] at planned
        obtain ⟨front, frontPlanned, back, backPlanned, rfl⟩ := planned
        obtain ⟨-, rfl⟩ := settle?_eq_some.1 frontPlanned
        exact seq_thorough (settle_thorough fixed.1.2 ordered.1 fixed.2)
          (second forward.2 ordered.2 backPlanned)
      · simp only [Option.bind_eq_bind, Option.bind_eq_some_iff, Option.some.injEq] at planned
        obtain ⟨front, frontPlanned, back, backPlanned, rfl⟩ := planned
        exact seq_thorough (first forward.1 ordered.1 frontPlanned)
          (second forward.2 ordered.2 backPlanned)
  | alt a b first second =>
    rw [ofExpr?] at planned
    simp only [Expr.isForward, Expr.ordered, Bool.and_eq_true] at forward ordered
    split at planned
    · exact settles_thorough ‹_› planned
    · simp only [Bool.true_or, Option.bind_eq_bind, Option.bind_eq_some_iff,
        Option.some.injEq] at planned
      obtain ⟨left, leftPlanned, right, rightPlanned, rfl⟩ := planned
      exact alt_thorough (first forward.1 ordered.1 leftPlanned)
        (second forward.2 ordered.2 rightPlanned)
  | enclosed a ih =>
    rw [ofExpr?] at planned
    split at planned
    · exact settles_thorough ‹_› planned
    · exact ih forward ordered planned
  | group n a ih =>
    rw [ofExpr?] at planned
    split at planned
    · exact settles_thorough ‹_› planned
    · obtain ⟨inner, innerPlanned, rfl⟩ := Option.map_eq_some_iff.1 planned
      exact group_thorough n (ih forward ordered innerPlanned)
  | rep a low high greedy ih =>
    rw [ofExpr?] at planned
    split at planned
    · exact settles_thorough ‹_› planned
    · obtain ⟨inner, innerPlanned, rfl⟩ := Option.map_eq_some_iff.1 planned
      simp only [Expr.ordered, Bool.and_eq_true] at ordered
      exact rep_thorough (ih forward ordered.1 innerPlanned) low high greedy _
  | look d negative a =>
    cases d <;> cases negative <;>
      simp only [Expr.isForward, Bool.not_eq_true', Bool.false_eq_true] at forward
    simp only [ofExpr?] at planned
    obtain ⟨inner, innerPlanned, rfl⟩ := Option.map_eq_some_iff.1 planned
    obtain rfl := ofExpr?_direct forward innerPlanned
    exact ahead_thorough forward ordered
  | atomic a | backref n => cases forward

end Run

end Plan

/-! ## Searches -/

namespace Program

variable {e : Expr} {groups : Nat} {program : Program} {path : Text}

/-- A search that is not given up finds a match if the expression leads anywhere from the start. -/
theorem isSome_find? (forward : e.isForward = true) (ordered : e.ordered = true)
    (compiled : ofNotated? ⟨e, groups, []⟩ = some program) {q : Place}
    (leads : e.Leads (.start path) q) (finished : program.search path ≠ .gaveUp) :
    (program.find? path).isSome = true := by
  obtain ⟨places, onward, -⟩ := Place.start_onward path
  have on := Place.start_on path
  simp only [ofNotated?] at compiled
  split at compiled
  · obtain ⟨p, planned, rfl⟩ := Option.map_eq_some_iff.1 compiled
    simp only [find?, search, onward, searchPlan] at finished ⊢
    -- What is found is accepted, so no place is refused.
    have accepts : Plan.Refusing path (fun _ => False) Plan.accept := by
      intro u on left returns failed
      cases failed
    cases answer : p.run (.ofPlace (.start path)) Plan.accept ⟨waitingLimit - 1, returnLimit⟩ with
    | found t returns => simp [Outcome.found?]
    | exhausted => simp [answer] at finished
    | failed returns =>
      exact (Plan.run_thorough forward ordered planned accepts on answer q leads).elim
  · rename_i direct
    split at compiled
    · obtain rfl := Option.some.inj compiled
      have alone : ∀ t ∈ [Thread.ofPlace (.start path)], t.place.On path := by
        simpa [Thread.ofPlace] using on
      have stands := Expr.stands_ends (by simpa using direct) ordered alone (q := q)
      obtain ⟨u, member, -⟩ := stands.2 ⟨_, Thread.stands_single.2 rfl, leads⟩
      simp only [find?, search, onward, searchExpr]
      cases first : (e.ends [.ofPlace (.start path)]).head? with
      | some t => simp [Outcome.found?]
      | none =>
        rw [List.head?_eq_none_iff.1 first] at member
        cases member
    · cases compiled

/-- Where an expression that needs no search is found, it leads from where the match starts to where it
ends. -/
theorem leads_of_find? (direct : e.needsSearch [] = false)
    (compiled : ofNotated? ⟨e, groups, []⟩ = some program) {found : Found}
    (answer : program.find? path = some found) :
    found.start.On path ∧ e.Leads found.start found.thread.place := by
  simp only [ofNotated?, direct, Bool.false_eq_true, if_false, Option.ite_none_right_eq_some,
    Option.some.injEq] at compiled
  obtain ⟨settleable, rfl⟩ := compiled
  have ordered := Expr.ordered_of_settleable settleable
  have on := Place.start_onward_on path
  simp only [find?, search] at answer
  -- The match starts at the first place from which there is any.
  generalize (Place.start path).onward = places at on answer
  induction places with
  | nil => cases answer
  | cons place places ih =>
    rw [List.forall_mem_cons] at on
    rw [searchExpr] at answer
    split at answer
    · rename_i t first
      obtain rfl := Option.some.inj answer
      have alone : ∀ t ∈ [Thread.ofPlace place], t.place.On path := by
        simpa [Thread.ofPlace] using on.1
      have stands := Expr.stands_ends direct ordered alone (q := t.place)
      obtain ⟨p, here, leads⟩ := stands.1 ⟨t, List.mem_of_head? first, rfl⟩
      obtain rfl := Thread.stands_single.1 here
      exact ⟨on.1, leads⟩
    · exact ih on.2 answer

end Program

end RoutePattern
