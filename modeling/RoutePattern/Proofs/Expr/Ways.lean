import Mathlib.Data.List.Basic
import RoutePattern.Expr.Plan

/-! # Every way through an expression

`Expr.ways` lists all threads behind an expression, the most preferred first, with no regard to what
is worth following. It is what the two engines are measured by: following every way at once keeps the
first thread at each place, and a backtracking search takes the threads in their order.

The expressions spoken of are the `tame` ones. Each iteration of a repetition takes characters there,
so the length of the text bounds the number of iterations.
-/

namespace RoutePattern

/-! ## Places on a text -/

namespace Place

/-- The place divides `subject`. -/
structure On (subject : Text) (p : Place) : Prop where
  text : p.before.reverse ++ p.after = subject
  index : p.index = p.before.length

theorem start_on (subject : Text) : (start subject).On subject := ⟨rfl, rfl⟩

theorem On.eq_of_index {subject : Text} {p q : Place} (left : p.On subject) (right : q.On subject)
    (same : p.index = q.index) : p = q := by
  obtain ⟨text, index⟩ := left
  obtain ⟨text', index'⟩ := right
  have lengths : p.before.reverse.length = q.before.reverse.length := by
    simp [← index, ← index', same]
  obtain ⟨befores, afters⟩ := List.append_inj (text.trans text'.symm) lengths
  cases p
  cases q
  simp_all

theorem On.length {subject : Text} {p : Place} (on : p.On subject) :
    p.index + p.after.length = subject.length := by
  rw [on.index, ← on.text]
  simp

theorem pass?_eq_some {p q : Place} {t : Text} :
    p.pass? t = some q ↔
      ∃ rest, p.after = t ++ rest ∧ q = ⟨p.index + t.length, t.reverse ++ p.before, rest⟩ := by
  induction t generalizing p with
  | nil =>
    simp only [pass?, Option.some.injEq, List.nil_append, exists_eq_left', List.length_nil,
      Nat.add_zero, List.reverse_nil]
    exact eq_comm
  | cons c t ih =>
    cases found : p.after with
    | nil => simp [pass?, next?, found]
    | cons d rest =>
      simp only [pass?, next?, found, List.cons_append, List.cons.injEq]
      split
      · -- The text goes on behind the same character.
        rename_i same
        subst same
        rw [ih]
        simp [Nat.add_assoc, Nat.add_comm 1]
      · rename_i differ
        simp [Ne.symm differ]

theorem pass?_append (p : Place) (s t : Text) : p.pass? (s ++ t) = (p.pass? s).bind (·.pass? t) := by
  induction s generalizing p with
  | nil => rfl
  | cons c s ih =>
    simp only [List.cons_append, pass?]
    cases p.next? with
    | none => rfl
    | some step =>
      obtain ⟨d, q⟩ := step
      by_cases same : c = d <;> simp [same, ih]

theorem On.pass? {subject t : Text} {p q : Place} (on : p.On subject) (passed : p.pass? t = some q) :
    q.On subject := by
  obtain ⟨rest, after, rfl⟩ := pass?_eq_some.1 passed
  obtain ⟨text, index⟩ := on
  refine ⟨?_, ?_⟩
  · simpa [after] using text
  · simp [index, Nat.add_comm]

end Place

namespace Thread

@[simp] theorem openGroup_place (t : Thread) (n : Nat) : (t.openGroup n).place = t.place := rfl

@[simp] theorem closeGroup_place (t : Thread) (n : Nat) : (t.closeGroup n).place = t.place := by
  unfold closeGroup
  split <;> rfl

/-! ## Iterations -/

/-- The ways through at most so many iterations. -/
def atMost (body : Thread → List Thread) (greedy : Bool) : Nat → Thread → List Thread
  | 0, t => [t]
  | spare + 1, t => prefer greedy ((body t).flatMap (atMost body greedy spare)) [t]

/-- The ways through iterations that must be made, `low` of them, and at most `spare` more. -/
def iterations (body : Thread → List Thread) (greedy : Bool) (spare : Nat) :
    (low : Nat) → Thread → List Thread
  | 0, t => atMost body greedy spare t
  | low + 1, t => (body t).flatMap (iterations body greedy spare low)

theorem mem_prefer {greedy : Bool} {further stop : List Thread} {u : Thread} :
    u ∈ prefer greedy further stop ↔ u ∈ further ∨ u ∈ stop := by
  cases greedy <;> simp [prefer, or_comm]

/-- An iteration stays on the text and takes characters. -/
structure Advances (subject : Text) (body : Thread → List Thread) : Prop where
  on : ∀ {t u : Thread}, t.place.On subject → u ∈ body t → u.place.On subject
  index : ∀ {t u : Thread}, t.place.On subject → u ∈ body t → t.index < u.index

theorem Advances.eq_nil {subject : Text} {body : Thread → List Thread}
    (advances : Advances subject body) {t : Thread} (on : t.place.On subject)
    (finished : t.place.after.length = 0) : body t = [] := by
  rw [List.eq_nil_iff_forall_not_mem]
  intro u member
  have next := advances.index on member
  have bound := (advances.on on member).length
  have here := on.length
  simp only [Thread.index] at next
  omega

theorem Advances.after_lt {subject : Text} {body : Thread → List Thread}
    (advances : Advances subject body) {t u : Thread} (on : t.place.On subject) (member : u ∈ body t) :
    u.place.after.length < t.place.after.length := by
  have next := advances.index on member
  have bound := (advances.on on member).length
  have here := on.length
  simp only [Thread.index] at next
  omega

section Iterations

variable {body : Thread → List Thread} {greedy : Bool}

/-- What each iteration keeps is kept by all of them. -/
theorem atMost_preserve {P : Thread → Prop} (keeps : ∀ t u, P t → u ∈ body t → P u)
    {spare : Nat} {t u : Thread} (holds : P t) (member : u ∈ atMost body greedy spare t) : P u := by
  induction spare generalizing t with
  | zero => simp_all [atMost]
  | succ spare ih =>
    rcases mem_prefer.1 member with further | stop
    · obtain ⟨v, first, rest⟩ := List.mem_flatMap.1 further
      exact ih (keeps t v holds first) rest
    · simp_all

theorem iterations_preserve {P : Thread → Prop} (keeps : ∀ t u, P t → u ∈ body t → P u)
    {spare low : Nat} {t u : Thread} (holds : P t)
    (member : u ∈ iterations body greedy spare low t) : P u := by
  induction low generalizing t with
  | zero => exact atMost_preserve keeps holds member
  | succ low ih =>
    obtain ⟨v, first, rest⟩ := List.mem_flatMap.1 member
    exact ih (keeps t v holds first) rest

theorem iterations_index {least : Nat} (takes : ∀ t u, u ∈ body t → t.index + least ≤ u.index)
    {spare low : Nat} {t u : Thread} (member : u ∈ iterations body greedy spare low t) :
    t.index + least * low ≤ u.index := by
  induction low generalizing t with
  | zero =>
    exact atMost_preserve (P := fun u => t.index ≤ u.index)
      (fun v w bound step => by have here := takes v w step; omega) (Nat.le_refl _) member
  | succ low ih =>
    obtain ⟨v, first, rest⟩ := List.mem_flatMap.1 member
    have here := takes t v first
    have there := ih rest
    rw [Nat.mul_succ]
    omega

theorem iterations_exact_index {width : Nat} (takes : ∀ t u, u ∈ body t → u.index = t.index + width)
    {low : Nat} {t u : Thread} (member : u ∈ iterations body greedy 0 low t) :
    u.index = t.index + width * low := by
  induction low generalizing t with
  | zero => simp_all [iterations, atMost]
  | succ low ih =>
    obtain ⟨v, first, rest⟩ := List.mem_flatMap.1 member
    rw [ih rest, takes t v first, Nat.mul_succ]
    omega

/-- A change of threads that one iteration goes along with. -/
theorem atMost_map {body' : Thread → List Thread} {f : Thread → Thread}
    (commutes : ∀ t, body' (f t) = (body t).map f) (spare : Nat) (t : Thread) :
    atMost body' greedy spare (f t) = (atMost body greedy spare t).map f := by
  induction spare generalizing t with
  | zero => rfl
  | succ spare ih =>
    cases greedy <;>
      simp [atMost, prefer, commutes, List.flatMap_map, List.map_flatMap, ih]

theorem iterations_map {body' : Thread → List Thread} {f : Thread → Thread}
    (commutes : ∀ t, body' (f t) = (body t).map f) (spare low : Nat) (t : Thread) :
    iterations body' greedy spare low (f t) = (iterations body greedy spare low t).map f := by
  induction low generalizing t with
  | zero => exact atMost_map commutes spare t
  | succ low ih => simp only [iterations, commutes, List.flatMap_map, List.map_flatMap, ih]

/-- More iterations than there are characters left change nothing. -/
theorem atMost_stable {subject : Text} (advances : Advances subject body) {t : Thread}
    (on : t.place.On subject) {m n : Nat} (enough : t.place.after.length ≤ m)
    (enough' : t.place.after.length ≤ n) :
    atMost body greedy m t = atMost body greedy n t := by
  -- The two numbers count down together; either of them is spent only when the text is.
  induction m generalizing t n with
  | zero =>
    have finished := advances.eq_nil on (Nat.le_zero.1 enough)
    cases n <;> cases greedy <;> simp [atMost, finished, prefer]
  | succ m ih =>
    cases n with
    | zero =>
      have finished := advances.eq_nil on (Nat.le_zero.1 enough')
      cases greedy <;> simp [atMost, finished, prefer]
    | succ n =>
      have same : (body t).flatMap (atMost body greedy m) =
          (body t).flatMap (atMost body greedy n) := by
        refine List.flatMap_congr fun u member => ?_
        have shorter := advances.after_lt on member
        exact ih (advances.on on member) (by omega) (by omega)
      simp only [atMost, same]

theorem iterations_stable {subject : Text} (advances : Advances subject body) {t : Thread}
    (on : t.place.On subject) {m n : Nat} (enough : t.place.after.length ≤ m)
    (enough' : t.place.after.length ≤ n) (low : Nat) :
    iterations body greedy m low t = iterations body greedy n low t := by
  induction low generalizing t with
  | zero => exact atMost_stable advances on enough enough'
  | succ low ih =>
    refine List.flatMap_congr fun u member => ?_
    have shorter := advances.after_lt on member
    exact ih (advances.on on member) (by omega) (by omega)

end Iterations

end Thread

namespace Expr

/-- How often a repetition may go on when it has made the iterations it must. -/
def spare (low : Nat) (high : Option Nat) (t : Thread) : Nat :=
  high.elim t.place.after.length (· - low)

/-- The ways through an expression, the most preferred first. Of look-around only the positive one
ahead is followed; atomic groups and references have no ways. -/
def ways : Expr → Thread → List Thread
  | empty, t => [t]
  | char s, t => (t.step? s).toList
  | anchor a, t => if a.holds t.place then [t] else []
  | seq a b, t => (a.ways t).flatMap b.ways
  | alt a b, t => a.ways t ++ b.ways t
  | enclosed a, t => a.ways t
  | group n a, t => (a.ways (t.openGroup n)).map (·.closeGroup n)
  | rep a low high greedy, t => Thread.iterations a.ways greedy (spare low high t) low t
  | look .ahead false a, t => (a.ways t).map fun u => { u with place := t.place }
  | look _ _ _, _ | atomic _, _ | backref _, _ => []

/-- Each iteration of a repetition takes characters, groups vary in length, and what is looked ahead
for neither captures nor needs a search. -/
def tame : Expr → Bool
  | empty | char _ | anchor _ => true
  | seq a b | alt a b => a.tame && b.tame
  | enclosed a => a.tame
  | group _ a => a.tame && !a.fixedLength
  | rep a low high _ => a.tame && 0 < a.minLength && high.all (low ≤ ·)
  | look .ahead false a => a.tame && a.groups.isEmpty && !a.needsSearch []
  | look _ _ _ | atomic _ | backref _ => false

section Ways

variable {e : Expr} {t u : Thread} {subject : Text}

theorem step?_eq_some {s : CharSet} :
    t.step? s = some u ↔
      ∃ c rest, t.place.after = c :: rest ∧ s.has c = true ∧
        u = { t with place := ⟨t.index + 1, c :: t.place.before, rest⟩ } := by
  simp only [Thread.step?, Place.next?]
  cases t.place.after with
  | nil => simp
  | cons c rest =>
    by_cases holds : s.has c = true
    · simp only [holds, if_true, Option.some.injEq, List.cons.injEq]
      constructor
      · rintro rfl
        exact ⟨c, rest, ⟨rfl, rfl⟩, holds, rfl⟩
      · rintro ⟨_, _, ⟨rfl, rfl⟩, -, rfl⟩
        rfl
    · simp [holds]

theorem ways_on (on : t.place.On subject) (member : u ∈ e.ways t) : u.place.On subject := by
  induction e generalizing t u with
  | empty => simp_all [ways]
  | char s =>
    obtain ⟨c, rest, after, -, rfl⟩ := step?_eq_some.1 (Option.mem_toList.1 member)
    obtain ⟨text, index⟩ := on
    exact ⟨by simpa [after] using text, by simp [Thread.index, index]⟩
  | anchor a => simp_all [ways]
  | seq a b first second =>
    obtain ⟨v, front, back⟩ := List.mem_flatMap.1 member
    exact second (first on front) back
  | alt a b first second =>
    rcases List.mem_append.1 member with left | right
    · exact first on left
    · exact second on right
  | enclosed a ih => exact ih on member
  | group n a ih =>
    obtain ⟨v, inside, rfl⟩ := List.mem_map.1 member
    rw [Thread.closeGroup_place]
    exact ih (t := t.openGroup n) on inside
  | rep a low high greedy ih =>
    exact Thread.iterations_preserve (P := fun t => t.place.On subject)
      (fun t u on member => ih on member) on member
  | look d negative a ih =>
    cases d <;> cases negative <;> simp only [ways, List.mem_map, List.not_mem_nil] at member
    obtain ⟨v, -, rfl⟩ := member
    exact on
  | atomic a ih | backref n => simp [ways] at member

theorem ways_index (member : u ∈ e.ways t) : t.index + e.minLength ≤ u.index := by
  induction e generalizing t u with
  | empty => simp_all [ways, minLength]
  | char s =>
    obtain ⟨c, rest, -, -, rfl⟩ := step?_eq_some.1 (Option.mem_toList.1 member)
    exact Nat.le_refl _
  | anchor a => simp_all [ways, minLength]
  | seq a b first second =>
    obtain ⟨v, front, back⟩ := List.mem_flatMap.1 member
    have here := first front
    have there := second back
    simp only [minLength]
    omega
  | alt a b first second =>
    simp only [minLength]
    rcases List.mem_append.1 member with left | right
    · have here := first left
      omega
    · have here := second right
      omega
  | enclosed a ih => exact ih member
  | group n a ih =>
    obtain ⟨v, inside, rfl⟩ := List.mem_map.1 member
    simpa [Thread.index, minLength] using ih (t := t.openGroup n) inside
  | rep a low high greedy ih => exact Thread.iterations_index (fun t u => ih) member
  | look d negative a ih =>
    cases d <;> cases negative <;> simp only [ways, List.mem_map, List.not_mem_nil] at member
    obtain ⟨v, -, rfl⟩ := member
    exact Nat.le_refl _
  | atomic a ih | backref n => simp [ways] at member

theorem advances_ways (takes : 0 < e.minLength) (subject : Text) :
    Thread.Advances subject e.ways where
  on := ways_on
  index := fun _ member => by
    have bound := ways_index member
    omega

/-! ## Expressions of one length -/

/-- A group varies in length, so there is none where all matches have the same. -/
theorem groups_eq_nil (tame : e.tame = true) (fixed : e.fixedLength = true) : e.groups = [] := by
  induction e with
  | empty | char s | anchor a | backref n => rfl
  | seq a b first second | alt a b first second =>
    simp only [Expr.tame, fixedLength, Bool.and_eq_true] at tame fixed
    simp [groups, first, second, tame, fixed]
  | enclosed a ih => exact ih tame fixed
  | group n a ih =>
    simp only [Expr.tame, fixedLength, Bool.and_eq_true] at tame fixed
    simp [fixed] at tame
  | rep a low high greedy ih =>
    simp only [Expr.tame, fixedLength, Bool.and_eq_true] at tame fixed
    exact ih tame.1.1 fixed.1
  | look d negative a ih =>
    cases d <;> cases negative <;> simp only [Expr.tame, Bool.and_eq_true, Bool.false_eq_true] at tame
    exact List.isEmpty_iff.1 tame.1.2
  | atomic a ih => cases tame

theorem ways_fixed_index (fixed : e.fixedLength = true) (member : u ∈ e.ways t) :
    u.index = t.index + e.minLength := by
  induction e generalizing t u with
  | empty => simp_all [ways, minLength]
  | char s =>
    obtain ⟨c, rest, -, -, rfl⟩ := step?_eq_some.1 (Option.mem_toList.1 member)
    rfl
  | anchor a => simp_all [ways, minLength]
  | seq a b first second =>
    simp only [fixedLength, Bool.and_eq_true] at fixed
    obtain ⟨v, front, back⟩ := List.mem_flatMap.1 member
    rw [second fixed.2 back, first fixed.1 front, minLength, Nat.add_assoc]
  | alt a b first second =>
    simp only [fixedLength, Bool.and_eq_true, beq_iff_eq] at fixed
    rw [minLength, ← fixed.2, Nat.min_self]
    rcases List.mem_append.1 member with left | right
    · exact first fixed.1.1 left
    · rw [fixed.2]
      exact second fixed.1.2 right
  | enclosed a ih => exact ih fixed member
  | group n a ih =>
    obtain ⟨v, inside, rfl⟩ := List.mem_map.1 member
    simpa [Thread.index, minLength] using ih (t := t.openGroup n) fixed inside
  | rep a low high greedy ih =>
    -- As many iterations must be made as may be.
    simp only [fixedLength, Bool.and_eq_true, beq_iff_eq] at fixed
    have noSpare : spare low high t = 0 := by simp [spare, fixed.2]
    rw [ways, noSpare] at member
    exact Thread.iterations_exact_index (fun t u => ih fixed.1) member
  | look d negative a ih =>
    cases d <;> cases negative <;> simp only [ways, List.mem_map, List.not_mem_nil] at member
    obtain ⟨v, -, rfl⟩ := member
    rfl
  | atomic a ih | backref n => simp [ways] at member

end Ways

/-! ## Captures

An expression without groups neither sees nor changes what is captured, so its ways are told by
their places. -/

/-- The same thread with other captures. -/
def recapture (captures : List (Nat × Capture)) (t : Thread) : Thread := { t with captures }

/-- The places of the ways that start at a place. -/
def places (e : Expr) (p : Place) : List Place := (e.ways (.ofPlace p)).map (·.place)

theorem ways_recapture {e : Expr} (groupless : e.groups = []) (captures : List (Nat × Capture))
    (t : Thread) : e.ways (recapture captures t) = (e.ways t).map (recapture captures) := by
  induction e generalizing t with
  | empty => rfl
  | char s =>
    simp only [ways, Thread.step?, recapture]
    split
    · split <;> rfl
    · rfl
  | anchor a =>
    by_cases holds : a.holds t.place = true <;> simp [ways, recapture, holds]
  | seq a b first second =>
    simp only [groups, List.append_eq_nil_iff] at groupless
    simp only [ways, first groupless.1, List.flatMap_map, second groupless.2, List.map_flatMap]
  | alt a b first second =>
    simp only [groups, List.append_eq_nil_iff] at groupless
    simp only [ways, first groupless.1, second groupless.2, List.map_append]
  | enclosed a ih => exact ih groupless t
  | group n a ih => cases groupless
  | rep a low high greedy ih => exact Thread.iterations_map (ih groupless) _ low t
  | look d negative a ih =>
    cases d <;> cases negative <;> try rfl
    simp only [ways, ih groupless, List.map_map]
    rfl
  | atomic a ih | backref n => rfl

theorem ways_eq_map_places {e : Expr} (groupless : e.groups = []) (t : Thread) :
    e.ways t = (e.places t.place).map fun q => { t with place := q } := by
  rw [places, List.map_map]
  -- `t` is the thread without captures at its place, given its captures again.
  exact ways_recapture groupless t.captures (.ofPlace t.place)

end Expr

namespace Thread

/-- The thread at `q` when it has captured the text up to there as the group `n`. -/
def captured (t : Thread) (n : Nat) (q : Place) : Thread :=
  ⟨q, (n, ⟨t.place, some q.index⟩) :: without [n] t.captures⟩

theorem captured_text? (t : Thread) (n : Nat) (q : Place) :
    (t.captured n q).text? n = some (t.place.textUpTo q.index) := by
  simp [captured, text?, capture?]

theorem lookup_without {n m : Nat} (other : m ≠ n) (captures : List (Nat × Capture)) :
    (without [n] captures).lookup m = captures.lookup m := by
  induction captures with
  | nil => rfl
  | cons capture captures ih =>
    obtain ⟨k, place⟩ := capture
    by_cases same : k = n
    · subst same
      simpa [without, List.lookup_cons, beq_false_of_ne other] using ih
    · have kept : without [n] ((k, place) :: captures) = (k, place) :: without [n] captures := by
        simp [without, same]
      rw [kept, List.lookup_cons, List.lookup_cons, ih]

theorem captured_capture? {n m : Nat} (other : m ≠ n) (t : Thread) (q : Place) :
    (t.captured n q).capture? m = t.capture? m := by
  simp [captured, capture?, List.lookup_cons, beq_false_of_ne other, lookup_without other]

end Thread

namespace Expr

theorem ways_group {a : Expr} (groupless : a.groups = []) (n : Nat) (t : Thread) :
    (group n a).ways t = (a.places t.place).map (t.captured n) := by
  simp only [ways, ways_eq_map_places groupless, List.map_map]
  refine List.map_congr_left fun q _ => ?_
  simp [Thread.closeGroup, Thread.openGroup, Thread.capture?, Thread.captured, Thread.without,
    Thread.index]

end Expr

/-! ## Ways and places -/

namespace Thread

/-- Where the results lead depends on the place alone. -/
def Placed (f : Thread → List Thread) : Prop :=
  ∀ ⦃t t' : Thread⦄, t.place = t'.place → (f t).map (·.place) = (f t').map (·.place)

theorem Placed.flatMap {f : Thread → List Thread} (placed : Placed f) {ts ts' : List Thread}
    (same : ts.map (·.place) = ts'.map (·.place)) :
    (ts.flatMap f).map (·.place) = (ts'.flatMap f).map (·.place) := by
  induction ts generalizing ts' with
  | nil =>
    obtain rfl : ts' = [] := by simpa using same.symm
    rfl
  | cons t ts ih =>
    cases ts' with
    | nil => cases same
    | cons t' ts' =>
      simp only [List.map_cons, List.cons.injEq] at same
      simp only [List.flatMap_cons, List.map_append, placed same.1, ih same.2]

theorem Placed.atMost {body : Thread → List Thread} (placed : Placed body) (greedy : Bool)
    (spare : Nat) : Placed (atMost body greedy spare) := by
  induction spare with
  | zero => intro t t' same; simpa [Thread.atMost] using same
  | succ spare ih =>
    intro t t' same
    have further := ih.flatMap (placed same)
    cases greedy <;> simp [Thread.atMost, prefer, further, same]

theorem Placed.iterations {body : Thread → List Thread} (placed : Placed body) (greedy : Bool)
    (spare low : Nat) : Placed (iterations body greedy spare low) := by
  induction low with
  | zero => exact placed.atMost greedy spare
  | succ low ih => exact fun t t' same => ih.flatMap (placed same)

end Thread

namespace Expr

theorem ways_placed (e : Expr) : Thread.Placed e.ways := by
  induction e with
  | empty => intro t t' same; simpa [ways] using same
  | char s =>
    intro t t' same
    simp only [ways, Thread.step?, same]
    split
    · split <;> rfl
    · rfl
  | anchor a =>
    intro t t' same
    by_cases holds : a.holds t'.place = true <;> simp [ways, same, holds]
  | seq a b first second => exact fun t t' same => second.flatMap (first same)
  | alt a b first second =>
    intro t t' same
    simp only [ways, List.map_append, first same, second same]
  | enclosed a ih => exact ih
  | group n a ih =>
    intro t t' same
    have opened : (t.openGroup n).place = (t'.openGroup n).place := same
    have inside := ih opened
    simpa [ways, Function.comp_def] using inside
  | rep a low high greedy ih =>
    intro t t' same
    have spared : spare low high t = spare low high t' := by simp [spare, same]
    simp only [ways, spared]
    exact ih.iterations greedy _ low same
  | look d negative a ih =>
    intro t t' same
    cases d <;> cases negative <;> try rfl
    -- All ways end where they start, so their number alone matters.
    have lengths := congrArg List.length (ih same)
    simp only [ways, List.map_map, same, Function.comp_def, List.map_const',
      List.length_map] at lengths ⊢
    rw [lengths]
  | atomic a ih | backref n => exact fun _ _ _ => rfl

theorem ways_map_place (e : Expr) (t : Thread) : (e.ways t).map (·.place) = e.places t.place :=
  e.ways_placed rfl

end Expr

end RoutePattern
