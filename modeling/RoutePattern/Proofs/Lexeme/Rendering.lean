import RoutePattern.Lexeme.Scan
import RoutePattern.Proofs.Except

/-! # Lexemes as they are written

Scanning loses nothing (`written_scan`): the lexemes of a pattern, written one after another, are the
pattern, each of them where its index says. `Spells` says this of one lexeme after another; a name
that is short for two lexemes is the only one that is written together with what follows it.
-/

namespace RoutePattern.Lexeme

open Text (byteLength)

namespace Body

/-- A lexeme as it is written where it is not short for two. -/
def written : Body → Text
  | name n => ':' :: n
  | fragment t => '(' :: t ++ [')']
  | escaped c => ['\\', c]
  | b => b.value

/-- The lexeme is written as it is, whatever follows, and more lexemes follow. -/
def standsAlone : Body → Bool
  | name _ | finish => false
  | opening | closing | fragment _ | char _ | escaped _ | modifier _ => true

end Body

/-- A part of a pattern as it is written, and the number of bytes before it. -/
structure Part where
  index : Nat
  text : Text

/-- The parts of a pattern. A name and a modifier that stand at one index are one part. -/
def parts : List Lexeme → List Part
  | [] => []
  | ⟨i, .name n⟩ :: ⟨j, .modifier m⟩ :: rest =>
    if i = j then ⟨i, '*' :: n⟩ :: parts rest
    else ⟨i, (Body.name n).written⟩ :: parts (⟨j, .modifier m⟩ :: rest)
  | l :: rest => ⟨l.index, l.body.written⟩ :: parts rest

namespace Part

def join (ps : List Part) : Text := ps.flatMap (·.text)

/-- Each part stands where the one before it ends. -/
def StandFrom (index : Nat) : List Part → Prop
  | [] => True
  | p :: ps => p.index = index ∧ StandFrom (index + byteLength p.text) ps

theorem StandFrom.index_eq {index : Nat} {before after : List Part} {p : Part}
    (stand : StandFrom index (before ++ p :: after)) :
    p.index = index + byteLength (join before) := by
  induction before generalizing index with
  | nil => exact stand.1
  | cons q before ih =>
    have joined : join (q :: before) = q.text ++ join before := List.flatMap_cons
    rw [ih stand.2, joined, Text.byteLength_append, Nat.add_assoc]

end Part

/-! ## Names -/

/-- A name in front of a text, which takes all the name characters that there are. -/
structure IsName (n rest : Text) : Prop where
  nonempty : n ≠ []
  characters : ∀ c ∈ n, isNameChar c = true
  maximal : ∀ c ∈ rest.head?, isNameChar c = false

theorem leadingName_behindName (t : Text) : leadingName t ++ behindName t = t :=
  List.takeWhile_append_dropWhile

theorem isName_leadingName {t : Text} (present : leadingName t ≠ []) :
    IsName (leadingName t) (behindName t) where
  nonempty := present
  characters := List.all_eq_true.1 List.all_takeWhile
  maximal := by
    intro c first
    have stops := List.head?_dropWhile_not isNameChar t
    rw [behindName, Option.mem_def] at first
    simpa only [first] using stops

/-! ## One lexeme after another -/

/-- The lexemes spell the text, with so many bytes before it. -/
inductive Spells : Nat → Text → List Lexeme → Prop
  | finish (index : Nat) : Spells index [] [⟨index, .finish⟩]
  | alone {index : Nat} {rest : Text} {ls : List Lexeme} (b : Body)
      (stands : b.standsAlone = true) (later : Spells (index + byteLength b.written) rest ls) :
      Spells index (b.written ++ rest) (⟨index, b⟩ :: ls)
  | name {index : Nat} {n rest : Text} {ls : List Lexeme} (isName : IsName n rest)
      (later : Spells (index + 1 + byteLength n) rest ls) :
      Spells index (':' :: n ++ rest) (⟨index, .name n⟩ :: ls)
  | starred {index : Nat} {n rest : Text} {ls : List Lexeme} (isName : IsName n rest)
      (later : Spells (index + 1 + byteLength n) rest ls) :
      Spells index ('*' :: n ++ rest) (⟨index, .name n⟩ :: ⟨index, .modifier .zeroOrMore⟩ :: ls)

theorem char_of_ofChar? {c : Char} {m : Modifier} (found : Modifier.ofChar? c = some m) :
    c = m.char := by
  unfold Modifier.ofChar? at found
  split at found <;> simp_all [Modifier.char] <;> subst found <;> rfl

theorem utf8Size_modifier (m : Modifier) : m.char.utf8Size = 1 := by cases m <;> rfl

theorem byteLength_fragment (f : Text) : byteLength ('(' :: f ++ [')']) = 2 + byteLength f := by
  have brackets : '('.utf8Size = 1 ∧ ')'.utf8Size = 1 := ⟨rfl, rfl⟩
  simp only [List.cons_append, Text.byteLength_cons, Text.byteLength_append, Text.byteLength_nil,
    brackets]
  omega

theorem Spells.alone_at {index next : Nat} {rest : Text} {ls : List Lexeme} (b : Body)
    (stands : b.standsAlone = true) (there : index + byteLength b.written = next)
    (later : Spells next rest ls) : Spells index (b.written ++ rest) (⟨index, b⟩ :: ls) :=
  .alone b stands (there ▸ later)

/-- What is scanned is spelled by its lexemes. -/
theorem spells_scanFrom {index : Nat} {bound : Bool} {t : Text} {ls : List Lexeme}
    (scanned : scanFrom index bound t = .ok ls) : Spells index t ls := by
  fun_induction scanFrom index bound t generalizing ls with
  | case1 => exact Except.ok.inj scanned ▸ .finish _
  | case2 | case6 | case8 => cases scanned
  | case3 index bound c rest ih =>
    obtain ⟨later, read, rfl⟩ := bind_ok_eq_ok_iff.1 scanned
    exact .alone_at (.escaped c) rfl (Nat.add_assoc _ _ _).symm (ih read)
  | case4 index bound rest ih =>
    obtain ⟨later, read, rfl⟩ := bind_ok_eq_ok_iff.1 scanned
    exact .alone .opening rfl (ih read)
  | case5 index bound rest ih =>
    obtain ⟨later, read, rfl⟩ := bind_ok_eq_ok_iff.1 scanned
    exact .alone .closing rfl (ih read)
  | case7 index bound rest name present =>
    rename_i ih
    obtain ⟨later, read, rfl⟩ := bind_ok_eq_ok_iff.1 scanned
    rw [← leadingName_behindName rest]
    exact .name (isName_leadingName (mt List.isEmpty_iff.2 present)) (ih read)
  | case9 index bound rest inside behind closed ih =>
    obtain ⟨later, read, rfl⟩ := bind_ok_eq_ok_iff.1 scanned
    have size : byteLength (Body.fragment inside).written = 2 + byteLength inside :=
      byteLength_fragment inside
    have shape : '(' :: rest = (Body.fragment inside).written ++ behind := by
      simp [Body.written, fragmentFrom_shape closed]
    rw [shape]
    exact .alone_at (.fragment inside) rfl (by rw [size, Nat.add_assoc]) (ih read)
  | case10 index bound rest c _ _ _ _ _ m found name short =>
    rename_i ih
    obtain ⟨later, read, rfl⟩ := bind_ok_eq_ok_iff.1 scanned
    -- Only a star before a name is short for two lexemes.
    simp only [Bool.and_eq_true, decide_eq_true_eq, Bool.not_eq_true'] at short
    obtain ⟨⟨rfl, -⟩, present⟩ := short
    obtain rfl := char_of_ofChar? found
    rw [← leadingName_behindName rest]
    exact .starred (isName_leadingName (mt List.isEmpty_iff.2 (by simpa using present))) (ih read)
  | case11 index bound rest c _ _ _ _ _ m found name _ =>
    rename_i ih
    obtain ⟨later, read, rfl⟩ := bind_ok_eq_ok_iff.1 scanned
    obtain rfl := char_of_ofChar? found
    have size : index + byteLength (Body.modifier m).written = index + 1 := by
      simp [Body.written, Body.value, utf8Size_modifier]
    exact .alone_at (.modifier m) rfl size (ih read)
  | case12 index bound rest c _ _ _ _ _ _ ih =>
    obtain ⟨later, read, rfl⟩ := bind_ok_eq_ok_iff.1 scanned
    exact .alone (.char c) rfl (ih read)

/-! ## What spelling says -/

section Spells

variable {index : Nat} {t : Text} {ls : List Lexeme}

/-- No lexeme stands before the text. -/
theorem Spells.index_le (spells : Spells index t ls) : ∀ l ∈ ls, index ≤ l.index := by
  induction spells with
  | finish index => simp
  | alone b _ _ ih =>
    rw [List.forall_mem_cons]
    exact ⟨Nat.le_refl _, fun l member => Nat.le_trans (Nat.le_add_right _ _) (ih l member)⟩
  | name _ _ ih =>
    rw [List.forall_mem_cons]
    exact ⟨Nat.le_refl _, fun l member => Nat.le_trans (by omega) (ih l member)⟩
  | starred _ _ ih =>
    rw [List.forall_mem_cons, List.forall_mem_cons]
    exact ⟨Nat.le_refl _, Nat.le_refl _, fun l member => Nat.le_trans (by omega) (ih l member)⟩

/-- What is spelled behind a name stands behind the index of the name. -/
theorem Spells.index_lt {size : Nat} (later : Spells (index + 1 + size) t ls) :
    ∀ l ∈ ls, index < l.index :=
  fun l member => Nat.le_trans (Nat.le_add_right _ size) (later.index_le l member)

theorem Spells.ordered (spells : Spells index t ls) :
    ls.Pairwise fun l l' => l.index ≤ l'.index := by
  induction spells with
  | finish index => exact List.pairwise_singleton _ _
  | alone b _ later ih =>
    exact .cons (fun l member => Nat.le_trans (Nat.le_add_right _ _) (later.index_le l member)) ih
  | name _ later ih =>
    exact .cons (fun l member => Nat.le_of_lt (later.index_lt l member)) ih
  | starred _ later ih =>
    have behind := fun l member => Nat.le_of_lt (later.index_lt l member)
    exact .cons (List.forall_mem_cons.2 ⟨Nat.le_refl _, behind⟩) (.cons behind ih)

/-- The end of the text is marked once, behind all other lexemes. -/
theorem Spells.finished (spells : Spells index t ls) :
    ∃ inner, ls = inner ++ [⟨index + byteLength t, .finish⟩] ∧ ∀ l ∈ inner, l.body ≠ .finish := by
  induction spells with
  | finish index => exact ⟨[], rfl, by simp⟩
  | @alone index rest ls b stands _ ih =>
    obtain ⟨inner, rfl, others⟩ := ih
    refine ⟨⟨index, b⟩ :: inner, by simp [Nat.add_assoc], List.forall_mem_cons.2 ⟨?_, others⟩⟩
    rintro rfl
    cases stands
  | @name index n rest ls _ _ ih =>
    obtain ⟨inner, rfl, others⟩ := ih
    refine ⟨⟨index, .name n⟩ :: inner, ?_, List.forall_mem_cons.2 ⟨nofun, others⟩⟩
    have size : ':'.utf8Size = 1 := rfl
    simp [size, Nat.add_assoc]
  | @starred index n rest ls _ _ ih =>
    obtain ⟨inner, rfl, others⟩ := ih
    refine ⟨⟨index, .name n⟩ :: ⟨index, .modifier .zeroOrMore⟩ :: inner, ?_,
      List.forall_mem_cons.2 ⟨nofun, List.forall_mem_cons.2 ⟨nofun, others⟩⟩⟩
    have size : '*'.utf8Size = 1 := rfl
    simp [size, Nat.add_assoc]

/-- A lexeme takes at least one character, apart from the mark at the end. -/
theorem Spells.length_le (spells : Spells index t ls) : ls.length ≤ t.length + 1 := by
  induction spells with
  | finish index => exact Nat.le_refl _
  | alone b stands _ ih =>
    have filled : 0 < b.written.length := by
      cases b with
      | finish => cases stands
      | _ => simp [Body.written, Body.value]
    simp only [List.length_cons, List.length_append]
    omega
  | name isName _ ih =>
    simp only [List.length_cons, List.length_append]
    omega
  | starred isName _ ih =>
    -- The star stands for two lexemes, and the name behind it is not empty.
    have filled := List.length_pos_iff.2 isName.nonempty
    simp only [List.length_cons, List.length_append]
    omega

/-- A lexeme stands between two characters of the text, and a name behind its sign. -/
structure StandsIn (index : Nat) (t : Text) (l : Lexeme) (before after : Text) : Prop where
  text : t = before ++ after
  index : l.index = index + byteLength before
  name : ∀ n, l.body = .name n → ∃ sign rest, after = sign :: (n ++ rest) ∧ IsName n rest

theorem StandsIn.behind {l : Lexeme} (head : Text) {before after : Text}
    (stands : StandsIn (index + byteLength head) t l before after) :
    StandsIn index (head ++ t) l (head ++ before) after where
  text := by rw [stands.text, List.append_assoc]
  index := by rw [stands.index, Text.byteLength_append, Nat.add_assoc]
  name := stands.name

theorem Spells.standsIn (spells : Spells index t ls) :
    ∀ l ∈ ls, ∃ before after, StandsIn index t l before after := by
  induction spells with
  | finish index =>
    rw [List.forall_mem_singleton]
    exact ⟨[], [], rfl, rfl, nofun⟩
  | alone b stands _ ih =>
    rw [List.forall_mem_cons]
    refine ⟨⟨[], _, rfl, rfl, ?_⟩, fun l member => ?_⟩
    · rintro n rfl
      cases stands
    · obtain ⟨before, after, inside⟩ := ih l member
      exact ⟨_, after, inside.behind b.written⟩
  | @name index n rest ls isName _ ih =>
    rw [List.forall_mem_cons]
    refine ⟨⟨[], _, rfl, rfl, ?_⟩, fun l member => ?_⟩
    · rintro _ ⟨⟩
      exact ⟨':', rest, rfl, isName⟩
    · obtain ⟨before, after, inside⟩ := ih l member
      rw [Nat.add_assoc] at inside
      exact ⟨_, after, inside.behind (':' :: n)⟩
  | @starred index n rest ls isName _ ih =>
    rw [List.forall_mem_cons, List.forall_mem_cons]
    refine ⟨⟨[], _, rfl, rfl, ?_⟩, ⟨[], _, rfl, rfl, nofun⟩, fun l member => ?_⟩
    · rintro _ ⟨⟩
      exact ⟨'*', rest, rfl, isName⟩
    · obtain ⟨before, after, inside⟩ := ih l member
      rw [Nat.add_assoc] at inside
      exact ⟨_, after, inside.behind ('*' :: n)⟩

theorem parts_alone {b : Body} (stands : b.standsAlone = true) (index : Nat) (ls : List Lexeme) :
    parts (⟨index, b⟩ :: ls) = ⟨index, b.written⟩ :: parts ls := by
  cases b <;> first | rfl | cases stands

/-- A name is a part of its own if what follows stands behind it. -/
theorem parts_name {n : Text} (behind : ∀ l ∈ ls, index < l.index) :
    parts (⟨index, .name n⟩ :: ls) = ⟨index, ':' :: n⟩ :: parts ls := by
  rcases ls with _ | ⟨⟨j, body⟩, ls⟩
  · rfl
  · cases body with
    | modifier m =>
      have apart : index ≠ j := Nat.ne_of_lt (behind _ List.mem_cons_self)
      rw [parts, if_neg apart]
      rfl
    | _ => rfl

/-- The parts make up the text, and each stands where its index says. -/
theorem Spells.parts (spells : Spells index t ls) :
    Part.join (parts ls) = t ∧ Part.StandFrom index (parts ls) := by
  induction spells with
  | finish index => exact ⟨rfl, rfl, trivial⟩
  | @alone index rest ls b stands _ ih =>
    rw [parts_alone stands]
    exact ⟨by rw [← ih.1]; rfl, rfl, ih.2⟩
  | @name index n rest ls isName later ih =>
    rw [parts_name later.index_lt]
    rw [Nat.add_assoc] at ih
    exact ⟨by rw [← ih.1]; rfl, rfl, ih.2⟩
  | @starred index n rest ls isName later ih =>
    have star : Lexeme.parts (⟨index, .name n⟩ :: ⟨index, .modifier .zeroOrMore⟩ :: ls) =
        ⟨index, '*' :: n⟩ :: Lexeme.parts ls := by simp [Lexeme.parts]
    rw [star]
    rw [Nat.add_assoc] at ih
    exact ⟨by rw [← ih.1]; rfl, rfl, ih.2⟩

end Spells

/-! ## Whole patterns -/

/-- The lexemes of a pattern end with the one mark of its end, stand in their order between its
characters, and make it up again as they are written. A name takes all the name characters that there
are. -/
theorem written_scan {pattern : Text} {ls : List Lexeme} (scanned : scan pattern = .ok ls) :
    (∃ inner last, ls = inner ++ [last] ∧ (∀ l ∈ inner, l.body ≠ .finish) ∧ last.body = .finish ∧
      last.body.value = [] ∧ last.index = byteLength pattern) ∧
    (ls.Pairwise fun l l' => l.index ≤ l'.index) ∧
    (∀ l ∈ ls, ∃ before after, pattern = before ++ after ∧ l.index = byteLength before) ∧
    Part.join (parts ls) = pattern ∧
    (∀ before part after, parts ls = before ++ part :: after →
      part.index = byteLength (Part.join before)) ∧
    ∀ l ∈ ls, ∀ n, l.body = .name n → ∃ before sign rest,
      pattern = before ++ sign :: (n ++ rest) ∧ l.index = byteLength before ∧ IsName n rest := by
  have spells : Spells 0 pattern ls := spells_scanFrom scanned
  obtain ⟨joined, stand⟩ := spells.parts
  refine ⟨?_, spells.ordered, fun l member => ?_, joined, fun before part after split => ?_,
    fun l member n named => ?_⟩
  · obtain ⟨inner, rfl, others⟩ := spells.finished
    exact ⟨inner, _, rfl, others, rfl, rfl, Nat.zero_add _⟩
  · obtain ⟨before, after, inside⟩ := spells.standsIn l member
    exact ⟨before, after, inside.text, inside.index.trans (Nat.zero_add _)⟩
  · rw [split] at stand
    exact stand.index_eq.trans (Nat.zero_add _)
  · obtain ⟨before, after, inside⟩ := spells.standsIn l member
    obtain ⟨sign, rest, rfl, isName⟩ := inside.name n named
    exact ⟨before, sign, rest, inside.text, inside.index.trans (Nat.zero_add _), isName⟩

theorem written_scan_starred : ∃ ls, scan "/ü:id(\\d+)?*rest".toList = .ok ls ∧
    ls.map (·.index) = [0, 1, 3, 6, 11, 12, 12, 17] ∧
    Part.join (parts ls) = "/ü:id(\\d+)?*rest".toList ∧
    ∀ before part after, parts ls = before ++ part :: after →
      part.index = byteLength (Part.join before) := by
  have evaluated : (scan "/ü:id(\\d+)?*rest".toList).toOption.map (·.map (·.index)) =
      some [0, 1, 3, 6, 11, 12, 12, 17] := by decide +kernel
  obtain ⟨ls, found, indices⟩ := Option.map_eq_some_iff.1 evaluated
  have scanned := eq_ok_of_toOption found
  obtain ⟨-, -, -, joined, stand, -⟩ := written_scan scanned
  exact ⟨ls, scanned, indices, joined, stand⟩

end RoutePattern.Lexeme
