import RoutePattern.Proofs.Text.Decimal
import RoutePattern.Expr.Reader

/-! # Inert characters

Brackets, the backslash and the number sign can start something new in an expression. No other
character can, and behind its first two characters an escape holds others only
(`takes_of_readEscape`, `takes_of_readBracketEscape`): digits, names, and the names of properties.
-/

namespace RoutePattern.Expr.Reader

open Unicode (Property Script)
open CharSet (Bracket.Symbol)

/-- The characters that start or end a group, a set, an escape or a comment. -/
def special : List Char := ['\\', '(', '[', ']', '#']

def isInert (c : Char) : Bool := !special.contains c

theorem isInert_of {p : Char → Bool} (none : special.any p = false) {c : Char} (held : p c = true) :
    isInert c = true := by
  rw [isInert, Bool.not_eq_true']
  by_contra listed
  rw [Bool.not_eq_false, List.contains_iff_mem] at listed
  exact List.any_eq_false.1 none c listed held

theorem isInert_of_isDigit {c : Char} : Text.Decimal.isDigit c = true → isInert c = true :=
  isInert_of rfl

theorem isInert_of_isHexDigit {c : Char} : isHexDigit c = true → isInert c = true :=
  isInert_of rfl

theorem isInert_of_isNameChar {c : Char} : isNameChar c = true → isInert c = true :=
  isInert_of rfl

/-- Inert characters lead from a text to a rest of it. -/
def Takes (t rest : Text) : Prop := ∃ s, s.all isInert = true ∧ t = s ++ rest

variable {t u rest : Text} {c : Char}

theorem Takes.refl (t : Text) : Takes t t := ⟨[], rfl, rfl⟩

theorem Takes.trans (first : Takes t u) (second : Takes u rest) : Takes t rest := by
  obtain ⟨s, inert, rfl⟩ := first
  obtain ⟨s', inert', rfl⟩ := second
  exact ⟨s ++ s', by rw [List.all_append, inert, inert']; rfl, (List.append_assoc _ _ _).symm⟩

theorem Takes.cons (inert : isInert c = true) (more : Takes t rest) : Takes (c :: t) rest :=
  Takes.trans ⟨[c], by rw [List.all_cons, inert]; rfl, rfl⟩ more

theorem takes_drop {n : Nat} (inert : (t.take n).all isInert = true) : Takes t (t.drop n) :=
  ⟨t.take n, inert, (List.take_append_drop n t).symm⟩

theorem takes_dropWhile {p : Char → Bool} (inert : ∀ c, p c = true → isInert c = true) (t : Text) :
    Takes t (t.dropWhile p) :=
  ⟨t.takeWhile p,
    List.all_eq_true.2 fun c member => inert c (List.all_eq_true.1 List.all_takeWhile c member),
    List.takeWhile_append_dropWhile.symm⟩

/-! ## Property names -/

theorem mem_loosen {name : Text} (member : c ∈ name) (active : isInert c = false) :
    c ∈ Property.loosen name := by
  have listed : c ∈ special := by simpa [isInert] using active
  have kept : ∀ c ∈ special, (c.toNat ≤ 0x7F && c != ' ' && c != '_' && c != '-') = true ∧
      c.toLower = c ∧ c.toLower ∉ ['i', 's'] ∧ c ≠ 'c' := by simp [special]
  obtain ⟨counts, lower, notMark, notC⟩ := kept c listed
  -- What does not count in front is only an `is`.
  have behindMark : c ∈ if (name.take 2).map Char.toLower == ['i', 's'] then name.drop 2 else name := by
    split
    · rename_i marked
      rw [← List.take_append_drop 2 name, List.mem_append] at member
      refine member.resolve_left fun front => notMark ?_
      rw [← beq_iff_eq.1 marked]
      exact List.mem_map_of_mem front
    · exact member
  unfold Property.loosen
  dsimp only
  generalize (if (name.take 2).map Char.toLower == ['i', 's'] then name.drop 2 else name) = rest
    at behindMark ⊢
  have loose : c ∈ (rest.filter fun c => c.toNat ≤ 0x7F && c != ' ' && c != '_' && c != '-').map
      Char.toLower :=
    List.mem_map.2 ⟨c, List.mem_filter.2 ⟨behindMark, counts⟩, lower⟩
  split
  · rename_i lone
    rw [beq_iff_eq.1 (Bool.and_eq_true_iff.1 lone).2, List.mem_singleton] at loose
    exact absurd loose notC
  · exact loose

/-- Loose matching ignores inert characters only. -/
theorem isInert_of_loosen {name : Text} (inert : (Property.loosen name).all isInert = true) :
    name.all isInert = true := by
  refine List.all_eq_true.2 fun c member => ?_
  by_contra active
  rw [Bool.not_eq_true] at active
  exact Bool.false_ne_true (active.symm.trans (List.all_eq_true.1 inert c (mem_loosen member active)))

/-- A name of inert characters. It is told by its bytes, as those are what a string is made of. -/
def isInertName (s : String) : Bool :=
  s.toByteArray.data.toList.all fun b => special.all fun c => b != UInt8.ofNat c.toNat

theorem inert_of_isInertName (inert : isInertName (String.ofList t) = true) :
    t.all isInert = true := by
  have encoded : (String.ofList t).toByteArray.data.toList = t.flatMap String.utf8EncodeChar := by
    simp [List.utf8Encode]
  rw [isInertName, encoded, List.all_eq_true] at inert
  refine List.all_eq_true.2 fun c member => ?_
  by_contra active
  have listed : c ∈ special := by simpa [isInert] using active
  have ascii : ∀ c ∈ special, String.utf8EncodeChar c = [UInt8.ofNat c.toNat] := by
    simp [special, String.utf8EncodeChar]
  have byte : UInt8.ofNat c.toNat ∈ t.flatMap String.utf8EncodeChar :=
    List.mem_flatMap.2 ⟨c, member, by rw [ascii c listed]; exact List.mem_singleton_self _⟩
  simpa using List.all_eq_true.1 (inert _ byte) c listed

theorem inert_ofCategoryName? {p : Property} (named : Property.ofCategoryName? t = some p) :
    t.all isInert = true := by
  refine inert_of_isInertName ?_
  unfold Property.ofCategoryName? at named
  split at named
  case h_4 =>
    have table : (Property.categoryNames.all fun entry => isInertName entry.1) = true := by
      decide +kernel
    obtain ⟨categories, found, -⟩ := Option.map_eq_some_iff.1 named
    obtain ⟨before, behind, same, -⟩ := List.lookup_eq_some_iff.1 found
    have listed : (String.ofList t, categories) ∈ Property.categoryNames := by simp [same]
    exact List.all_eq_true.1 table _ listed
  all_goals
    rename_i same
    rw [same]
    rfl

theorem inert_ofScriptName? {p : Property} (named : Property.ofScriptName? t = some p) :
    t.all isInert = true := by
  have table : (Script.all.all fun s => s.names.all isInertName) = true := by decide +kernel
  obtain ⟨s, found, -⟩ := Option.map_eq_some_iff.1 named
  have member := List.all_eq_true.1 table s (List.mem_of_find?_eq_some found)
  have named : s.names.contains (String.ofList t) = true :=
    List.find?_some (p := fun s : Script => s.names.contains (String.ofList t)) found
  exact inert_of_isInertName (List.all_eq_true.1 member _ (List.contains_iff_mem.1 named))

theorem inert_ofName? {p : Property} (named : Property.ofName? t = some p) : t.all isInert = true := by
  refine isInert_of_loosen ?_
  unfold Property.ofName? at named
  dsimp only at named
  split at named
  -- The tenth case is that of all other names.
  case h_10 =>
    rcases (Option.orElse_eq_some _ _ _).1 named with category | ⟨-, script⟩
    · exact inert_ofCategoryName? category
    · exact inert_ofScriptName? script
  all_goals
    rename_i same
    refine inert_of_isInertName ?_
    rw [same]
    rfl

/-- A property and its value, divided by an inert character. -/
theorem inert_ofKey? {key value : Text} {p : Property}
    (named : (match String.ofList (Property.loosen key) with
      | "generalcategory" | "gc" => Property.ofCategoryName? (Property.loosen value)
      | "script" | "sc" => Property.ofScriptName? (Property.loosen value)
      | _ => none) = some p) : key.all isInert = true ∧ value.all isInert = true := by
  split at named
  case h_5 => cases named
  all_goals
    rename_i same
    refine ⟨isInert_of_loosen ?_, isInert_of_loosen ?_⟩
    · refine inert_of_isInertName ?_
      rw [same]
      rfl
    · first
      | exact inert_ofCategoryName? named
      | exact inert_ofScriptName? named

theorem inert_split {d : Char} (divides : isInert d = true) {name : Text}
    (before : (name.takeWhile (!(· == d) ·)).all isInert = true)
    (behind : ((name.dropWhile (!(· == d) ·)).drop 1).all isInert = true) :
    name.all isInert = true := by
  rw [← List.takeWhile_append_dropWhile (p := (!(· == d) ·)) (l := name), List.all_append, before,
    Bool.true_and]
  cases split : name.dropWhile (!(· == d) ·) with
  | nil => rfl
  | cons c rest =>
    have stops := List.head?_dropWhile_not (!(· == d) ·) name
    rw [split] at stops behind
    obtain rfl : c = d := by simpa using stops
    rw [List.all_cons, divides]
    exact behind

theorem inert_readPropertyName {kind : Char} {relaxed : Bool} {name : Text} {s : CharSet}
    (read : readPropertyName kind relaxed name = some s) : name.all isInert = true := by
  unfold readPropertyName at read
  dsimp only at read
  split at read
  · rename_i marked
    obtain ⟨p, named, -⟩ := Option.map_eq_some_iff.1 read
    obtain ⟨key, value⟩ := inert_ofKey? named
    obtain ⟨front, last⟩ := List.getLast?_eq_some_iff.1 (beq_iff_eq.1 (Bool.and_eq_true_iff.1 marked).1)
    refine inert_split rfl ?_ value
    rw [last, List.dropLast_concat] at key
    rw [last, List.all_append, key]
    rfl
  · split at read
    · obtain ⟨p, named, -⟩ := Option.map_eq_some_iff.1 read
      obtain ⟨key, value⟩ := inert_ofKey? named
      exact inert_split rfl key value
    · split at read
      · obtain ⟨p, named, -⟩ := Option.map_eq_some_iff.1 read
        obtain ⟨key, value⟩ := inert_ofKey? named
        exact inert_split rfl key value
      · obtain ⟨p, named, -⟩ := Option.map_eq_some_iff.1 read
        exact inert_ofName? named

/-! ## Escapes -/

theorem exists_of_readName {close : Char} {name : Text} (read : readName close t = some (name, rest)) :
    t = name ++ close :: rest ∧ name.all isNameChar = true ∧ name ≠ [] := by
  unfold readName at read
  dsimp only at read
  split at read
  · rename_i c behind stops
    split at read
    · rename_i closes
      obtain ⟨same, some⟩ := Bool.and_eq_true_iff.1 closes
      obtain rfl := beq_iff_eq.1 same
      cases read
      refine ⟨?_, List.all_takeWhile, by simpa using some⟩
      rw [← stops, List.takeWhile_append_dropWhile]
    · cases read
  · cases read

theorem takes_of_readName {close : Char} {name : Text} (inert : isInert close = true)
    (read : readName close t = some (name, rest)) : Takes t rest := by
  obtain ⟨rfl, chars, -⟩ := exists_of_readName read
  refine Takes.trans ⟨name, ?_, rfl⟩ (.cons inert (.refl rest))
  exact List.all_eq_true.2 fun c member => isInert_of_isNameChar (List.all_eq_true.1 chars c member)

theorem takes_of_readHex {digits : Nat} {e : Escape} (read : readHex digits t = some (e, rest)) :
    Takes t rest := by
  unfold readHex at read
  dsimp only at read
  split at read
  · rename_i plain
    obtain ⟨c, -, same⟩ := Option.map_eq_some_iff.1 read
    cases same
    refine takes_drop (List.all_eq_true.2 fun c member => ?_)
    exact isInert_of_isHexDigit (List.all_eq_true.1 (Bool.and_eq_true_iff.1 plain).2 c member)
  · split at read
    · rename_i inner _
      split at read
      · rename_i behind stops
        split at read
        · cases read
        · obtain ⟨c, -, same⟩ := Option.map_eq_some_iff.1 read
          cases same
          have inside := takes_dropWhile (fun _ => isInert_of_isHexDigit) inner
          rw [stops] at inside
          exact .cons rfl (inside.trans (.cons rfl (.refl _)))
      · cases read
    · cases read

theorem takes_of_readProperty {kind : Char} {relaxed : Bool} {e : Escape}
    (read : readProperty kind relaxed t = some (e, rest)) : Takes t rest := by
  unfold readProperty at read
  split at read
  · rename_i inner
    split at read
    · rename_i behind stops
      obtain ⟨s, named, same⟩ := Option.map_eq_some_iff.1 read
      cases same
      have inside : Takes inner ('}' :: rest) :=
        ⟨_, inert_readPropertyName named, by rw [← stops, List.takeWhile_append_dropWhile]⟩
      exact .cons rfl (inside.trans (.cons rfl (.refl _)))
    · cases read
  · obtain ⟨s, named, same⟩ := Option.map_eq_some_iff.1 read
    cases same
    have inert := inert_readPropertyName named
    rw [List.all_cons, List.all_nil, Bool.and_true] at inert
    exact .cons inert (.refl _)
  · cases read

theorem takes_of_readCommonEscape {relaxed : Bool} {e : Escape}
    (read : readCommonEscape relaxed c t = some (e, rest)) : Takes t rest := by
  unfold readCommonEscape at read
  split at read
  case h_9 | h_10 | h_11 => exact takes_of_readHex read
  case h_12 | h_13 => exact takes_of_readProperty read
  case h_14 =>
    split at read
    · cases read
      exact .refl t
    · split at read
      · cases read
      · cases read
        exact .refl t
  all_goals
    cases read
    exact .refl t

theorem takes_of_reference {ctx : Context} {close : Char} {e : Escape} (inert : isInert close = true)
    (read : ((readName close t).bind fun (name, rest) =>
      (referenceOf? ctx name).map fun n => (Escape.name n, rest)) = some (e, rest)) :
    Takes t rest := by
  obtain ⟨⟨name, behind⟩, named, referred⟩ := Option.bind_eq_some_iff.1 read
  obtain ⟨n, -, same⟩ := Option.map_eq_some_iff.1 referred
  cases same
  exact takes_of_readName inert named

/-- Behind its first character an escape takes inert characters only. -/
theorem takes_of_readEscape {ctx : Context} {e : Escape}
    (read : readEscape ctx (c :: t) = some (e, rest)) : Takes t rest := by
  unfold readEscape at read
  dsimp only at read
  split at read
  · rename_i digit
    split at read
    · split at read
      · cases read
        rw [List.takeWhile_cons_of_pos digit, List.length_cons, List.drop_succ_cons]
        refine takes_drop (List.all_eq_true.2 fun c member => isInert_of_isDigit ?_)
        rw [← List.prefix_iff_eq_take.1 (List.takeWhile_prefix _)] at member
        exact List.all_eq_true.1 List.all_takeWhile c member
      · cases read
    · cases read
  · split at read
    · exact .cons rfl (takes_of_reference rfl read)
    · exact .cons rfl (takes_of_reference rfl read)
    · cases read
    · cases read
    · cases read
      exact .refl _
    · exact takes_of_readCommonEscape read

theorem takes_of_readBracketEscape {ctx : Context} {symbol : Bracket.Symbol}
    (read : readBracketEscape ctx (c :: t) = some (symbol, rest)) : Takes t rest := by
  unfold readBracketEscape at read
  dsimp only at read
  split at read
  · cases read
  · split at read
    · cases read
      exact .refl t
    · split at read
      · rename_i common
        cases read
        exact takes_of_readCommonEscape common
      · rename_i common
        cases read
        exact takes_of_readCommonEscape common
      · cases read

end RoutePattern.Expr.Reader
