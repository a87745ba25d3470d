import RoutePattern.Proofs.Pattern.RoundTrip
import RoutePattern.Proofs.Text.Percent

/-! # Round trips through URLs

A pattern of URL paths builds a path from any texts, and matches it with these texts
(`exists_forUrl_round_trip`): an encoded text holds no delimiter, not even in another case.
-/

namespace RoutePattern

open Text.Percent (alphabet)

/-- No delimiter is a character of an encoded text, or folds to one. -/
def Options.SparesEncoded (o : Options) : Prop :=
  ∀ c ∈ o.delimiter, c ∉ alphabet ∧ Unicode.fold c ∉ alphabet

instance (o : Options) : Decidable o.SparesEncoded :=
  List.decidableBAll (fun c => c ∉ alphabet ∧ Unicode.fold c ∉ alphabet) o.delimiter

theorem fold_mem_alphabet : ∀ c ∈ alphabet, Unicode.fold c ∈ alphabet := by
  have folded : (alphabet.all fun c => Unicode.fold c ∈ alphabet) = true := by decide +kernel
  intro c member
  exact of_decide_eq_true (List.all_eq_true.1 folded c member)

namespace Options.SparesEncoded

variable {o : Options}

theorem not_delimits (spares : o.SparesEncoded) {d : Char} (member : d ∈ alphabet) : ¬o.delimits d := by
  rintro ⟨c, delimiter, rfl | ⟨-, same⟩⟩
  · exact (spares d delimiter).1 member
  · exact (spares c delimiter).2 (same ▸ fold_mem_alphabet d member)

/-- An encoded text passes every check. -/
theorem encode_mem_values (spares : o.SparesEncoded) {t : Text} (nonempty : t ≠ []) :
    Text.Percent.encode t ∈ o.values :=
  Options.mem_values.2 ⟨Text.Percent.encode_ne_nil nonempty,
    fun _ member => spares.not_delimits (Text.Percent.mem_alphabet_of_mem_encode member)⟩

end Options.SparesEncoded

namespace Pattern

/-- From any texts for its first parameters a pattern of URL paths builds a path, and the match of this
path gives these texts. -/
theorem exists_forUrl_round_trip {o : Options} (whole : o.Whole) (spares : o.SparesEncoded)
    {text : Text} {p : Pattern} (plain : Lexeme.withoutFragments text = true)
    (compiled : forUrl o text = .ok p) (capturing : Token.Capturing p.tokens)
    (distinct : (p.keys.map (·.name)).Nodup) (apart : Token.Apart o p.tokens) {given : List Value}
    (supplies : Key.Supplies Key.Takes p.keys given)
    (nonempty : ∀ v ∈ given, ∀ t ∈ v.parts, t ≠ []) :
    ∃ path, p.build (.given p.keys given) = .ok path ∧
      p.match? path = some ⟨path, 0, .given p.keys given⟩ := by
  obtain ⟨ts, of, simple, named⟩ := forUrl_of plain compiled
  rw [of.tokens] at capturing apart
  rw [of.keys] at distinct supplies ⊢
  -- The delimiters and the case of letters are the same for matching and for building.
  let matching : Options := { o with encode := .identity, decode := .percent }
  let building : Options := { o with encode := .percent }
  have simpleMatching : Token.simple matching ts = true := simple
  have simpleBuilding : Token.simple building ts = true := simple
  have apartMatching : Token.Apart matching ts := ⟨apart.trail, apart.follows, apart.run⟩
  have suits : Key.Supplies (Key.Suits building .percent) (Token.keys ts) given :=
    supplies.imp fun k _ v member takes =>
      ⟨takes, fun t listed => spares.encode_mem_values (nonempty v member t listed)⟩
  have suitsMatching : Key.Supplies (Key.Suits matching .percent) (Token.keys ts) given := suits
  refine ⟨_, (of.build_given_iff simpleBuilding capturing named distinct apart.oneSided supplies).2
    ⟨suits.admitted, rfl⟩, ?_⟩
  have matched := of.match?_layout ⟨whole.anchoredStart, whole.anchoredEnd, whole.endsWith⟩ rfl
    simpleMatching capturing distinct apartMatching (suitsMatching.runs apart.oneSided) rfl
  have inverse : ∀ v ∈ given, ∀ t ∈ v.parts,
      Codec.percent.decode (Codec.percent.encode t) = t :=
    fun _ _ t _ => Text.Percent.decode_encode t
  rwa [suitsMatching.valuesOf apartMatching.marked inverse, ← Params.given_eq_ofValues supplies]
    at matched

theorem exists_forUrl_round_trip_rest : ∃ p, forUrl {} "/:a/:rest+".toList = .ok p ∧ ∃ path,
    p.build (.given p.keys [.single "50%/é".toList, .repeated ["x y".toList, "?".toList]]) = .ok path ∧
      p.match? path = some ⟨path, 0,
        .given p.keys [.single "50%/é".toList, .repeated ["x y".toList, "?".toList]]⟩ := by
  let segment := "[^/#?]+?".toList
  let a : Key := ⟨.named ['a'], ['/'], [], segment, none⟩
  let rest : Key := ⟨.named "rest".toList, ['/'], [], segment, some .oneOrMore⟩
  have evaluated : (forUrl {} "/:a/:rest+".toList).toOption.map (fun p => (p.tokens, p.keys)) =
      some ([.param a, .param rest], [a, rest]) := by decide +kernel
  obtain ⟨p, found, same⟩ := Option.map_eq_some_iff.1 evaluated
  obtain ⟨tokens, keys⟩ := Prod.mk.inj same
  have compiled := eq_ok_of_toOption found
  have apart : Token.Apart {} [.param a, .param rest] := by constructor <;> decide
  have supplies : Key.Supplies Key.Takes [a, rest]
      [.single "50%/é".toList, .repeated ["x y".toList, "?".toList]] :=
    .given rfl (.given ⟨rfl, by decide⟩ .nil)
  exact ⟨p, compiled, exists_forUrl_round_trip (by constructor <;> rfl) (by decide +kernel)
    (by decide +kernel) compiled (by rw [tokens]; decide) (by rw [keys]; decide) (tokens ▸ apart)
    (keys ▸ supplies) (by decide)⟩

end Pattern

end RoutePattern
