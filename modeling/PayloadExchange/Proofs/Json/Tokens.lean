import PayloadExchange.Proofs.Json.Document
import PayloadExchange.Proofs.Json.Integer
import PayloadExchange.Proofs.Json.Quoting

/-! # The number tokens of a text

The numbers of a text can be told without reading it: they are what stands outside string
literals and starts with a minus sign or a digit. If all of them are literals of words, the
document holds words only.
-/

namespace PayloadExchange.Json

/-- The number tokens, each with everything a number may go on with. -/
def numberTokens (chars : List Char) : List (List Char) :=
  match chars with
  | [] => []
  | c :: rest =>
      if c = '"' then numberTokens (StringLiteral.afterQuote rest)
      else if c = '-' || c.isDigit then
        (c :: rest.takeWhile extendsNumber) :: numberTokens (rest.dropWhile extendsNumber)
      else numberTokens rest
termination_by chars.length
decreasing_by
  · exact Nat.lt_succ_of_le (StringLiteral.afterQuote_length rest)
  · exact Nat.lt_succ_of_le (List.dropWhile_sublist extendsNumber).length_le
  · exact Nat.lt_succ_self rest.length

/-- Every number token is the literal of a word. -/
def HoldsWords (chars : List Char) : Prop :=
  ∀ token ∈ numberTokens chars, isWordLiteral token = true

/-- Reading goes from token to token, so that it meets words only. -/
theorem carried_holdsWords : Carried HoldsWords Number.IsWord where
  skip := by
    intro c rest words plain token member
    simp only [opensToken, Bool.or_eq_false_iff, beq_eq_false_iff_ne] at plain
    obtain ⟨⟨quote, minus⟩, digit⟩ := plain
    apply words token
    rw [numberTokens]
    simpa [quote, minus, digit] using member
  literal := by
    intro chars rest text words scanned token member
    apply words token
    rw [numberTokens, if_pos rfl, StringLiteral.afterQuote_scan scanned]
    exact member
  number := by
    rintro chars rest number words ⟨c, tail, rfl, start⟩ scanned
    have quote : c ≠ '"' := by
      rintro rfl
      exact absurd start (by decide)
    have tokens : numberTokens (c :: tail) =
        (c :: tail.takeWhile extendsNumber) :: numberTokens (tail.dropWhile extendsNumber) := by
      rw [numberTokens, if_neg quote, if_pos (by simpa using start)]
    unfold HoldsWords at words
    rw [tokens] at words
    obtain ⟨word, rfl⟩ := scanNumber_wordLiteral (words _ List.mem_cons_self) scanned
    exact ⟨word, fun token member => words token (List.mem_cons_of_mem _ member)⟩

end PayloadExchange.Json
