import PayloadExchange.Proofs.Json.Document
import PayloadExchange.Proofs.Json.Literals
import PayloadExchange.Proofs.Json.Numerals

/-! # What is written is in the language

The compact text of a document derives that document, whatever stands behind. Nothing is
rearranged on the way: the members of an object are written as they are kept.
-/

namespace PayloadExchange.Json

theorem InOrder.collected {written kept : List (String × Value)} (inOrder : InOrder written kept) :
    Collected written kept := by
  obtain ⟨rfl, ascending⟩ := inOrder
  exact collected_self ascending

theorem stringText_print (text : String) (rest : List Char) :
    StringText (StringLiteral.print text ++ rest) text rest := by
  have literal := StringLiteral.stringText_of_scan (StringLiteral.scan_print text rest)
  simpa [StringLiteral.print] using literal

theorem wordForm_printInteger {value : Int} (word : (Number.integer value).IsWord) :
    WordForm (printInteger value) (.integer value) := by
  obtain ⟨low, high⟩ := word
  have whole := wholeDigits_decimalDigits value.natAbs
  have denoted : Nat.ofDigitChars 10 (decimalDigits value.natAbs) 0 = value.natAbs :=
    Nat.ofDigitChars_ten_toDigits
  unfold printInteger
  split
  · next negative =>
      have form := WordForm.negative whole (by omega) (by omega)
      rw [denoted, show -(value.natAbs : Int) = value by omega] at form
      exact form
  · next natural =>
      have form := WordForm.natural whole (by omega)
      rw [denoted, show (value.natAbs : Int) = value by omega] at form
      exact form

theorem wordText_print {number : Number} (word : number.IsWord) (rest : List Char) :
    WordText (number.print ++ rest) number rest := by
  cases number with
  | integer value => exact ⟨printInteger value, rfl, wordForm_printInteger word⟩
  | float value => exact word.elim

section

variable {item : Grammar Value} {rest : List Char}

theorem separated_printElements {first : Value} {others : List Value}
    (each : ∀ value ∈ first :: others, ∀ after, item (value.print ++ after) value after) :
    Separated (Spaced item) (first.print ++ (Value.printElements others ++ rest))
      (first :: others) (']' :: rest) := by
  induction others generalizing first with
  | nil => exact .single (.tight (each first List.mem_cons_self _))
  | cons second others ih =>
      rw [Value.printElements, List.cons_append, List.cons_append, List.append_assoc]
      refine .more (.tight (each first List.mem_cons_self _)) (ih ?_)
      exact fun value member => each value (List.mem_cons_of_mem first member)

theorem memberText_print {member : String × Value} {after : List Char}
    (value : item (member.2.print ++ after) member.2 after) :
    MemberText item (StringLiteral.print member.1 ++ ':' :: (member.2.print ++ after)) member
      after :=
  .pair .none (stringText_print member.1 _) .none (.tight value)

theorem separated_printMembers {first : String × Value} {others : List (String × Value)}
    (each : ∀ member ∈ first :: others, ∀ after,
      item (member.2.print ++ after) member.2 after) :
    Separated (MemberText item) (StringLiteral.print first.1 ++ ':' ::
      (first.2.print ++ (Value.printMembers others ++ rest))) (first :: others) ('}' :: rest) := by
  induction others generalizing first with
  | nil => exact .single (memberText_print (each first List.mem_cons_self _))
  | cons second others ih =>
      simp only [Value.printMembers, List.cons_append, List.append_assoc]
      refine .more (memberText_print (each first List.mem_cons_self _)) (ih ?_)
      exact fun member listed => each member (List.mem_cons_of_mem first listed)

theorem bracketed_print {elements : List Value}
    (each : ∀ value ∈ elements, ∀ after, item (value.print ++ after) value after) :
    Bracketed '[' ']' (Spaced item) ((Value.array elements).print ++ rest) elements rest := by
  cases elements with
  | nil => exact .empty .none
  | cons first others =>
      rw [Value.print, List.cons_append, List.cons_append, List.append_assoc]
      exact .items (separated_printElements each)

theorem braced_print {members : List (String × Value)}
    (each : ∀ member ∈ members, ∀ after, item (member.2.print ++ after) member.2 after) :
    Bracketed '{' '}' (MemberText item) ((Value.object members).print ++ rest) members rest := by
  cases members with
  | nil => exact .empty .none
  | cons first others =>
      simp only [Value.print, List.cons_append, List.append_assoc]
      exact .items (separated_printMembers each)

end

theorem valueText_print {room : Nat} {value : Value} (document : Document Number.IsWord room value)
    (rest : List Char) : ValueText WordText InOrder room (value.print ++ rest) value rest := by
  induction document generalizing rest with
  | null => exact .scalar .null
  | bool value => cases value <;> exact .scalar (by constructor)
  | number word => exact .scalar (.number (wordText_print word rest))
  | string text => exact .scalar (.string (stringText_print text rest))
  | array _ ih => exact .inr (.array (bracketed_print ih))
  | object ascending _ ih => exact .inr (.object (braced_print ih) ⟨rfl, ascending⟩)

/-- The text of a document is in the language, with the members in order, and denotes that
    document. -/
theorem documentText_text {value : Value} (document : Document Number.IsWord maxDepth value) :
    DocumentText WordText InOrder value.text value := by
  have text := valueText_print document []
  rw [List.append_nil] at text
  rw [DocumentText, Value.text, String.toList_ofList]
  exact .tight text

end PayloadExchange.Json
