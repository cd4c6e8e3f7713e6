import PayloadExchange.Fault
import PayloadExchange.Proofs.Text.Bytes

/-! # The wording of faults

A text handed to callers ends at its first zero byte, so the wording of a fault must have
none. It is made of fixed words, of numbers, and of what a fault quotes from its caller.
-/

namespace PayloadExchange

namespace Text

/-- No zero byte cuts the text short. -/
def Whole (text : String) : Prop := 0 ∉ utf8 text

instance (text : String) : Decidable (Whole text) := inferInstanceAs (Decidable (0 ∉ utf8 text))

theorem whole_ofList {chars : List Char} (absent : '\x00' ∉ chars) :
    Whole (String.ofList chars) := by
  rw [Whole, utf8_ofList, List.mem_flatMap]
  rintro ⟨c, member, zero⟩
  have same : 0 = c.toNat := toNat_of_mem_utf8EncodeChar zero (by decide)
  obtain rfl : c = '\x00' := Char.toNat_inj.1 same.symm
  exact absent member

theorem Whole.append {a b : String} (left : Whole a) (right : Whole b) : Whole (a ++ b) := by
  rw [Whole, utf8_append, List.mem_append]
  exact fun member => member.elim left right

theorem whole_nat (n : Nat) : Whole (toString n) := by
  rw [show toString n = String.ofList (Nat.toDigits 10 n) from Nat.repr_eq_ofList_toDigits]
  apply whole_ofList
  intro member
  exact absurd (Nat.isDigit_of_mem_toDigits (by decide) (by decide) member) (by decide)

theorem whole_int (n : Int) : Whole (toString n) := by
  cases n with
  | ofNat n => exact whole_nat n
  | negSucc n => exact .append (show Whole "-" by decide) (whole_nat (n + 1))

theorem whole_intercalate {separator : String} (between : Whole separator) {texts : List String}
    (each : ∀ text ∈ texts, Whole text) : Whole (separator.intercalate texts) := by
  induction texts with
  | nil => exact show Whole "" by decide
  | cons first others ih =>
      cases others with
      | nil => exact each first List.mem_cons_self
      | cons second others =>
          rw [String.intercalate_cons_cons]
          have following := ih fun text member => each text (List.mem_cons_of_mem first member)
          exact ((each first List.mem_cons_self).append between).append following

end Text

open Text

theorem Json.SyntaxError.message_whole (error : Json.SyntaxError) : Whole error.message := by
  have cause : Whole error.cause.message := by
    cases error.cause <;> decide
  have upToLine := (cause.append (show Whole " at line " by decide)).append
    (whole_nat error.position.line)
  exact (upToLine.append (show Whole " column " by decide)).append
    (whole_nat error.position.column)

namespace Fault

/-- What a fault repeats of its caller's own words. -/
def quoted : Fault → Option String
  | illegalIdentifier text => some text
  | aborted message => some message
  | _ => none

/-- The fault repeats nothing that holds a zero byte. -/
def Clean (fault : Fault) : Prop := ∀ text ∈ fault.quoted, Whole text

theorem detail_whole {fault : Fault} (clean : fault.Clean) : Whole fault.report.detail := by
  cases fault with
  | illegalIdentifier text =>
      have opened := (show Whole "\"" by decide).append (clean text rfl)
      exact opened.append (by decide)
  | deadHandle handle =>
      have named := (show Whole "handle " by decide).append (whole_nat handle.toNat)
      exact named.append (show Whole " is invalid" by decide)
  | registryFull limit =>
      have named := (show Whole "handle table is full (" by decide).append (whole_nat limit.toNat)
      exact named.append (show Whole " live handles)" by decide)
  | stillLive handles =>
      have counted := (whole_nat handles.length).append
        (show Whole " handle(s) still live: " by decide)
      apply counted.append
      apply whole_intercalate (show Whole ", " by decide)
      intro text member
      obtain ⟨handle, -, rfl⟩ := List.mem_map.1 member
      exact whole_nat handle.toNat
  | malformedJson error => exact error.message_whole
  | indexOutOfRange index count =>
      have named := (show Whole "index " by decide).append (whole_int index.toInt)
      have counted := (named.append (show Whole " is out of range for " by decide)).append
        (whole_nat count)
      exact counted.append (show Whole " argument(s)" by decide)
  | aborted message => exact clean message rfl
  | emptyIdentifier | notCommand | notObject | nothingToPop | nullString | nullBlock | notUtf8
  | zeroInArgument | zeroInText => exact show Whole _ by decide

/-- Callers read the whole wording of a clean fault. -/
theorem display_whole {fault : Fault} (clean : fault.Clean) : Whole fault.report.display := by
  have headings : ∀ kind ∈ ReportKind.all, Whole kind.heading := by decide
  exact (headings _ (ReportKind.mem_all _)).append (detail_whole clean)

end Fault

end PayloadExchange
