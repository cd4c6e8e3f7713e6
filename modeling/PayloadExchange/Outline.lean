import PayloadExchange.Json.Printer
import PayloadExchange.Text.Characters

/-! # Outlines

A rendering of nested data for people, on one line or indented over several. An outline
is a tree of one-line texts and of groups, whose items may be labelled.
-/

namespace PayloadExchange

inductive Outline where
  /-- A text that stays on one line. -/
  | leaf (text : List Char)
  /-- Items between an opening and a closing. On one line, a padded group has a space inside
      each of the two. -/
  | group (opening : List Char) (padded : Bool) (items : List (List Char × Outline))
      (closing : List Char)

namespace Outline

def indent (level : Nat) : List Char := List.replicate (4 * level) ' '

mutual

def flat : Outline → List Char
  | leaf text => text
  | group opening _ [] closing => opening ++ closing
  | group opening padded (item :: rest) closing =>
      let padding := if padded then [' '] else []
      opening ++ padding ++ item.1 ++ flat item.2 ++ flatItems rest ++ padding ++ closing

/-- The remaining items on one line, each after a comma. -/
def flatItems : List (List Char × Outline) → List Char
  | [] => []
  | item :: rest => [',', ' '] ++ item.1 ++ flat item.2 ++ flatItems rest

end

mutual

/-- The outline over several lines, the first of which is already indented to a level. -/
def pretty (level : Nat) : Outline → List Char
  | leaf text => text
  | group opening _ [] closing => opening ++ closing
  | group opening _ (item :: rest) closing =>
      opening ++ ['\n'] ++ prettyItems (level + 1) (item :: rest) ++ indent level ++ closing

/-- The items on lines of their own, each with a comma behind it. -/
def prettyItems (level : Nat) : List (List Char × Outline) → List Char
  | [] => []
  | item :: rest =>
      indent level ++ item.1 ++ pretty level item.2 ++ [',', '\n'] ++ prettyItems level rest

end

/-- Items without labels between brackets. -/
def list (name : List Char) (items : List Outline) : Outline :=
  .group (name ++ ['[']) false (items.map fun item => ([], item)) [']']

/-- Items under keys between braces. -/
def keyed (name : List Char) (items : List (String × Outline)) : Outline :=
  .group (name ++ ['{']) false
    (items.map fun item => (Text.quoted item.1 ++ [':', ' '], item.2)) ['}']

/-- Named fields between braces. -/
def fields (name : String) (items : List (String × Outline)) : Outline :=
  .group (name.toList ++ [' ', '{']) true
    (items.map fun item => (item.1.toList ++ [':', ' '], item.2)) ['}']

/-- One item between parentheses. -/
def wrapped (name : String) (item : Outline) : Outline :=
  .group (name.toList ++ ['(']) false [([], item)] [')']

/-- A text between parentheses, on one line. -/
def tagged (name : String) (text : List Char) : Outline :=
  .leaf (name.toList ++ '(' :: text ++ [')'])

def ofBytes (bytes : Bytes) : Outline :=
  .list [] (bytes.map fun byte => .leaf (Json.decimalDigits byte.toNat))

mutual

def ofValue : Json.Value → Outline
  | .null => .leaf "Null".toList
  | .bool true => tagged "Bool" "true".toList
  | .bool false => tagged "Bool" "false".toList
  | .number number => tagged "Number" number.print
  | .string text => tagged "String" (Text.quoted text)
  | .array elements => .list "Array ".toList (ofElements elements)
  | .object members => .keyed "Object ".toList (ofMembers members)

def ofElements : List Json.Value → List Outline
  | [] => []
  | value :: rest => ofValue value :: ofElements rest

def ofMembers : List (String × Json.Value) → List (String × Outline)
  | [] => []
  | member :: rest => (member.1, ofValue member.2) :: ofMembers rest

end

end Outline

end PayloadExchange
