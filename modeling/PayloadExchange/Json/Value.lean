import PayloadExchange.Text.Utf8
import Std.Data.TreeMap

/-! # JSON values

Numbers are integers or floats, and the two never compare equal. The members of an
object are kept in ascending order of their keys, taken as UTF-8 bytes.
-/

namespace PayloadExchange.Json

inductive Number where
  /-- A number that is kept exactly. -/
  | integer (value : Int)
  /-- A number that is kept as the nearest float found for it. -/
  | float (value : Float)
  deriving DecidableEq

inductive Value where
  | null
  | bool (value : Bool)
  | number (value : Number)
  | string (value : String)
  | array (elements : List Value)
  /-- Values under keys. -/
  | object (members : List (String × Value))

/-- Numbers of one form are compared as numbers, so the two zero floats are the same. -/
def Number.same : Number → Number → Bool
  | integer a, integer b => a == b
  | float a, float b => a == b
  | _, _ => false

namespace Value

def isObject : Value → Bool
  | object _ => true
  | _ => false

mutual

def same : Value → Value → Bool
  | null, null => true
  | bool a, bool b => a == b
  | number a, number b => a.same b
  | string a, string b => a == b
  | array a, array b => sameElements a b
  | object a, object b => sameMembers a b
  | _, _ => false

def sameElements : List Value → List Value → Bool
  | [], [] => true
  | a :: as, b :: bs => same a b && sameElements as bs
  | _, _ => false

def sameMembers : List (String × Value) → List (String × Value) → Bool
  | [], [] => true
  | a :: as, b :: bs => a.1 == b.1 && same a.2 b.2 && sameMembers as bs
  | _, _ => false

end

mutual

/-- No float occurs in the value. -/
def isExact : Value → Bool
  | number (.float _) => false
  | array elements => areExact elements
  | object members => haveExact members
  | _ => true

def areExact : List Value → Bool
  | [] => true
  | value :: rest => isExact value && areExact rest

def haveExact : List (String × Value) → Bool
  | [] => true
  | member :: rest => isExact member.2 && haveExact rest

end

/-- What passes from the values inside to a value holds of every value. -/
@[induction_eliminator]
theorem induction {motive : Value → Prop} (null : motive .null)
    (bool : ∀ value, motive (.bool value)) (number : ∀ value, motive (.number value))
    (string : ∀ text, motive (.string text))
    (array : ∀ elements, (∀ value ∈ elements, motive value) → motive (.array elements))
    (object : ∀ members, (∀ member ∈ members, motive member.2) → motive (.object members)) :
    ∀ value, motive value
  | .null => null
  | .bool value => bool value
  | .number value => number value
  | .string text => string text
  | .array elements =>
      array elements fun value _inside => induction null bool number string array object value
  | .object members =>
      object members fun member _inside =>
        induction null bool number string array object member.2
termination_by value => sizeOf value
decreasing_by
  · have := List.sizeOf_lt_of_mem _inside
    simp only [Value.array.sizeOf_spec]
    omega
  · have := List.sizeOf_lt_of_mem _inside
    obtain ⟨key, value⟩ := member
    simp only [Value.object.sizeOf_spec, Prod.mk.sizeOf_spec] at *
    omega

end Value

/-- The order of keys: that of their UTF-8 bytes. -/
def keyOrder (a b : String) : Ordering := compare (Text.utf8 a) (Text.utf8 b)

instance : Std.TransCmp keyOrder :=
  inferInstanceAs (Std.TransCmp (compareOn Text.utf8))

instance : Std.LawfulEqCmp keyOrder where
  compare_self := by simp [keyOrder]
  eq_of_compare h := Text.utf8_inj (Std.LawfulEqCmp.eq_of_compare h)

/-- The members in the order of their keys. Of members with one key the last is kept. -/
def collect (members : List (String × Value)) : List (String × Value) :=
  (members.foldl (fun tree member => tree.insert member.1 member.2)
    (∅ : Std.TreeMap String Value keyOrder)).toList

theorem collect_ascending (members : List (String × Value)) :
    (collect members).Pairwise fun a b => keyOrder a.1 b.1 = .lt :=
  Std.TreeMap.ordered_keys_toList

end PayloadExchange.Json
