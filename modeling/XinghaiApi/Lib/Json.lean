import Mathlib.Algebra.Order.Field.Rat
import Mathlib.Tactic.Common

/-!
# JSON values

Decoded JSON. The members of an object stand in the order in which they are walked.
-/

inductive Json where
  | null
  | bool (b : Bool)
  | num (q : ℚ)
  | str (s : String)
  | arr (items : List Json)
  | obj (members : List (String × Json))

namespace Json

/-- The types that a JSON token can have. -/
inductive Kind where
  | null
  | false
  | number
  | string
  | true
  | json
deriving DecidableEq

def kind : Json → Kind
  | .null         => .null
  | .bool .false  => .false
  | .bool .true   => .true
  | .num _        => .number
  | .str _        => .string
  | .arr _        => .json
  | .obj _        => .json

def Kind.name : Kind → String
  | .null   => "Null"
  | .false  => "False"
  | .number => "Number"
  | .string => "String"
  | .true   => "True"
  | .json   => "JSON"

/-! ### Members -/

def string? : Json → Option String
  | .str s => some s
  | _      => none

def bool? : Json → Option Bool
  | .bool b => some b
  | _       => none

def members? : Json → Option (List (String × Json))
  | .obj members => some members
  | _            => none

def items? : Json → Option (List Json)
  | .arr items => some items
  | _          => none

def int? : Json → Option ℤ
  | .num q => if q.den = 1 then some q.num else none
  | _      => none

/-! ### Size -/

mutual

/-- The number of values and characters. -/
def size : Json → ℕ
  | .str s       => s.length + 1
  | .arr items   => itemsSize items + 1
  | .obj members => membersSize members + 1
  | _            => 1

def itemsSize : List Json → ℕ
  | []            => 0
  | item :: items => size item + itemsSize items

def membersSize : List (String × Json) → ℕ
  | []                     => 0
  | (key, value) :: members => key.length + size value + membersSize members

end

end Json
