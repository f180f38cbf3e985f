import ExportWatch.Decimal.Literal

/-! JSON values. Whole numbers that a 64-bit word holds stay whole; every other
number is a double. Members of an object keep their order. -/

namespace ExportWatch.Json

inductive Number where
  | whole (value : Int)
  | real (value : Float)
  deriving DecidableEq, Repr

def Number.toFloat : Number → Float
  | .whole value => Decimal.nearestFloat (value < 0) value.natAbs 1
  | .real value => value

inductive Value where
  | null
  | bool (value : Bool)
  | number (value : Number)
  | string (text : String)
  | array (items : List Value)
  | object (members : List (String × Value))
  deriving BEq, Repr, Inhabited

namespace Value

def real (value : Float) : Value :=
  .number (.real value)

def natural (value : Nat) : Value :=
  .number (.whole value)

def optional {α : Type} (encode : α → Value) : Option α → Value
  | some value => encode value
  | none => .null

/-! Looking into values. A member of an object is found by its name; other
values have no members. -/

def member? (name : String) : Value → Option Value
  | object members => members.lookup name
  | _ => none

def string? : Value → Option String
  | string text => some text
  | _ => none

def items? : Value → Option (List Value)
  | array items => some items
  | _ => none

def members? : Value → Option (List (String × Value))
  | object members => some members
  | _ => none

def float? : Value → Option Float
  | number value => some value.toFloat
  | _ => none

end Value

/-! Members sorted by name, in the order of code points. A later member takes
the place of an earlier one of the same name. -/

def insertMember (name : String) (value : Value) :
    List (String × Value) → List (String × Value)
  | [] => [(name, value)]
  | (head, held) :: tail =>
      if name = head then (name, value) :: tail
      else if name < head then (name, value) :: (head, held) :: tail
      else (head, held) :: insertMember name value tail

def sortMembers (members : List (String × Value)) : List (String × Value) :=
  members.foldl (fun sorted (name, value) => insertMember name value sorted) []

end ExportWatch.Json
