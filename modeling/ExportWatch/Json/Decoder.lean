import ExportWatch.Json.Node

/-! Decoding nodes. The fault of a decoded text is the leftmost one: a fault of
the text itself, or the point where the text stops having the wanted shape. -/

namespace ExportWatch.Json

abbrev Decoder (α : Type) : Type :=
  Node → Except Fault α

/-! A duplicate, missing or unknown part is a mismatch. A container where none
was wanted is a mismatch at its first character; a number or a quoted text is
read first. -/

def Node.fault : Node → Fault
  | .number (.error fault) => fault
  | .text (.error fault) => fault
  | .word fault => fault
  | .broken fault => fault
  | .tooDeep _ => .malformed
  | _ => .mismatch

def Node.unwanted : Node → Fault
  | .tooDeep _ => .mismatch
  | node => node.fault

def endWith : Option Fault → Except Fault Unit
  | none => .ok ()
  | some fault => .error fault

/-! Skipping takes no notice of what numbers and quoted texts denote, or of how
deep containers are nested. -/

mutual

def Node.skip : Node → Except Fault Unit
  | .array items ending => do
      skipItems items
      endWith ending
  | .object members ending => do
      skipMembers members
      endWith ending
  | .tooDeep inner => inner.skip
  | .word fault => .error fault
  | .broken fault => .error fault
  | _ => .ok ()

def skipItems : List Node → Except Fault Unit
  | [] => .ok ()
  | head :: tail => do
      head.skip
      skipItems tail

def skipMembers : List (Key × Node) → Except Fault Unit
  | [] => .ok ()
  | (_, head) :: tail => do
      head.skip
      skipMembers tail

end

/-! Any value at all. Members are sorted by name and the last of a name stays. -/

mutual

def Node.toValue : Node → Except Fault Value
  | .null => .ok .null
  | .bool value => .ok (.bool value)
  | .number value => value.map .number
  | .text content => content.map fun text => .string (String.ofList text)
  | .array items ending => do
      let values ← itemValues items
      endWith ending
      return .array values
  | .object members ending => do
      let values ← memberValues members
      endWith ending
      return .object (sortMembers values)
  | .tooDeep _ => .error .malformed
  | .word fault => .error fault
  | .broken fault => .error fault

def itemValues : List Node → Except Fault (List Value)
  | [] => .ok []
  | head :: tail => do
      let value ← head.toValue
      let values ← itemValues tail
      return value :: values

def memberValues : List (Key × Node) → Except Fault (List (String × Value))
  | [] => .ok []
  | (key, head) :: tail => do
      let name ← key
      let value ← head.toValue
      let values ← memberValues tail
      return (String.ofList name, value) :: values

end

def decodeValue : Decoder Value :=
  Node.toValue

def decodeText : Decoder String
  | .text content => content.map String.ofList
  | node => .error node.unwanted

def decodeBool : Decoder Bool
  | .bool value => .ok value
  | node => .error node.unwanted

def decodeFloat : Decoder Float
  | .number value => value.map Number.toFloat
  | node => .error node.unwanted

def decodeOptional {α : Type} (decode : Decoder α) : Decoder (Option α)
  | .null => .ok none
  | node => (decode node).map some

def decodeItems {α : Type} (decode : Decoder α) : List Node → Except Fault (List α)
  | [] => .ok []
  | head :: tail => do
      let value ← decode head
      let values ← decodeItems decode tail
      return value :: values

def decodeList {α : Type} (decode : Decoder α) : Decoder (List α)
  | .array items ending => do
      let values ← decodeItems decode items
      endWith ending
      return values
  | .object _ _ => .error .mismatch
  | .tooDeep (.array _ _) => .error .malformed
  | node => .error node.unwanted

/-! Records. A record is an object with the fields in any order, or an array of
the fields in their order. Its fields are first checked as they come in the
text, so that the leftmost fault is found; the record is then built from the
checked fields. A field that is not required has a value when it is absent. -/

structure FieldRule where
  name : String
  required : Bool
  check : Node → Except Fault Unit

def FieldRule.of {α : Type} (name : String) (required : Bool) (decode : Decoder α) : FieldRule where
  name := name
  required := required
  check := fun node => (decode node).map fun _ => ()

abbrev Fields : Type :=
  List (String × Node)

def checkMembers (rules : List FieldRule) (seen : Fields) :
    List (Key × Node) → Except Fault Fields
  | [] => .ok seen
  | (key, node) :: tail => do
      let name := String.ofList (← key)
      match rules.find? (·.name = name) with
      | none =>
          node.skip
          checkMembers rules seen tail
      | some rule =>
          if (seen.lookup name).isSome then .error .mismatch
          else
            rule.check node
            checkMembers rules ((name, node) :: seen) tail

def checkItems (rules : List FieldRule) (items : List Node) (ending : Option Fault) :
    Except Fault Fields :=
  match rules, items with
  | [], [] => (endWith ending).map fun _ => []
  | [], _ :: _ => .error .malformed
  | rule :: others, [] => do
      endWith ending
      if rule.required then .error .mismatch
      else checkItems others [] ending
  | rule :: others, head :: tail => do
      rule.check head
      let fields ← checkItems others tail ending
      return (rule.name, head) :: fields

def requireAll (rules : List FieldRule) (fields : Fields) : Except Fault Fields :=
  if rules.all fun rule => !rule.required || (fields.lookup rule.name).isSome then .ok fields
  else .error .mismatch

def Node.fields (rules : List FieldRule) : Node → Except Fault Fields
  | .object members ending => do
      let fields ← checkMembers rules [] members
      endWith ending
      requireAll rules fields
  | .array items ending => checkItems rules items ending
  | .tooDeep _ => .error .malformed
  | node => .error node.unwanted

namespace Fields

def required {α : Type} (fields : Fields) (name : String) (decode : Decoder α) :
    Except Fault α :=
  match fields.lookup name with
  | some node => decode node
  | none => .error .mismatch

def optional {α : Type} (fields : Fields) (name : String) (decode : Decoder α) (absent : α) :
    Except Fault α :=
  match fields.lookup name with
  | some node => decode node
  | none => .ok absent

end Fields

/-! Variants of a choice are written as their name, or as an object with the
name as its only member. A variant without contents has `null` there. Anything
that is neither a name nor an object is refused at its first character. -/

def decodeVariant {α : Type} (plain : String → Except Fault α)
    (holding : String → Node → Except Fault α) : Decoder α
  | .text content => do plain (String.ofList (← content))
  | .object members ending =>
      match members with
      | [] => .error (ending.getD .malformed)
      | (key, node) :: others => do
          let value ← holding (String.ofList (← key)) node
          match others with
          | [] =>
              endWith ending
              return value
          | _ => .error .malformed
  | .broken fault => .error fault
  | _ => .error .malformed

def decodeName {α : Type} (named : String → Option α) : Decoder α :=
  let known := fun name : String =>
    match named name with
    | some value => Except.ok value
    | none => Except.error Fault.mismatch
  decodeVariant known fun name node => do
    let value ← known name
    match node with
    | .null => return value
    | node => .error node.unwanted

/-- A document is decoded when its value is, and nothing follows it. -/
def decodeDocument {α : Type} (decode : Decoder α) (text : String) : Except Fault α := do
  let document := readDocument text.toList
  let value ← decode document.node
  if document.trailing then .error .malformed else return value

/-! A value as a node, so that values and texts are decoded alike. -/

mutual

def Value.toNode : Value → Node
  | .null => .null
  | .bool value => .bool value
  | .number value => .number (.ok value)
  | .string text => .text (.ok text.toList)
  | .array items => .array (itemNodes items) none
  | .object members => .object (memberNodes members) none

def itemNodes : List Value → List Node
  | [] => []
  | head :: tail => head.toNode :: itemNodes tail

def memberNodes : List (String × Value) → List (Key × Node)
  | [] => []
  | (name, head) :: tail => (.ok name.toList, head.toNode) :: memberNodes tail

end

end ExportWatch.Json
