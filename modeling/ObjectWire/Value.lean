import ObjectWire.Number.Binary
/-!
# Values

The values the serializer reads and writes, in one dynamic form: a value is meaningful
together with the type it is read at. Integers are kept as exact numbers (unsigned as `Nat`,
signed as `Int`), floats by bit pattern, sequences as lists, maps as lists of entries, enum
values by variant name and objects as their stored fields in declaration order. A box is
transparent: it holds the value it points to.
-/

namespace ObjectWire

/-- A dynamic value. -/
inductive Value where
  | bool (b : Bool)
  /-- An unsigned integer. -/
  | nat (n : Nat)
  /-- A signed integer. -/
  | int (i : Int)
  | f32 (x : Binary32)
  | f64 (x : Binary64)
  | char (c : Char)
  | str (s : String)
  /-- A sequence: a vector or a deque. -/
  | list (items : List Value)
  /-- An empty option. -/
  | absent
  /-- A full option. -/
  | present (v : Value)
  | pair (fst snd : Value)
  /-- A map, by its entries. -/
  | map (entries : List (Value × Value))
  /-- An enum value, by variant name. -/
  | variant (name : String)
  /-- An object, by its stored fields in declaration order. -/
  | object (fields : List (String × Value))
  /-- The value of the placeholder type of ignored members. -/
  | unit
  deriving Inhabited, Repr, BEq

namespace Value

/-- The value of a stored field of an object. -/
def field? (v : Value) (name : String) : Option Value :=
  match v with
  | .object fields => (fields.find? (·.1 == name)).map (·.2)
  | _ => none

/-- The object with one stored field replaced. -/
def setField (v : Value) (name : String) (x : Value) : Value :=
  match v with
  | .object fields => .object (fields.map fun (k, old) => if k == name then (k, x) else (k, old))
  | other => other

/-- The value as an unsigned integer (zero for anything else). -/
def toNat : Value → Nat
  | .nat n => n
  | _ => 0

/-- The value as a signed integer (zero for anything else). -/
def toInt : Value → Int
  | .int i => i
  | .nat n => n
  | _ => 0

/-- The value as a string (empty for anything else). -/
def toStr : Value → String
  | .str s => s
  | _ => ""

end Value
end ObjectWire

namespace ObjectWire
namespace Value

mutual

/-- The nesting depth of a value: one more than its deepest part. -/
def depth : Value → Nat
  | .list items => 1 + depthList items
  | .present v => 1 + v.depth
  | .pair a b => 1 + max a.depth b.depth
  | .map entries => 1 + depthEntries entries
  | .object fields => 1 + depthFields fields
  | _ => 1

/-- The greatest depth in a list of values. -/
def depthList : List Value → Nat
  | [] => 0
  | v :: rest => max v.depth (depthList rest)

/-- The greatest depth of the keys and values of map entries. -/
def depthEntries : List (Value × Value) → Nat
  | [] => 0
  | (k, v) :: rest => max (max k.depth v.depth) (depthEntries rest)

/-- The greatest depth of the values of object fields. -/
def depthFields : List (String × Value) → Nat
  | [] => 0
  | (_, v) :: rest => max v.depth (depthFields rest)

end

end Value
end ObjectWire
