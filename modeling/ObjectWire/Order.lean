import ObjectWire.Schema
/-!
# The order of values

Map keys are kept in the order of their type: numbers by value, strings and characters by
code point (which is the order of their UTF-8 bytes), booleans false first, options empty
first, sequences and pairs lexicographically, enum values in declaration order, and objects
field by field in declaration order. A map holds at most one entry per key and keeps its
entries in this order; inserting a key that is present replaces its value.
-/

namespace ObjectWire
namespace Catalog

/-- Lexicographic combination of two comparisons. -/
def thenCompare (first : Ordering) (rest : Ordering) : Ordering :=
  if first == .eq then rest else first

/-- Compares two values of type `t`; `fuel` bounds the nesting of objects. -/
def compareAt (c : Catalog) : Nat → Ty → Value → Value → Ordering
  | _, .scalar _, a, b => compareScalars a b
  | _, .newtype _ _, a, b => compareScalars a b
  | _, .string, .str a, .str b => compare a b
  | fuel, .option t, a, b =>
    match a, b with
    | .absent, .absent => .eq
    | .absent, _ => .lt
    | _, .absent => .gt
    | .present x, .present y => c.compareAt fuel t x y
    | _, _ => .eq
  | fuel, .box t, a, b => c.compareAt fuel t a b
  | fuel, .vec t, .list xs, .list ys => compareLists (c.compareAt fuel t) xs ys
  | fuel, .deque t, .list xs, .list ys => compareLists (c.compareAt fuel t) xs ys
  | fuel, .pair s t, .pair a1 a2, .pair b1 b2 =>
    thenCompare (c.compareAt fuel s a1 b1) (c.compareAt fuel t a2 b2)
  | _, .enum p, .variant a, .variant b =>
    let names := ((c.enum? p).map (·.variants.map (·.1))).getD []
    compare (names.idxOf a) (names.idxOf b)
  | fuel + 1, .object p, .object fs, .object gs =>
    let decl := ((c.object? p).map (·.fields)).getD []
    decl.foldl (fun acc (n, t) =>
      thenCompare acc (c.compareAt fuel t ((fs.lookup n).getD .unit) ((gs.lookup n).getD .unit))) .eq
  | _, _, _, _ => .eq
where
  /-- Scalars: booleans, integers, characters, and floats by bit pattern. -/
  compareScalars : Value → Value → Ordering
    | .bool a, .bool b => compare a.toNat b.toNat
    | .nat a, .nat b => compare a b
    | .int a, .int b => compare a b
    | .char a, .char b => compare a b
    | .f32 a, .f32 b => compare a.toNat b.toNat
    | .f64 a, .f64 b => compare a.toNat b.toNat
    | _, _ => .eq
  /-- Lexicographic order of sequences. -/
  compareLists (cmp : Value → Value → Ordering) : List Value → List Value → Ordering
    | [], [] => .eq
    | [], _ => .lt
    | _, [] => .gt
    | x :: xs, y :: ys => thenCompare (cmp x y) (compareLists cmp xs ys)

/-- Compares two values of type `t`. -/
def compareValues (c : Catalog) (t : Ty) (a b : Value) : Ordering :=
  c.compareAt (c.objects.length + 1) t a b

/-- Inserts an entry into entries sorted by key, replacing the value of an equal key. -/
def insertEntry (c : Catalog) (k : Ty) (e : Value × Value) : List (Value × Value) → List (Value × Value)
  | [] => [e]
  | x :: rest =>
    match c.compareValues k e.1 x.1 with
    | .lt => e :: x :: rest
    | .eq => (x.1, e.2) :: rest
    | .gt => x :: c.insertEntry k e rest

/-- The map holding the given entries, a later entry for a key replacing an earlier one. -/
def mapOf (c : Catalog) (k : Ty) (entries : List (Value × Value)) : Value :=
  .map (entries.foldl (fun acc e => c.insertEntry k e acc) [])

end Catalog
end ObjectWire
