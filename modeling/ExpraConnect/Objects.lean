import ExpraConnect.Base
import ExpraConnect.Lib.ObjectGraph

/-!
# Objects with identities

A `Value` is a tree. Code that looks at the identities of lists and dictionaries works on a heap of
objects, where a container may be shared or contain itself.

* `Scalar`, `Key`, `PyObject`, `PyHeap`: leaves, keys, objects and heaps;
* `Value.toTree`: the tree that a value is.
-/

namespace ExpraConnect

open ExpraConnect.Lib

/-- An object that is not a list or a dictionary. -/
inductive Scalar where
  | null
  | text (s : String)
  | bool (b : Bool)
  | int (n : ℤ)
  | float (x : PyFloat)
  | foreign (tag : ℕ)
  deriving DecidableEq

/-- A key of a dictionary. -/
inductive Key where
  | text (s : String)
  | foreign (tag : ℕ)
  deriving DecidableEq

/-- `isinstance(key, str)`. -/
def Key.isText : Key → Bool
  | .text _ => true
  | .foreign _ => false

/-- An object. -/
abbrev PyObject := Graph.Obj Scalar

/-- The lists and dictionaries. -/
abbrev PyHeap := Graph.Heap Key Scalar

/-- A finite object without identities. -/
abbrev PyTree := Graph.Tree Key Scalar

mutual

/-- A value as a tree. -/
def Value.toTree : Value → PyTree
  | .null => .leaf .null
  | .bool b => .leaf (.bool b)
  | .int n => .leaf (.int n)
  | .float x => .leaf (.float x)
  | .str s => .leaf (.text s)
  | .foreign tag => .leaf (.foreign tag)
  | .list items => .list (Value.toTrees items)
  | .dict fields => .dict (Value.toTreeFields fields)

/-- `toTree` of every item. -/
def Value.toTrees : List Value → List PyTree
  | [] => []
  | v :: rest => Value.toTree v :: Value.toTrees rest

/-- `toTree` of every field. -/
def Value.toTreeFields : List (String × Value) → List (Key × PyTree)
  | [] => []
  | (k, v) :: rest => (.text k, Value.toTree v) :: Value.toTreeFields rest

end

end ExpraConnect
