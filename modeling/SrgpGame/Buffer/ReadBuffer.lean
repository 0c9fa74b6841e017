import SrgpGame.Buffer.WriteBuffer

set_option autoImplicit false

/-!
# Reading values

`read_object` reads the tag and then what the tag calls for, recursively. Every nested object has
a tag of its own, so the nesting is bounded by the number of bytes; the recursion is over such a
bound, and `readObject` starts it with the length of the buffer.

## Main definitions

* `ReadError` — the ways in which reading fails.
* `readObject` — `ReadBuffer.read_object`.

## Main results

* `strLength_strTag` — the reader knows the length that the writer put into a string tag.
-/

namespace SrgpGame

namespace Buffer

/-- How reading fails. -/
inductive ReadError where
  /-- `IOException`: no object has this tag. -/
  | typeError (tag : UInt8)
  /-- `BufferUnderflowException`. -/
  | bufferUnderflow
  /-- `NegativeArraySizeException`. -/
  | negativeArraySize
  /-- `ClassCastException`. -/
  | classCast
  deriving DecidableEq, Repr

/-- The length in the tag of a string with a fixed length. -/
def strLength (tag : UInt8) : Option Int32 :=
  if 50 ≤ tag ∧ tag ≤ 75 then some (Int32.ofNat (tag.toNat - 50))
  else if tag = 76 then some 32
  else none

/-- **The string tags agree**: the reader finds in a string tag the length that the writer chose
it for. -/
theorem strLength_strTag {len : ℕ} {tag : UInt8} (h : strTag len = some tag) :
    strLength tag = some (Int32.ofNat len) := by
  unfold strTag at h
  split at h
  · next hle =>
    obtain rfl : 50 + UInt8.ofNat len = tag := by simpa using h
    clear h
    revert len
    decide
  · split at h
    · next hlen =>
      obtain rfl : 76 = tag := by simpa using h
      rw [hlen]
      rfl
    · simp at h

section Read

-- what `new String(bytes, "UTF-8")` answers for bytes that are not valid UTF-8
variable (malformed : List UInt8 → String)

/-- The bytes and the string they make; a length that is not positive gives the empty string. -/
def readStringImpl (length : Int32) : Reader ReadError String :=
  if length ≤ 0 then pure ""
  else Utf8.decode malformed <$> Reader.take .bufferUnderflow length.toInt.toNat

/-- `new byte[len]` and `len` bytes into it. -/
def getBytes (len : Int32) : Reader ReadError (List UInt8) :=
  if len < 0 then throw .negativeArraySize
  else Reader.take .bufferUnderflow len.toInt.toNat

/-- A new array of `len` elements, each read as an object and cast to the element type. -/
def readArray {α : Type} (read : Reader ReadError Value) (cast : Value → Option α) (len : Int32) :
    Reader ReadError (List α) :=
  if len < 0 then throw .negativeArraySize
  else Reader.times (do
    let var ← read
    match cast var with
    | some v => return v
    | none => throw .classCast) len.toInt.toNat

/-- The cast `(Integer) var`. -/
def castInteger : Value → Option (Option Int32)
  | .null => some none
  | .int v => some (some v)
  | _ => none

/-- The cast `(Long) var`. -/
def castLong : Value → Option (Option Int64)
  | .null => some none
  | .long v => some (some v)
  | _ => none

/-- The cast `(String) var`. -/
def castString : Value → Option (Option String)
  | .null => some none
  | .str s => some (some s)
  | _ => none

/-- What follows the tag; `read` reads a nested object. -/
def readTagged (read : Reader ReadError Value) (tag : UInt8) : Reader ReadError Value :=
  if tag = TYPE_NIL then pure .null
  else if tag = TYPE_FALSE then pure (.bool false)
  else if tag = TYPE_TRUE then pure (.bool true)
  else if tag = TYPE_INT then .int <$> Reader.int .bufferUnderflow
  else if tag = TYPE_LONG then .long <$> Reader.long .bufferUnderflow
  else if tag = TYPE_DOUBLE then .double <$> Reader.word .bufferUnderflow
  else if tag = TYPE_TABLE then do
    let len ← Reader.int .bufferUnderflow
    .map <$> Reader.foldTimes (fun vs => do
      let key ← read
      let var ← read
      return Value.putEntry vs key var) len.toInt.toNat []
  else if tag = TYPE_BYTES then do
    let len ← Reader.int .bufferUnderflow
    .bytes <$> getBytes len
  else if tag = TYPE_INTEGER_ARRAY then do
    let len ← Reader.int .bufferUnderflow
    .integerArray <$> readArray read castInteger len
  else if tag = TYPE_LONG_ARRAY then do
    let len ← Reader.int .bufferUnderflow
    .boxedLongArray <$> readArray read castLong len
  else if tag = TYPE_STRING_ARRAY then do
    let len ← Reader.int .bufferUnderflow
    .stringArray <$> readArray read castString len
  else if tag = TYPE_LIST then do
    let len ← Reader.int .bufferUnderflow
    .list <$> Reader.times read len.toInt.toNat
  else if tag = TYPE_STRING then do
    let len ← Reader.int .bufferUnderflow
    .str <$> readStringImpl malformed len
  else match strLength tag with
    | some length => .str <$> readStringImpl malformed length
    | none => throw (.typeError tag)

/-- `read_object` for objects nested at most `depth` deep. -/
def readObjectAux : ℕ → Reader ReadError Value
  | 0 => throw .bufferUnderflow
  | depth + 1 => do
    let tag ← Reader.byte .bufferUnderflow
    readTagged malformed (readObjectAux depth) tag

/-- **`read_object`**. A nested object takes at least one byte, so the length of the buffer bounds
the nesting. -/
def readObject : Reader ReadError Value := fun buf =>
  readObjectAux malformed buf.length buf

end Read

end Buffer

end SrgpGame
