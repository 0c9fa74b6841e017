import SrgpGame.Buffer.ReadBuffer
import SrgpGame.Lib.Outcome

set_option autoImplicit false

/-!
# Reading values on a virtual machine

`read_object` once more, on a virtual machine that has room for some arrays only and a stack on
which only so many calls fit. A sender chooses the lengths and the nesting, so here a length for
which there is no room is an `OutOfMemoryError` and a call that does not fit a
`StackOverflowError`, beside the exceptions that the code throws.

## Main definitions

* `Vm`, `Throwable` — the virtual machine, and what is thrown.
* `Vm.readObject` — `ReadBuffer.read_object`.
* `Form`, `Sized` — the tags under which objects are nested, and those with a length after them.

## Main results

* `Vm.readTagged_form` — after each of these tags, a length and then objects in one loop.
* `Vm.readTagged_cases` — what a tag can be.
* `Vm.refines_readObject` — what is read on a virtual machine is what is read without bounds.

## Design notes

The recursion is over the calls that still fit on the stack, so reading always ends.
-/

namespace SrgpGame

namespace Buffer

open Reader

/-- The element types of the arrays that the reader makes. -/
inductive ArrayType where
  | byte
  | integer
  | long
  | string
  deriving DecidableEq, Repr

/-- The virtual machine that reads. -/
structure Vm where
  /-- Whether there is room for a new array of this length. -/
  allocates : ArrayType → Int32 → Bool
  /-- How many calls of `read_object` fit on the stack. -/
  stack : ℕ

/-- What ends the reading. -/
inductive Throwable where
  | exception (e : ReadError)
  /-- `OutOfMemoryError`. -/
  | outOfMemory
  /-- `StackOverflowError`. -/
  | stackOverflow
  deriving DecidableEq, Repr

/-- An `IOException` or a `BufferUnderflowException`. -/
def Throwable.IsAllowed : Throwable → Prop
  | .exception (.typeError _) => True
  | .exception .bufferUnderflow => True
  | _ => False

/-- `BufferUnderflowException`. -/
def underflow : Throwable := .exception .bufferUnderflow

lemma isAllowed_underflow : underflow.IsAllowed := trivial

namespace Vm

section Read

variable (vm : Vm) (malformed : List UInt8 → String)

/-- `new T[len]`. -/
def newArray (type : ArrayType) (len : Int32) : Reader Throwable Unit :=
  if len < 0 then throw (.exception .negativeArraySize)
  else if vm.allocates type len then pure ()
  else throw .outOfMemory

/-- `readStringImpl`. -/
def readStringImpl (length : Int32) : Reader Throwable String :=
  if length ≤ 0 then pure ""
  else do
    vm.newArray .byte length
    Utf8.decode malformed <$> take underflow length.toInt.toNat

/-- `Helper.getBytes`. -/
def getBytes (len : Int32) : Reader Throwable (List UInt8) := do
  vm.newArray .byte len
  take underflow len.toInt.toNat

/-- An object, cast to the element type. -/
def readCast {α : Type} (read : Reader Throwable Value) (cast : Value → Option α) :
    Reader Throwable α := do
  let var ← read
  match cast var with
  | some v => return v
  | none => throw (.exception .classCast)

/-- A new array of `len` elements, each read as an object and cast to the element type. -/
def readArray {α : Type} (read : Reader Throwable Value) (type : ArrayType)
    (cast : Value → Option α) (len : Int32) : Reader Throwable (List α) := do
  vm.newArray type len
  times (readCast read cast) len.toInt.toNat

/-- What follows the tag; `read` reads a nested object. -/
def readTagged (read : Reader Throwable Value) (tag : UInt8) : Reader Throwable Value :=
  if tag = TYPE_NIL then pure .null
  else if tag = TYPE_FALSE then pure (.bool false)
  else if tag = TYPE_TRUE then pure (.bool true)
  else if tag = TYPE_INT then .int <$> int underflow
  else if tag = TYPE_LONG then .long <$> long underflow
  else if tag = TYPE_DOUBLE then .double <$> word underflow
  else if tag = TYPE_TABLE then do
    let len ← int underflow
    .map <$> foldTimes (fun vs => do
      let key ← read
      let var ← read
      return Value.putEntry vs key var) len.toInt.toNat []
  else if tag = TYPE_BYTES then do
    let len ← int underflow
    .bytes <$> vm.getBytes len
  else if tag = TYPE_INTEGER_ARRAY then do
    let len ← int underflow
    .integerArray <$> vm.readArray read .integer castInteger len
  else if tag = TYPE_LONG_ARRAY then do
    let len ← int underflow
    .boxedLongArray <$> vm.readArray read .long castLong len
  else if tag = TYPE_STRING_ARRAY then do
    let len ← int underflow
    .stringArray <$> vm.readArray read .string castString len
  else if tag = TYPE_LIST then do
    let len ← int underflow
    .list <$> times read len.toInt.toNat
  else if tag = TYPE_STRING then do
    let len ← int underflow
    .str <$> vm.readStringImpl malformed len
  else match strLength tag with
    | some length => .str <$> vm.readStringImpl malformed length
    | none => throw (.exception (.typeError tag))

/-- `read_object` while `stack` calls fit on the stack. -/
def readAux : ℕ → Reader Throwable Value
  | 0 => throw .stackOverflow
  | stack + 1 => do
    let tag ← byte underflow
    vm.readTagged malformed (readAux stack) tag

/-- **`read_object`**. -/
def readObject : Reader Throwable Value := vm.readAux malformed vm.stack

end Read

end Vm

/-! ## Nested objects -/

/-- The tags under which objects are nested. -/
inductive Form where
  | table
  | list
  | integerArray
  | longArray
  | stringArray
  deriving DecidableEq, Repr

namespace Form

def tag : Form → UInt8
  | table => TYPE_TABLE
  | list => TYPE_LIST
  | integerArray => TYPE_INTEGER_ARRAY
  | longArray => TYPE_LONG_ARRAY
  | stringArray => TYPE_STRING_ARRAY

/-- How many objects follow a length; an entry of a table is two. -/
def objects : Form → Int32 → ℕ
  | table, len => 2 * len.toInt.toNat
  | _, len => len.toInt.toNat

/-- The array that is made first. -/
def arrayType : Form → Option ArrayType
  | table => none
  | list => none
  | integerArray => some .integer
  | longArray => some .long
  | stringArray => some .string

/-- The objects that can be elements. -/
def accepts : Form → Value → Bool
  | table, _ => true
  | list, _ => true
  | integerArray, v => (castInteger v).isSome
  | longArray, v => (castLong v).isSome
  | stringArray, v => (castString v).isSome

/-- What the objects make. -/
def value : Form → List Value → Value
  | table, vs => .map (Value.fill (pairUp vs))
  | list, vs => .list vs
  | integerArray, vs => .integerArray (vs.map fun v => (castInteger v).getD none)
  | longArray, vs => .boxedLongArray (vs.map fun v => (castLong v).getD none)
  | stringArray, vs => .stringArray (vs.map fun v => (castString v).getD none)

/-- One object that has to be an element. -/
def readElement (form : Form) (read : Reader Throwable Value) : Reader Throwable Value := do
  let var ← read
  if form.accepts var then return var else throw (.exception .classCast)

lemma objects_of_neg (form : Form) {len : Int32} (h : len < 0) : form.objects len = 0 := by
  rw [Int32.lt_zero_iff] at h
  cases form <;> simp only [objects] <;> omega

/-- Objects follow a length that is at least zero. -/
lemma nonneg_of_lt_objects {form : Form} {len : Int32} {n : ℕ} (h : n < form.objects len) :
    0 ≤ len := by
  apply Int32.not_lt.mp
  intro hneg
  rw [form.objects_of_neg hneg] at h
  omega

end Form

namespace Vm

variable (vm : Vm) (malformed : List UInt8 → String)

/-- The array that is made before the objects are read, if one is. -/
def openForm (form : Form) (len : Int32) : Reader Throwable Unit :=
  match form.arrayType with
  | some type => vm.newArray type len
  | none => pure ()

/-- An array is read in the loop over its elements. -/
lemma readArray_eq {α : Type} (read : Reader Throwable Value) (type : ArrayType) {form : Form}
    {cast : Value → Option (Option α)} (hform : ∀ v, form.accepts v = (cast v).isSome)
    (len : Int32) :
    vm.readArray read type cast len = (do
      vm.newArray type len
      List.map (fun v => (cast v).getD none) <$>
        times (form.readElement read) len.toInt.toNat) := by
  have hround : readCast read cast =
      (fun v => (cast v).getD none) <$> form.readElement read := by
    unfold readCast Form.readElement
    rw [map_bind]
    congr 1
    funext var
    rw [hform]
    cases hvar : cast var with
    | none => rfl
    | some v =>
      change pure v = pure ((cast var).getD none)
      rw [hvar]
      rfl
  unfold readArray
  rw [hround, times_map]

/-- A table is read in the loop over its keys and values. -/
lemma foldTimes_putEntry (read : Reader Throwable Value) (k : ℕ) :
    foldTimes (fun vs => do
      let key ← read
      let var ← read
      return Value.putEntry vs key var) k [] =
      (fun vs => Value.fill (pairUp vs)) <$> times read (2 * k) := by
  have hround : (fun vs : List (Value × Value) => do
      let key ← read
      let var ← read
      return Value.putEntry vs key var) = fun vs =>
        (fun e : Value × Value => Value.putEntry vs e.1 e.2) <$> (do
          let key ← read
          let var ← read
          return (key, var)) := by
    funext vs
    simp
  have hfold := foldTimes_eq (fun vs (e : Value × Value) => Value.putEntry vs e.1 e.2)
    (do let key ← read; let var ← read; return (key, var)) k []
  rw [hround, hfold, times_pairs, Functor.map_map]
  rfl

/-- **Nested objects**: after the tag of a form there is the length, and then the objects are read
in one loop.

**Proof sketch.** A table reads two objects in a round, an array casts each of them. -/
theorem readTagged_form (read : Reader Throwable Value) (form : Form) :
    vm.readTagged malformed read form.tag = (do
      let len ← int underflow
      vm.openForm form len
      form.value <$> times (form.readElement read) (form.objects len)) := by
  have hany : ∀ form : Form, (∀ v, form.accepts v = true) → form.readElement read = read := by
    intro form hform
    unfold Form.readElement
    simp [hform]
  cases form with
  | table =>
    change (do
      let len ← int underflow
      Value.map <$> foldTimes _ len.toInt.toNat []) = _
    rw [hany _ fun _ => rfl]
    simp only [foldTimes_putEntry, Functor.map_map]
    rfl
  | list =>
    rw [hany _ fun _ => rfl]
    rfl
  | integerArray =>
    change (do
      let len ← int underflow
      Value.integerArray <$> vm.readArray read .integer castInteger len) = _
    simp only [vm.readArray_eq read .integer (fun _ => rfl : ∀ v, Form.integerArray.accepts v = _),
      map_bind, Functor.map_map]
    rfl
  | longArray =>
    change (do
      let len ← int underflow
      Value.boxedLongArray <$> vm.readArray read .long castLong len) = _
    simp only [vm.readArray_eq read .long (fun _ => rfl : ∀ v, Form.longArray.accepts v = _),
      map_bind, Functor.map_map]
    rfl
  | stringArray =>
    change (do
      let len ← int underflow
      Value.stringArray <$> vm.readArray read .string castString len) = _
    simp only [vm.readArray_eq read .string (fun _ => rfl : ∀ v, Form.stringArray.accepts v = _),
      map_bind, Functor.map_map]
    rfl

end Vm

/-! ## Tags -/

/-- The forms with a length after the tag. -/
inductive Sized where
  | bytes
  | string
  | nested (form : Form)
  deriving DecidableEq, Repr

namespace Sized

def tag : Sized → UInt8
  | bytes => TYPE_BYTES
  | string => TYPE_STRING
  | nested form => form.tag

/-- The array that is made first. -/
def arrayType : Sized → Option ArrayType
  | bytes => some .byte
  | string => some .byte
  | nested form => form.arrayType

/-- What follows the length. -/
def body (vm : Vm) (malformed : List UInt8 → String) (read : Reader Throwable Value)
    (len : Int32) : Sized → Reader Throwable Value
  | bytes => .bytes <$> vm.getBytes len
  | string => .str <$> vm.readStringImpl malformed len
  | nested form => do
    vm.openForm form len
    form.value <$> times (form.readElement read) (form.objects len)

end Sized

/-- The tags of the scalars that are no strings. -/
def scalarTags : List UInt8 :=
  [TYPE_NIL, TYPE_FALSE, TYPE_TRUE, TYPE_INT, TYPE_LONG, TYPE_DOUBLE]

/-- A tag with a length after it is no scalar's. -/
lemma Sized.tag_notMem (s : Sized) : s.tag ∉ scalarTags := by
  cases s with
  | bytes => decide
  | string => decide
  | nested form => cases form <;> decide

/-- A tag with a length in it has none after it. -/
lemma Sized.strLength_tag (s : Sized) : strLength s.tag = none := by
  cases s with
  | bytes => rfl
  | string => rfl
  | nested form => cases form <;> rfl

lemma strLength_scalarTag {tag : UInt8} (h : tag ∈ scalarTags) : strLength tag = none := by
  simp only [scalarTags, List.mem_cons, List.not_mem_nil, or_false] at h
  rcases h with rfl | rfl | rfl | rfl | rfl | rfl <;> rfl

namespace Vm

variable (vm : Vm) (malformed : List UInt8 → String)

/-- The length is read after the tag. -/
lemma readTagged_sized (read : Reader Throwable Value) (s : Sized) :
    vm.readTagged malformed read s.tag = (do
      let len ← int underflow
      s.body vm malformed read len) := by
  cases s with
  | bytes => rfl
  | string => rfl
  | nested form => exact vm.readTagged_form malformed read form

/-- The other tags: a string with its length in the tag, or no object. -/
lemma readTagged_other (read : Reader Throwable Value) {tag : UInt8} (hscalar : tag ∉ scalarTags)
    (hsized : ∀ s : Sized, tag ≠ s.tag) :
    vm.readTagged malformed read tag = match strLength tag with
      | some length => .str <$> vm.readStringImpl malformed length
      | none => throw (.exception (.typeError tag)) := by
  simp only [scalarTags, List.mem_cons, List.not_mem_nil, or_false, not_or] at hscalar
  obtain ⟨hnil, hfalse, htrue, hint, hlong, hdouble⟩ := hscalar
  have htable : tag ≠ TYPE_TABLE := hsized (.nested .table)
  have hbytes : tag ≠ TYPE_BYTES := hsized .bytes
  have hintegers : tag ≠ TYPE_INTEGER_ARRAY := hsized (.nested .integerArray)
  have hlongs : tag ≠ TYPE_LONG_ARRAY := hsized (.nested .longArray)
  have hstrings : tag ≠ TYPE_STRING_ARRAY := hsized (.nested .stringArray)
  have hlist : tag ≠ TYPE_LIST := hsized (.nested .list)
  have hstring : tag ≠ TYPE_STRING := hsized .string
  unfold readTagged
  rw [if_neg hnil, if_neg hfalse, if_neg htrue, if_neg hint, if_neg hlong, if_neg hdouble,
    if_neg htable, if_neg hbytes, if_neg hintegers, if_neg hlongs, if_neg hstrings,
    if_neg hlist, if_neg hstring]

/-- A string with its length in the tag. -/
lemma readTagged_short (read : Reader Throwable Value) {tag : UInt8} {length : Int32}
    (h : strLength tag = some length) :
    vm.readTagged malformed read tag = .str <$> vm.readStringImpl malformed length := by
  have hscalar : tag ∉ scalarTags := by
    intro hmem
    rw [strLength_scalarTag hmem] at h
    cases h
  have hsized : ∀ s : Sized, tag ≠ s.tag := by
    rintro s rfl
    rw [s.strLength_tag] at h
    cases h
  rw [vm.readTagged_other malformed read hscalar hsized, h]

/-- **What a tag can be**: a scalar, a form with a length after it, a string with its length in
it, or no object. -/
theorem readTagged_cases (read : Reader Throwable Value) (tag : UInt8) :
    tag ∈ scalarTags ∨ (∃ s : Sized, tag = s.tag) ∨ (∃ length, strLength tag = some length) ∨
      vm.readTagged malformed read tag = throw (.exception (.typeError tag)) := by
  by_cases hscalar : tag ∈ scalarTags
  · exact .inl hscalar
  by_cases hsized : ∃ s : Sized, tag = s.tag
  · exact .inr (.inl hsized)
  have hne : ∀ s : Sized, tag ≠ s.tag := fun s hs => hsized ⟨s, hs⟩
  cases hlen : strLength tag with
  | some length => exact .inr (.inr (.inl ⟨length, rfl⟩))
  | none =>
    refine .inr (.inr (.inr ?_))
    rw [vm.readTagged_other malformed read hscalar hne, hlen]

/-! ## The reader without bounds -/

variable (n : ℕ)

lemma refines_readStringImpl (len : Int32) :
    Refines n (vm.readStringImpl malformed len) (Buffer.readStringImpl malformed len) := by
  unfold Vm.readStringImpl Buffer.readStringImpl
  refine Refines.ite (refines_pure n "") ?_
  unfold newArray
  by_cases hneg : len < 0
  · rw [if_pos hneg]
    exact refines_throw n _ _
  · rw [if_neg hneg]
    by_cases hroom : vm.allocates .byte len = true
    · rw [if_pos hroom, pure_bind]
      exact (refines_take n _ _ _).map _
    · rw [if_neg hroom]
      exact refines_throw n _ _

/-- An array is made, where the bounded reader makes one. -/
lemma refines_newArray {α : Type} (type : ArrayType) (len : Int32) {r : Reader Throwable α}
    {r' : Reader ReadError α} (h : Refines n r r') :
    Refines n (do vm.newArray type len; r)
      (if len < 0 then throw .negativeArraySize else r') := by
  unfold newArray
  by_cases hneg : len < 0
  · rw [if_pos hneg]
    exact refines_throw n _ _
  · rw [if_neg hneg, if_neg hneg]
    by_cases hroom : vm.allocates type len = true
    · rw [if_pos hroom, pure_bind]
      exact h
    · rw [if_neg hroom]
      exact refines_throw n _ _

/-- The elements of an array are read and cast as without bounds. -/
lemma refines_readArray {α : Type} {read : Reader Throwable Value} {read' : Reader ReadError Value}
    (h : Refines n read read') (type : ArrayType) (cast : Value → Option α) (len : Int32) :
    Refines n (vm.readArray read type cast len) (Buffer.readArray read' cast len) := by
  refine vm.refines_newArray n type len (Refines.times ?_ _)
  refine h.bind fun var => ?_
  cases cast var with
  | none => exact refines_throw n _ _
  | some v => exact refines_pure n v

/-- What follows a tag is read as without bounds. -/
lemma refines_readTagged {read : Reader Throwable Value} {read' : Reader ReadError Value}
    (h : Refines n read read') (tag : UInt8) :
    Refines n (vm.readTagged malformed read tag) (Buffer.readTagged malformed read' tag) := by
  have hlen : Refines n (int underflow) (int ReadError.bufferUnderflow) :=
    (refines_take n _ _ 4).map _
  unfold Vm.readTagged Buffer.readTagged
  refine Refines.ite (refines_pure n _) (Refines.ite (refines_pure n _)
    (Refines.ite (refines_pure n _) (Refines.ite (hlen.map _)
    (Refines.ite ((refines_take n _ _ 8).map _ |>.map _)
    (Refines.ite ((refines_take n _ _ 8).map _ |>.map _) (Refines.ite ?table (Refines.ite ?bytes
    (Refines.ite ?integers (Refines.ite ?longs (Refines.ite ?strings (Refines.ite ?list
    (Refines.ite ?string ?other))))))))))))
  case table =>
    refine hlen.bind fun len => (Refines.foldTimes (fun vs => ?_) _ _).map _
    exact h.bind fun key => h.bind fun var => refines_pure n _
  case bytes =>
    exact hlen.bind fun len => (vm.refines_newArray n .byte len (refines_take n _ _ _)).map _
  case integers => exact hlen.bind fun len => (vm.refines_readArray n h .integer _ len).map _
  case longs => exact hlen.bind fun len => (vm.refines_readArray n h .long _ len).map _
  case strings => exact hlen.bind fun len => (vm.refines_readArray n h .string _ len).map _
  case list => exact hlen.bind fun len => (h.times _).map _
  case string => exact hlen.bind fun len => (vm.refines_readStringImpl malformed n len).map _
  case other =>
    cases strLength tag with
    | none => exact refines_throw n _ _
    | some len => exact (vm.refines_readStringImpl malformed n len).map _

/-- Before at most `n` bytes a stack of any size reads what nesting of depth `n` reads.

**Proof sketch.** Induction on the stack. The tag takes a byte, so one less is left for the objects
that are nested. -/
lemma refines_readAux (stack : ℕ) :
    Refines n (vm.readAux malformed stack) (readObjectAux malformed n) := by
  induction stack generalizing n with
  | zero => exact refines_throw n _ _
  | succ stack ih =>
    cases n with
    | zero =>
      intro buf p hbuf hrun
      obtain rfl : buf = [] := List.length_eq_zero_iff.mp (Nat.le_zero.mp hbuf)
      cases hrun
    | succ n => exact Refines.byte_bind _ _ fun tag => vm.refines_readTagged malformed n (ih n) tag

/-- **The bounds only stop the reading**: whatever `read_object` returns on a virtual machine, it
returns without bounds, and the same bytes are left unread. -/
theorem refines_readObject {buf rest : List UInt8} {v : Value}
    (h : (vm.readObject malformed).run buf = .ok (v, rest)) :
    (Buffer.readObject malformed).run buf = .ok (v, rest) :=
  (vm.refines_readAux malformed buf.length vm.stack buf (v, rest) le_rfl h).1

/-- Three calls fit: a list with a list of one number in it, and a byte that is left. -/
theorem refines_readObject_nestedList :
    (Buffer.readObject fun _ => "").run
        (TYPE_LIST :: intLE 1 ++ TYPE_LIST :: intLE 1 ++ TYPE_TRUE :: [7]) =
      .ok (.list [.list [.bool true]], [7]) :=
  refines_readObject ⟨fun _ _ => true, 3⟩ (fun _ => "") rfl

end Vm

end Buffer

end SrgpGame
