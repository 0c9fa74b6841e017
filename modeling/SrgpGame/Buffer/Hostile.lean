import SrgpGame.Buffer.BoundedRead
import SrgpGame.Buffer.RoundTrip
import Mathlib.Logic.Relation

set_option autoImplicit false

/-!
# Reading bytes from outside

Whatever bytes a client sends, `read_object` is meant to return an object for a prefix of them or to
fail with an `IOException` or a `BufferUnderflowException`. The objects of the format are an
inductive relation between bytes and values, in which every length is at least zero and followed by
as many elements or bytes. A call of `read_object` makes others, one for each nested object, and
what is meant is meant of each of them.

It holds just if no call comes to a **fault**: a length below zero, a length for which there is no
room, an element of another type than its array, or a nesting deeper than the stack. All of these
are there for a client to send.

## Main definitions

* `Vm.Object` — the objects of the format that fit on the virtual machine.
* `Vm.Calls`, `Vm.Comes` — the calls that a call makes, by the readers and by the format.
* `Vm.Faulty` — a fault at the front of the bytes of a call.
* `Vm.Guarded` — what is meant of `read_object`.

## Main results

* `Vm.Object.reads` — an object is read as its value.
* `Vm.outcome_of_not_faulty` — without a fault a call returns an object or fails as it may.
* `Vm.guarded_iff` — `read_object` does as it should just if no call comes to a fault.

**Proof sketch.** Without a fault, induction on the stack: the rule for loops carries that the
objects read so far are objects of the format, so the next call is one that the format comes to.
With one, the objects before it are read, and the call with the fault throws something else or
accepts a length below zero.
-/

namespace SrgpGame

namespace Buffer

open Reader

namespace Vm

variable (vm : Vm) (malformed : List UInt8 → String)

/-! ## The format -/

/-- There is room for what a length asks for; the empty string is not read into an array. -/
def Room (s : Sized) (len : Int32) : Prop :=
  (s = .string ∧ len = 0) ∨ ∀ type, s.arrayType = some type → vm.allocates type len = true

/-- **The objects of the format** that can be read while `stack` calls fit on the stack: the bytes
and the value they stand for. Every length is at least zero, and as many elements or bytes
follow. -/
inductive Object : ℕ → List UInt8 → Value → Prop
  | null {stack : ℕ} : Object (stack + 1) [TYPE_NIL] .null
  | ofFalse {stack : ℕ} : Object (stack + 1) [TYPE_FALSE] (.bool false)
  | ofTrue {stack : ℕ} : Object (stack + 1) [TYPE_TRUE] (.bool true)
  | int {stack : ℕ} (v : Int32) : Object (stack + 1) (TYPE_INT :: intLE v) (.int v)
  | long {stack : ℕ} (v : Int64) : Object (stack + 1) (TYPE_LONG :: longLE v) (.long v)
  | double {stack : ℕ} (v : UInt64) : Object (stack + 1) (TYPE_DOUBLE :: wordLE v) (.double v)
  | bytes {stack : ℕ} {len : Int32} {bs : List UInt8} (hlen : 0 ≤ len)
      (hroom : vm.Room .bytes len) (hbs : bs.length = len.toInt.toNat) :
      Object (stack + 1) (TYPE_BYTES :: (intLE len ++ bs)) (.bytes bs)
  | string {stack : ℕ} {len : Int32} {bs : List UInt8} (hlen : 0 ≤ len)
      (hroom : vm.Room .string len) (hbs : bs.length = len.toInt.toNat) :
      Object (stack + 1) (TYPE_STRING :: (intLE len ++ bs)) (.str (Utf8.decode malformed bs))
  | short {stack : ℕ} {tag : UInt8} {len : Int32} {bs : List UInt8}
      (htag : strLength tag = some len) (hroom : vm.Room .string len)
      (hbs : bs.length = len.toInt.toNat) :
      Object (stack + 1) (tag :: bs) (.str (Utf8.decode malformed bs))
  | nested {stack : ℕ} {form : Form} {len : Int32} {items : List (List UInt8 × Value)}
      (hlen : 0 ≤ len) (hroom : vm.Room (.nested form) len)
      (hitems : ∀ e ∈ items, Object stack e.1 e.2)
      (haccepts : ∀ e ∈ items, form.accepts e.2 = true)
      (hcount : items.length = form.objects len) :
      Object (stack + 1) (form.tag :: (intLE len ++ items.flatMap Prod.fst))
        (form.value (items.map Prod.snd))

/-- Objects that can be elements. -/
def Elements (stack : ℕ) (form : Form) (items : List (List UInt8 × Value)) : Prop :=
  ∀ e ∈ items, vm.Object malformed stack e.1 e.2 ∧ form.accepts e.2 = true

/-! ## Calls -/

/-- A call of `read_object`: how many calls fit on the stack, and the bytes that are left. -/
abbrev Call := ℕ × List UInt8

/-- The calls that a call makes: one for each element, when the elements before it were read. -/
inductive Calls : Call → Call → Prop
  | call {stack : ℕ} {form : Form} {len : Int32} {mid next : List UInt8} {vs : List Value}
      (hopen : (vm.openForm form len).run mid = .ok ((), mid))
      (hread : (times (form.readElement (vm.readAux malformed stack)) vs.length).run mid =
        .ok (vs, next))
      (hmore : vs.length < form.objects len) :
      Calls (stack + 1, form.tag :: (intLE len ++ mid)) (stack, next)

/-- The calls that the format comes to: one for each element, after objects of the format. -/
inductive Comes : Call → Call → Prop
  | call {stack : ℕ} {form : Form} {len : Int32} {items : List (List UInt8 × Value)}
      {next : List UInt8} (hroom : vm.Room (.nested form) len)
      (hitems : vm.Elements malformed stack form items)
      (hmore : items.length < form.objects len) :
      Comes (stack + 1, form.tag :: (intLE len ++ (items.flatMap Prod.fst ++ next))) (stack, next)

/-- **A fault** at the front of the bytes of a call. -/
inductive Faulty : Call → Prop
  /-- The call does not fit on the stack. -/
  | deep {buf : List UInt8} : Faulty (0, buf)
  /-- A length below zero. -/
  | negative {stack : ℕ} {s : Sized} {len : Int32} {rest : List UInt8} (hlen : len < 0) :
      Faulty (stack + 1, s.tag :: (intLE len ++ rest))
  /-- A length for which there is no room. -/
  | large {stack : ℕ} {s : Sized} {len : Int32} {rest : List UInt8} (hlen : 0 ≤ len)
      (hroom : ¬vm.Room s len) : Faulty (stack + 1, s.tag :: (intLE len ++ rest))
  /-- A string with its length in the tag for which there is no room. -/
  | short {stack : ℕ} {tag : UInt8} {len : Int32} {rest : List UInt8}
      (htag : strLength tag = some len) (hroom : ¬vm.Room .string len) :
      Faulty (stack + 1, tag :: rest)
  /-- An object that cannot be an element, after objects that can. -/
  | element {stack : ℕ} {form : Form} {len : Int32} {items : List (List UInt8 × Value)}
      {bs rest : List UInt8} {v : Value} (hroom : vm.Room (.nested form) len)
      (hitems : vm.Elements malformed stack form items)
      (hmore : items.length < form.objects len) (hobject : vm.Object malformed stack bs v)
      (haccepts : form.accepts v = false) :
      Faulty (stack + 1, form.tag :: (intLE len ++ (items.flatMap Prod.fst ++ (bs ++ rest))))

/-! ## What is meant -/

/-- **The outcome of a call**: it takes an object of the format from the front of its bytes and
returns its value, or it fails with an `IOException` or a `BufferUnderflowException`. -/
def Outcome (c : Call) : Prop :=
  Yields (vm.readAux malformed c.1) c.2 (vm.Object malformed c.1) Throwable.IsAllowed

/-- **What is meant of `read_object`** for bytes from outside: the outcome of every call is as it
should be, that of the outermost and of all that it makes. -/
def Guarded (buf : List UInt8) : Prop :=
  ∀ c, Relation.ReflTransGen (vm.Calls malformed) (vm.stack, buf) c → vm.Outcome malformed c

/-- The outermost call is `read_object`. -/
lemma Guarded.readObject {buf : List UInt8} (h : vm.Guarded malformed buf) :
    Yields (vm.readObject malformed) buf (vm.Object malformed vm.stack) Throwable.IsAllowed :=
  h (vm.stack, buf) .refl

variable {vm malformed}

/-! ## Arrays -/

lemma newArray_of_neg {type : ArrayType} {len : Int32} (h : len < 0) :
    vm.newArray type len = throw (.exception .negativeArraySize) := if_pos h

lemma newArray_of_allocates {type : ArrayType} {len : Int32} (hlen : 0 ≤ len)
    (h : vm.allocates type len = true) : vm.newArray type len = pure () := by
  unfold newArray
  rw [if_neg (Int32.not_lt.mpr hlen), if_pos h]

lemma newArray_of_not_allocates {type : ArrayType} {len : Int32} (hlen : 0 ≤ len)
    (h : ¬vm.allocates type len = true) : vm.newArray type len = throw .outOfMemory := by
  unfold newArray
  rw [if_neg (Int32.not_lt.mpr hlen), if_neg h]

lemma openForm_of_room {form : Form} {len : Int32} (hlen : 0 ≤ len)
    (hroom : vm.Room (.nested form) len) : vm.openForm form len = pure () := by
  unfold openForm
  cases htype : form.arrayType with
  | none => rfl
  | some type =>
    rcases hroom with ⟨hstring, -⟩ | hroom
    · cases hstring
    · exact newArray_of_allocates hlen (hroom type htype)

lemma take_zero : take underflow 0 = pure [] := by
  funext buf
  change (if buf.length < 0 then _ else _) = _
  rw [if_neg (Nat.not_lt_zero _)]
  rfl

lemma readStringImpl_of_room {len : Int32} (hlen : 0 ≤ len) (hroom : vm.Room .string len) :
    vm.readStringImpl malformed len =
      Utf8.decode malformed <$> take underflow len.toInt.toNat := by
  unfold readStringImpl
  by_cases hzero : len = 0
  · have hempty : Utf8.decode malformed [] = "" := Utf8.decode_encode malformed ""
    subst hzero
    change pure "" = Utf8.decode malformed <$> take underflow 0
    rw [take_zero, map_pure, hempty]
  · have hpos : ¬len ≤ 0 := fun hle => hzero (Int32.le_antisymm hle hlen)
    rcases hroom with ⟨-, hlen'⟩ | hroom
    · exact absurd hlen' hzero
    · rw [if_neg hpos, newArray_of_allocates hlen (hroom .byte rfl), pure_bind]

lemma getBytes_of_room {len : Int32} (hlen : 0 ≤ len) (hroom : vm.Room .bytes len) :
    vm.getBytes len = take underflow len.toInt.toNat := by
  unfold getBytes
  rcases hroom with ⟨hstring, -⟩ | hroom
  · cases hstring
  · rw [newArray_of_allocates hlen (hroom .byte rfl), pure_bind]

lemma strLength_nonneg {tag : UInt8} {len : Int32} (h : strLength tag = some len) : 0 ≤ len := by
  unfold strLength at h
  split at h
  · next hrange =>
    have hlt : tag.toNat - 50 < 2 ^ 31 := by
      have := tag.toNat_lt
      omega
    obtain rfl := Option.some.inj h
    rw [Int32.le_iff_toInt_le, Int32.toInt_ofNat_of_lt hlt, Int32.toInt_zero]
    omega
  · split at h
    · obtain rfl := Option.some.inj h
      decide
    · cases h

/-! ## Objects are read -/

lemma reads_readTagged {stack : ℕ} {tag : UInt8} {bs : List UInt8} {v : Value}
    (h : Reads (vm.readTagged malformed (vm.readAux malformed stack) tag) bs v) :
    Reads (vm.readAux malformed (stack + 1)) (tag :: bs) v :=
  (reads_byte underflow tag).bind h

/-- The length is read after the tag. -/
lemma reads_sizedBody {stack : ℕ} {s : Sized} {len : Int32} {bs : List UInt8} {v : Value}
    (h : Reads (s.body vm malformed (vm.readAux malformed stack) len) bs v) :
    Reads (vm.readAux malformed (stack + 1)) (s.tag :: (intLE len ++ bs)) v := by
  apply reads_readTagged
  rw [readTagged_sized]
  exact (reads_int underflow len).bind h

/-- Objects that can be elements are read in one loop. -/
lemma reads_elements {stack : ℕ} {form : Form} {items : List (List UInt8 × Value)}
    (hread : ∀ e ∈ items, Reads (vm.readAux malformed stack) e.1 e.2)
    (haccepts : ∀ e ∈ items, form.accepts e.2 = true) :
    Reads (times (form.readElement (vm.readAux malformed stack)) items.length)
      (items.flatMap Prod.fst) (items.map Prod.snd) := by
  refine Reads.times fun e he => ?_
  unfold Form.readElement
  rw [← List.append_nil e.1]
  refine (hread e he).bind ?_
  rw [if_pos (haccepts e he)]
  exact Reads.pure e.2

/-- **Objects are read**: the bytes of an object are read as its value, whatever follows.

**Proof sketch.** Induction on the object; the rule for loops puts the elements together. -/
theorem Object.reads {stack : ℕ} {bs : List UInt8} {v : Value}
    (h : vm.Object malformed stack bs v) : Reads (vm.readAux malformed stack) bs v := by
  induction h with
  | null => exact reads_readTagged (Reads.pure _)
  | ofFalse => exact @reads_readTagged _ _ _ TYPE_FALSE _ _ (Reads.pure _)
  | ofTrue => exact @reads_readTagged _ _ _ TYPE_TRUE _ _ (Reads.pure _)
  | int v => exact @reads_readTagged _ _ _ TYPE_INT _ _ ((reads_int _ v).map _)
  | long v => exact @reads_readTagged _ _ _ TYPE_LONG _ _ ((reads_long _ v).map _)
  | double v => exact @reads_readTagged _ _ _ TYPE_DOUBLE _ _ ((reads_word _ v).map _)
  | bytes hlen hroom hbs =>
    apply @reads_sizedBody _ _ _ .bytes
    change Reads (Value.bytes <$> vm.getBytes _) _ _
    rw [getBytes_of_room hlen hroom]
    exact (reads_take underflow hbs).map Value.bytes
  | string hlen hroom hbs =>
    apply @reads_sizedBody _ _ _ .string
    change Reads (Value.str <$> vm.readStringImpl malformed _) _ _
    rw [readStringImpl_of_room hlen hroom]
    exact ((reads_take underflow hbs).map _).map Value.str
  | short htag hroom hbs =>
    apply reads_readTagged
    rw [readTagged_short _ _ _ htag, readStringImpl_of_room (strLength_nonneg htag) hroom]
    exact ((reads_take underflow hbs).map _).map Value.str
  | @nested stack form len items hlen hroom hitems haccepts hcount ih =>
    apply @reads_sizedBody _ _ _ (.nested form)
    change Reads (do
      vm.openForm form len
      form.value <$> times (form.readElement (vm.readAux malformed stack)) (form.objects len)) _ _
    rw [openForm_of_room hlen hroom, pure_bind, ← hcount]
    exact (reads_elements ih haccepts).map form.value

/-- The calls that the format comes to are made. -/
theorem Comes.calls {c d : Call} (h : vm.Comes malformed c d) : vm.Calls malformed c d := by
  obtain @⟨stack, form, len, items, next, hroom, hitems, hmore⟩ := h
  have hlen := Form.nonneg_of_lt_objects hmore
  have hread := reads_elements (fun e he => (hitems e he).1.reads) fun e he => (hitems e he).2
  have hrun := hread next
  rw [← List.length_map Prod.snd] at hrun
  refine .call ?_ hrun ?_
  · rw [openForm_of_room hlen hroom]
    rfl
  · rwa [List.length_map]

/-! ## Faults -/

lemma not_outcome_of_fails {stack : ℕ} {bs : List UInt8} {e : Throwable} (rest : List UInt8)
    (h : Fails (vm.readAux malformed stack) bs e) (he : ¬e.IsAllowed) :
    ¬vm.Outcome malformed (stack, bs ++ rest) := fun hout => he (hout.of_error (h rest))

/-- What fails after the tag and the length fails the call. -/
lemma fails_sizedBody {stack : ℕ} {s : Sized} {len : Int32} {bs : List UInt8} {e : Throwable}
    (h : Fails (s.body vm malformed (vm.readAux malformed stack) len) bs e) :
    Fails (vm.readAux malformed (stack + 1)) (s.tag :: (intLE len ++ bs)) e := by
  refine (reads_byte underflow s.tag).bind_fails ?_
  rw [readTagged_sized]
  exact (reads_int underflow len).bind_fails h

/-- **A length below zero** is a negative array size, or is taken for zero. -/
lemma body_of_neg {s : Sized} {len : Int32} (h : len < 0) (read : Reader Throwable Value) :
    Fails (s.body vm malformed read len) [] (.exception .negativeArraySize) ∨
      ∃ v, Reads (s.body vm malformed read len) [] v := by
  have harray : ∀ type, Fails (vm.newArray type len) [] (.exception .negativeArraySize) := by
    intro type
    rw [newArray_of_neg h]
    exact fails_throw _
  cases s with
  | bytes => exact .inl (((harray .byte).bind _ []).map Value.bytes)
  | string =>
    refine .inr ⟨.str "", ?_⟩
    have hle : len ≤ 0 := Int32.le_of_lt h
    change Reads (Value.str <$> vm.readStringImpl malformed len) [] _
    unfold readStringImpl
    rw [if_pos hle]
    exact (Reads.pure "").map Value.str
  | nested form =>
    cases htype : form.arrayType with
    | some type =>
      refine .inl ?_
      change Fails (vm.openForm form len >>= _) [] _
      unfold openForm
      rw [htype]
      exact (harray type).bind _ []
    | none =>
      refine .inr ⟨form.value [], ?_⟩
      change Reads (vm.openForm form len >>= fun _ =>
        form.value <$> times (form.readElement read) (form.objects len)) [] _
      unfold openForm
      rw [htype, form.objects_of_neg h]
      exact (Reads.pure []).map form.value

/-- **A length without room** is out of memory. -/
lemma body_of_not_room {s : Sized} {len : Int32} (hlen : 0 ≤ len) (hroom : ¬vm.Room s len)
    (read : Reader Throwable Value) : Fails (s.body vm malformed read len) [] .outOfMemory := by
  unfold Room at hroom
  push Not at hroom
  obtain ⟨hzero, type, htype, hnot⟩ := hroom
  have harray : Fails (vm.newArray type len) [] .outOfMemory := by
    rw [newArray_of_not_allocates hlen hnot]
    exact fails_throw _
  cases s with
  | bytes =>
    obtain rfl := Option.some.inj htype
    exact (harray.bind _ []).map Value.bytes
  | string =>
    obtain rfl := Option.some.inj htype
    have hpos : ¬len ≤ 0 := fun hle => hzero rfl (Int32.le_antisymm hle hlen)
    change Fails (Value.str <$> vm.readStringImpl malformed len) [] _
    unfold readStringImpl
    rw [if_neg hpos]
    exact (harray.bind _ []).map Value.str
  | nested form =>
    change form.arrayType = some type at htype
    change Fails (vm.openForm form len >>= _) [] _
    unfold openForm
    rw [htype]
    exact harray.bind _ []

/-- **The lengths of objects** are at least zero. -/
lemma Object.len_nonneg {stack : ℕ} {bs : List UInt8} {v : Value}
    (h : vm.Object malformed stack bs v) {s : Sized} {len : Int32} {rest rest' : List UInt8}
    (hbs : s.tag :: (intLE len ++ rest) = bs ++ rest') : 0 ≤ len := by
  have hscalar : ∀ tag ∈ scalarTags, s.tag ≠ tag := by
    rintro tag htag rfl
    exact s.tag_notMem htag
  have hsame : ∀ {len' : Int32} {cs : List UInt8}, intLE len ++ rest = (intLE len' ++ cs) ++ rest' →
      0 ≤ len' → 0 ≤ len := by
    intro len' cs heq hlen'
    rw [List.append_assoc] at heq
    rwa [intLE_injective (List.append_inj_left heq (by simp))]
  cases h with
  | null => exact absurd (List.cons.inj hbs).1 (hscalar TYPE_NIL (by decide))
  | ofFalse => exact absurd (List.cons.inj hbs).1 (hscalar TYPE_FALSE (by decide))
  | ofTrue => exact absurd (List.cons.inj hbs).1 (hscalar TYPE_TRUE (by decide))
  | int v => exact absurd (List.cons.inj hbs).1 (hscalar TYPE_INT (by decide))
  | long v => exact absurd (List.cons.inj hbs).1 (hscalar TYPE_LONG (by decide))
  | double v => exact absurd (List.cons.inj hbs).1 (hscalar TYPE_DOUBLE (by decide))
  | bytes hlen _ _ => exact hsame (List.cons.inj hbs).2 hlen
  | string hlen _ _ => exact hsame (List.cons.inj hbs).2 hlen
  | nested hlen _ _ _ _ => exact hsame (List.cons.inj hbs).2 hlen
  | short htag _ _ =>
    rw [← (List.cons.inj hbs).1, s.strLength_tag] at htag
    cases htag

/-- **A fault shows**: the outcome of a call with a fault is not as it should be. -/
theorem Faulty.not_outcome {c : Call} (h : vm.Faulty malformed c) : ¬vm.Outcome malformed c := by
  cases h with
  | deep =>
    intro hout
    exact hout.of_error rfl
  | @negative stack s len rest hlen =>
    rcases body_of_neg hlen (vm.readAux malformed stack) with hfail | ⟨v, hread⟩
    · have h := not_outcome_of_fails rest (fails_sizedBody hfail) id
      rwa [List.append_nil] at h
    · intro hout
      have hrun := reads_sizedBody hread rest
      rw [List.append_nil] at hrun
      obtain ⟨bs, hbs, hobject⟩ := hout.of_ok hrun
      have hnonneg := hobject.len_nonneg hbs
      exact Int32.not_le.mpr hlen hnonneg
  | @large stack s len rest hlen hroom =>
    have hfail : Fails (s.body vm malformed (vm.readAux malformed stack) len) [] .outOfMemory :=
      body_of_not_room hlen hroom _
    have h := not_outcome_of_fails rest (fails_sizedBody hfail) id
    rwa [List.append_nil] at h
  | @short stack tag len rest htag hroom =>
    have hfail : Fails (vm.readAux malformed (stack + 1)) [tag] .outOfMemory := by
      refine (reads_byte underflow tag).bind_fails ?_
      rw [readTagged_short _ _ _ htag]
      exact @body_of_not_room vm malformed .string len (strLength_nonneg htag) hroom
        (vm.readAux malformed stack)
    exact not_outcome_of_fails rest hfail id
  | @element stack form len items bs rest v hroom hitems hmore hobject haccepts =>
    have hlen := Form.nonneg_of_lt_objects hmore
    have hread := reads_elements (fun e he => (hitems e he).1.reads) fun e he => (hitems e he).2
    have hcast : Fails (form.readElement (vm.readAux malformed stack)) bs
        (.exception .classCast) := by
      unfold Form.readElement
      rw [← List.append_nil bs]
      refine hobject.reads.bind_fails ?_
      rw [if_neg (by rw [haccepts]; decide)]
      exact fails_throw _
    rw [← List.length_map Prod.snd] at hread hmore
    have hloop := (fails_times hread hcast hmore).map form.value
    have hbody : Fails (Sized.body vm malformed (vm.readAux malformed stack) len (.nested form))
        (items.flatMap Prod.fst ++ bs) (.exception .classCast) := by
      change Fails (vm.openForm form len >>= _) _ _
      rw [openForm_of_room hlen hroom, pure_bind]
      exact hloop
    have h := not_outcome_of_fails rest (fails_sizedBody hbody) id
    simpa only [List.cons_append, List.append_assoc, Sized.tag] using h

/-! ## Calls without faults -/

/-- **The loop over elements**: without a fault, the objects that it reads are elements. -/
theorem yields_elements {stack : ℕ} {form : Form} {len : Int32} {mid : List UInt8} {k : ℕ}
    (hroom : vm.Room (.nested form) len) (hk : k ≤ form.objects len)
    (hread : ∀ next, vm.Comes malformed (stack + 1, form.tag :: (intLE len ++ mid)) (stack, next) →
      vm.Outcome malformed (stack, next))
    (hfault : ¬vm.Faulty malformed (stack + 1, form.tag :: (intLE len ++ mid))) :
    Yields (times (form.readElement (vm.readAux malformed stack)) k) mid
      (fun bs vs => (∃ items, vm.Elements malformed stack form items ∧
        bs = items.flatMap Prod.fst ∧ vs = items.map Prod.snd) ∧ vs.length = k)
      Throwable.IsAllowed := by
  refine Yields.times ⟨[], ?_, rfl, rfl⟩ fun bs vs rest hmid hlt hitems => ?_
  · intro e he
    cases he
  obtain ⟨items, helements, rfl, rfl⟩ := hitems
  rw [List.length_map] at hlt
  have hmore : items.length < form.objects len := by omega
  rw [hmid] at hread hfault
  have hout := hread rest (.call hroom helements hmore)
  refine hout.bind fun cs v rest' hrest hobject => ?_
  cases haccepts : form.accepts v with
  | false =>
    change rest = _ at hrest
    rw [hrest] at hfault
    exact absurd (.element hroom helements hmore hobject haccepts) hfault
  | true =>
    rw [if_pos rfl]
    refine yields_pure ⟨items ++ [(cs, v)], ?_, by simp, by simp⟩
    intro e he
    rcases List.mem_append.mp he with he | he
    · exact helements e he
    · obtain rfl := List.mem_singleton.mp he
      exact ⟨hobject, haccepts⟩

/-- The outcome of a call is that of what follows the tag. -/
lemma outcome_of_yields {stack : ℕ} {tag : UInt8} {rest : List UInt8}
    (h : Yields (vm.readTagged malformed (vm.readAux malformed stack) tag) rest
      (fun bs v => vm.Object malformed (stack + 1) (tag :: bs) v) Throwable.IsAllowed) :
    vm.Outcome malformed (stack + 1, tag :: rest) := by
  refine (yields_byte isAllowed_underflow (tag :: rest)).bind fun bs b rest' hbs hb => ?_
  subst hb
  obtain ⟨rfl, rfl⟩ := List.cons.inj hbs
  exact h

/-- A scalar is read, or its bytes end too early. -/
lemma outcome_scalar {stack : ℕ} {tag : UInt8} (htag : tag ∈ scalarTags) (rest : List UInt8) :
    vm.Outcome malformed (stack + 1, tag :: rest) := by
  simp only [scalarTags, List.mem_cons, List.not_mem_nil, or_false] at htag
  rcases htag with rfl | rfl | rfl | rfl | rfl | rfl
  · exact outcome_of_yields (yields_pure .null)
  · exact outcome_of_yields (yields_pure .ofFalse)
  · exact outcome_of_yields (yields_pure .ofTrue)
  · refine outcome_of_yields ((yields_int isAllowed_underflow rest).mono ?_).map
    rintro bs v rfl
    exact .int v
  · refine outcome_of_yields ((yields_long isAllowed_underflow rest).mono ?_).map
    rintro bs v rfl
    exact .long v
  · refine outcome_of_yields ((yields_word isAllowed_underflow rest).mono ?_).map
    rintro bs v rfl
    exact .double v

/-- A string with its length in the tag is read, or its bytes end too early. -/
lemma outcome_short {stack : ℕ} {tag : UInt8} {len : Int32} (htag : strLength tag = some len)
    {rest : List UInt8} (hfault : ¬vm.Faulty malformed (stack + 1, tag :: rest)) :
    vm.Outcome malformed (stack + 1, tag :: rest) := by
  have hroom : vm.Room .string len := by
    by_contra hnot
    exact hfault (.short htag hnot)
  apply outcome_of_yields
  rw [readTagged_short _ _ _ htag, readStringImpl_of_room (strLength_nonneg htag) hroom]
  refine (((yields_take isAllowed_underflow _ rest).mono ?_).map).map
  rintro bs a ⟨rfl, hbs⟩
  exact .short htag hroom hbs

/-- **A form with a length** is read, if the calls that it comes to turn out as they should. -/
lemma outcome_sized {stack : ℕ} (s : Sized) {rest : List UInt8}
    (hread : ∀ next, vm.Comes malformed (stack + 1, s.tag :: rest) (stack, next) →
      vm.Outcome malformed (stack, next))
    (hfault : ¬vm.Faulty malformed (stack + 1, s.tag :: rest)) :
    vm.Outcome malformed (stack + 1, s.tag :: rest) := by
  apply outcome_of_yields
  rw [readTagged_sized]
  refine (yields_int isAllowed_underflow rest).bind fun bs len mid hrest hbs => ?_
  subst hbs
  subst hrest
  have hlen : 0 ≤ len := by
    apply Int32.not_lt.mp
    exact fun hneg => hfault (.negative hneg)
  have hroom : vm.Room s len := by
    by_contra hnot
    exact hfault (.large hlen hnot)
  cases s with
  | bytes =>
    change Yields (Value.bytes <$> vm.getBytes len) mid _ _
    rw [getBytes_of_room hlen hroom]
    refine ((yields_take isAllowed_underflow _ mid).mono ?_).map
    rintro bs a ⟨rfl, hbs⟩
    exact .bytes hlen hroom hbs
  | string =>
    change Yields (Value.str <$> vm.readStringImpl malformed len) mid _ _
    rw [readStringImpl_of_room hlen hroom]
    refine (((yields_take isAllowed_underflow _ mid).mono ?_).map).map
    rintro bs a ⟨rfl, hbs⟩
    exact .string hlen hroom hbs
  | nested form =>
    change Yields (vm.openForm form len >>= fun _ => form.value <$>
      times (form.readElement (vm.readAux malformed stack)) (form.objects len)) mid _ _
    rw [openForm_of_room hlen hroom, pure_bind]
    refine ((yields_elements hroom le_rfl hread hfault).mono ?_).map
    rintro bs vs ⟨⟨items, helements, rfl, rfl⟩, hcount⟩
    rw [List.length_map] at hcount
    exact .nested hlen hroom (fun e he => (helements e he).1) (fun e he => (helements e he).2)
      hcount

/-- **Without a fault** among the calls that the format comes to, a call returns an object of the
format or fails as it may.

**Proof sketch.** Induction on the stack; the calls for the elements come to no fault either. -/
theorem outcome_of_not_faulty {stack : ℕ} {buf : List UInt8}
    (h : ∀ c, Relation.ReflTransGen (vm.Comes malformed) (stack, buf) c →
      ¬vm.Faulty malformed c) : vm.Outcome malformed (stack, buf) := by
  induction stack generalizing buf with
  | zero => exact absurd .deep (h (0, buf) .refl)
  | succ stack ih =>
    have hfault := h (stack + 1, buf) .refl
    cases buf with
    | nil => exact isAllowed_underflow
    | cons tag rest =>
      rcases vm.readTagged_cases malformed (vm.readAux malformed stack) tag with
        hscalar | ⟨s, rfl⟩ | ⟨len, hshort⟩ | hother
      · exact outcome_scalar hscalar rest
      · exact outcome_sized s (fun next hcomes => ih fun c hc => h c (.head hcomes hc)) hfault
      · exact outcome_short hshort hfault
      · apply outcome_of_yields
        rw [hother]
        exact yields_throw trivial

/-- **Without a fault** the calls that are made are calls that the format comes to. -/
theorem Calls.comes {c d : Call} (h : vm.Calls malformed c d)
    (hfault : ∀ c', Relation.ReflTransGen (vm.Comes malformed) c c' → ¬vm.Faulty malformed c') :
    vm.Comes malformed c d := by
  obtain @⟨stack, form, len, mid, next, vs, hopen, hread, hmore⟩ := h
  have hlen := Form.nonneg_of_lt_objects hmore
  have hhere := hfault (stack + 1, form.tag :: (intLE len ++ mid)) .refl
  have hroom : vm.Room (.nested form) len := by
    by_contra hnot
    exact hhere (.large hlen hnot)
  have helements := yields_elements hroom hmore.le
    (fun next hcomes => outcome_of_not_faulty fun c hc => hfault c (.head hcomes hc)) hhere
  obtain ⟨bs, hmid, ⟨items, hitems, rfl, rfl⟩, -⟩ := helements.of_ok hread
  rw [List.length_map] at hmore
  rw [hmid]
  exact .call hroom hitems hmore

/-! ## Bytes from outside -/

variable (vm malformed) in
/-- **`read_object` on bytes from outside.** Every call returns an object of the format for the
bytes it took or fails with an `IOException` or a `BufferUnderflowException` just if none of the
calls that the format comes to meets a fault: a length below zero, a length without room, an
element of another type than its array, or no room on the stack. -/
theorem guarded_iff (buf : List UInt8) :
    vm.Guarded malformed buf ↔
      ∀ c, Relation.ReflTransGen (vm.Comes malformed) (vm.stack, buf) c →
        ¬vm.Faulty malformed c := by
  constructor
  · intro h c hc hfault
    have hcalls : Relation.ReflTransGen (vm.Calls malformed) (vm.stack, buf) c :=
      hc.lift id fun _ _ hcomes => hcomes.calls
    exact hfault.not_outcome (h c hcalls)
  · intro h c hc
    have hcomes : Relation.ReflTransGen (vm.Comes malformed) (vm.stack, buf) c := by
      induction hc with
      | refl => exact .refl
      | tail _ hcall ih => exact ih.tail (hcall.comes fun c' hc' => h c' (ih.trans hc'))
    exact outcome_of_not_faulty fun c' hc' => h c' (hcomes.trans hc')

/-! ## A negative length -/

/-- A machine with room for a million elements and a thousand calls. -/
def roomy : Vm where
  allocates := fun _ len => len ≤ 1000000
  stack := 1000

/-- **A negative length**: five bytes, a byte array of length `-1`, end in a
`NegativeArraySizeException`. -/
theorem not_guarded_negative : ¬roomy.Guarded (fun _ => "") [TYPE_BYTES, 255, 255, 255, 255] := by
  intro h
  have hout := h.readObject
  exact hout.of_error (e := .exception .negativeArraySize) rfl

end Vm

end Buffer

end SrgpGame
