import SrgpGame.Util.RandomUtils

set_option autoImplicit false

/-!
# Numbers as texts

A number is written with decimal digits. `Integer.parseInt` and `Converter.toInteger` read it back.
Texts that are joined with a separator are split at it.

## Main results

* `parseInt_renderInt` — an `int` is parsed from its text.
* `toInteger_toDigits` — what is read from the digits of a number that is an `int`.
* `split_join` — fields without the separator are split as they were joined.
-/

namespace SrgpGame.Util

/-- The text of an `int`: its digits, behind a minus sign if it is negative. -/
def renderInt (i : Int32) : List Char :=
  if i.toInt < 0 then '-' :: Nat.toDigits 10 i.toInt.natAbs else Nat.toDigits 10 i.toInt.natAbs

/-- `Character.digit` of the digits from zero to nine. -/
def asciiDigit (c : Char) : Option ℕ := if c.isDigit then some (c.toNat - '0'.toNat) else none

section Decimal

variable {digit : Char → Option ℕ} (hdigit : ∀ d < 10, digit (Nat.digitChar d) = some d)

include hdigit

/-- The digits are read one by one, and make up the number. -/
lemma mapM_toDigits (n : ℕ) : ∃ ds, (Nat.toDigits 10 n).mapM digit = some ds ∧
    (ds.map Nat.cast).foldl (fun (n d : ℤ) => 10 * n + d) 0 = n := by
  induction n using Nat.strongRecOn with
  | ind n ih =>
    rw [Nat.toDigits_eq_if (by omega)]
    split_ifs with hn
    · refine ⟨[n], ?_, ?_⟩
      · simp [hdigit n hn]
      · simp
    · obtain ⟨ds, hread, hvalue⟩ := ih (n / 10) (by omega)
      refine ⟨ds ++ [n % 10], ?_, ?_⟩
      · rw [List.mapM_append, hread]
        simp [hdigit (n % 10) (by omega)]
      · rw [List.map_append, List.foldl_append, hvalue]
        simp only [List.map_cons, List.map_nil, List.foldl_cons, List.foldl_nil]
        omega

omit hdigit in
lemma head_toDigits_ne {c : Char} (hc : c.isDigit = false) (n : ℕ) :
    ¬(Nat.toDigits 10 n).head? = some c := by
  intro hhead
  have hmem := List.mem_of_head? hhead
  have hdig := Nat.isDigit_of_mem_toDigits (by decide) (by decide) hmem
  rw [hc] at hdig
  cases hdig

/-- **What is parsed**: an `int` from its text. -/
theorem parseInt_renderInt (i : Int32) : parseInt digit (renderInt i) = some i := by
  have hlow := i.le_toInt
  have hhigh := i.toInt_lt
  have hne : ∀ n, Nat.toDigits 10 n ≠ [] := fun n => Nat.toDigits_ne_nil
  obtain ⟨ds, hread, hvalue⟩ := mapM_toDigits hdigit i.toInt.natAbs
  have hcast : (do let d ← ds; pure (d : ℤ)) = ds.map Nat.cast := List.flatMap_pure_eq_map _ _
  by_cases hneg : i.toInt < 0
  · have habs : -(i.toInt.natAbs : ℤ) = i.toInt := by omega
    rw [renderInt, if_pos hneg]
    unfold parseInt
    simp only [List.head?_cons, true_or, if_true, List.tail_cons, hne, if_false, hread, hcast,
      hvalue]
    rw [habs, if_pos ⟨hlow, hhigh⟩, Int32.ofInt_toInt]
  · have habs : (i.toInt.natAbs : ℤ) = i.toInt := by omega
    have hminus := head_toDigits_ne (c := '-') (by decide) i.toInt.natAbs
    have hplus := head_toDigits_ne (c := '+') (by decide) i.toInt.natAbs
    rw [renderInt, if_neg hneg]
    unfold parseInt
    simp only [hminus, hplus, or_self, if_false, hne, hread, hcast, hvalue]
    rw [habs, if_pos ⟨hlow, hhigh⟩, Int32.ofInt_toInt]

/-- **What is read** from the digits of a number that is an `int`. -/
theorem toInteger_toDigits {n : ℕ} (h : n < 2 ^ 31) :
    Converter.toInteger digit (Nat.toDigits 10 n) = Int32.ofNat n := by
  have hlen : (Int32.ofNat n).toInt = n := Int32.toInt_ofNat_of_lt h
  have hrender : renderInt (Int32.ofNat n) = Nat.toDigits 10 n := by
    rw [renderInt, hlen, if_neg (by omega), Int.natAbs_natCast]
  have hparse := parseInt_renderInt hdigit (Int32.ofNat n)
  rw [hrender] at hparse
  rw [Converter.toInteger, if_neg Nat.toDigits_ne_nil, hparse, Option.getD_some]

end Decimal

/-- A text of an `int` has digits and a sign only. -/
lemma mem_renderInt {c : Char} {i : Int32} (h : c ∈ renderInt i) : c.isDigit = true ∨ c = '-' := by
  rw [renderInt] at h
  split_ifs at h
  · obtain rfl | h := List.mem_cons.mp h
    · exact .inr rfl
    · exact .inl (Nat.isDigit_of_mem_toDigits (by decide) (by decide) h)
  · exact .inl (Nat.isDigit_of_mem_toDigits (by decide) (by decide) h)

lemma renderInt_ne_nil (i : Int32) : renderInt i ≠ [] := by
  rw [renderInt]
  split_ifs
  · exact List.cons_ne_nil _ _
  · exact Nat.toDigits_ne_nil

/-! ## Fields -/

/-- Fields one after another, with a separator in between. -/
def join (c : Char) (fields : List (List Char)) : List Char := [c].intercalate fields

lemma join_cons_cons (c : Char) (field field' : List Char) (fields : List (List Char)) :
    join c (field :: field' :: fields) = field ++ c :: join c (field' :: fields) := by
  rw [join, List.intercalate_cons_cons, List.append_assoc]
  rfl

/-- What is in joined fields. -/
lemma mem_join {c d : Char} {fields : List (List Char)} (h : d ∈ join c fields) :
    d = c ∨ ∃ field ∈ fields, d ∈ field := by
  induction fields with
  | nil => exact absurd h (by simp [join])
  | cons field fields ih =>
    cases fields with
    | nil =>
      rw [join, List.intercalate_singleton] at h
      exact .inr ⟨field, List.mem_cons_self, h⟩
    | cons field' fields =>
      rw [join_cons_cons] at h
      rcases List.mem_append.mp h with h | h
      · exact .inr ⟨field, List.mem_cons_self, h⟩
      rcases List.mem_cons.mp h with h | h
      · exact .inl h
      rcases ih h with h | ⟨other, hother, h⟩
      · exact .inl h
      · exact .inr ⟨other, List.mem_cons_of_mem _ hother, h⟩

lemma join_ne_nil {c : Char} {fields : List (List Char)} (hfields : fields ≠ [])
    (hempty : ∀ field ∈ fields, field ≠ []) : join c fields ≠ [] := by
  cases fields with
  | nil => exact absurd rfl hfields
  | cons field fields =>
    have hfield := hempty field List.mem_cons_self
    cases fields with
    | nil =>
      rw [join, List.intercalate_singleton]
      exact hfield
    | cons field' fields =>
      rw [join_cons_cons]
      exact List.append_ne_nil_of_left_ne_nil hfield _

/-- **Fields are split as they were joined**, if the separator is in none of them and none is
empty. -/
theorem split_join {c : Char} {fields : List (List Char)} (hfields : fields ≠ [])
    (hempty : ∀ field ∈ fields, field ≠ []) (hsep : ∀ field ∈ fields, c ∉ field) :
    split c (join c fields) = fields := by
  rw [split]
  split_ifs with hmem
  · have hsplit : (join c fields).splitOn c = fields := List.splitOn_intercalate c hsep hfields
    have hreverse : fields.reverse.dropWhile List.isEmpty = fields.reverse := by
      cases h : fields.reverse with
      | nil => rfl
      | cons field others =>
        have hfield : field ∈ fields := List.mem_reverse.mp (h ▸ List.mem_cons_self)
        exact List.dropWhile_cons_of_neg (by simpa using hempty field hfield)
    rw [hsplit, hreverse, List.reverse_reverse]
  · -- there is one field only
    cases fields with
    | nil => exact absurd rfl hfields
    | cons field fields =>
      cases fields with
      | nil => rw [join, List.intercalate_singleton]
      | cons field' fields =>
        rw [join_cons_cons] at hmem
        exact absurd (List.mem_append_right _ List.mem_cons_self) hmem

end SrgpGame.Util
