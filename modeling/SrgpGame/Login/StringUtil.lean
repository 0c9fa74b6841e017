import Mathlib.Data.List.Basic
import Mathlib.Tactic.Common

set_option autoImplicit false

/-!
# Texts of the login service

The login service asks of a text how long it is and whether it is a mail address, and stores a
password in changed form.

## Main definitions

* `Pattern` — regular expressions, with `Pattern.matchesAll`.
* `isMail` — `StringUtil.isMail`.
* `changePassword` — `StringUtil.changePassword`.

## Main results

* `Pattern.matchesAll_iff` — a text is matched just if it is in the language of the pattern.
-/

namespace SrgpGame.Login

/-! ## Regular expressions -/

/-- A regular expression. -/
inductive Pattern where
  | fail
  | empty
  /-- One character of a class. -/
  | chars (p : Char → Bool)
  | seq (r s : Pattern)
  | alt (r s : Pattern)
  /-- Any number of times. -/
  | many (r : Pattern)

namespace Pattern

/-- At least once. -/
def some (r : Pattern) : Pattern := seq r (many r)

/-- Once or not at all. -/
def opt (r : Pattern) : Pattern := alt r empty

/-- One character. -/
def char (c : Char) : Pattern := chars fun d => d == c

/-- The texts of a pattern. -/
inductive Mem : Pattern → List Char → Prop
  | empty : Mem .empty []
  | chars {p : Char → Bool} {c : Char} (h : p c = true) : Mem (.chars p) [c]
  | seq {r s : Pattern} {cs ds : List Char} (hr : Mem r cs) (hs : Mem s ds) :
      Mem (.seq r s) (cs ++ ds)
  | left {r s : Pattern} {cs : List Char} (hr : Mem r cs) : Mem (.alt r s) cs
  | right {r s : Pattern} {cs : List Char} (hs : Mem s cs) : Mem (.alt r s) cs
  | none {r : Pattern} : Mem (.many r) []
  | more {r : Pattern} {cs ds : List Char} (hr : Mem r cs) (hs : Mem (.many r) ds) :
      Mem (.many r) (cs ++ ds)

/-- The pattern has the empty text. -/
def nullable : Pattern → Bool
  | fail => false
  | empty => true
  | chars _ => false
  | seq r s => r.nullable && s.nullable
  | alt r s => r.nullable || s.nullable
  | many _ => true

/-- The pattern of what may follow the character `c`. -/
def deriv (c : Char) : Pattern → Pattern
  | fail => fail
  | empty => fail
  | chars p => if p c then empty else fail
  | seq r s => if r.nullable then alt (seq (r.deriv c) s) (s.deriv c) else seq (r.deriv c) s
  | alt r s => alt (r.deriv c) (s.deriv c)
  | many r => seq (r.deriv c) (many r)

/-- `Matcher.matches`: the pattern has the whole text. -/
def matchesAll (r : Pattern) (cs : List Char) : Bool :=
  (cs.foldl (fun r c => r.deriv c) r).nullable

lemma nullable_iff (r : Pattern) : r.nullable = true ↔ Mem r [] := by
  induction r with
  | fail => exact iff_of_false (by simp [nullable]) (by rintro ⟨⟩)
  | empty => exact iff_of_true rfl .empty
  | chars p => exact iff_of_false (by simp [nullable]) (by rintro ⟨⟩)
  | seq r s ihr ihs =>
    rw [nullable, Bool.and_eq_true, ihr, ihs]
    constructor
    · rintro ⟨hr, hs⟩
      exact .seq hr hs
    · intro h
      generalize hcs : ([] : List Char) = cs at h
      cases h with
      | seq hr hs =>
        obtain ⟨rfl, rfl⟩ := List.append_eq_nil_iff.mp hcs.symm
        exact ⟨hr, hs⟩
  | alt r s ihr ihs =>
    rw [nullable, Bool.or_eq_true, ihr, ihs]
    constructor
    · rintro (hr | hs)
      · exact .left hr
      · exact .right hs
    · intro h
      cases h with
      | left hr => exact Or.inl hr
      | right hs => exact Or.inr hs
  | many r _ => exact iff_of_true rfl .none

/-- A repetition that has a text with a first character starts with a round that has it. -/
lemma exists_round {r : Pattern} {c : Char} {cs : List Char} (h : Mem (.many r) (c :: cs)) :
    ∃ ds es, cs = ds ++ es ∧ Mem r (c :: ds) ∧ Mem (.many r) es := by
  generalize hp : Pattern.many r = p at h
  generalize ht : c :: cs = t at h
  induction h with
  | none => cases ht
  | @more r' ds es hr hs _ ih =>
    cases hp
    cases ds with
    | nil => exact ih rfl ht
    | cons d ds =>
      obtain ⟨rfl, rfl⟩ := List.cons.inj ht
      exact ⟨ds, es, rfl, hr, hs⟩
  | _ => cases hp

/-- **The derivative** has what may follow the character. -/
theorem mem_deriv_iff (c : Char) (r : Pattern) (cs : List Char) :
    Mem (r.deriv c) cs ↔ Mem r (c :: cs) := by
  induction r generalizing cs with
  | fail => exact iff_of_false (by rintro ⟨⟩) (by rintro ⟨⟩)
  | empty => exact iff_of_false (by rintro ⟨⟩) (by rintro ⟨⟩)
  | chars p =>
    rw [deriv]
    split
    · next hp =>
      constructor
      · rintro ⟨⟩
        exact .chars hp
      · rintro ⟨⟩
        exact .empty
    · next hp =>
      refine iff_of_false (by rintro ⟨⟩) fun h => ?_
      cases h with
      | chars h => exact hp h
  | seq r s ihr ihs =>
    have hseq : Mem (.seq (r.deriv c) s) cs ∨ r.nullable = true ∧ Mem (s.deriv c) cs ↔
        Mem (.seq r s) (c :: cs) := by
      constructor
      · rintro (h | ⟨hnull, h⟩)
        · cases h with
          | seq hr hs => exact .seq ((ihr _).mp hr) hs
        · exact @Mem.seq r s [] (c :: cs) ((nullable_iff r).mp hnull) ((ihs cs).mp h)
      · intro h
        generalize ht : c :: cs = t at h
        cases h with
        | @seq _ _ ds es hr hs =>
          cases ds with
          | nil =>
            rw [List.nil_append] at ht
            rw [← ht] at hs
            exact Or.inr ⟨(nullable_iff r).mpr hr, (ihs cs).mpr hs⟩
          | cons d ds =>
            obtain ⟨rfl, rfl⟩ := List.cons.inj ht
            exact Or.inl (.seq ((ihr ds).mpr hr) hs)
    rw [← hseq, deriv]
    split
    · next hnull =>
      constructor
      · intro h
        cases h with
        | left h => exact Or.inl h
        | right h => exact Or.inr ⟨hnull, h⟩
      · rintro (h | ⟨-, h⟩)
        · exact .left h
        · exact .right h
    · next hnull =>
      exact ⟨Or.inl, fun h => h.resolve_right fun h => hnull h.1⟩
  | alt r s ihr ihs =>
    rw [deriv]
    constructor
    · intro h
      cases h with
      | left h => exact .left ((ihr cs).mp h)
      | right h => exact .right ((ihs cs).mp h)
    · intro h
      cases h with
      | left h => exact .left ((ihr cs).mpr h)
      | right h => exact .right ((ihs cs).mpr h)
  | many r ih =>
    rw [deriv]
    constructor
    · intro h
      cases h with
      | seq hr hs => exact .more ((ih _).mp hr) hs
    · intro h
      obtain ⟨ds, es, rfl, hr, hs⟩ := exists_round h
      exact .seq ((ih ds).mpr hr) hs

/-- **Matching**: a text is matched just if it is a text of the pattern. -/
theorem matchesAll_iff (r : Pattern) (cs : List Char) : r.matchesAll cs = true ↔ Mem r cs := by
  induction cs generalizing r with
  | nil => exact nullable_iff r
  | cons c cs ih =>
    rw [← mem_deriv_iff, ← ih (r.deriv c)]
    rfl

end Pattern

/-! ## Mail addresses -/

/-- `[a-z0-9A-Z]`. -/
def alphanumeric : Pattern := .chars Char.isAlphanum

/-- `^([a-z0-9A-Z]+[-|\.]?)+[a-z0-9A-Z]@([a-z0-9A-Z]+(-[a-z0-9A-Z]+)?\.)+[a-zA-Z]{2,}$`. -/
def mailPattern : Pattern :=
  let word := alphanumeric.some
  let name := Pattern.some (.seq word (.opt (.chars fun c => c == '-' || c == '|' || c == '.')))
  let label := Pattern.seq word (.seq (.opt (.seq (.char '-') word)) (.char '.'))
  let letter := Pattern.chars Char.isAlpha
  .seq name (.seq alphanumeric (.seq (.char '@') (.seq label.some (.seq letter letter.some))))

/-- **`isMail`**. -/
def isMail (mail : String) : Bool := mailPattern.matchesAll mail.toList

/-! ## Lengths and passwords -/

/-- `String.length`, which counts the characters outside the basic plane twice. -/
def lengthUtf16 (s : String) : ℕ :=
  s.toList.foldl (fun n c => n + if c.toNat < 0x10000 then 1 else 2) 0

/-- `k[i] = k[i] ^ k[j]`. -/
def xorInto (i j : ℕ) (k : List UInt16) : List UInt16 :=
  k.set i (k.getD i 0 ^^^ k.getD j 0)

/-- **`changePassword`**: two pairs of characters of the digest are exchanged. -/
def changePassword (md5Hex : String → List UInt16) (psd : String) : List UInt16 :=
  let k := xorInto 4 8 (xorInto 8 4 (xorInto 4 8 (md5Hex psd)))
  xorInto 14 7 (xorInto 7 14 (xorInto 14 7 k))

end SrgpGame.Login
