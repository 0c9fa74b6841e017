import Mathlib.Data.List.DropRight
import Mathlib.Data.List.Infix

set_option autoImplicit false

/-!
# Dirty words

In what players write, dirty words are replaced by a star each. A word counts as well if there are
blanks in between its characters. The words are in a trie; a text is passed through once, and at
each position the shortest word is looked for that begins there.

## Main definitions

* `Trie`, `Trie.Holds` — a trie, and the words that it is for.
* `nodeHaveWord`, `replaceDirtyWords` — the methods of `CacheWord`.
* `Occurs` — a text has a dirty word, when blanks are skipped.

## Main results

* `replaceDirtyWords_clean` — the result has no dirty word, and a text without one is only trimmed.

## Implementation notes

Texts are lists of UTF-16 units. Where the source goes on behind a word, at the index `end`, the
model passes over as many units.
-/

namespace SrgpGame.Cache

/-! ## Characters -/

/-- `filter.isFilter`: blanks and control characters. -/
def isFilter (t : UInt16) : Bool := t ≤ 0x20

/-- `'*'` -/
def star : UInt16 := 0x2A

/-- What is left of a text without blanks. -/
def visible (src : List UInt16) : List UInt16 := src.filter fun c => !isFilter c

/-- `String.trim`. -/
def trim (s : List UInt16) : List UInt16 := (s.dropWhile isFilter).rdropWhile isFilter

/-! ## Tries -/

/-- A trie, as far as its nodes are asked. -/
structure Trie (Node : Type) where
  root : Node
  /-- `node.children.get(key)`. -/
  getChildNode : Node → UInt16 → Option Node
  terminable : Node → Bool

variable {Node : Type}

namespace Trie

/-- The node at the end of a path from the root. -/
def node (trie : Trie Node) (path : List UInt16) : Option Node :=
  path.foldlM trie.getChildNode trie.root

/-- **A trie holds words**: its nodes are just the beginnings of the words, and those at the end of
a word are marked. -/
structure Holds (trie : Trie Node) (words : List (List UInt16)) : Prop where
  node_iff : ∀ path, (trie.node path).isSome ↔ path = [] ∨ ∃ word ∈ words, path <+: word
  terminable_iff : ∀ path node, trie.node path = some node →
    (trie.terminable node = true ↔ path ∈ words)

end Trie

/-- What a dirty word may be: not empty, and without blanks and stars. -/
def Word (word : List UInt16) : Prop :=
  word ≠ [] ∧ ∀ c ∈ word, isFilter c = false ∧ c ≠ star

instance (word : List UInt16) : Decidable (Word word) :=
  have : Decidable (∀ c ∈ word, isFilter c = false ∧ c ≠ star) := List.decidableBAll _ word
  inferInstanceAs (Decidable (word ≠ [] ∧ ∀ c ∈ word, isFilter c = false ∧ c ≠ star))

/-- **A text has a dirty word**, when blanks are skipped. -/
def Occurs (words : List (List UInt16)) (src : List UInt16) : Prop :=
  ∃ word ∈ words, word <:+: visible src

/-! ## The methods -/

/-- **`nodeHaveWord`**: how far behind the beginning of `src` the shortest word ends that goes on
from a node. Blanks are passed over, unless there is nothing else. -/
def nodeHaveWord (trie : Trie Node) (node : Node) : List UInt16 → Option ℕ
  | [] => none
  | key :: src =>
    if isFilter key && src.any (fun c => !isFilter c) then
      (nodeHaveWord trie node src).map (· + 1)
    else
      match trie.getChildNode node key with
      | none => none
      | some node =>
        if trie.terminable node then some 0 else (nodeHaveWord trie node src).map (· + 1)

/-- The loop of `replaceDirtyWords`. The next `skip` units belong to a word. -/
def replaceLoop (trie : Trie Node) : Bool → ℕ → List UInt16 → List UInt16
  | _, _, [] => []
  | start, skip + 1, _ :: src => replaceLoop trie start skip src
  | start, 0, charAt :: src =>
    if isFilter charAt then
      if start then replaceLoop trie start 0 src else charAt :: replaceLoop trie start 0 src
    else if (trie.getChildNode trie.root charAt).isSome then
      match nodeHaveWord trie trie.root (charAt :: src) with
      | some stop => star :: replaceLoop trie false stop src
      | none => charAt :: replaceLoop trie false 0 src
    else charAt :: replaceLoop trie false 0 src

/-- **`replaceDirtyWords`**. -/
def replaceDirtyWords (trie : Trie Node) (src : List UInt16) : List UInt16 :=
  trim (replaceLoop trie true 0 src)

/-! ## Visible characters -/

lemma visible_cons_of_isFilter {c : UInt16} (h : isFilter c = true) (src : List UInt16) :
    visible (c :: src) = visible src :=
  List.filter_cons_of_neg (by simp [h])

lemma visible_cons_of_not {c : UInt16} (h : isFilter c = false) (src : List UInt16) :
    visible (c :: src) = c :: visible src :=
  List.filter_cons_of_pos (by simp [h])

lemma visible_eq_nil_iff {src : List UInt16} :
    visible src = [] ↔ src.any (fun c => !isFilter c) = false := by
  simp [visible]

/-- Trimming takes nothing visible away. -/
lemma visible_trim (s : List UInt16) : visible (trim s) = visible s := by
  have hleft : ∀ l : List UInt16, visible (l.dropWhile isFilter) = visible l := by
    intro l
    induction l with
    | nil => rfl
    | cons c l ih =>
      cases hc : isFilter c with
      | true => rw [List.dropWhile_cons_of_pos hc, visible_cons_of_isFilter hc, ih]
      | false => rw [List.dropWhile_cons_of_neg (by simp [hc])]
  have hreverse : ∀ l : List UInt16, visible l.reverse = (visible l).reverse := fun l =>
    List.filter_reverse
  rw [trim, List.rdropWhile, hreverse, hleft, hreverse, List.reverse_reverse, hleft]

/-- Blanks at the beginning make no difference to trimming. -/
lemma trim_dropWhile (s : List UInt16) : trim (s.dropWhile isFilter) = trim s := by
  rw [trim, trim, List.dropWhile_idempotent]

/-! ## Looking for a word -/

section Holds

variable {trie : Trie Node} {words : List (List UInt16)}

lemma Trie.node_concat (trie : Trie Node) (path : List UInt16) (c : UInt16) :
    trie.node (path ++ [c]) = (trie.node path).bind fun node => trie.getChildNode node c := by
  rw [Trie.node, List.foldlM_append]
  cases h : trie.node path with
  | none =>
    rw [Trie.node] at h
    rw [h]
    rfl
  | some node =>
    rw [Trie.node] at h
    rw [h]
    simp

/-- A child is at the end of a longer path. -/
lemma Trie.node_concat_of {path : List UInt16} {node : Node} (hnode : trie.node path = some node)
    (c : UInt16) : trie.node (path ++ [c]) = trie.getChildNode node c := by
  rw [trie.node_concat, hnode]
  rfl

variable (hholds : trie.Holds words) (hwords : ∀ word ∈ words, Word word)

include hholds in
/-- **What is found**: a word that begins with the path to the node and goes on with what is visible
first. -/
lemma isSome_nodeHaveWord_iff (hwords : ∀ word ∈ words, Word word) {src path : List UInt16}
    {node : Node} (hnode : trie.node path = some node) :
    (nodeHaveWord trie node src).isSome ↔
      ∃ rest, rest ≠ [] ∧ rest <+: visible src ∧ path ++ rest ∈ words := by
  induction src generalizing path node with
  | nil =>
    refine iff_of_false (by simp [nodeHaveWord]) ?_
    rintro ⟨rest, hne, hrest, -⟩
    exact hne (List.prefix_nil.mp hrest)
  | cons key src ih =>
    rw [nodeHaveWord]
    cases hkey : isFilter key with
    | true =>
      rw [visible_cons_of_isFilter hkey]
      cases hany : src.any (fun c => !isFilter c) with
      | true =>
        rw [Bool.and_self, if_pos rfl, Option.isSome_map]
        exact ih hnode
      | false =>
        -- only blanks are left, and the node has no child for a blank
        have hchild : trie.getChildNode node key = none := by
          rw [← trie.node_concat_of hnode, ← Option.not_isSome_iff_eq_none, hholds.node_iff]
          rintro (hnil | ⟨word, hword, hbegins⟩)
          · exact List.append_ne_nil_of_right_ne_nil _ (List.cons_ne_nil _ _) hnil
          · have hvisible := (hwords word hword).2 key (hbegins.subset (by simp))
            exact absurd (hkey.symm.trans hvisible.1) (by decide)
        rw [visible_eq_nil_iff.mpr hany, Bool.and_false, if_neg Bool.false_ne_true, hchild]
        refine iff_of_false (by simp) ?_
        rintro ⟨rest, hne, hrest, -⟩
        exact hne (List.prefix_nil.mp hrest)
    | false =>
      rw [visible_cons_of_not hkey, Bool.false_and, if_neg Bool.false_ne_true]
      have hconcat := trie.node_concat_of hnode key
      cases hchild : trie.getChildNode node key with
      | none =>
        refine iff_of_false (by simp) ?_
        rintro ⟨rest, hne, hrest, hword⟩
        obtain ⟨c, rest, rfl⟩ := List.exists_cons_of_ne_nil hne
        obtain ⟨rfl, -⟩ := List.cons_prefix_cons.mp hrest
        have hsome := (hholds.node_iff (path ++ [c])).mpr
          (.inr ⟨_, hword, rest, by rw [List.append_assoc]; rfl⟩)
        rw [hconcat, hchild] at hsome
        exact absurd hsome (by simp)
      | some child =>
        rw [hchild] at hconcat
        have hterminable := hholds.terminable_iff _ _ hconcat
        dsimp only
        split_ifs with hend
        · exact iff_of_true rfl
            ⟨[key], List.cons_ne_nil _ _, ⟨visible src, rfl⟩, hterminable.mp hend⟩
        · rw [Option.isSome_map, ih hconcat]
          constructor
          · rintro ⟨rest, -, hrest, hword⟩
            refine ⟨key :: rest, List.cons_ne_nil _ _, List.cons_prefix_cons.mpr ⟨rfl, hrest⟩, ?_⟩
            rwa [List.append_assoc] at hword
          · rintro ⟨rest, hne, hrest, hword⟩
            obtain ⟨c, rest, rfl⟩ := List.exists_cons_of_ne_nil hne
            obtain ⟨rfl, htail⟩ := List.cons_prefix_cons.mp hrest
            refine ⟨rest, ?_, htail, by rwa [List.append_assoc]⟩
            rintro rfl
            exact hend (hterminable.mpr hword)

include hholds hwords in
/-- From the root, just the words are found that the text begins with. -/
lemma isSome_nodeHaveWord_root_iff {src : List UInt16} :
    (nodeHaveWord trie trie.root src).isSome ↔ ∃ word ∈ words, word <+: visible src := by
  have hroot : trie.node [] = some trie.root := rfl
  rw [isSome_nodeHaveWord_iff hholds hwords hroot]
  constructor
  · rintro ⟨rest, -, hrest, hword⟩
    exact ⟨rest, hword, hrest⟩
  · rintro ⟨word, hword, hbegins⟩
    exact ⟨word, (hwords word hword).1, hbegins, hword⟩

/-! ## The loop -/

/-- The first look at the root makes no difference. -/
lemma replaceLoop_visible {c : UInt16} (hc : isFilter c = false) (start : Bool)
    (src : List UInt16) :
    replaceLoop trie start 0 (c :: src) =
      match nodeHaveWord trie trie.root (c :: src) with
      | some stop => star :: replaceLoop trie false stop src
      | none => c :: replaceLoop trie false 0 src := by
  rw [replaceLoop, hc, if_neg Bool.false_ne_true]
  split_ifs with hchild
  · rfl
  · have hnone : nodeHaveWord trie trie.root (c :: src) = none := by
      rw [Option.not_isSome_iff_eq_none] at hchild
      rw [nodeHaveWord, hc, Bool.false_and, if_neg Bool.false_ne_true, hchild]
    rw [hnone]

/-- What is seen first in the result, up to a star, is what is seen first in the text. -/
lemma prefix_of_replaceLoop {start : Bool} {src rest : List UInt16}
    (hrest : rest <+: visible (replaceLoop trie start 0 src)) (hstar : star ∉ rest) :
    rest <+: visible src := by
  induction src generalizing start rest with
  | nil =>
    rw [replaceLoop] at hrest
    exact hrest
  | cons c src ih =>
    cases hc : isFilter c with
    | true =>
      rw [visible_cons_of_isFilter hc]
      rw [replaceLoop, hc, if_pos rfl] at hrest
      split_ifs at hrest
      · exact ih hrest hstar
      · rw [visible_cons_of_isFilter hc] at hrest
        exact ih hrest hstar
    | false =>
      rw [visible_cons_of_not hc]
      rw [replaceLoop_visible hc] at hrest
      cases rest with
      | nil => exact List.nil_prefix
      | cons d rest =>
        rw [List.mem_cons, not_or] at hstar
        cases hword : nodeHaveWord trie trie.root (c :: src) with
        | some stop =>
          rw [hword, visible_cons_of_not (by decide), List.cons_prefix_cons] at hrest
          exact absurd hrest.1.symm hstar.1
        | none =>
          rw [hword, visible_cons_of_not hc, List.cons_prefix_cons] at hrest
          exact List.cons_prefix_cons.mpr ⟨hrest.1, ih hrest.2 hstar.2⟩

include hholds hwords in
/-- **The loop leaves no word.**

**Proof sketch.** Induction on the text. A word in the result that begins with the next character
would be seen in the text as well, as there are no stars in it, and would have been found. -/
lemma not_occurs_replaceLoop (start : Bool) (skip : ℕ) (src : List UInt16) :
    ¬Occurs words (replaceLoop trie start skip src) := by
  induction src generalizing start skip with
  | nil =>
    rintro ⟨word, hword, hinfix⟩
    rw [replaceLoop] at hinfix
    exact (hwords word hword).1 (List.infix_nil.mp hinfix)
  | cons c src ih =>
    cases skip with
    | succ skip => exact ih start skip
    | zero =>
      cases hc : isFilter c with
      | true =>
        rw [replaceLoop, hc, if_pos rfl]
        split_ifs
        · exact ih start 0
        · rw [Occurs, visible_cons_of_isFilter hc]
          exact ih start 0
      | false =>
        rintro ⟨word, hword, hinfix⟩
        have hstar : star ∉ word := fun hmem => ((hwords word hword).2 star hmem).2 rfl
        cases hfound : nodeHaveWord trie trie.root (c :: src) with
        | some stop =>
          rw [replaceLoop_visible hc, hfound, visible_cons_of_not (by decide)] at hinfix
          obtain hbegins | hinfix := List.infix_cons_iff.mp hinfix
          · obtain ⟨d, rest, rfl⟩ := List.exists_cons_of_ne_nil (hwords word hword).1
            obtain ⟨rfl, -⟩ := List.cons_prefix_cons.mp hbegins
            exact hstar List.mem_cons_self
          · exact ih false stop ⟨word, hword, hinfix⟩
        | none =>
          have hnone : ¬∃ word ∈ words, word <+: visible (c :: src) := by
            rw [← isSome_nodeHaveWord_root_iff hholds hwords, hfound]
            exact Bool.false_ne_true
          have hloop : replaceLoop trie start 0 (c :: src) = c :: replaceLoop trie false 0 src := by
            rw [replaceLoop_visible hc, hfound]
          rw [hloop, visible_cons_of_not hc] at hinfix
          obtain hbegins | hinfix := List.infix_cons_iff.mp hinfix
          · rw [← visible_cons_of_not hc, ← hloop] at hbegins
            exact hnone ⟨word, hword, prefix_of_replaceLoop hbegins hstar⟩
          · exact ih false 0 ⟨word, hword, hinfix⟩

include hholds hwords in
/-- A text without words is kept, but for the blanks at the beginning. -/
lemma replaceLoop_of_not_occurs {src : List UInt16} (h : ¬Occurs words src) (start : Bool) :
    replaceLoop trie start 0 src = if start then src.dropWhile isFilter else src := by
  induction src generalizing start with
  | nil => cases start <;> rfl
  | cons c src ih =>
    have hsrc : ¬Occurs words src := by
      rintro ⟨word, hword, hinfix⟩
      have hsuffix : visible src <:+ visible (c :: src) := (List.suffix_cons c src).filter _
      exact h ⟨word, hword, hinfix.trans hsuffix.isInfix⟩
    cases hc : isFilter c with
    | true =>
      rw [replaceLoop, hc, if_pos rfl, ih hsrc, List.dropWhile_cons_of_pos hc]
      cases start <;> rfl
    | false =>
      have hnone : nodeHaveWord trie trie.root (c :: src) = none := by
        rw [← Option.not_isSome_iff_eq_none, isSome_nodeHaveWord_root_iff hholds hwords]
        rintro ⟨word, hword, hbegins⟩
        exact h ⟨word, hword, hbegins.isInfix⟩
      rw [replaceLoop_visible hc, hnone, ih hsrc, List.dropWhile_cons_of_neg (by simp [hc])]
      cases start <;> rfl

end Holds

/-- **The result has no dirty word**, also when blanks are skipped, and a text that has none is only
trimmed. -/
theorem replaceDirtyWords_clean {trie : Trie Node} {words : List (List UInt16)}
    (hholds : trie.Holds words) (hwords : ∀ word ∈ words, Word word) (src : List UInt16) :
    ¬Occurs words (replaceDirtyWords trie src) ∧
      (¬Occurs words src → replaceDirtyWords trie src = trim src) := by
  constructor
  · rw [replaceDirtyWords, Occurs, visible_trim]
    exact not_occurs_replaceLoop hholds hwords true 0 src
  · intro hsrc
    rw [replaceDirtyWords, replaceLoop_of_not_occurs hholds hwords hsrc, if_pos rfl,
      trim_dropWhile]

/-! ## A trie -/

/-- The trie of some words, whose nodes are the beginnings of the words. -/
def Trie.ofWords (words : List (List UInt16)) : Trie (List UInt16) where
  root := []
  getChildNode path key :=
    if words.any (fun word => (path ++ [key]).isPrefixOf word) then some (path ++ [key]) else none
  terminable path := words.contains path

/-- A beginning of a word is its own node. -/
lemma Trie.node_ofWords (words : List (List UInt16)) (path : List UInt16) :
    (ofWords words).node path =
      if path = [] ∨ ∃ word ∈ words, path <+: word then some path else none := by
  induction path using List.reverseRecOn with
  | nil => rfl
  | append_singleton path c ih =>
    rw [Trie.node_concat, ih]
    have hne : path ++ [c] ≠ [] := by simp
    by_cases hlong : ∃ word ∈ words, path ++ [c] <+: word
    · have hshort : path = [] ∨ ∃ word ∈ words, path <+: word := by
        obtain ⟨word, hword, hbegins⟩ := hlong
        exact .inr ⟨word, hword, (List.prefix_append path [c]).trans hbegins⟩
      rw [if_pos hshort, if_pos (.inr hlong)]
      simp only [Option.bind_some, ofWords, List.any_eq_true, List.isPrefixOf_iff_prefix]
      exact if_pos hlong
    · rw [if_neg (not_or.mpr ⟨hne, hlong⟩)]
      split_ifs
      · simp only [Option.bind_some, ofWords, List.any_eq_true, List.isPrefixOf_iff_prefix]
        exact if_neg hlong
      · rfl

/-- It holds the words. -/
lemma Trie.holds_ofWords (words : List (List UInt16)) : (ofWords words).Holds words where
  node_iff path := by
    rw [node_ofWords]
    split_ifs with h
    · exact iff_of_true rfl h
    · exact iff_of_false (by simp) h
  terminable_iff path node hnode := by
    rw [node_ofWords] at hnode
    split_ifs at hnode
    obtain rfl := Option.some.inj hnode
    simp [ofWords]

/-- The words `ab` and `bc`. -/
def abBc : List (List UInt16) := [[97, 98], [98, 99]]

/-- In `ca b c` there is `ab`, over a blank. -/
theorem replaceDirtyWords_caBC :
    ¬Occurs abBc (replaceDirtyWords (.ofWords abBc) [99, 97, 32, 98, 32, 99]) :=
  (replaceDirtyWords_clean (Trie.holds_ofWords abBc) (by decide) [99, 97, 32, 98, 32, 99]).1

end SrgpGame.Cache
