import Mathlib.Data.List.Sort
import Mathlib.Data.List.Lex
import Mathlib.Data.Char
import Mathlib.Data.List.Forall2

/-! # Go strings

The command factory splits, joins and compares strings only at the ASCII characters `,`, `:` and
`=`, where splitting the bytes of a Go string and splitting its characters agree; so a string is
modelled by the list of its characters. `strings.Split(s, sep)` with a one-character separator is
`split sep s` (Batteries' `List.splitOn`): the pieces between the separators, always at least one
(`strings.Split("", ",")` is `[""]`). `strings.Join` is `List.intercalate`. `sort.Strings` orders by
bytes, which on UTF-8 text is the lexicographic order of the characters; the order is total, so the
sorted list does not depend on the algorithm that sorts it.

* `split_eq`: the first piece is the text `before` the first separator, and the others are the pieces
  of the text `after` it;
* `split_intercalate`: splitting the join of pieces without the separator gives the pieces back;
* `not_mem_of_mem_split`: no piece holds the separator. -/

namespace LatticeLtc.Go.Strings

/-- A Go string, as its characters. -/
abbrev Str := List Char

/-- `strings.Split(s, string(sep))`. -/
def split (sep : Char) (s : Str) : List Str := s.splitOn sep

/-- `strings.Join(elems, sep)`. -/
def join (elems : List Str) (sep : Str) : Str := sep.intercalate elems

/-- `strings.HasPrefix(s, prefix)`. -/
def hasPrefix (s pre : Str) : Bool := pre.isPrefixOf s

/-- `sort.Strings(l)`. -/
def sortStrings (l : List Str) : List Str := l.insertionSort (· ≤ ·)

theorem length_sortStrings (l : List Str) : (sortStrings l).length = l.length :=
  List.length_insertionSort _ _

/-- Sorting gives one list for all orders of the strings. -/
theorem sortStrings_eq_of_perm {l₁ l₂ : List Str} (h : l₁.Perm l₂) : sortStrings l₁ = sortStrings l₂ :=
  List.eq_of_perm_of_sorted ((List.perm_insertionSort _ l₁).trans (h.trans (List.perm_insertionSort _ l₂).symm))
    (List.sorted_insertionSort _ l₁) (List.sorted_insertionSort _ l₂)

/-- The text before the first `sep`, all of `s` if there is none. -/
def before (sep : Char) (s : Str) : Str := s.takeWhile (· != sep)

/-- The text after the first `sep`, empty if there is none. -/
def after (sep : Char) (s : Str) : Str := (s.dropWhile (· != sep)).drop 1

variable (sep : Char)

@[simp] theorem split_nil : split sep [] = [[]] := rfl

theorem split_ne_nil (s : Str) : split sep s ≠ [] := List.splitOnP_ne_nil _ s

theorem not_mem_before (s : Str) : sep ∉ before sep s := fun h => by
  simpa using List.mem_takeWhile_imp h

/-- A string with a separator is the text before it, the separator and the text after it. -/
theorem eq_before_append_after {s : Str} (h : sep ∈ s) : s = before sep s ++ sep :: after sep s := by
  induction s with
  | nil => cases h
  | cons c s ih =>
    by_cases hc : c = sep
    · subst hc; simp [before, after]
    · have h' : sep ∈ s := by simpa [Ne.symm hc] using h
      simpa [before, after, hc] using ih h'

theorem before_of_not_mem {s : Str} (h : sep ∉ s) : before sep s = s :=
  List.takeWhile_eq_self_iff.mpr fun c hc => by simpa using ne_of_mem_of_not_mem hc h

/-- **The pieces of a string**: the text before the first separator, then the pieces of the rest. -/
theorem split_eq (s : Str) :
    split sep s = before sep s :: if sep ∈ s then split sep (after sep s) else [] := by
  by_cases h : sep ∈ s
  · rw [if_pos h]
    conv_lhs => rw [eq_before_append_after sep h]
    exact List.splitOnP_first _ _ (fun c hc => by
      simpa using ne_of_mem_of_not_mem hc (not_mem_before sep s)) sep (by simp) _
  · rw [if_neg h, before_of_not_mem sep h]
    exact List.splitOnP_eq_single _ _ fun c hc => by simpa using ne_of_mem_of_not_mem hc h

theorem split_of_not_mem {s : Str} (h : sep ∉ s) : split sep s = [s] := by
  rw [split_eq, if_neg h, before_of_not_mem sep h]

theorem split_append_cons {p : Str} (h : sep ∉ p) (r : Str) :
    split sep (p ++ sep :: r) = p :: split sep r :=
  List.splitOnP_first _ _ (fun c hc => by simpa using ne_of_mem_of_not_mem hc h) sep (by simp) r

theorem length_after_lt {s : Str} (h : sep ∈ s) : (after sep s).length < s.length := by
  have := congrArg List.length (eq_before_append_after sep h)
  simp only [List.length_append, List.length_cons] at this
  omega

theorem not_mem_of_mem_split {s p : Str} (hp : p ∈ split sep s) : sep ∉ p := by
  induction' hn : s.length using Nat.strong_induction_on with n ih generalizing s
  rw [split_eq] at hp
  rcases List.mem_cons.mp hp with rfl | hp
  · exact not_mem_before sep _
  · split_ifs at hp with h
    · exact ih _ (hn ▸ length_after_lt sep h) hp rfl
    · cases hp

theorem subset_of_mem_split {s p : Str} (hp : p ∈ split sep s) : p ⊆ s := by
  induction' hn : s.length using Nat.strong_induction_on with n ih generalizing s
  rw [split_eq] at hp
  rcases List.mem_cons.mp hp with rfl | hp
  · exact (List.takeWhile_sublist _).subset
  · split_ifs at hp with h
    · intro c hc
      rw [eq_before_append_after sep h]
      simp [ih _ (hn ▸ length_after_lt sep h) hp rfl hc]
    · cases hp

/-- `strings.Split(s, sep)[0]`. -/
theorem split_getD_zero (s : Str) : (split sep s).getD 0 [] = before sep s := by
  rw [split_eq]; rfl

/-- `strings.Split(s, sep)[1]`, where it exists: the text between the first and the second `sep`. -/
theorem split_getElem?_one (s : Str) :
    (split sep s)[1]? = if sep ∈ s then some (before sep (after sep s)) else none := by
  rw [split_eq]
  split_ifs
  · rw [split_eq]; simp
  · rfl

theorem split_intercalate {ps : List Str} (hne : ps ≠ []) (h : ∀ p ∈ ps, sep ∉ p) :
    split sep ([sep].intercalate ps) = ps :=
  List.splitOn_intercalate ps sep h hne

/-! ### Lists -/

/-- A map that succeeds on every element relates each element to its image. -/
theorem forall₂_filterMap {α β : Type} {f : α → Option β} :
    ∀ {l : List α}, (∀ a ∈ l, f a ≠ none) → List.Forall₂ (fun a b => f a = some b) l (l.filterMap f)
  | [], _ => .nil
  | a :: l, h => by
    obtain ⟨b, hb⟩ := Option.ne_none_iff_exists'.mp (h a (by simp))
    rw [List.filterMap_cons, hb]
    exact .cons hb (forall₂_filterMap fun x hx => h x (by simp [hx]))

end LatticeLtc.Go.Strings
