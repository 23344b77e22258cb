import Mathlib.Data.List.Basic

/-!
# The first that is found

Facts about searching lists that belong to no one type: what is of a kind has a first one of that
kind (`exists_first`), and a search through a list that is put together from others is put together
from searches.
-/

namespace QuotaBoard

variable {α β γ : Type}

/-- Among some items of which one is of a kind there is a first one that is. -/
theorem exists_first {kind : α → Prop} {items : List α} (h : ∃ x ∈ items, kind x) :
    ∃ before x after, items = before ++ x :: after ∧ kind x ∧ ∀ y ∈ before, ¬ kind y := by
  classical
  have hsome : (items.find? (kind ·)).isSome = true := by simpa using h
  obtain ⟨x, hx⟩ := Option.isSome_iff_exists.mp hsome
  obtain ⟨hkind, before, after, hsplit, hbefore⟩ := List.find?_eq_some_iff_append.mp hx
  exact ⟨before, x, after, hsplit, of_decide_eq_true hkind,
    fun y hy => by simpa using hbefore y hy⟩

theorem findSome?_cons_eq_or (f : α → Option β) (x : α) (xs : List α) :
    (x :: xs).findSome? f = (f x).or (xs.findSome? f) := by
  rw [List.findSome?_cons]
  cases f x <;> rfl

theorem findSome?_filterMap (g : α → Option β) (f : β → Option γ) (xs : List α) :
    (xs.filterMap g).findSome? f = xs.findSome? fun x => (g x).bind f := by
  rw [← List.head?_filterMap, List.filterMap_filterMap, List.head?_filterMap]

theorem findSome?_flatMap (g : α → List β) (f : β → Option γ) (xs : List α) :
    (xs.flatMap g).findSome? f = xs.findSome? fun x => (g x).findSome? f := by
  induction xs with
  | nil => rfl
  | cons x xs ih => rw [List.flatMap_cons, List.findSome?_append, ih, findSome?_cons_eq_or]

end QuotaBoard
