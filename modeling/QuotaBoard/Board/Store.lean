import QuotaBoard.Antigravity.Quota
import QuotaBoard.Board.Pass
import QuotaBoard.Codex.Quota
import QuotaBoard.GeminiCli.Quota

/-!
# The states of all providers
-/

namespace QuotaBoard

/-- What is known of a credential of a provider once it was fetched. -/
abbrev Provider.Quota : Provider → Type
  | .antigravity => Antigravity.Quota
  | .codex => Codex.Quota
  | .geminiCli => GeminiCli.Quota

/-- One slot for each provider. -/
structure Store where
  antigravity : Slot Antigravity.Quota := ∅
  codex : Slot Codex.Quota := ∅
  geminiCli : Slot GeminiCli.Quota := ∅

namespace Store

/-- The store in which nothing was fetched. -/
def empty : Store := {}

/-- The slot of a provider. -/
def slot (s : Store) : (p : Provider) → Slot p.Quota
  | .antigravity => s.antigravity
  | .codex => s.codex
  | .geminiCli => s.geminiCli

/-- The store with another slot for a provider. -/
def setSlot (s : Store) : (p : Provider) → Slot p.Quota → Store
  | .antigravity, slot => { s with antigravity := slot }
  | .codex, slot => { s with codex := slot }
  | .geminiCli, slot => { s with geminiCli := slot }

@[simp] theorem slot_setSlot_self (s : Store) (p : Provider) (slot : Slot p.Quota) :
    (s.setSlot p slot).slot p = slot := by
  cases p <;> rfl

theorem slot_setSlot_of_ne (s : Store) {p q : Provider} (h : p ≠ q) (slot : Slot q.Quota) :
    (s.setSlot q slot).slot p = s.slot p := by
  cases p <;> cases q <;> first | rfl | exact absurd rfl h

@[simp] theorem setSlot_slot (s : Store) (p : Provider) : s.setSlot p (s.slot p) = s := by
  cases p <;> rfl

@[simp] theorem setSlot_setSlot (s : Store) (p : Provider) (slot slot' : Slot p.Quota) :
    (s.setSlot p slot).setSlot p slot' = s.setSlot p slot' := by
  cases p <;> rfl

/-- A store is its slots. -/
theorem ext_slot {s s' : Store} (h : ∀ p, s.slot p = s'.slot p) : s = s' := by
  obtain ⟨antigravity, codex, geminiCli⟩ := s
  obtain rfl : antigravity = s'.antigravity := h .antigravity
  obtain rfl : codex = s'.codex := h .codex
  obtain rfl : geminiCli = s'.geminiCli := h .geminiCli
  rfl

@[simp] theorem slot_empty (p : Provider) : empty.slot p = ∅ := by
  cases p <;> rfl

/-- The store as a value. -/
def toJson (s : Store) : Json :=
  .object [("antigravity", s.antigravity.toJson Antigravity.Quota.toJson),
    ("codex", s.codex.toJson Codex.Quota.toJson),
    ("gemini_cli", s.geminiCli.toJson GeminiCli.Quota.toJson)]

end Store

end QuotaBoard
