import Mathlib.Data.Rat.Init
import Mathlib.Algebra.Order.Ring.Unbundled.Rat
import Mathlib.Tactic.Linarith

/-! `utils/bucket.py`: a bounded bucket of tokens. Each method runs under the lock. -/

namespace OAuthClientBridge

structure Bucket where
  capacity : Int
  refillAmount : ℚ
  tokens : ℚ

namespace Bucket

def new (capacity : Int) (refillAmount : ℚ) : Bucket := ⟨capacity, refillAmount, capacity⟩

def add (b : Bucket) (tokens : ℚ) : Bucket := { b with tokens := min b.capacity (b.tokens + tokens) }

def consume (b : Bucket) (tokens : ℚ) : Bool × Bucket :=
  if b.tokens < tokens then (false, b) else (true, { b with tokens := b.tokens - tokens })

/-- The level is between nothing and the capacity. -/
def Level (b : Bucket) : Prop := 0 ≤ b.tokens ∧ b.tokens ≤ b.capacity

variable {b : Bucket} {tokens : ℚ}

theorem new_level {capacity : Int} (nonneg : 0 ≤ capacity) (refillAmount : ℚ) : (new capacity refillAmount).Level :=
  ⟨by simpa [new] using nonneg, by simp [new]⟩

theorem Level.add (level : b.Level) (refill : 0 ≤ tokens) : (b.add tokens).Level := by
  obtain ⟨nonneg, bound⟩ := level
  refine ⟨le_min ?_ ?_, min_le_left _ _⟩
  · exact nonneg.trans bound
  · linarith

theorem add_le (b : Bucket) (tokens : ℚ) : (b.add tokens).tokens ≤ b.tokens + tokens := min_le_right _ _

theorem consume_false (h : (b.consume tokens).1 = false) : (b.consume tokens).2 = b := by
  unfold consume at h ⊢
  split at h
  · rename_i short
    rw [if_pos short]
  · cases h

theorem consume_true (h : (b.consume tokens).1 = true) :
    tokens ≤ b.tokens ∧ (b.consume tokens).2 = { b with tokens := b.tokens - tokens } := by
  unfold consume at h ⊢
  split at h
  · cases h
  · rename_i enough
    rw [if_neg enough]
    exact ⟨not_lt.mp enough, rfl⟩

theorem Level.consume (level : b.Level) (cost : 0 ≤ tokens) : (b.consume tokens).2.Level := by
  obtain ⟨nonneg, bound⟩ := level
  cases granted : (b.consume tokens).1 with
  | false =>
    rw [consume_false granted]
    exact ⟨nonneg, bound⟩
  | true =>
    obtain ⟨enough, same⟩ := consume_true granted
    rw [same]
    constructor
    · show 0 ≤ b.tokens - tokens
      linarith
    · show b.tokens - tokens ≤ b.capacity
      linarith

@[simp] theorem add_capacity (b : Bucket) (tokens : ℚ) : (b.add tokens).capacity = b.capacity := rfl

@[simp] theorem consume_capacity (b : Bucket) (tokens : ℚ) : (b.consume tokens).2.capacity = b.capacity := by
  unfold consume
  split <;> rfl

end Bucket
end OAuthClientBridge
