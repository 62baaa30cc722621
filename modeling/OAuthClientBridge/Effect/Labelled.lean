/-!
# Labelled transition systems

A system steps from state to state, and a step may show an event. A run is read as the list of
the events that it showed.
-/

namespace Effect
namespace Labelled
variable {S E : Type}

inductive Run (step : S → Option E → S → Prop) (s : S) : List E → S → Prop where
  | refl : Run step s [] s
  | tail {t : List E} {s₁ s₂ : S} {e : Option E} (before : Run step s t s₁) (now : step s₁ e s₂) :
      Run step s (t ++ e.toList) s₂

variable {step : S → Option E → S → Prop} {s s₁ s₂ : S} {t u : List E}

/-- The invariant rule: what every step preserves, along with what it shows, holds after every run. -/
theorem Run.invariant {I : S → List E → Prop} (initially : I s [])
    (preserved : ∀ s₁ t e s₂, I s₁ t → step s₁ e s₂ → I s₂ (t ++ e.toList)) (run : Run step s t s₁) : I s₁ t := by
  induction run with
  | refl => exact initially
  | tail _ now ih => exact preserved _ _ _ _ ih now

theorem Run.split {e : E} (run : Run step s (t ++ e :: u) s₂) :
    ∃ m m', Run step s t m ∧ step m (some e) m' ∧ Run step m' u s₂ := by
  generalize shown : t ++ e :: u = v at run
  induction run generalizing u with
  | refl => simp at shown
  | @tail v s₁ s₂ o before now ih =>
    cases o with
    | none =>
      obtain ⟨m, m', first, shows, rest⟩ := ih (shown.trans (List.append_nil v))
      refine ⟨m, m', first, shows, ?_⟩
      simpa using rest.tail now
    | some last =>
      rcases List.eq_nil_or_concat u with rfl | ⟨earlier, final, rfl⟩
      · obtain ⟨rfl, rfl⟩ : t = v ∧ e = last := by simpa using shown
        exact ⟨s₁, s₂, before, now, .refl⟩
      · have shown' : (t ++ e :: earlier) ++ [final] = v ++ [last] := by simpa using shown
        have same := (List.append_inj' shown' rfl).1
        obtain rfl : final = last := List.singleton_inj.mp (List.append_inj' shown' rfl).2
        obtain ⟨m, m', first, shows, rest⟩ := ih same
        refine ⟨m, m', first, shows, ?_⟩
        simpa using rest.tail now

end Labelled
end Effect
