import OAuthClientBridge.Effect.Pool

/-!
# Two worlds under one pool

A pool reaches over one environment what it reaches over another one that simulates it, operation for operation:
the threads do and are answered the same.
-/

namespace Effect

variable {S : Signature} {ε α W V ι : Type} {env : Environment S W} {env' : Environment S V} {R : W → V → Prop}

/-- From related worlds, every step of `env` that a program may take at an operation is one of `env'`. -/
def Simulates (env : Environment S W) (env' : Environment S V) (R : W → V → Prop) (may : S.Op → Prop) : Prop :=
  ∀ w v e w', R w v → may e.op → env w e w' → ∃ v', env' v e v' ∧ R w' v'

namespace Pool
variable [DecidableEq ι] {programs : ι → Program S ε α} {w : W} {v : V} {c : Config S ε α W ι}

theorem simulate {may : S.Op → Prop} (simulates : Simulates env env' R may) (related : R w v)
    (allowed : ∀ c : Config S ε α W ι, Reachable env (start w programs) c → ∀ i o next, (c.thread i).rest = .op o next → may o)
    (h : Reachable env (start w programs) c) :
    ∃ d, Reachable env' (start v programs) d ∧ R c.world d.world ∧ d.thread = c.thread := by
  induction h with
  | refl => exact ⟨_, .refl, related, rfl⟩
  | @tail c c' before step ih =>
    obtain ⟨d, reached, related, same⟩ := ih
    obtain ⟨i, ready, now⟩ := step
    rename_i o next answer w'
    obtain ⟨v', now', related'⟩ := simulates _ _ _ _ related (allowed c before i o next ready) now
    have ready' : (d.thread i).rest = .op o next := by rw [same, ready]
    refine ⟨_, reached.tail (.thread i ready' now'), related', ?_⟩
    simp only [Config.advance, same]

end Pool
end Effect
