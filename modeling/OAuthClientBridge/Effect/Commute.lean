import Mathlib.Data.List.Basic
import Mathlib.Tactic.Choose
import OAuthClientBridge.Effect.Pool

/-!
# Taking the runs of a pool apart

A run of a pool is a history: events in the order in which the world answered them, each with the
thread it belongs to. Only the world depends on that order. So where the events of a thread commute
with those of the others, the thread may as well run alone, before all others.
-/

namespace Effect
open Program

variable {S : Signature} {ε α W ι : Type} {env : Environment S W}

/-- What `e` and then `f` do to the world, `f` and then `e` do as well. -/
def Swaps (env : Environment S W) (e f : Event S) : Prop :=
  ∀ w m w', env w e m → env m f w' → ∃ m', env w f m' ∧ env m' e w'

theorem follows_past {e : Event S} {t : Trace S} {w m w' : W} (swaps : ∀ f ∈ t, Swaps env e f) (now : env w e m)
    (follows : Follows env m t w') : ∃ m', Follows env w t m' ∧ env m' e w' := by
  induction follows generalizing w with
  | nil m => exact ⟨w, .nil w, now⟩
  | @cons m m₁ w' f t answered _ ih =>
    obtain ⟨between, first, second⟩ := swaps f List.mem_cons_self _ _ _ now answered
    obtain ⟨m', before, last⟩ := ih (fun g later => swaps g (List.mem_cons_of_mem f later)) second
    exact ⟨m', .cons first before, last⟩

theorem Program.reaches_nil {p q : Program S ε α} (steps : Reaches p [] q) : q = p := by
  cases steps
  rfl

theorem Program.reaches_append {p q : Program S ε α} {t u : Trace S} (steps : Reaches p (t ++ u) q) :
    ∃ m, Reaches p t m ∧ Reaches m u q := by
  induction t generalizing p with
  | nil => exact ⟨p, .refl p, steps⟩
  | cons e t ih =>
    rcases steps with _ | rest
    obtain ⟨m, first, second⟩ := ih rest
    exact ⟨m, .step first, second⟩

namespace Pool

abbrev History (S : Signature) (ι : Type) := List (ι × Event S)

variable [DecidableEq ι] {c c' m : Config S ε α W ι} {h : History S ι} {i j : ι}

/-- The events of one thread. -/
def part (i : ι) (h : History S ι) : Trace S := (h.filter (·.1 = i)).map Prod.snd

theorem part_append (i : ι) (h k : History S ι) : part i (h ++ k) = part i h ++ part i k := by
  rw [part, List.filter_append, List.map_append]
  rfl

theorem part_cons_self (i : ι) (e : Event S) (h : History S ι) : part i ((i, e) :: h) = e :: part i h := by
  simp [part]

theorem part_cons_other (other : i ≠ j) (e : Event S) (h : History S ι) : part i ((j, e) :: h) = part i h := by
  simp [part, other.symm]

theorem mem_part {e : Event S} : e ∈ part i h ↔ (i, e) ∈ h := by
  simp [part]

/-- From `c` to `c'` the threads did what the history says. -/
structure Along (env : Environment S W) (c : Config S ε α W ι) (h : History S ι) (c' : Config S ε α W ι) : Prop where
  world : Follows env c.world (h.map Prod.snd) c'.world
  rest : ∀ i, Reaches (c.thread i).rest (part i h) (c'.thread i).rest
  done : ∀ i, (c'.thread i).done = (c.thread i).done ++ part i h

theorem Along.nil (along : Along env c [] c') : c' = c := by
  obtain ⟨world, rest, done⟩ := along
  obtain ⟨w, threads⟩ := c
  obtain ⟨w', threads'⟩ := c'
  have same : threads' = threads := by
    funext i
    have rest := reaches_nil (rest i)
    have done := done i
    rw [part, List.filter_nil, List.map_nil, List.append_nil] at done
    cases at_i : threads i
    cases at_i' : threads' i
    simp_all
  rw [same]
  cases world
  rfl

theorem Along.refl (c : Config S ε α W ι) : Along env c [] c where
  world := .nil c.world
  rest _ := .refl _
  done _ := (List.append_nil _).symm

theorem Along.snoc (along : Along env c h m) (step : Step env m c') : ∃ x, Along env c (h ++ [x]) c' := by
  obtain ⟨i, ready, now⟩ := step
  rename_i o next answer w
  refine ⟨(i, ⟨o, answer⟩), ?_, fun j => ?_, fun j => ?_⟩
  · rw [List.map_append]
    exact follows_append.mpr ⟨_, along.world, .cons now (.nil _)⟩
  · rw [part_append]
    by_cases same : j = i
    · subst same
      have steps := along.rest j
      rw [ready] at steps
      simpa [Config.advance, part] using steps.snoc answer
    · rw [part_cons_other same]
      simpa [Config.advance, same, part] using along.rest j
  · rw [part_append]
    by_cases same : j = i
    · subst same
      simp [Config.advance, part, along.done j]
    · rw [part_cons_other same]
      simpa [Config.advance, same, part] using along.done j

theorem reachable_along (h : Reachable env c c') : ∃ h, Along env c h c' := by
  induction h with
  | refl => exact ⟨[], .refl c⟩
  | tail _ step ih =>
    obtain ⟨h, along⟩ := ih
    obtain ⟨x, along⟩ := along.snoc step
    exact ⟨h ++ [x], along⟩

theorem Along.reachable (along : Along env c h c') : Reachable env c c' := by
  induction h generalizing c with
  | nil =>
    rw [along.nil]
  | cons x h ih =>
    obtain ⟨i, e⟩ := x
    obtain ⟨world, rest, done⟩ := along
    rcases world with _ | ⟨now, later⟩
    rename_i w
    have first := rest i
    rw [part_cons_self] at first
    generalize ready : (c.thread i).rest = p at first
    rcases first with _ | onward
    rename_i o next answer
    refine .head (.thread i ready now) (ih ⟨later, fun j => ?_, fun j => ?_⟩)
    · by_cases same : j = i
      · subst same
        simpa [Config.advance] using onward
      · have other := rest j
        rw [part_cons_other same] at other
        simpa [Config.advance, same] using other
    · by_cases same : j = i
      · subst same
        have own := done j
        rw [part_cons_self] at own
        simpa [Config.advance] using own
      · have other := done j
        rw [part_cons_other same] at other
        simpa [Config.advance, same] using other

theorem Along.split {k : History S ι} (along : Along env c (h ++ k) c') :
    ∃ m, Along env c h m ∧ Along env m k c' := by
  obtain ⟨world, rest, done⟩ := along
  rw [List.map_append] at world
  obtain ⟨w, before, after⟩ := follows_append.mp world
  have halves : ∀ i, ∃ q, Reaches (c.thread i).rest (part i h) q ∧ Reaches q (part i k) (c'.thread i).rest := by
    intro i
    have steps := rest i
    rw [part_append] at steps
    exact reaches_append steps
  choose q first second using halves
  refine ⟨⟨w, fun i => ⟨(c.thread i).done ++ part i h, q i⟩⟩, ⟨before, first, fun _ => rfl⟩, after, second, fun i => ?_⟩
  rw [done i, part_append, List.append_assoc]

theorem part_own (own : ∀ x ∈ h, x.1 = i) : part i h = h.map Prod.snd := by
  rw [part, List.filter_eq_self.mpr fun x member => decide_eq_true (own x member)]

theorem part_foreign (foreign : ∀ x ∈ h, x.1 ≠ i) : part i h = [] := by
  rw [part, List.filter_eq_nil_iff.mpr fun x member => by simpa using foreign x member, List.map_nil]

theorem Along.idle (along : Along env c h c') (foreign : ∀ x ∈ h, x.1 ≠ i) : c'.thread i = c.thread i := by
  have rest := along.rest i
  have done := along.done i
  rw [part_foreign foreign] at rest done
  rw [List.append_nil] at done
  have rest := reaches_nil rest
  cases at_i : c.thread i
  cases at_i' : c'.thread i
  simp_all

/-- Along a history of one thread, that thread runs alone. -/
theorem Along.alone (along : Along env c h c') (own : ∀ x ∈ h, x.1 = i) :
    Follows env c.world (part i h) c'.world ∧ c' = c.advance i c'.world (part i h) (c'.thread i).rest := by
  have world := along.world
  rw [← part_own own] at world
  have threads : c'.thread = Function.update c.thread i ⟨(c.thread i).done ++ part i h, (c'.thread i).rest⟩ := by
    funext j
    by_cases same : j = i
    · subst same
      rw [Function.update_self, ← along.done j]
    · rw [Function.update_of_ne same]
      apply along.idle
      intro x member thread
      exact same (thread.symm.trans (own x member))
  refine ⟨world, ?_⟩
  obtain ⟨w, thread⟩ := c'
  exact congrArg (Config.mk w) threads

/-! ### Threads that commute with the others -/

/-- The events of a thread can be brought to the front, past those of the others that they come after. -/
theorem follows_front {w w' : W} (swaps : h.Pairwise fun x y => x.1 ≠ i → y.1 = i → Swaps env x.2 y.2)
    (follows : Follows env w (h.map Prod.snd) w') :
    Follows env w ((h.filter (·.1 = i) ++ h.filter (·.1 ≠ i)).map Prod.snd) w' := by
  induction h generalizing w with
  | nil => exact follows
  | cons x h ih =>
    obtain ⟨before, swaps⟩ := List.pairwise_cons.mp swaps
    rcases follows with _ | ⟨now, later⟩
    have later := ih swaps later
    by_cases own : x.1 = i
    · simpa [own] using Follows.cons now later
    · rw [List.map_append] at later
      obtain ⟨m, front, back⟩ := follows_append.mp later
      have past : ∀ f ∈ (h.filter (·.1 = i)).map Prod.snd, Swaps env x.2 f := by
        intro f member
        obtain ⟨y, inside, rfl⟩ := List.mem_map.mp member
        obtain ⟨inside, thread⟩ := List.mem_filter.mp inside
        exact before y inside own (of_decide_eq_true thread)
      obtain ⟨m', front, now⟩ := follows_past past now front
      simpa [own] using follows_append.mpr ⟨m', front, Follows.cons now back⟩

/-- The threads of the list run one after the other, each as far as it gets before the next one begins. -/
inductive InTurn (env : Environment S W) : List ι → Config S ε α W ι → Config S ε α W ι → Prop where
  | nil (c : Config S ε α W ι) : InTurn env [] c c
  | cons {i : ι} {is : List ι} {c c' : Config S ε α W ι} {t : Trace S} {q : Program S ε α} {w : W}
      (steps : Reaches (c.thread i).rest t q) (follows : Follows env c.world t w)
      (rest : InTurn env is (c.advance i w t q) c') : InTurn env (i :: is) c c'

theorem InTurn.idle {order : List ι} {i : ι} (turns : InTurn env order c c') (outside : i ∉ order) : c'.thread i = c.thread i := by
  induction turns with
  | nil => rfl
  | cons _ _ _ ih =>
    rw [ih fun later => outside (List.mem_cons_of_mem _ later)]
    refine Function.update_of_ne (fun same => outside ?_) _ _
    rw [same]
    exact List.mem_cons_self

theorem part_filter {p : ι × Event S → Bool} (all : ∀ e, p (i, e) = true) : part i (h.filter p) = part i h := by
  rw [part, List.filter_filter, part]
  congr 1
  apply List.filter_congr
  intro x _
  by_cases own : x.1 = i
  · subst own
    simpa using all x.2
  · simp [own]

theorem part_front (j : ι) : part j (h.filter (·.1 = i) ++ h.filter (·.1 ≠ i)) = part j h := by
  rw [part_append]
  by_cases same : j = i
  · subst same
    rw [part_filter (by simp), part_foreign (h := h.filter _) (by simp), List.append_nil]
  · rw [part_filter (p := fun x => decide (x.1 ≠ i)) fun _ => decide_eq_true same, part_foreign (h := h.filter _), List.nil_append]
    intro x member thread
    exact same (thread.symm.trans (of_decide_eq_true (List.mem_filter.mp member).2))

/-- Of two events that do not commute, and of which the later one is of a thread in the list, the earlier one is of a
thread before it in the list. -/
def Agrees (env : Environment S W) (order : List ι) (h : History S ι) : Prop :=
  h.Pairwise fun x y => x.1 ≠ y.1 → y.1 ∈ order → Swaps env x.2 y.2 ∨ order.idxOf x.1 < order.idxOf y.1

theorem Agrees.front {order : List ι} (agrees : Agrees env (i :: order) h) :
    h.Pairwise fun x y => x.1 ≠ i → y.1 = i → Swaps env x.2 y.2 := by
  apply List.Pairwise.imp _ agrees
  intro x y swaps other own
  rcases swaps (own ▸ other) (own ▸ List.mem_cons_self) with swaps | earlier
  · exact swaps
  · rw [own, List.idxOf_cons_self] at earlier
    omega

theorem Agrees.rest {order : List ι} (agrees : Agrees env (i :: order) h) : Agrees env order (h.filter (·.1 ≠ i)) := by
  apply List.pairwise_filter.mpr
  apply List.Pairwise.imp _ agrees
  intro x y swaps first second other member
  rcases swaps other (List.mem_cons_of_mem i member) with swaps | earlier
  · exact .inl swaps
  · right
    rw [List.idxOf_cons_ne _ (Ne.symm (of_decide_eq_true first)), List.idxOf_cons_ne _ (Ne.symm (of_decide_eq_true second))] at earlier
    omega

/-- Threads can be run first, one after the other, in an order that their conflicts agree with. -/
theorem Along.inTurn {order : List ι} (along : Along env c h c') (distinct : order.Nodup) (agrees : Agrees env order h) :
    ∃ m, InTurn env order c m ∧ Along env m (h.filter (·.1 ∉ order)) c' := by
  induction order generalizing c h with
  | nil =>
    have all : h.filter (·.1 ∉ ([] : List ι)) = h := by simp
    exact ⟨c, .nil c, by rwa [all]⟩
  | cons i order ih =>
    obtain ⟨fresh, distinct⟩ := List.nodup_cons.mp distinct
    have front : Along env c (h.filter (·.1 = i) ++ h.filter (·.1 ≠ i)) c' := by
      refine ⟨follows_front agrees.front along.world, fun j => ?_, fun j => ?_⟩
      · rw [part_front]
        exact along.rest j
      · rw [part_front]
        exact along.done j
    obtain ⟨m, first, later⟩ := front.split
    obtain ⟨follows, alone⟩ := first.alone (i := i) fun x member => of_decide_eq_true (List.mem_filter.mp member).2
    obtain ⟨m', turns, rest⟩ := ih later distinct agrees.rest
    have left : (h.filter (·.1 ≠ i)).filter (·.1 ∉ order) = h.filter (·.1 ∉ i :: order) := by
      rw [List.filter_filter]
      apply List.filter_congr
      intro x _
      simp [Bool.and_comm]
    rw [left] at rest
    exact ⟨m', .cons (first.rest i) follows (alone ▸ turns), rest⟩

/-- Conflict serializability: where the conflicts agree with an order of all threads, these might have run in that order. -/
theorem Along.serial {order : List ι} (along : Along env c h c') (distinct : order.Nodup) (agrees : Agrees env order h)
    (all : ∀ x ∈ h, x.1 ∈ order) : InTurn env order c c' := by
  obtain ⟨m, turns, rest⟩ := along.inTurn distinct agrees
  have none : h.filter (·.1 ∉ order) = [] := by
    apply List.filter_eq_nil_iff.mpr
    intro x inside outside
    exact of_decide_eq_true outside (all x inside)
  rw [none] at rest
  rwa [← rest.nil] at turns

/-- Serializability: threads whose events commute with those of all others might as well have run first,
one after the other. When no other thread did anything, their turns are the whole run. -/
theorem serializable {programs : ι → Program S ε α} {w₀ : W} {order : List ι}
    (reachable : Reachable env (start w₀ programs) c) (distinct : order.Nodup)
    (independent : ∀ i ∈ order, ∀ j, j ≠ i → ∀ e ∈ (c.thread i).done, ∀ f ∈ (c.thread j).done, Swaps env f e) :
    ∃ m, InTurn env order (start w₀ programs) m ∧ Reachable env m c ∧ (∀ i ∈ order, m.thread i = c.thread i) ∧
      ((∀ i, i ∉ order → (c.thread i).done = []) → m = c) := by
  obtain ⟨h, along⟩ := reachable_along reachable
  have done : ∀ i, (c.thread i).done = part i h := along.done
  obtain ⟨m, turns, rest⟩ := along.inTurn distinct (List.pairwise_of_forall_mem_list fun x inside y inside' other member =>
    .inl (independent y.1 member x.1 other y.2 (done y.1 ▸ mem_part.mpr inside') x.2 (done x.1 ▸ mem_part.mpr inside)))
  refine ⟨m, turns, rest.reachable, fun i member => ?_, fun idle => ?_⟩
  · apply Eq.symm
    apply rest.idle
    intro x inside thread
    exact of_decide_eq_true (List.mem_filter.mp inside).2 (thread ▸ member)
  · have none : h.filter (·.1 ∉ order) = [] := by
      apply List.filter_eq_nil_iff.mpr
      intro x inside outside
      have acted : x.2 ∈ (c.thread x.1).done := done x.1 ▸ mem_part.mpr inside
      rw [idle x.1 (of_decide_eq_true outside)] at acted
      cases acted
    rw [none] at rest
    exact rest.nil.symm

end Pool
end Effect
