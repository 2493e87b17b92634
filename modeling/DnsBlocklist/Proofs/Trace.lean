/-! Runs of a system that goes from state to state, with what happens at each step as a label. -/

namespace DnsBlocklist
set_option autoImplicit false

/-- After its first part a computation goes on from the state that this left. -/
theorem run_bind {σ α β : Type} {x : StateM σ α} {f : α → StateM σ β} {a : α} {s t : σ}
    (h : x.run s = (a, t)) : (x >>= f).run s = (f a).run t := by
  rw [StateT.run_bind, h]
  rfl

section

variable {S L : Type}

/-- The steps with these labels, one after the other, lead from one state to another. -/
inductive Trace (Step : S → L → S → Prop) : S → List L → S → Prop where
  | nil (s : S) : Trace Step s [] s
  | cons {s t u : S} {x : L} {xs : List L} :
      Step s x t → Trace Step t xs u → Trace Step s (x :: xs) u

namespace Trace

variable {Step : S → L → S → Prop} {s t u : S}

theorem single {x : L} (h : Step s x t) : Trace Step s [x] t := .cons h (.nil t)

theorem append {xs ys : List L} (hst : Trace Step s xs t) (htu : Trace Step t ys u) :
    Trace Step s (xs ++ ys) u := by
  induction hst with
  | nil => exact htu
  | cons hstep _ ih => exact .cons hstep (ih htu)

theorem exists_between {xs ys : List L} (h : Trace Step s (xs ++ ys) u) :
    ∃ t, Trace Step s xs t ∧ Trace Step t ys u := by
  induction xs generalizing s with
  | nil => exact ⟨s, .nil s, h⟩
  | cons x xs ih =>
    cases h with
    | cons hstep hrest =>
      obtain ⟨t, hst, htu⟩ := ih hrest
      exact ⟨t, .cons hstep hst, htu⟩

theorem mono {Step' : S → L → S → Prop} (hle : ∀ {s x t}, Step s x t → Step' s x t) {xs : List L}
    (h : Trace Step s xs t) : Trace Step' s xs t := by
  induction h with
  | nil s => exact .nil s
  | cons hstep _ ih => exact .cons (hle hstep) ih

/-- The states right before and right after a step within a run. -/
theorem exists_step {xs ys : List L} {x : L} (h : Trace Step s (xs ++ x :: ys) u) :
    ∃ t t', Trace Step s xs t ∧ Step t x t' ∧ Trace Step t' ys u := by
  obtain ⟨t, hst, htu⟩ := h.exists_between
  cases htu with
  | cons hstep hrest => exact ⟨t, _, hst, hstep, hrest⟩

/-- What every step keeps holds at the end of a run if it does at its start. -/
theorem invariant {P : S → Prop} (hkeep : ∀ {s x t}, Step s x t → P s → P t) {xs : List L}
    (h : Trace Step s xs t) (hs : P s) : P t := by
  induction h with
  | nil => exact hs
  | cons hstep _ ih => exact ih (hkeep hstep hs)

/-- What no step changes is the same at the end of a run. -/
theorem same {α : Type} {g : S → α} {xs : List L} (h : Trace Step s xs t)
    (hkeep : ∀ x ∈ xs, ∀ s t, Step s x t → g t = g s) : g t = g s := by
  induction h with
  | nil => rfl
  | cons hstep _ ih =>
    obtain ⟨hfirst, hrest⟩ := List.forall_mem_cons.mp hkeep
    rw [ih hrest, hfirst _ _ hstep]

/-- Where every step costs some of a potential, and those of one kind at least one each, there are no
more of that kind in a run than the potential at its start. -/
theorem add_countP_le {P : S → Prop} {Q : L → Prop} {p : L → Bool} {f : S → Nat}
    (hcost : ∀ {s x t}, Step s x t → Q x → P s →
      P t ∧ f t + (if p x then 1 else 0) ≤ f s)
    {xs : List L} (h : Trace Step s xs t) (hxs : ∀ x ∈ xs, Q x) (hs : P s) :
    P t ∧ f t + xs.countP p ≤ f s := by
  induction h with
  | nil => exact ⟨hs, Nat.le_refl _⟩
  | cons hstep _ ih =>
    obtain ⟨hx, hrest⟩ := List.forall_mem_cons.mp hxs
    obtain ⟨ht, hfirst⟩ := hcost hstep hx hs
    obtain ⟨hu, hlater⟩ := ih hrest ht
    refine ⟨hu, ?_⟩
    rw [List.countP_cons]
    omega

end Trace

end

end DnsBlocklist
