import RowCast.Conversion.Row

/-!
# How composed steps run

What a composed step answers, what it reports and where it leaves its source, in terms of the
parts. A later part runs in the state that the earlier one left, and never after an error.
-/

namespace RowCast

/-- What is answered through a function is one of its values. -/
theorem Except.exists_of_map_ok {ε α β : Type} {f : α → β} {x : Except ε α} {b : β}
    (h : x.map f = .ok b) : ∃ a, x = .ok a ∧ b = f a := by
  cases x with
  | error e => cases h
  | ok a =>
    cases h
    exact ⟨a, rfl, rfl⟩

/-- What is answered in two parts is answered by both. -/
theorem Except.exists_of_bind_ok {ε α β : Type} {x : Except ε α} {f : α → Except ε β} {b : β}
    (h : x >>= f = .ok b) : ∃ a, x = .ok a ∧ f a = .ok b := by
  cases x with
  | error e => cases h
  | ok a => exact ⟨a, rfl, h⟩

/-- Renaming errors keeps what is answered. -/
theorem Except.mapError_eq_ok_iff {ε ε' α : Type} {f : ε → ε'} {x : Except ε α} {a : α} :
    x.mapError f = .ok a ↔ x = .ok a := by
  cases x with
  | error e =>
    constructor
    · intro h
      cases h
    · intro h
      cases h
  | ok b =>
    change Except.ok b = Except.ok a ↔ _
    rw [Except.ok.injEq, Except.ok.injEq]

namespace Step

variable {σ α β : Type}

/-- Answering without a look at the source changes nothing. -/
@[simp] theorem pure_apply (a : α) (s : σ) : (Pure.pure a : Step σ α) s = (.ok a, s) := rfl

/-- After an answer the rest runs in the state that was left. -/
theorem bind_of_ok {x : Step σ α} {s : σ} {a : α} (h : (x s).1 = .ok a) (f : α → Step σ β) :
    (x >>= f) s = f a (x s).2 := by
  change Step.bind x f s = _
  unfold Step.bind
  rcases hx : x s with ⟨answer, s'⟩
  rw [hx] at h
  cases h
  rfl

/-- An error ends the whole computation where it happened. -/
theorem bind_of_error {x : Step σ α} {s : σ} {e : Error} (h : (x s).1 = .error e)
    (f : α → Step σ β) : (x >>= f) s = (.error e, (x s).2) := by
  change Step.bind x f s = _
  unfold Step.bind
  rcases hx : x s with ⟨answer, s'⟩
  rw [hx] at h
  cases h
  rfl

/-- A composed step that answers has an answer of its first part. -/
theorem exists_of_bind_ok {x : Step σ α} {f : α → Step σ β} {s : σ} {b : β}
    (h : ((x >>= f) s).1 = .ok b) : ∃ a, (x s).1 = .ok a ∧ (f a (x s).2).1 = .ok b := by
  cases hx : (x s).1 with
  | error e =>
    rw [bind_of_error hx] at h
    cases h
  | ok a =>
    rw [bind_of_ok hx] at h
    exact ⟨a, rfl, h⟩

/-- A mapped step leaves its source where the step does. -/
theorem map_apply (f : α → β) (x : Step σ α) (s : σ) :
    x.map f s = ((x s).1.map f, (x s).2) := by
  unfold Step.map
  rcases x s with ⟨answer, s'⟩
  cases answer <;> rfl

end Step

namespace Traced

variable {σ α β : Type}

/-- Answering without a look at the source reports nothing. -/
@[simp] theorem pure_apply (a : α) (s : σ) : (Pure.pure a : Traced σ α) s = (.ok a, [], s) := rfl

/-- A plain step reports nothing. -/
@[simp] theorem ofStep_apply (x : Step σ α) (s : σ) : ofStep x s = ((x s).1, [], (x s).2) := rfl

/-- After an answer the rest runs in the state that was left, and its reports follow. -/
theorem bind_of_ok {x : Traced σ α} {s : σ} {a : α} (h : (x s).1 = .ok a) (f : α → Traced σ β) :
    (x >>= f) s =
      ((f a (x s).2.2).1, (x s).2.1 ++ (f a (x s).2.2).2.1, (f a (x s).2.2).2.2) := by
  change Traced.bind x f s = _
  unfold Traced.bind
  rcases hx : x s with ⟨answer, log, s'⟩
  rw [hx] at h
  cases h
  rfl

/-- An error ends the whole computation where it happened; what was reported stays reported. -/
theorem bind_of_error {x : Traced σ α} {s : σ} {e : Error} (h : (x s).1 = .error e)
    (f : α → Traced σ β) : (x >>= f) s = (.error e, (x s).2.1, (x s).2.2) := by
  change Traced.bind x f s = _
  unfold Traced.bind
  rcases hx : x s with ⟨answer, log, s'⟩
  rw [hx] at h
  cases h
  rfl

/-- What a composed step answers is composed of what its parts answer. -/
theorem bind_answer (x : Traced σ α) (f : α → Traced σ β) (s : σ) :
    ((x >>= f) s).1 = (x s).1.bind fun a => (f a (x s).2.2).1 := by
  cases h : (x s).1 with
  | error e =>
    rw [bind_of_error h]
    rfl
  | ok a =>
    rw [bind_of_ok h]
    rfl

/-- A composed computation that answers has an answer of its first part, whatever is reported. -/
theorem exists_of_bind_ok {x : Traced σ α} {f : α → Traced σ β} {s : σ} {b : β}
    (h : ((x >>= f) s).1 = .ok b) : ∃ a, (x s).1 = .ok a ∧ (f a (x s).2.2).1 = .ok b := by
  cases hx : (x s).1 with
  | error e =>
    rw [bind_of_error hx] at h
    cases h
  | ok a =>
    rw [bind_of_ok hx] at h
    exact ⟨a, rfl, h⟩

/-- Where a composed computation answers, both parts do, and their reports follow each other. -/
theorem exists_of_bind_eq_ok {x : Traced σ α} {f : α → Traced σ β} {s s' : σ} {b : β}
    {log : List Event} (h : (x >>= f) s = (.ok b, log, s')) :
    ∃ a report moved more, x s = (.ok a, report, moved) ∧ f a moved = (.ok b, more, s') ∧
      log = report ++ more := by
  rcases hx : x s with ⟨e | a, report, moved⟩
  · rw [bind_of_error (congrArg Prod.fst hx)] at h
    cases congrArg Prod.fst h
  · rw [bind_of_ok (congrArg Prod.fst hx), hx] at h
    rcases hf : f a moved with ⟨answer, more, last⟩
    simp only [hf, Prod.mk.injEq] at h
    obtain ⟨rfl, rfl, rfl⟩ := h
    exact ⟨a, report, moved, more, rfl, hf, rfl⟩

/-- The answer of a plain step is all that its lifting answers. -/
theorem ofStep_map_ok {f : α → β} {x : Step σ α} {s : σ} {b : β}
    (h : (ofStep (x.map f) s).1 = .ok b) : ∃ a, (x s).1 = .ok a ∧ b = f a := by
  rw [ofStep_apply, Step.map_apply] at h
  cases hx : (x s).1 with
  | error e =>
    rw [hx] at h
    cases h
  | ok a =>
    rw [hx] at h
    cases h
    exact ⟨a, rfl, rfl⟩

/-- After the answer of a plain step the rest runs in the state that was left. -/
theorem bind_lift_of_ok {x : Step σ α} {s : σ} {a : α} (h : (x s).1 = .ok a)
    (f : α → Traced σ β) : ((liftM x : Traced σ α) >>= f) s = f a (x s).2 := by
  change (ofStep x >>= f) s = _
  rw [bind_of_ok (x := ofStep x) h]
  rfl

/-- The error of a plain step ends the whole computation silently. -/
theorem bind_lift_of_error {x : Step σ α} {s : σ} {e : Error} (h : (x s).1 = .error e)
    (f : α → Traced σ β) : ((liftM x : Traced σ α) >>= f) s = (.error e, [], (x s).2) := by
  change (ofStep x >>= f) s = _
  rw [bind_of_error (x := ofStep x) h]
  rfl

/-- A computation keeps to the states of an invariant, whatever it answers. -/
def Keeps (inv : σ → Prop) (x : Traced σ α) : Prop :=
  ∀ s, inv s → inv (x s).2.2

/-- Computations that keep to an invariant compose to one that does. -/
theorem Keeps.bind {inv : σ → Prop} {x : Traced σ α} {f : α → Traced σ β} (hx : x.Keeps inv)
    (hf : ∀ a, (f a).Keeps inv) : Keeps inv (x >>= f) := by
  intro s hs
  have hkept := hx s hs
  cases hanswer : (x s).1 with
  | error e =>
    rw [bind_of_error hanswer]
    exact hkept
  | ok a =>
    rw [bind_of_ok hanswer]
    exact hf a _ hkept

end Traced

end RowCast
