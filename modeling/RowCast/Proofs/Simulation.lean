import RowCast.Conversion.Converter
import RowCast.Proofs.Computation
import RowCast.Source.Lifting

/-!
# Sources that are alike

Two sources are alike by a relation between their states if, asked in related states, they answer
alike and end in related states. Conversions do not tell such sources apart: they give the same
answers, report the same events and end in related states. What the relation says of either state
besides is an invariant of the conversion.

Handles of the two sources need not correspond. What is done with them counts as part of a read.
-/

namespace RowCast

/-- In related states two steps give the same answer, and they leave related states. -/
def Step.Alike {τ σ α : Type} (R : τ → σ → Prop) (x : Step τ α) (y : Step σ α) : Prop :=
  ∀ t s, R t s → (x t).1 = (y s).1 ∧ R (x t).2 (y s).2

/-- In related states two computations answer and report the same, and leave related states. -/
def Traced.Alike {τ σ α : Type} (R : τ → σ → Prop) (x : Traced τ α) (y : Traced σ α) : Prop :=
  ∀ t s, R t s → (x t).1 = (y s).1 ∧ (x t).2.1 = (y s).2.1 ∧ R (x t).2.2 (y s).2.2

section

variable {τ σ α γ : Type} {R : τ → σ → Prop}

/-- Steps that are alike run to one answer. -/
theorem Step.Alike.run {x : Step τ α} {y : Step σ α} (h : x.Alike R y) {t : τ} {s : σ}
    (hts : R t s) : ∃ answer t' s', x t = (answer, t') ∧ y s = (answer, s') ∧ R t' s' :=
  ⟨(y s).1, (x t).2, (y s).2, Prod.ext (h t s hts).1 rfl, rfl, (h t s hts).2⟩

/-- Computations that are alike run to one answer and one log. -/
theorem Traced.Alike.run {x : Traced τ α} {y : Traced σ α} (h : x.Alike R y) {t : τ} {s : σ}
    (hts : R t s) :
    ∃ answer log t' s', x t = (answer, log, t') ∧ y s = (answer, log, s') ∧ R t' s' :=
  ⟨(y s).1, (y s).2.1, (x t).2.2, (y s).2.2,
    Prod.ext (h t s hts).1 (Prod.ext (h t s hts).2.1 rfl), rfl, (h t s hts).2.2⟩

/-- Steps that answer the same without a look at their sources are alike. -/
theorem Step.Alike.pure (a : α) : Step.Alike R (Pure.pure a) (Pure.pure a) :=
  fun _ _ h => ⟨rfl, h⟩

/-- Steps that are alike compose to steps that are. -/
theorem Step.Alike.bind {x : Step τ α} {y : Step σ α} {f : α → Step τ γ} {g : α → Step σ γ}
    (hxy : x.Alike R y) (hfg : ∀ a, (f a).Alike R (g a)) : Step.Alike R (x >>= f) (y >>= g) := by
  intro t s h
  obtain ⟨hanswer, hnext⟩ := hxy t s h
  cases hy : (y s).1 with
  | error e =>
    rw [Step.bind_of_error (hanswer.trans hy), Step.bind_of_error hy]
    exact ⟨rfl, hnext⟩
  | ok a =>
    rw [Step.bind_of_ok (hanswer.trans hy), Step.bind_of_ok hy]
    exact hfg a _ _ hnext

/-- Computations that answer the same and report nothing are alike. -/
theorem Traced.Alike.pure (a : α) : Traced.Alike R (Pure.pure a) (Pure.pure a) :=
  fun _ _ h => ⟨rfl, rfl, h⟩

/-- Plain steps that are alike are alike as computations that report nothing. -/
theorem Step.Alike.lift {x : Step τ α} {y : Step σ α} (h : x.Alike R y) :
    Traced.Alike R (liftM x) (liftM y) :=
  fun t s hts => ⟨(h t s hts).1, rfl, (h t s hts).2⟩

/-- Computations that are alike compose to computations that are. -/
theorem Traced.Alike.bind {x : Traced τ α} {y : Traced σ α} {f : α → Traced τ γ}
    {g : α → Traced σ γ} (hxy : x.Alike R y) (hfg : ∀ a, (f a).Alike R (g a)) :
    Traced.Alike R (x >>= f) (y >>= g) := by
  intro t s h
  obtain ⟨hanswer, hlog, hnext⟩ := hxy t s h
  cases hy : (y s).1 with
  | error e =>
    rw [Traced.bind_of_error (hanswer.trans hy), Traced.bind_of_error hy]
    exact ⟨rfl, hlog, hnext⟩
  | ok a =>
    rw [Traced.bind_of_ok (hanswer.trans hy), Traced.bind_of_ok hy, hlog]
    obtain ⟨hrest, hmore, hlast⟩ := hfg a _ _ hnext
    exact ⟨hrest, congrArg _ hmore, hlast⟩

end

/-- All lookups of two sources are alike. -/
structure Metadata.Alike {τ σ : Type} (R : τ → σ → Prop) (m : Metadata τ) (n : Metadata σ) :
    Prop where
  columnCount : m.columnCount.Alike R n.columnCount
  columnName (index : Nat) : (m.columnName index).Alike R (n.columnName index)
  columnLabel (index : Nat) : (m.columnLabel index).Alike R (n.columnLabel index)
  columnType (index : Nat) : (m.columnType index).Alike R (n.columnType index)
  nullability (index : Nat) : (m.nullability index).Alike R (n.nullability index)
  isSigned (index : Nat) : (m.isSigned index).Alike R (n.isSigned index)
  precision (index : Nat) : (m.precision index).Alike R (n.precision index)
  scale (index : Nat) : (m.scale index).Alike R (n.scale index)

/-- Lifted metadata is alike the metadata if every plain call that is lifted is alike the call. -/
theorem Lifting.metadata_alike {τ σ : Type} {R : τ → σ → Prop} {wrap : Type → Type}
    {l : Lifting σ τ wrap}
    (h : ∀ {α : Type} (call : Call) (index : Nat) (step : Step σ α),
      (l.plain call index step).Alike R step) (m : Metadata σ) : (l.metadata m).Alike R m where
  columnCount := h _ _ _
  columnName _ := h _ _ _
  columnLabel _ := h _ _ _
  columnType _ := h _ _ _
  nullability _ := h _ _ _
  isSigned _ := h _ _ _
  precision _ := h _ _ _
  scale _ := h _ _ _

/-- All lookups, reads and questions for NULL of two sources are alike. -/
structure RowSource.Alike {τ σ β β' χ χ' ξ ξ' : Type} (R : τ → σ → Prop)
    (p : RowSource τ β' χ' ξ') (q : RowSource σ β χ ξ) : Prop
    extends Metadata.Alike R p.toMetadata q.toMetadata where
  readBy (plan : ColumnPlan) (index : Nat) (limit : UInt64) :
    (p.readBy plan index limit).Alike R (q.readBy plan index limit)
  askNull : p.askNull.Alike R q.askNull

/-- The rows of two cursors are alike, and so are their moves. -/
structure Cursor.Alike {τ σ β β' χ χ' ξ ξ' : Type} (R : τ → σ → Prop)
    (p : Cursor τ β' χ' ξ') (q : Cursor σ β χ ξ) : Prop where
  row : p.row.Alike R q.row
  advance : p.advance.Alike R q.advance

namespace Metadata.Alike

variable {τ σ : Type} {R : τ → σ → Prop} {m : Metadata τ} {n : Metadata σ}

/-- Sources that are alike identify their columns alike. -/
theorem identify (h : m.Alike R n) (index : Nat) :
    (m.identify index).Alike R (n.identify index) :=
  (h.columnType index).bind fun _ => (h.columnLabel index).bind fun _ =>
    (h.columnName index).bind fun _ => .pure _

/-- Sources that are alike find the same plans for their columns. -/
theorem plan? (h : m.Alike R n) (index : Nat) (columnType : ColumnType) (mapNumerics : Bool) :
    (m.plan? index columnType mapNumerics).Alike R (n.plan? index columnType mapNumerics) :=
  (h.isSigned index).bind fun _ => (h.precision index).bind fun _ =>
    (h.scale index).bind fun _ => .pure _

end Metadata.Alike

namespace RowSource.Alike

variable {τ σ β β' χ χ' ξ ξ' : Type} {R : τ → σ → Prop} {p : RowSource τ β' χ' ξ'}
  {q : RowSource σ β χ ξ}

/-- Sources that are alike give the same values in extraction. -/
theorem extract (h : p.Alike R q) (index : Nat) (columnType : ColumnType) (settings : Settings) :
    (p.extract index columnType settings).Alike R (q.extract index columnType settings) := by
  refine (h.toAlike.plan? index columnType settings.mapNumerics).lift.bind fun plan? => ?_
  cases plan? with
  | none => exact .pure _
  | some plan =>
    refine (h.readBy plan index settings.maxLobLength).bind fun value => ?_
    refine h.askNull.lift.bind fun isNull => ?_
    cases isNull <;> exact .pure _

/-- The columns of sources that are alike turn out alike. -/
theorem readColumn (h : p.Alike R q) (settings : Settings) (index : Nat) {t : τ} {s : σ}
    (hts : R t s) :
    ∃ outcome log t' s', p.readColumn settings index t = (outcome, log, t') ∧
      q.readColumn settings index s = (outcome, log, s') ∧ R t' s' := by
  unfold RowSource.readColumn
  obtain ⟨identity, t₁, s₁, hp, hq, hnext⟩ := (h.toAlike.identify index).run hts
  rw [hp, hq]
  rcases identity with e | ⟨columnType, field⟩
  · exact ⟨_, _, _, _, rfl, rfl, hnext⟩
  · obtain ⟨answer, log, t₂, s₂, hp, hq, hlast⟩ := (h.extract index columnType settings).run hnext
    dsimp only
    rw [hp, hq]
    rcases answer with e | _ | value <;> exact ⟨_, _, _, _, rfl, rfl, hlast⟩

/-- Columns of sources that are alike are stored alike. -/
theorem storeColumns (h : p.Alike R q) (settings : Settings) (indices : List Nat)
    (record : Record) {t : τ} {s : σ} (hts : R t s) :
    ∃ stored log t' s', p.storeColumns settings indices record t = (stored, log, t') ∧
      q.storeColumns settings indices record s = (stored, log, s') ∧ R t' s' := by
  induction indices generalizing record t s with
  | nil => exact ⟨_, _, _, _, rfl, rfl, hts⟩
  | cons index rest ih =>
    obtain ⟨outcome, log, t₁, s₁, hp, hq, hnext⟩ := h.readColumn settings index hts
    obtain ⟨stored, more, t₂, s₂, hp', hq', hlast⟩ := ih (record.store index outcome).1 hnext
    simp only [RowSource.storeColumns, hp, hq, hp', hq']
    exact ⟨_, _, _, _, rfl, rfl, hlast⟩

/-- Rows that are alike make the same records and reports. -/
theorem toRecord (h : p.Alike R q) (schema : Schema) (settings : Settings) :
    (p.toRecord schema settings).Alike R (q.toRecord schema settings) := by
  refine h.columnCount.lift.bind fun count t s hts => ?_
  obtain ⟨stored, log, t', s', hp, hq, hlast⟩ :=
    h.storeColumns settings (List.range count) (.empty schema) hts
  dsimp only
  rw [hp, hq]
  exact ⟨rfl, rfl, hlast⟩

/-- Rows are converted and counted alike. -/
theorem recordOf (h : p.Alike R q) (schema : Schema) (c : Converter) {t : τ} {s : σ}
    (hts : R t s) :
    ∃ answer log c' t' s', Converter.recordOf p schema (c, t) = (answer, log, c', t') ∧
      Converter.recordOf q schema (c, s) = (answer, log, c', s') ∧ R t' s' := by
  obtain ⟨answer, log, t', s', hp, hq, hlast⟩ := (h.toRecord schema c.settings).run hts
  simp only [Converter.recordOf, hp, hq]
  cases answer <;> exact ⟨_, _, _, _, _, rfl, rfl, hlast⟩

end RowSource.Alike

/-- A batch that ends with one cursor ends alike with the other. -/
theorem Cursor.Alike.recordsOf? {τ σ β β' χ χ' ξ ξ' : Type} {R : τ → σ → Prop}
    {p : Cursor τ β' χ' ξ'} {q : Cursor σ β χ ξ} (h : p.Alike R q) (schema : Schema) {fuel : Nat}
    {c c' : Converter} {t : τ} {s s' : σ} (hts : R t s) {answer : Except Error (List Record)}
    {log : List Event}
    (hended : Converter.recordsOf? q schema fuel (c, s) = some (answer, log, c', s')) :
    ∃ t', Converter.recordsOf? p schema fuel (c, t) = some (answer, log, c', t') ∧ R t' s' := by
  induction fuel generalizing c t s answer log with
  | zero => cases hended
  | succ fuel ih =>
    obtain ⟨move, t₁, s₁, hp, hq, hmoved⟩ := h.advance.run hts
    simp only [Converter.recordsOf?, hp, hq] at hended ⊢
    rcases move with e | _ | _
    · cases hended
      exact ⟨t₁, rfl, hmoved⟩
    · cases hended
      exact ⟨t₁, rfl, hmoved⟩
    · obtain ⟨made, log₁, c₁, t₂, s₂, hp', hq', hnext⟩ := h.row.recordOf schema c hmoved
      simp only [hp', hq'] at hended ⊢
      cases made with
      | error e =>
        cases hended
        exact ⟨t₂, rfl, hnext⟩
      | ok record =>
        obtain ⟨⟨rest, more, c₂, s₃⟩, hrest, hlast⟩ := Option.map_eq_some_iff.mp hended
        cases hlast
        obtain ⟨t₃, hbatch, hend⟩ := ih hnext hrest
        dsimp only
        rw [hbatch, Option.map_some]
        exact ⟨t₃, rfl, hend⟩

end RowCast
