import ProofOfWork.Proofs.Target.Document
import ProofOfWork.Retarget.FixedWindow

/-!
# Proofs/Params/Document — parameters read back, and only sound ones

    parameters ──record──▸ text ──record──▸ the same parameters ──first violation?──▸ answer

A set of parameters is written as a record of five fields, each of which reads back
(`Params.ofJson?_toJson`), sound or not.  What a text is answered with is then settled by the
conditions alone: the parameters themselves, or the condition they break first
(`Params.FirstViolation`), named by the key of its field.  No text gets around the conditions, so
nothing that is computed from read parameters divides by zero, leaves its range or clamps between
crossed bounds (`Params.Sound.exists_interval`, `boundedTimespan_of_pos`).
-/

namespace ProofOfWork

open Json (Value)

namespace Params

/-! ## Conditions -/

/-- **The condition that parameters break first**, in the order limit, timespan, spacing. -/
inductive FirstViolation (p : Params) : Violation → Prop
  | limit (zero : p.limit.toNat = 0) : FirstViolation p .limitZero
  | timespan (limit : 0 < p.limit.toNat) (low : p.timespan.toInt ≤ 0) :
      FirstViolation p .timespanNotPositive
  | spacing (limit : 0 < p.limit.toNat) (timespan : 0 < p.timespan.toInt)
      (low : p.spacing.toInt ≤ 0) : FirstViolation p .spacingNotPositive

/-- The key of the field that a violation is about. -/
def Violation.key : Violation → String
  | .limitZero => "pow_limit"
  | .timespanNotPositive => "pow_target_timespan"
  | .spacingNotPositive => "pow_target_spacing"

/-- What that field must be. -/
def Violation.demand : Violation → String
  | .limitZero => "nonzero"
  | .timespanNotPositive => "positive"
  | .spacingNotPositive => "positive"

variable {p : Params}

/-- **Every violation names the field it is about**, by the key it has in a document. -/
theorem Violation.message_eq (v : Violation) : v.key ∈ keys ∧
    v.message = "invalid consensus parameters: " ++ v.key ++ " must be " ++ v.demand := by
  cases v <;> decide

/-- **The check finds the first violation.** -/
theorem violation?_eq_some_iff {v : Violation} :
    p.violation? = some v ↔ p.FirstViolation v := by
  have limit : p.limit = Target.zero ↔ p.limit.toNat = 0 := Target.ext_iff
  simp only [violation?, limit]
  constructor
  · intro found
    split at found
    · rename_i zero
      cases found
      exact .limit zero
    · rename_i nonzero
      have positive := Nat.pos_of_ne_zero nonzero
      split at found
      · rename_i low
        cases found
        exact .timespan positive low
      · rename_i timespan
        split at found
        · rename_i low
          cases found
          exact .spacing positive (Int.not_le.1 timespan) low
        · cases found
  · intro first
    cases first with
    | limit zero => rw [if_pos zero]
    | timespan limit low => rw [if_neg limit.ne', if_pos low]
    | spacing limit timespan low => rw [if_neg limit.ne', if_neg (Int.not_le.2 timespan), if_pos low]

/-- Parameters are sound or have a first violation. -/
theorem sound_or_firstViolation (p : Params) : p.Sound ∨ ∃ v, p.FirstViolation v := by
  simp only [← violation?_eq_none_iff, ← violation?_eq_some_iff]
  cases p.violation? with
  | none => exact Or.inl rfl
  | some found => exact Or.inr ⟨found, rfl⟩

/-- **Sound parameters have an interval**, the exact quotient without its fraction. -/
theorem Sound.exists_interval (sound : p.Sound) :
    ∃ blocks, p.interval = .ok blocks ∧ blocks.toInt = p.timespan.toInt / p.spacing.toInt := by
  obtain ⟨-, timespan, spacing⟩ := sound
  have truncated : p.timespan.toInt.tdiv p.spacing.toInt = p.timespan.toInt / p.spacing.toInt :=
    Int.tdiv_eq_ediv_of_nonneg timespan.le
  rw [← truncated]
  exact Seconds.div_of_pos p.timespan spacing

/-! ## Documents -/

theorem wellFormed_toJson (p : Params) : p.toJson.WellFormed := by
  refine Value.wellFormed_record ?_
  refine List.forall_mem_cons.2 ⟨Value.wellFormed_text _, List.forall_mem_cons.2 ⟨?_, ?_⟩⟩
  · exact Value.wellFormed_int _
  refine List.forall_mem_cons.2 ⟨Value.wellFormed_int _, List.forall_mem_cons.2 ⟨?_, ?_⟩⟩
  · exact Value.wellFormed_bool _
  · exact List.forall_mem_singleton.2 (Value.wellFormed_bool _)

/-- **Parameters read back from their record**, sound or not. -/
theorem ofJson?_toJson (p : Params) : ofJson? p.toJson = some p := by
  have distinct : keys.Nodup := by decide
  have fields : p.toJson.record? keys = some [p.limit.toJson, p.timespan.toJson, p.spacing.toJson,
      .bool p.minDifficultyBlocks, .bool p.noRetargeting] :=
    Value.record?_record
      (keys.zip [p.limit.toJson, p.timespan.toJson, p.spacing.toJson, .bool p.minDifficultyBlocks,
        .bool p.noRetargeting])
      distinct
  rw [ofJson?, fields]
  dsimp only [Option.bind_eq_bind, Option.bind_some]
  rw [p.limit.ofJson?_toJson, Seconds.ofJson?_toJson, Seconds.ofJson?_toJson]
  rfl

/-- **What parameters come back as** is what the check makes of them. -/
theorem ofText_toText (p : Params) :
    ofText p.toText = p.violation?.elim (.ok p) fun v => .error (.unsound v) := by
  have read : (Value.read? p.toText).bind ofJson? = some p := by
    rw [toText, Value.read?_compact p.wellFormed_toJson, Option.bind_some, ofJson?_toJson]
  rw [ofText, read]
  dsimp only
  cases p.violation? with
  | none => rfl
  | some v => rfl

theorem ofText_toText_eq_ok_iff : ofText p.toText = .ok p ↔ p.Sound := by
  rw [ofText_toText, ← violation?_eq_none_iff]
  cases p.violation? with
  | none => exact iff_of_true rfl rfl
  | some found => exact iff_of_false nofun nofun

theorem ofText_toText_eq_unsound_iff {v : Violation} :
    ofText p.toText = .error (.unsound v) ↔ p.FirstViolation v := by
  rw [ofText_toText, ← violation?_eq_some_iff]
  cases p.violation? with
  | none => exact iff_of_false nofun nofun
  | some found =>
    rw [Option.elim_some, Except.error.injEq, DocumentError.unsound.injEq, Option.some.injEq]

/-- **Parameters come back from their own text, and no text gets around the conditions.**  Sound
parameters read back as they were; all others are refused for the condition they break first, which
is named by the key of its field.  Whatever text is read, its parameters are sound: they pass the
check, the number of blocks in a window can be computed, and every observed duration can be held
within its bounds. -/
theorem text_round_trip_checked (p : Params) :
    (ofText p.toText = .ok p ↔ p.Sound) ∧
    (∀ v, ofText p.toText = .error (.unsound v) ↔ p.FirstViolation v) ∧
    (p.Sound ∨ ∃ v, p.FirstViolation v) ∧
    (∀ v : Violation, v.key ∈ keys ∧ (DocumentError.unsound v).message =
      "invalid consensus parameters: " ++ v.key ++ " must be " ++ v.demand) ∧
    ∀ text q, ofText text = .ok q → q.violation? = none ∧
      (∃ blocks, q.interval = .ok blocks ∧
        blocks.toInt = q.timespan.toInt / q.spacing.toInt) ∧
      ∀ observed, ∃ held, boundedTimespan q observed = .ok held := by
  refine ⟨ofText_toText_eq_ok_iff, fun v => ofText_toText_eq_unsound_iff, sound_or_firstViolation p,
    Violation.message_eq, fun text q read => ?_⟩
  have sound := sound_of_ofText read
  refine ⟨violation?_eq_none_iff.2 sound, sound.exists_interval, fun observed => ?_⟩
  obtain ⟨held, bounded, -⟩ := boundedTimespan_of_pos sound.2.1 observed
  exact ⟨held, bounded⟩

end Params

end ProofOfWork
