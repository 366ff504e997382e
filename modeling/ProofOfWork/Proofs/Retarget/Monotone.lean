import Mathlib.Data.List.Forall2
import ProofOfWork.Params.Network
import ProofOfWork.Proofs.Compact.Rounding
import ProofOfWork.Proofs.Retarget.RequiredWork

/-!
# Proofs/Retarget/Monotone — an easier history never asks for more work

    x₁ x₂ … x_L      heights and times alike, targets x ≤ y      bits of x ≤ bits of y
    y₁ y₂ … y_L   ────────────────────────────────────────▸   all else alike

What ends a walk depends on heights, times and the length of the branch alone (`endsAt_iff`), so the
walks over two such branches take the same number of samples and report the same durations.  From
there on every step is monotone: the running mean in its samples (`runningMean_mono`), the scaling
in the mean (`scaledMean_mono`), the limit, and the encoding (`Target.word_encode_mono`).
-/

namespace ProofOfWork

/-- **A block that is no harder than another** of the same height and time. -/
structure Eases (block₁ block₂ : Header) : Prop where
  height : block₁.height = block₂.height
  time : block₁.time = block₂.time
  target : block₁.target ≤ block₂.target

instance (block₁ block₂ : Header) : Decidable (Eases block₁ block₂) :=
  decidable_of_iff
    (block₁.height = block₂.height ∧ block₁.time = block₂.time ∧ block₁.target ≤ block₂.target)
    ⟨fun ⟨height, time, target⟩ => ⟨height, time, target⟩,
      fun ⟨height, time, target⟩ => ⟨height, time, target⟩⟩

/-- **Bits that are no harder than others**, as plain words and as the targets they decode to. -/
structure NoHarder (bits₁ bits₂ : Compact) : Prop where
  word : bits₁.word ≤ bits₂.word
  target : bits₁.decode.target ≤ bits₂.decode.target

/-- **Two reports that agree in all but their bits.** -/
structure Report.SameCourse (report₁ report₂ : Report) : Prop where
  samples : report₁.samples = report₂.samples
  observed : report₁.observed = report₂.observed
  designed : report₁.designed = report₂.designed
  ratio : report₁.ratio = report₂.ratio
  earlyExit : report₁.earlyExit = report₂.earlyExit
  bootstrap : report₁.bootstrap = report₂.bootstrap

theorem NoHarder.refl (bits : Compact) : NoHarder bits bits := ⟨UInt32.le_refl _, Nat.le_refl _⟩

theorem noHarder_encode {t₁ t₂ : Target} (le : t₁ ≤ t₂) : NoHarder t₁.encode t₂.encode :=
  ⟨Target.word_encode_mono le, Target.decode_encode_mono le⟩

/-- Lists related place by place have related entries, or none, at every index. -/
theorem rel_getElem? {α β : Type*} {R : α → β → Prop} {l₁ : List α} {l₂ : List β}
    (related : List.Forall₂ R l₁ l₂) (k : ℕ) : Option.Rel R l₁[k]? l₂[k]? := by
  induction related generalizing k with
  | nil => exact .none
  | cons head _ ih =>
    cases k with
    | zero => exact .some head
    | succ k => exact ih k

/-- Scaling keeps the order of two means. -/
theorem scaledMean_mono {mean₁ mean₂ : ℕ} (le : mean₁ ≤ mean₂) (observed designed : ℤ) :
    scaledMean mean₁ observed designed ≤ scaledMean mean₂ observed designed := by
  unfold scaledMean
  split
  · exact min_le_min_right _ (Nat.div_le_div_right (Nat.mul_le_mul_right _ le))
  · exact le

/-! ## Two branches, one course -/

section Branches

variable {window : Window} {tip₁ tip₂ : Header} {older₁ older₂ : List Header}
  (eases : List.Forall₂ Eases (tip₁ :: older₁) (tip₂ :: older₂))

include eases

theorem tip_eases : Eases tip₁ tip₂ := (List.forall₂_cons.1 eases).1

theorem nthBlock_eases (n : ℕ) : Eases (nthBlock tip₁ older₁ n) (nthBlock tip₂ older₂ n) := by
  have entries := rel_getElem? eases (n - 1)
  rw [nthBlock, nthBlock, List.getD_eq_getElem?_getD, List.getD_eq_getElem?_getD]
  generalize (tip₁ :: older₁)[n - 1]? = entry₁ at entries ⊢
  generalize (tip₂ :: older₂)[n - 1]? = entry₂ at entries ⊢
  cases entries with
  | none => exact tip_eases eases
  | some blocks => exact blocks

theorem exactLag_nthBlock (n : ℕ) :
    exactLag tip₁ (nthBlock tip₁ older₁ n) = exactLag tip₂ (nthBlock tip₂ older₂ n) := by
  rw [exactLag, exactLag, (tip_eases eases).time, (nthBlock_eases eases n).time]

theorem leavesHorizon_iff (n : ℕ) :
    LeavesHorizon window tip₁ older₁ n ↔ LeavesHorizon window tip₂ older₂ n := by
  rw [LeavesHorizon, LeavesHorizon, exactLag_nthBlock eases]

/-- The genesis block stands at the same place of both branches. -/
theorem genesis_iff (n : ℕ) :
    (∃ next, (tip₁ :: older₁)[n]? = some next ∧ next.height = 0) ↔
      ∃ next, (tip₂ :: older₂)[n]? = some next ∧ next.height = 0 := by
  have entries := rel_getElem? eases n
  generalize (tip₁ :: older₁)[n]? = entry₁ at entries ⊢
  generalize (tip₂ :: older₂)[n]? = entry₂ at entries ⊢
  cases entries with
  | none => simp only [reduceCtorEq, false_and, exists_false]
  | some blocks => simp only [Option.some.injEq, exists_eq_left', blocks.height]

/-- **The same counts end both walks.** -/
theorem endsAt_iff (n : ℕ) : EndsAt window tip₁ older₁ n ↔ EndsAt window tip₂ older₂ n := by
  rw [EndsAt, EndsAt, leavesHorizon_iff eases, eases.length_eq, genesis_iff eases]

variable {limit₁ limit₂ : Target} {report₁ report₂ : Report}
  (answers₁ : Answers window tip₁ older₁ limit₁ report₁)
  (answers₂ : Answers window tip₂ older₂ limit₂ report₂)

include answers₁ answers₂

theorem samples_eq_of_eases : report₁.samples = report₂.samples := by
  refine answers₁.samples.unique ?_
  have ends : {n | 1 ≤ n ∧ EndsAt window tip₁ older₁ n} =
      {n | 1 ≤ n ∧ EndsAt window tip₂ older₂ n} :=
    Set.ext fun n => and_congr_right fun _ => endsAt_iff eases n
  rw [ends]
  exact answers₂.samples

/-- **Both walks report the same course.** -/
theorem sameCourse_of_eases : report₁.SameCourse report₂ := by
  have samples := samples_eq_of_eases eases answers₁ answers₂
  have observed : report₁.observed = report₂.observed := by
    rw [← Int64.toInt_inj, answers₁.observed, answers₂.observed, samples, exactLag_nthBlock eases]
  have designed : report₁.designed = report₂.designed := by
    rw [← Int64.toInt_inj, answers₁.designed, answers₂.designed, samples]
  refine ⟨samples, observed, designed, ?_, ?_, ?_⟩
  · rw [answers₁.ratio, answers₂.ratio, observed, designed]
  · rw [Bool.eq_iff_iff, answers₁.earlyExit, answers₂.earlyExit, samples, leavesHorizon_iff eases]
  · rw [answers₁.bootstrap, answers₂.bootstrap]

/-- **The easier branch gets the easier bits.** -/
theorem noHarder_of_eases (limits : limit₁ ≤ limit₂) : NoHarder report₁.bits report₂.bits := by
  obtain ⟨target₁, bits₁, value₁⟩ := answers₁.bits
  obtain ⟨target₂, bits₂, value₂⟩ := answers₂.bits
  have means : runningMean (nthTarget tip₁ older₁) report₁.samples ≤
      runningMean (nthTarget tip₂ older₂) report₁.samples :=
    runningMean_mono (fun k => (nthBlock_eases eases k).target) _
  rw [exactLag_nthBlock eases] at value₁
  rw [← samples_eq_of_eases eases answers₁ answers₂] at value₂
  rw [bits₁, bits₂]
  refine noHarder_encode (Target.le_def.2 ?_)
  rw [value₁, value₂]
  exact min_le_min limits (scaledMean_mono means _ _)

end Branches

/-! ## The report and the required bits -/

/-- A history that is too short stays so when its targets change. -/
theorem tooShort_iff_of_eases {window : Window} {history₁ history₂ : List Header}
    (eases : List.Forall₂ Eases history₁ history₂) :
    TooShort window history₁ ↔ TooShort window history₂ := by
  cases eases with
  | nil => exact Iff.rfl
  | cons tips _ =>
    simp only [TooShort, List.head?_cons, Option.mem_def, Option.some.injEq, forall_eq',
      tips.height]

/-- **The easier history gets the easier report**, over the same course. -/
theorem gravityWell_of_eases (window : Window) {params₁ params₂ : Params}
    {history₁ history₂ : List Header} (eases : List.Forall₂ Eases history₁ history₂)
    (limits : params₁.limit ≤ params₂.limit) :
    ∃ report₁ report₂, gravityWell window params₁ history₁ = .ok report₁ ∧
      gravityWell window params₂ history₂ = .ok report₂ ∧ report₁.SameCourse report₂ ∧
      NoHarder report₁.bits report₂.bits := by
  by_cases short : TooShort window history₁
  · exact ⟨_, _, gravityWell_of_tooShort params₁ short,
      gravityWell_of_tooShort params₂ ((tooShort_iff_of_eases eases).1 short),
      ⟨rfl, rfl, rfl, rfl, rfl, rfl⟩, noHarder_encode limits⟩
  · have long := short
    rw [tooShort_iff_of_eases eases] at long
    cases eases with
    | nil => exact absurd (fun tip absent => absurd absent (by simp)) short
    | cons tips rest =>
      obtain ⟨report₁, reported₁, answers₁⟩ := gravityWell_of_not_tooShort params₁ short
      obtain ⟨report₂, reported₂, answers₂⟩ := gravityWell_of_not_tooShort params₂ long
      have eases := List.Forall₂.cons tips rest
      exact ⟨report₁, report₂, reported₁, reported₂, sameCourse_of_eases eases answers₁ answers₂,
        noHarder_of_eases eases answers₁ answers₂ limits⟩

/-- **The easier history asks for the easier next block**; at the bootstrap height both ask for the
fixed bits. -/
theorem nextWork_of_eases {params₁ params₂ : Params} {tip₁ tip₂ : Header}
    {older₁ older₂ : List Header} (eases : List.Forall₂ Eases (tip₁ :: older₁) (tip₂ :: older₂))
    (limits : params₁.limit ≤ params₂.limit) :
    ∃ bits₁ bits₂, nextWork params₁ tip₁ older₁ = .ok bits₁ ∧
      nextWork params₂ tip₂ older₂ = .ok bits₂ ∧ NoHarder bits₁ bits₂ := by
  have heights := (tip_eases eases).height
  by_cases fixed : tip₁.height = 160
  · exact ⟨bootstrapBits, bootstrapBits, if_pos fixed, if_pos (heights ▸ fixed),
      NoHarder.refl bootstrapBits⟩
  · obtain ⟨report₁, report₂, reported₁, reported₂, -, bits⟩ :=
      gravityWell_of_eases Window.deployed eases limits
    exact ⟨report₁.bits, report₂.bits, nextWork_of_report fixed reported₁,
      nextWork_of_report (heights ▸ fixed) reported₂, bits⟩

/-- **An easier history never asks for more work.**  Of two histories with the same heights and
times, the one whose targets are nowhere larger, under the limit that is no larger, gets a report
that differs in nothing but its bits, and these are no larger, as words and as targets; and so it is
with the bits required of the next block. -/
theorem easier_history_no_harder (window : Window) (params₁ params₂ : Params)
    (history₁ history₂ : List Header) (eases : List.Forall₂ Eases history₁ history₂)
    (limits : params₁.limit ≤ params₂.limit) :
    (∃ report₁ report₂, gravityWell window params₁ history₁ = .ok report₁ ∧
      gravityWell window params₂ history₂ = .ok report₂ ∧ report₁.SameCourse report₂ ∧
      NoHarder report₁.bits report₂.bits) ∧
    ∀ tip₁ older₁ tip₂ older₂, history₁ = tip₁ :: older₁ → history₂ = tip₂ :: older₂ →
      ∃ bits₁ bits₂, nextWork params₁ tip₁ older₁ = .ok bits₁ ∧
        nextWork params₂ tip₂ older₂ = .ok bits₂ ∧ NoHarder bits₁ bits₂ := by
  refine ⟨gravityWell_of_eases window eases limits, ?_⟩
  rintro tip₁ older₁ tip₂ older₂ rfl rfl
  exact nextWork_of_eases eases limits

/-- A branch of three samples whose mean first rises; the oldest block claims a negative word. -/
def steepBranch : List Header :=
  [⟨200, 2000, ⟨0x1c01ffff⟩⟩, ⟨199, 1900, ⟨0x1c0fffff⟩⟩, ⟨198, 1980, ⟨0x04923456⟩⟩]

/-- The same heights and times with easier targets, whose mean falls from the start. -/
def gentleBranch : List Header :=
  [⟨200, 2000, ⟨0x1d1fffff⟩⟩, ⟨199, 1900, ⟨0x1d0fffff⟩⟩, ⟨198, 1980, ⟨0x1c0fffff⟩⟩]

/-- Both branches are walked, and the order of their bits stands although their means part ways. -/
theorem steepBranch_no_easier :
    List.Forall₂ Eases steepBranch gentleBranch ∧
    Network.main.params.limit ≤ Network.regtest.params.limit ∧
    ¬ TooShort ⟨79, 2, 3⟩ steepBranch ∧
    ∃ report₁ report₂,
      gravityWell ⟨79, 2, 3⟩ Network.main.params steepBranch = .ok report₁ ∧
      gravityWell ⟨79, 2, 3⟩ Network.regtest.params gentleBranch = .ok report₂ ∧
      report₁.SameCourse report₂ ∧ NoHarder report₁.bits report₂.bits := by
  have eases : List.Forall₂ Eases steepBranch gentleBranch := by decide +kernel
  have limits : Network.main.params.limit ≤ Network.regtest.params.limit := by decide +kernel
  have long : ¬ TooShort ⟨79, 2, 3⟩ steepBranch := by
    intro short
    exact absurd (short _ rfl) (by decide)
  exact ⟨eases, limits, long, (easier_history_no_harder _ _ _ _ _ eases limits).1⟩

end ProofOfWork
