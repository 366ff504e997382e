import ProofOfWork.Acceptance
import ProofOfWork.Proofs.Compact.Decoding

/-!
# Proofs/Acceptance — a hash is accepted by the exact value of its claim

`meetsTarget` looks at a target cut to 256 bits and at two flags.  What it decides is nevertheless a
statement about the unbounded integer that the bits denote (`meetsTarget_iff_exactValue`): the flags
leave no word over whose cut target and whose exact value disagree.
-/

namespace ProofOfWork

/-- **Acceptance asks for a usable claim, then compares twice.** -/
theorem meetsTarget_eq_true_iff {hash : BlockHash} {bits : Compact} {params : Params} :
    meetsTarget hash bits params = true ↔
      ∃ t, bits.decode.validTarget? = some t ∧ Target.ofBlockHash hash ≤ t ∧ t ≤ params.limit := by
  unfold meetsTarget Decoded.validTarget?
  dsimp only
  rw [Bool.or_right_comm]
  split
  · simp
  · constructor
    · intro accepted
      split at accepted
      · exact absurd accepted Bool.false_ne_true
      · rename_i within
        exact ⟨_, rfl, of_decide_eq_true accepted, Target.not_lt.1 within⟩
    · rintro ⟨t, usable, reached, within⟩
      obtain rfl := Option.some.inj usable
      rw [if_neg (Target.not_lt.2 within)]
      exact decide_eq_true reached

/-- **Some hash is accepted exactly when the claim is usable within the limit**; the zero hash then
is. -/
theorem exists_meetsTarget_iff {bits : Compact} {params : Params} :
    (∃ hash, meetsTarget hash bits params = true) ↔
      ∃ t, bits.decode.validTarget? = some t ∧ t ≤ params.limit := by
  constructor
  · rintro ⟨hash, accepted⟩
    obtain ⟨t, usable, -, within⟩ := meetsTarget_eq_true_iff.1 accepted
    exact ⟨t, usable, within⟩
  · rintro ⟨t, usable, within⟩
    have zero : byteValue (List.replicate 32 0) = 0 := by decide
    refine ⟨⟨Vector.replicate 32 0⟩, meetsTarget_eq_true_iff.2 ⟨t, usable, ?_, within⟩⟩
    exact Nat.le_trans (Nat.le_of_eq zero) (Nat.zero_le _)

/-- **Acceptance, over the natural number that the bits denote**; the limit keeps it below
`2 ^ 256`, so nothing of it is cut. -/
theorem meetsTarget_iff_magnitude {hash : BlockHash} {bits : Compact} {params : Params} :
    meetsTarget hash bits params = true ↔
      bits.sign = false ∧ 0 < bits.magnitude ∧ bits.magnitude ≤ params.limit.toNat ∧
        byteValue hash.bytes.toList ≤ bits.magnitude := by
  rw [meetsTarget_eq_true_iff]
  simp only [Compact.validTarget?_eq_some_iff]
  constructor
  · rintro ⟨t, ⟨unsigned, positive, same⟩, reached, within⟩
    rw [← same]
    exact ⟨unsigned, same ▸ positive, within, reached⟩
  · rintro ⟨unsigned, positive, within, reached⟩
    have fits : bits.magnitude < 2 ^ 256 := Nat.lt_of_le_of_lt within params.limit.toNat_lt
    exact ⟨⟨bits.magnitude, fits⟩, ⟨unsigned, positive, rfl⟩, reached, within⟩

/-- **A hash is accepted exactly when the integer its bits denote is positive, unsigned, within the
limit and not below the hash** — no word is accepted through the 256 bits that are left of a wider
one. -/
theorem meetsTarget_iff_exactValue (hash : BlockHash) (bits : Compact) (params : Params) :
    (meetsTarget hash bits params = true ↔
      bits.word &&& 0x800000 = 0 ∧ 0 < bits.exactValue ∧ bits.exactValue ≤ params.limit.toNat ∧
        byteValue hash.bytes.toList ≤ bits.exactValue) ∧
    (meetsTarget hash bits params = true ↔
      ∃ t, bits.decode.validTarget? = some t ∧ Target.ofBlockHash hash ≤ t ∧ t ≤ params.limit) ∧
    (2 ^ 256 ≤ bits.exactValue → meetsTarget hash bits params = false) := by
  rw [Compact.exactValue_eq_magnitude, ← Compact.sign_eq_false_iff]
  refine ⟨?_, meetsTarget_eq_true_iff, fun wide => ?_⟩
  · rw [meetsTarget_iff_magnitude, Int.natCast_pos, Int.ofNat_le, Int.ofNat_le]
  · have limit := params.limit.toNat_lt
    rw [Bool.eq_false_iff, Ne, meetsTarget_iff_magnitude]
    rintro ⟨-, -, within, -⟩
    omega

end ProofOfWork
