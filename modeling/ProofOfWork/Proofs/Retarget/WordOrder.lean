import ProofOfWork.Params.Network
import ProofOfWork.Proofs.Compact.Canonical
import ProofOfWork.Proofs.Retarget.RequiredWork
import ProofOfWork.Retarget.FixedWindow

/-!
# Proofs/Retarget/WordOrder — required bits compare as plain words

    bits₁ ≤ bits₂ as words   ⟺   target₁ ≤ target₂        for canonical bits

Encoding keeps the order of targets and writes canonical words only, and canonical words compare as
what they stand for (`Compact.Canonical.word_le_iff`).  All that the Gravity Well and the choice of
rule answer with is canonical.  The fixed-window rule is the one exception, where it keeps the bits
of the tip: a header may claim whatever it likes, and two claims that are not canonical may compare
against their targets (`frozen_bits_out_of_order`).
-/

namespace ProofOfWork

theorem canonical_of_report {window : Window} {params : Params} {history : List Header}
    {report : Report} (reported : gravityWell window params history = .ok report) :
    report.bits.Canonical := by
  obtain ⟨_, answered, usable⟩ := gravityWell_usable window params history
  obtain rfl := Except.ok.inj (reported.symm.trans answered)
  exact Compact.encode_decode_eq_self_iff.1 usable.canonical

theorem canonical_bootstrapBits : bootstrapBits.Canonical :=
  encode_bootstrapTarget ▸ Target.canonical_encode bootstrapTarget

theorem canonical_of_nextWork {params : Params} {tip : Header} {older : List Header}
    {bits : Compact} (required : nextWork params tip older = .ok bits) : bits.Canonical := by
  by_cases fixed : tip.height = 160
  · obtain rfl : bootstrapBits = bits :=
      Except.ok.inj ((if_pos fixed : nextWork params tip older = _).symm.trans required)
    exact canonical_bootstrapBits
  · obtain ⟨report, reported, -⟩ := exists_report Window.deployed params (tip :: older)
    obtain rfl := Except.ok.inj ((nextWork_of_report fixed reported).symm.trans required)
    exact canonical_of_report reported

/-- **The fixed-window rule answers with a canonical word** unless it keeps one that is not. -/
theorem canonical_of_fixedWindowBits {params : Params} {tip : Header} {windowStart : Seconds}
    {bits : Compact} (answered : fixedWindowBits params tip windowStart = .ok bits)
    (kept : params.KeepsBits → tip.bits.Canonical) : bits.Canonical := by
  by_cases keeps : params.KeepsBits
  · obtain rfl := Except.ok.inj
      ((fixedWindowBits_of_keepsBits keeps tip windowStart).symm.trans answered)
    exact kept keeps
  · obtain ⟨_, target, -, encoded, -⟩ := fixedWindowBits_of_not_keepsBits keeps tip windowStart
    obtain rfl := Except.ok.inj (encoded.symm.trans answered)
    exact target.canonical_encode

/-- **Bits that a retarget computation answers with**: those of a report, those required of the next
block, and those of the fixed-window rule, unless it keeps bits that are not canonical. -/
inductive Retargeted : Compact → Prop
  | report {window : Window} {params : Params} {history : List Header} {report : Report}
      (reported : gravityWell window params history = .ok report) : Retargeted report.bits
  | nextWork {params : Params} {tip : Header} {older : List Header} {bits : Compact}
      (required : nextWork params tip older = .ok bits) : Retargeted bits
  | fixedWindow {params : Params} {tip : Header} {windowStart : Seconds} {bits : Compact}
      (answered : fixedWindowBits params tip windowStart = .ok bits)
      (kept : params.KeepsBits → tip.bits.Canonical) : Retargeted bits

theorem Retargeted.canonical {bits : Compact} (retargeted : Retargeted bits) : bits.Canonical := by
  cases retargeted with
  | report reported => exact canonical_of_report reported
  | nextWork required => exact canonical_of_nextWork required
  | fixedWindow answered kept => exact canonical_of_fixedWindowBits answered kept

/-- **Required bits compare as the targets they stand for.**  Encoding keeps the order, encoded
targets compare as words exactly as they do read back, and so do the bits of any two retarget
computations. -/
theorem retargeted_word_le_iff :
    (∀ t₁ t₂ : Target, t₁ ≤ t₂ → t₁.encode.word ≤ t₂.encode.word) ∧
    (∀ t₁ t₂ : Target, t₁.encode.word ≤ t₂.encode.word ↔
      t₁.encode.decode.target ≤ t₂.encode.decode.target) ∧
    ∀ bits₁ bits₂ : Compact, Retargeted bits₁ → Retargeted bits₂ →
      (bits₁.word ≤ bits₂.word ↔ bits₁.decode.target ≤ bits₂.decode.target) :=
  ⟨fun _ _ le => Target.word_encode_mono le,
    fun t₁ t₂ => t₁.canonical_encode.word_le_iff t₂.canonical_encode,
    fun _ _ first second => first.canonical.word_le_iff second.canonical⟩

/-- On the regression network the fixed-window rule keeps the bits of the tip, and the usable bits
of two tips compare as words against the order of their targets, 512 and 256. -/
theorem frozen_bits_out_of_order :
    fixedWindowBits Network.regtest.params ⟨0, 0, ⟨0x03000200⟩⟩ 0 = .ok ⟨0x03000200⟩ ∧
    fixedWindowBits Network.regtest.params ⟨0, 0, ⟨0x04000001⟩⟩ 0 = .ok ⟨0x04000001⟩ ∧
    (Compact.decode ⟨0x03000200⟩).validTarget? = some (Target.truncate 512) ∧
    (Compact.decode ⟨0x04000001⟩).validTarget? = some (Target.truncate 256) ∧
    ¬ ((0x03000200 : UInt32) ≤ 0x04000001 ↔
      (Compact.decode ⟨0x03000200⟩).target ≤ (Compact.decode ⟨0x04000001⟩).target) := by
  refine ⟨rfl, rfl, by decide, by decide, by decide⟩

end ProofOfWork
