import ProofOfWork.Acceptance
import ProofOfWork.Proofs.Target.Bytes
import ProofOfWork.Proofs.Text.Frame
import ProofOfWork.Proofs.Text.Numeral

/-!
# Proofs/Target/Hex — the texts of targets

    text ──frame off──▸ bare ──one to sixty-four digits──▸ target ──▸ sixty-four digits

A text is a target exactly when its bare part is a numeral of one to sixty-four digits, and the
target is then the number these denote.  What is refused is refused for its width, if the bare part
is empty or wider than sixty-four bytes, and for its characters in every other case: characters
outside ASCII are wider than one byte, so a text that has any is filled up to more than sixty-four
bytes (`utf8Width_filled`) and fails before its digits are read.
-/

namespace ProofOfWork

/-! ## Width -/

theorem utf8Width_cons (c : Char) (text : List Char) :
    utf8Width (c :: text) = c.utf8Size + utf8Width text := rfl

theorem utf8Width_replicate_zero_append (k : ℕ) (text : List Char) :
    utf8Width (List.replicate k '0' ++ text) = k + utf8Width text := by
  have zero : '0'.utf8Size = 1 := by decide
  induction k with
  | zero => rw [Nat.zero_add]; rfl
  | succ k ih => rw [List.replicate_succ, List.cons_append, utf8Width_cons, ih, zero]; omega

/-- Every character has at least one byte. -/
theorem length_le_utf8Width (text : List Char) : text.length ≤ utf8Width text := by
  induction text with
  | nil => exact Nat.le_refl 0
  | cons c rest ih =>
    have := c.utf8Size_pos
    rw [utf8Width_cons, List.length_cons]
    omega

theorem utf8Width_eq_zero_iff {text : List Char} : utf8Width text = 0 ↔ text = [] := by
  constructor
  · intro none
    exact List.length_eq_zero_iff.1 (Nat.le_zero.1 (none ▸ length_le_utf8Width text))
  · rintro rfl
    rfl

/-- Digits have one byte each. -/
theorem Hex.Denotes.utf8Width {digits : List Char} {n : ℕ} (denotes : Hex.Denotes digits n) :
    utf8Width digits = digits.length := by
  have single := denotes.exists_shows
  clear denotes
  induction digits with
  | nil => rfl
  | cons c rest ih =>
    obtain ⟨d, shown⟩ := single c List.mem_cons_self
    rw [utf8Width_cons, shown.utf8Size, List.length_cons,
      ih fun c member => single c (List.mem_cons_of_mem _ member), Nat.add_comm]

/-- **A numeral in a frame is the bare part of its text.** -/
theorem Framed.bareText_eq_of_denotes {text : String} {numeral : List Char} {n : ℕ}
    (framed : Framed text numeral) (denotes : Hex.Denotes numeral n) : bareText text = numeral := by
  refine framed.bareText_eq (fun c member => ?_) fun c member => ?_
  · obtain ⟨d, shown⟩ := denotes.exists_shows c member
    exact shown.isBlank
  · obtain ⟨d, shown⟩ := denotes.exists_shows c member
    exact ⟨shown.ne_mark.1, shown.ne_mark.2.1⟩

namespace Target

/-! ## Digits -/

/-- **Digits are read as the number they denote, or one of them is refused.** -/
theorem readDigits_cases (position n : ℕ) (digits : List Char) :
    (∃ m, digits.foldlM Hex.shiftIn? n = some m ∧ readDigits position n digits = .ok m) ∨
    (digits.foldlM Hex.shiftIn? n = none ∧
      ∃ c place, readDigits position n digits = .error (.notDigit c place)) := by
  induction digits generalizing position n with
  | nil => exact Or.inl ⟨n, rfl, rfl⟩
  | cons c rest ih =>
    rw [readDigits, List.foldlM_cons, Hex.shiftIn?]
    cases Hex.digit? c with
    | none => exact Or.inr ⟨rfl, c, position, rfl⟩
    | some d => exact ih (position + 1) (16 * n + d)

section Bare

variable {digits : List Char}

/-- Nothing and more than sixty-four bytes are refused for their width. -/
theorem ofHexDigits_of_unfit (unfit : digits = [] ∨ 64 < utf8Width digits) :
    ofHexDigits digits = .error (.width (utf8Width digits)) := by
  rw [ofHexDigits, if_pos (unfit.imp_left utf8Width_eq_zero_iff.2)]

/-- What is left is filled with zeros before it is read. -/
theorem ofHexDigits_of_fits (started : digits ≠ []) (fits : utf8Width digits ≤ 64) :
    ofHexDigits digits =
      if utf8Width (digits.leftpad 64 '0') % 2 = 1 then .error .oddWidth
      else if utf8Width (digits.leftpad 64 '0') ≠ 64 then .error .wrongWidth
      else (readDigits 0 0 (digits.leftpad 64 '0')).map truncate := by
  have fit : ¬ (utf8Width digits = 0 ∨ 64 < utf8Width digits) :=
    not_or.2 ⟨mt utf8Width_eq_zero_iff.1 started, Nat.not_lt.2 fits⟩
  rw [ofHexDigits, if_neg fit]

theorem utf8Width_filled (digits : List Char) :
    utf8Width (digits.leftpad 64 '0') = 64 - digits.length + utf8Width digits :=
  utf8Width_replicate_zero_append _ _

/-- **Zeros in front change nothing in what is read.** -/
theorem readDigits_filled (digits : List Char) :
    (∃ n, Hex.Denotes digits n ∧ readDigits 0 0 (digits.leftpad 64 '0') = .ok n) ∨
    ((∀ n, ¬ Hex.Denotes digits n) ∧
      ∃ c place, readDigits 0 0 (digits.leftpad 64 '0') = .error (.notDigit c place)) := by
  have value (n : ℕ) : (digits.leftpad 64 '0').foldlM Hex.shiftIn? 0 = some n ↔
      Hex.Denotes digits n :=
    Hex.value?_eq_some_iff.trans Hex.denotes_replicate_zero_append_iff
  refine (readDigits_cases 0 0 _).imp (Exists.imp fun n => And.imp_left (value n).1) ?_
  refine And.imp_left fun none n denotes => ?_
  rw [(value n).2 denotes] at none
  cases none

/-- **One to sixty-four digits are the target of their number.** -/
theorem ofHexDigits_of_denotes {t : Target} (started : digits ≠ []) (short : digits.length ≤ 64)
    (denotes : Hex.Denotes digits t.toNat) : ofHexDigits digits = .ok t := by
  have fits : utf8Width digits ≤ 64 := denotes.utf8Width ▸ short
  have filled : utf8Width (digits.leftpad 64 '0') = 64 := by
    rw [utf8Width_filled, denotes.utf8Width]
    omega
  rw [ofHexDigits_of_fits started fits, if_neg (by omega), if_neg (by omega)]
  rcases readDigits_filled digits with ⟨n, same, read⟩ | ⟨none, -⟩
  · rw [read, same.unique denotes]
    exact congrArg Except.ok t.truncate_toNat
  · exact absurd denotes (none _)

/-- **Other texts of fitting width are refused for their characters.** -/
theorem ofHexDigits_of_not_denotes (started : digits ≠ []) (fits : utf8Width digits ≤ 64)
    (other : ∀ n, ¬ Hex.Denotes digits n) :
    ∃ e, ofHexDigits digits = .error e ∧ e.cause?.isSome := by
  rw [ofHexDigits_of_fits started fits]
  split
  · exact ⟨_, rfl, rfl⟩
  · split
    · exact ⟨_, rfl, rfl⟩
    · rcases readDigits_filled digits with ⟨n, denotes, -⟩ | ⟨-, c, place, refused⟩
      · exact absurd denotes (other n)
      · exact ⟨.notDigit c place, by rw [refused]; rfl, rfl⟩

/-- A numeral of at most sixty-four digits has room in a target. -/
theorem exists_toNat_of_denotes {n : ℕ} (short : digits.length ≤ 64)
    (denotes : Hex.Denotes digits n) : ∃ t : Target, t.toNat = n := by
  have room : n < 2 ^ 256 :=
    calc
      n < 16 ^ digits.length := denotes.lt
      _ ≤ 16 ^ 64 := Nat.pow_le_pow_right (by decide) short
      _ = 2 ^ 256 := by decide
  exact ⟨⟨n, room⟩, rfl⟩

/-- **What bare digits come to.** -/
inductive Reads (digits : List Char) : Except HexError Target → Prop
  /-- There are none, or they are too wide. -/
  | width (unfit : digits = [] ∨ 64 < utf8Width digits) :
      Reads digits (.error (.width (utf8Width digits)))
  /-- They are a numeral. -/
  | target {t : Target} (started : digits ≠ []) (short : digits.length ≤ 64)
      (denotes : Hex.Denotes digits t.toNat) : Reads digits (.ok t)
  /-- Not all of them are digits. -/
  | characters {e : HexError} (started : digits ≠ []) (fits : utf8Width digits ≤ 64)
      (other : ¬ ∀ c ∈ digits, ∃ d, Hex.Shows c d) (cause : e.cause?.isSome) :
      Reads digits (.error e)

theorem reads_ofHexDigits (digits : List Char) : Reads digits (ofHexDigits digits) := by
  by_cases unfit : digits = [] ∨ 64 < utf8Width digits
  · rw [ofHexDigits_of_unfit unfit]
    exact .width unfit
  · obtain ⟨started, fits⟩ := not_or.1 unfit
    rw [Nat.not_lt] at fits
    have short : digits.length ≤ 64 := (length_le_utf8Width digits).trans fits
    by_cases single : ∀ c ∈ digits, ∃ d, Hex.Shows c d
    · obtain ⟨n, denotes⟩ := Hex.exists_denotes_iff.2 single
      obtain ⟨t, rfl⟩ := exists_toNat_of_denotes short denotes
      rw [ofHexDigits_of_denotes started short denotes]
      exact .target started short denotes
    · obtain ⟨e, refused, cause⟩ := ofHexDigits_of_not_denotes started fits
        fun n denotes => single denotes.exists_shows
      rw [refused]
      exact .characters started fits single cause

theorem exists_ofHexDigits_iff : (∃ t, ofHexDigits digits = .ok t) ↔
    1 ≤ digits.length ∧ digits.length ≤ 64 ∧ ∀ c ∈ digits, ∃ d, Hex.Shows c d := by
  constructor
  · rintro ⟨t, read⟩
    cases read ▸ reads_ofHexDigits digits with
    | target started short denotes =>
      exact ⟨List.length_pos_iff.2 started, short, denotes.exists_shows⟩
  · rintro ⟨started, short, single⟩
    obtain ⟨n, denotes⟩ := Hex.exists_denotes_iff.2 single
    obtain ⟨t, rfl⟩ := exists_toNat_of_denotes short denotes
    exact ⟨t, ofHexDigits_of_denotes (List.length_pos_iff.1 started) short denotes⟩

theorem denotes_of_ofHexDigits {t : Target} (read : ofHexDigits digits = .ok t) :
    Hex.Denotes digits t.toNat := by
  cases read ▸ reads_ofHexDigits digits with
  | target _ _ denotes => exact denotes

/-- **What is read is the target of the bytes that the filled digits hold**, two digits a byte. -/
theorem ofHexDigits_eq_ok_iff_pairs {bytes : Vector UInt8 32} :
    ofHexDigits digits = .ok (ofBytesBE bytes) ↔
      digits ≠ [] ∧ Hex.Pairs (digits.leftpad 64 '0') bytes.toList := by
  have filled : Hex.Denotes (digits.leftpad 64 '0') (byteValue bytes.toList) ↔
      Hex.Denotes digits (ofBytesBE bytes).toNat := Hex.denotes_replicate_zero_append_iff
  rw [Hex.pairs_iff, filled, Vector.length_toList, List.length_leftpad]
  constructor
  · intro read
    cases read ▸ reads_ofHexDigits digits with
    | target started short denotes => exact ⟨started, by omega, denotes⟩
  · rintro ⟨started, length, denotes⟩
    exact ofHexDigits_of_denotes started (by omega) denotes

theorem ofHexDigits_eq_width_iff {got : ℕ} : ofHexDigits digits = .error (.width got) ↔
    (digits = [] ∨ 64 < utf8Width digits) ∧ got = utf8Width digits := by
  constructor
  · intro refused
    cases refused ▸ reads_ofHexDigits digits with
    | width unfit => exact ⟨unfit, rfl⟩
    | characters _ _ _ cause => cases cause
  · rintro ⟨unfit, rfl⟩
    exact ofHexDigits_of_unfit unfit

theorem exists_cause_iff : (∃ e, ofHexDigits digits = .error e ∧ e.cause?.isSome) ↔
    digits ≠ [] ∧ utf8Width digits ≤ 64 ∧ ¬ ∀ c ∈ digits, ∃ d, Hex.Shows c d := by
  constructor
  · rintro ⟨e, refused, cause⟩
    cases refused ▸ reads_ofHexDigits digits with
    | width => cases cause
    | characters started fits other => exact ⟨started, fits, other⟩
  · rintro ⟨started, fits, other⟩
    exact ofHexDigits_of_not_denotes started fits fun n denotes => other denotes.exists_shows

end Bare

/-! ## Spellings -/

/-- **A text that spells a target**: the digits on which it is shown, in either case and without some
of the zeros in front, but not without any digit, in a frame. -/
def Spells (text : String) (t : Target) : Prop :=
  ∃ zeros shown written, t.hexDigits = List.replicate zeros '0' ++ shown ∧ shown ≠ [] ∧
    List.Forall₂ Hex.EitherCase written shown ∧ Framed text written

/-- The text of a target spells it. -/
theorem spells_toHex (t : Target) : Spells t.toHex t := by
  refine ⟨0, t.hexDigits, t.hexDigits, rfl, ?_, ?_, [], [], [], nofun, nofun, by decide, ?_⟩
  · rw [← List.length_pos_iff, t.length_hexDigits]
    decide
  · exact List.forall₂_same.2 fun _ _ => Or.inl rfl
  · rw [toHex, String.toList_ofList, List.append_nil]
    rfl

section Text

variable {text : String} {t : Target}

/-- **Every spelling of a target is read as it.** -/
theorem Spells.ofHex_eq (spells : Spells text t) : ofHex text = .ok t := by
  obtain ⟨zeros, shown, written, digits, started, either, framed⟩ := spells
  have denotes : Hex.Denotes written t.toNat := by
    have whole : Hex.Denotes t.hexDigits t.toNat := Hex.denotes_fixed 64 t.toNat
    rw [digits, Hex.denotes_replicate_zero_append_iff] at whole
    exact whole.recased either
  have length := either.length_eq
  have short : written.length ≤ 64 := by
    rw [length, ← t.length_hexDigits, digits, List.length_append]
    exact Nat.le_add_left _ _
  have begun : written ≠ [] := by
    rwa [← List.length_pos_iff, length, List.length_pos_iff]
  have bare : bareText text = written := framed.bareText_eq_of_denotes denotes
  change ofHexDigits (bareText text) = _
  rw [bare, ofHexDigits_of_denotes begun short denotes]

/-- Blanks that are off already make no difference. -/
theorem ofHex_trim (text : String) : ofHex (String.ofList (trim text.toList)) = ofHex text := by
  rw [ofHex, String.toList_ofList, trim_trim, ofHex]

/-- **A hash is read where a target is**, and stands for it. -/
theorem ofHex_eq_ok_iff_blockHash :
    ofHex text = .ok t ↔ ∃ hash, BlockHash.ofHex text = .ok hash ∧ ofBlockHash hash = t := by
  have own (t : Target) : ofBlockHash (BlockHash.ofTarget t) = t := ofBytesBE_toBytesBE t
  have hashed : BlockHash.ofHex text = (ofHex text).map BlockHash.ofTarget := by
    rw [BlockHash.ofHex, ofHex_trim]
  cases read : ofHex text with
  | ok other =>
    rw [hashed, read, Except.map, Except.ok.injEq]
    simp only [Except.ok.injEq, exists_eq_left', own]
  | error e =>
    rw [hashed, read, Except.map]
    exact iff_of_false nofun fun ⟨_, refused, _⟩ => nomatch refused

/-- **What the reader of targets makes of a text.**  What stands in its frame decides: one to
sixty-four digits are the target of their number, which is that of the bytes they hold once zeros
have filled them up; nothing and more than sixty-four bytes are refused for their width, and all else
for its characters.  So every spelling of a target is read as it, its
own text among them.  The reader of hashes takes the same texts, with the same numbers. -/
theorem ofHex_accepts_numerals (text : String) (t : Target) :
    Framed text (bareText text) ∧
    ((∃ read, ofHex text = .ok read) ↔
      1 ≤ (bareText text).length ∧ (bareText text).length ≤ 64 ∧
        ∀ c ∈ bareText text, ∃ d, Hex.Shows c d) ∧
    (ofHex text = .ok t → Hex.Denotes (bareText text) t.toNat) ∧
    (∀ bytes, ofHex text = .ok (ofBytesBE bytes) ↔
      bareText text ≠ [] ∧ Hex.Pairs ((bareText text).leftpad 64 '0') bytes.toList) ∧
    (∀ got, ofHex text = .error (.width got) ↔
      (bareText text = [] ∨ 64 < utf8Width (bareText text)) ∧ got = utf8Width (bareText text)) ∧
    ((∃ e, ofHex text = .error e ∧ e.cause?.isSome) ↔
      bareText text ≠ [] ∧ utf8Width (bareText text) ≤ 64 ∧
        ¬ ∀ c ∈ bareText text, ∃ d, Hex.Shows c d) ∧
    (Spells text t → ofHex text = .ok t) ∧ Spells t.toHex t ∧ ofHex t.toHex = .ok t ∧
    (ofHex text = .ok t ↔ ∃ hash, BlockHash.ofHex text = .ok hash ∧ ofBlockHash hash = t) :=
  ⟨framed_bareText text, exists_ofHexDigits_iff, denotes_of_ofHexDigits,
    fun _ => ofHexDigits_eq_ok_iff_pairs, fun _ => ofHexDigits_eq_width_iff, exists_cause_iff, Spells.ofHex_eq, spells_toHex t,
    (spells_toHex t).ofHex_eq, ofHex_eq_ok_iff_blockHash⟩

end Text

end Target

end ProofOfWork
