import ProofOfWork.Command.Run
import ProofOfWork.Proofs.Target.Hex

/-!
# Proofs/Target/CompactText — the texts of compact words

    text ──frame off──▸ bare ──one plus sign off──▸ digits worth less than 2 ^ 32 ──▸ word

A text is a compact word exactly when its bare part, without one plus sign, is a numeral worth less
than `2 ^ 32`, on however many digits.  The reader stops at the first digit that lifts the value out
of 32 bits; since further digits never make it smaller, no text is lost by that
(`Compact.readDigits_eq_ok_iff`).  What is printed of a word is such a text,
as a line or between quotes (`Action.Answers.run_eq`, `exists_pretty_describeCompact`).
-/

namespace ProofOfWork

namespace Compact

/-! ## Digits -/

/-- **Stopping early refuses just the numerals that are too large**; the induction is on the digits,
from a value that fits. -/
theorem readDigits_eq_ok_iff {digits : List Char} {n m : ℕ} (fits : n < 2 ^ 32) :
    readDigits n digits = .ok m ↔ digits.foldlM Hex.shiftIn? n = some m ∧ m < 2 ^ 32 := by
  induction digits generalizing n with
  | nil =>
    have same : readDigits n [] = .ok m ↔ n = m := by rw [readDigits, Except.ok.injEq]
    have folded : [].foldlM Hex.shiftIn? n = some m ↔ n = m := Option.some_inj
    rw [same, folded]
    exact ⟨fun same => ⟨same, same ▸ fits⟩, And.left⟩
  | cons c rest ih =>
    rw [readDigits, List.foldlM_cons]
    cases taken : Hex.shiftIn? n c with
    | none => exact iff_of_false nofun fun ⟨read, _⟩ => nomatch read
    | some more =>
      dsimp only
      split
      · rename_i room
        exact ih room
      · rename_i wide
        refine iff_of_false nofun fun ⟨read, room⟩ => wide ?_
        exact Nat.lt_of_le_of_lt (Hex.le_of_foldlM_shiftIn? read) room

/-- Without a plus sign in front, the digits are read as they stand. -/
theorem readNumeral_cons {c : Char} {rest : List Char} (unsigned : c ≠ '+') :
    readNumeral (c :: rest) = readDigits 0 (c :: rest) := by
  unfold readNumeral
  split <;> rename_i same
  · cases same
  · exact absurd (List.cons.inj same).1 unsigned
  · exact absurd (List.cons.inj same).1 unsigned
  · rfl

/-- **A numeral may have one plus sign**, and has at least one digit. -/
theorem readNumeral_eq_ok_iff {text : List Char} {n : ℕ} :
    readNumeral text = .ok n ↔
      ∃ sign digits, (sign = [] ∨ sign = ['+']) ∧ text = sign ++ digits ∧ digits ≠ [] ∧
        Hex.Denotes digits n ∧ n < 2 ^ 32 := by
  have value (digits : List Char) : readDigits 0 digits = .ok n ↔
      Hex.Denotes digits n ∧ n < 2 ^ 32 := by
    rw [readDigits_eq_ok_iff (by decide), ← Hex.value?_eq_some_iff, Hex.value?]
  constructor
  · intro read
    unfold readNumeral at read
    split at read
    · cases read
    · cases read
    · rename_i digits alone
      refine ⟨['+'], digits, Or.inr rfl, rfl, ?_, (value digits).1 read⟩
      rintro rfl
      exact alone rfl
    · rename_i bare _ _
      exact ⟨[], text, Or.inl rfl, rfl, bare, (value text).1 read⟩
  · rintro ⟨sign, digits, signed, rfl, started, denotes, room⟩
    have read := (value digits).2 ⟨denotes, room⟩
    obtain ⟨c, rest, rfl⟩ := List.exists_cons_of_ne_nil started
    obtain ⟨d, shown⟩ := denotes.exists_shows c List.mem_cons_self
    rcases signed with rfl | rfl
    · exact (readNumeral_cons shown.ne_mark.2.2).trans read
    · exact read

/-- **A text is a word exactly when its bare part is a numeral of 32 bits**, with one plus sign or
without. -/
theorem ofHex_eq_ok_iff {text : String} {b : Compact} :
    ofHex text = .ok b ↔
      ∃ sign digits, (sign = [] ∨ sign = ['+']) ∧ bareText text = sign ++ digits ∧ digits ≠ [] ∧
        Hex.Denotes digits b.word.toNat := by
  unfold ofHex bareText
  constructor
  · intro read
    split at read
    · rename_i n numeral
      obtain rfl := Except.ok.inj read
      obtain ⟨sign, digits, signed, bare, started, denotes, room⟩ := readNumeral_eq_ok_iff.1 numeral
      refine ⟨sign, digits, signed, bare, started, ?_⟩
      exact (UInt32.toNat_ofNat_of_lt' room).symm ▸ denotes
    · cases read
  · rintro ⟨sign, digits, signed, bare, started, denotes⟩
    have numeral := readNumeral_eq_ok_iff.2
      ⟨sign, digits, signed, bare, started, denotes, b.word.toNat_lt⟩
    rw [numeral]
    dsimp only
    rw [UInt32.ofNat_toNat]

/-! ## Printed words -/

/-- **A framed numeral of a word is read as the word.** -/
theorem ofHex_of_framed {text : String} {digits : List Char} {b : Compact}
    (framed : Framed text digits) (started : digits ≠ [])
    (denotes : Hex.Denotes digits b.word.toNat) : ofHex text = .ok b :=
  ofHex_eq_ok_iff.2
    ⟨[], digits, Or.inl rfl, framed.bareText_eq_of_denotes denotes, started, denotes⟩

theorem length_digits (b : Compact) : (Hex.fixed 8 b.word.toNat).length = 8 :=
  Hex.length_fixed (by decide) (Nat.lt_of_lt_of_eq b.word.toNat_lt (by decide))

/-- The text of a word reads back, with blanks behind it too. -/
theorem ofHex_toHex_append {back : List Char} (blank : ∀ c ∈ back, isBlank c = true) (b : Compact) :
    ofHex (String.ofList (b.toHex.toList ++ back)) = .ok b := by
  have started : Hex.fixed 8 b.word.toNat ≠ [] := by
    rw [← List.length_pos_iff, b.length_digits]
    decide
  refine ofHex_of_framed ⟨[], ['0', 'x'], back, nofun, blank, by decide, ?_⟩ started
    (Hex.denotes_fixed 8 _)
  rw [String.toList_ofList, toHex, String.toList_ofList, List.nil_append]

/-- The text of a word reads back. -/
theorem ofHex_toHex (b : Compact) : ofHex b.toHex = .ok b := by
  have read := b.ofHex_toHex_append (fun c (member : c ∈ []) => nomatch member)
  rwa [List.append_nil, String.ofList_toList] at read

/-- The line that shows a word reads back. -/
theorem ofHex_line (b : Compact) : ofHex (Outcome.line b.toHex).output = .ok b := by
  have lineEnd : ∀ c ∈ ['\n'], isBlank c = true := List.forall_mem_singleton.2 (by decide)
  have output : (Outcome.line b.toHex).output = String.ofList (b.toHex.toList ++ ['\n']) := by
    rw [← String.toList_inj, String.toList_ofList, Outcome.line, Outcome.output, String.toList_append]
    rfl
  rw [output]
  exact b.ofHex_toHex_append lineEnd

/-- **Two readers never disagree**: a text that is both a word and a target is one number. -/
theorem toNat_eq_of_ofHex {text : String} {b : Compact} {t : Target} (word : ofHex text = .ok b)
    (target : Target.ofHex text = .ok t) : t.toNat = b.word.toNat := by
  have whole : Hex.Denotes (bareText text) t.toNat := Target.denotes_of_ofHexDigits target
  obtain ⟨sign, digits, signed, bare, -, denotes⟩ := ofHex_eq_ok_iff.1 word
  rcases signed with rfl | rfl
  · rw [bare] at whole
    exact whole.unique denotes
  · obtain ⟨d, shown⟩ := whole.exists_shows '+' (by rw [bare]; exact List.mem_cons_self)
    exact absurd rfl shown.ne_mark.2.2

end Compact

/-! ## Words in what is printed -/

/-- **The word that an action answers with**, under given parameters and files. -/
inductive Action.Answers (files : Files) (params : Params) : Action → Compact → Prop
  /-- The bits required of the next block. -/
  | nextWork {chainFile : String} {tip : Header} {older : List Header} {b : Compact}
      (read : files.branch chainFile = .ok (tip, older))
      (required : ProofOfWork.nextWork params tip older = .ok b) :
      Answers files params (.nextWork chainFile) b
  /-- The bits of the fixed-window retarget. -/
  | legacyRetarget {chainFile : String} {firstBlockTime : Seconds} {tip : Header}
      {older : List Header} {b : Compact}
      (read : files.branch chainFile = .ok (tip, older))
      (retargeted : fixedWindowBits params tip firstBlockTime = .ok b) :
      Answers files params (.legacyRetarget chainFile firstBlockTime) b
  /-- The word that a target is encoded as. -/
  | encodeCompact {target : String} {t : Target} (read : Target.ofHex target = .ok t) :
      Answers files params (.encodeCompact target) t.encode
  /-- The word that was asked about. -/
  | decodeCompact {bits : String} {b : Compact} (read : Compact.ofHex bits = .ok b) :
      Answers files params (.decodeCompact bits) b

/-- The actions that answer with a word. -/
def Action.asksWord : Action → Bool
  | .nextWork _ => true
  | .legacyRetarget _ _ => true
  | .encodeCompact _ => true
  | .decodeCompact _ => true
  | _ => false

/-- What a document about a word begins with, up to the text of the word. -/
def describeFront : List Char := "\x7b\n  \x22bits\x22: \x22".toList

section Printing

variable {files : Files} {params : Params} {action : Action} {b : Compact}

/-- The characters of a word's text stand for themselves in a string. -/
theorem Compact.flatMap_escapeChar_toHex (b : Compact) :
    b.toHex.toList.flatMap Json.escapeChar = b.toHex.toList := by
  have plain : ∀ c ∈ b.toHex.toList, Json.escapeChar c = [c] := by
    intro c member
    rw [toHex, String.toList_ofList, List.mem_append] at member
    rcases member with mark | digit
    · have letters : ∀ c ∈ ['0', 'x'], Json.escapeChar c = [c] :=
        List.forall_iff_forall_mem.1 (by decide)
      exact letters c mark
    · obtain ⟨d, shown⟩ := (Hex.denotes_fixed 8 b.word.toNat).exists_shows c digit
      exact shown.of_forall (by decide)
  rw [List.flatMap_congr plain, List.flatMap_singleton']

/-- **The document about a word shows its text between quotes**, as its first field. -/
theorem exists_pretty_describeCompact (b : Compact) :
    ∃ back, (describeCompact b).pretty.toList =
      describeFront ++ b.toHex.toList ++ '\x22' :: back := by
  have quoted : (Json.Token.string (some b.toHex)).text =
      ['\x22'] ++ b.toHex.toList ++ ['\x22'] := by
    rw [Json.Token.text_string, b.flatMap_escapeChar_toHex]
  have front : ['\x7b'] ++ Json.Value.newLine 1 ++ Json.Value.keyText (some "bits") ++ ['\x22'] =
      describeFront := by decide
  have first (key : Option String) (v : Json.Value) (rest : List (Option String × Json.Value)) :
      ∃ back, (Json.Value.object ((key, v) :: rest)).layout 0 =
        ['\x7b'] ++ Json.Value.newLine 1 ++ Json.Value.keyText key ++ v.layout 1 ++ back :=
    ⟨Json.Value.memberLayout 1 rest ++ (Json.Value.newLine 0 ++ ['\x7d']), by
      rw [Json.Value.layout, List.append_assoc _ (Json.Value.newLine 0),
        List.append_assoc _ _ (_ ++ _)]⟩
  obtain ⟨back, shown⟩ := first (some "bits") (.text b.toHex)
    [(some "target", .text b.decode.target.toHex), (some "negative", .bool b.decode.negative),
      (some "overflow", .bool b.decode.overflow)]
  refine ⟨back, ?_⟩
  rw [Json.Value.pretty, String.toList_ofList]
  refine shown.trans ?_
  rw [Json.Value.text, Json.Value.layout, quoted, ← front]
  simp only [List.append_assoc, List.cons_append, List.nil_append]

/-- **An answer is printed**: the text of the word is a line of its own, or stands in a document. -/
theorem Action.Answers.run_eq (answers : action.Answers files params b) :
    action.run files params = .ok (.line b.toHex) ∨
      action.run files params = .ok (.line (describeCompact b).pretty) := by
  cases answers with
  | nextWork read required =>
    left
    rw [run, read]
    exact congrArg (fun answer => Except.ok (Outcome.ofAnswer Compact.toHex answer)) required
  | legacyRetarget read retargeted =>
    left
    rw [run, read]
    exact congrArg (fun answer => Except.ok (Outcome.ofAnswer Compact.toHex answer)) retargeted
  | encodeCompact read =>
    left
    rw [run, read]
  | decodeCompact read =>
    right
    rw [run, read]

/-- **What is printed is an answer**, of the actions that have a word to answer with. -/
theorem Action.exists_answers_of_run {outcome : Outcome} (asks : action.asksWord = true)
    (ran : action.run files params = .ok outcome) (printed : outcome.exitCode = 0) :
    ∃ b, action.Answers files params b := by
  have answered {answer : Except Fault Compact}
      (same : Outcome.ofAnswer Compact.toHex answer = outcome) : ∃ b, answer = .ok b := by
    cases answer with
    | ok b => exact ⟨b, rfl⟩
    | error fault =>
      rw [← same] at printed
      exact absurd printed (by decide : (101 : UInt32) ≠ 0)
  cases action with
  | nextWork chainFile =>
    rw [run] at ran
    cases read : files.branch chainFile with
    | error complaints => rw [read] at ran; cases ran
    | ok branch =>
      rw [read] at ran
      obtain ⟨b, required⟩ := answered (Except.ok.inj ran)
      exact ⟨b, .nextWork read required⟩
  | legacyRetarget chainFile firstBlockTime =>
    rw [run] at ran
    cases read : files.branch chainFile with
    | error complaints => rw [read] at ran; cases ran
    | ok branch =>
      rw [read] at ran
      obtain ⟨b, retargeted⟩ := answered (Except.ok.inj ran)
      exact ⟨b, .legacyRetarget read retargeted⟩
  | encodeCompact target =>
    rw [run] at ran
    cases read : Target.ofHex target with
    | error e => rw [read] at ran; cases ran
    | ok t => exact ⟨t.encode, .encodeCompact read⟩
  | decodeCompact bits =>
    rw [run] at ran
    cases read : Compact.ofHex bits with
    | error e => rw [read] at ran; cases ran
    | ok b => exact ⟨b, .decodeCompact read⟩
  | checkPow | wellReport => cases asks

end Printing

/-- **What the reader of compact words makes of a text.**  It takes the numerals of 32 bits, with one
plus sign or without, and no others.  Whatever word an action answers with, its text is printed as a
line or between quotes, reads back with its line end or without, and nothing else is printed by the
actions that ask for a word.  A text that is a target too is the same number. -/
theorem Compact.ofHex_accepts_words (text : String) (b : Compact) :
    (ofHex text = .ok b ↔
      ∃ sign digits, (sign = [] ∨ sign = ['+']) ∧ bareText text = sign ++ digits ∧ digits ≠ [] ∧
        Hex.Denotes digits b.word.toNat) ∧
    ofHex b.toHex = .ok b ∧ ofHex (Outcome.line b.toHex).output = .ok b ∧
    (∃ back, (describeCompact b).pretty.toList =
      describeFront ++ b.toHex.toList ++ '\x22' :: back) ∧
    (∀ (files : Files) (params : Params) (action : Action), action.Answers files params b →
      action.run files params = .ok (.line b.toHex) ∨
        action.run files params = .ok (.line (describeCompact b).pretty)) ∧
    (∀ (files : Files) (params : Params) (action : Action) (outcome : Outcome),
      action.asksWord = true → action.run files params = .ok outcome → outcome.exitCode = 0 →
        ∃ answer, action.Answers files params answer) ∧
    (∀ t, ofHex text = .ok b → Target.ofHex text = .ok t → t.toNat = b.word.toNat) :=
  ⟨ofHex_eq_ok_iff, b.ofHex_toHex, b.ofHex_line, exists_pretty_describeCompact b,
    fun _ _ _ answers => answers.run_eq, fun _ _ _ _ asks ran printed =>
      Action.exists_answers_of_run asks ran printed, fun _ => toNat_eq_of_ofHex⟩

end ProofOfWork
