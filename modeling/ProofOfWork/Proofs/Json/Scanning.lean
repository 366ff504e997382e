import Mathlib.Data.List.Chain
import ProofOfWork.Json.Token
import ProofOfWork.Proofs.Json.Literal

/-!
# Proofs/Json/Scanning — written tokens are found again

    tokens ──text of each──▸ characters ──one pass──▸ tokens

The texts of tokens, one after the other, are scanned as those tokens (`Scan.ofText?_flatMap_text`),
if no two bare words stand side by side (`Apart`): these alone have no end of their own, and are
taken for tokens where something comes that cannot go on with them (`Scan.foldlM_step_of_word`).
-/

namespace ProofOfWork.Json

/-- The tokens that are bare words. -/
def Token.isWord : Token → Bool
  | .null => true
  | .bool _ => true
  | .number _ => true
  | _ => false

/-- **A token that can be written**: if it is a number, its literal can. -/
def Token.WellFormed : Token → Prop
  | .number n => n.WellFormed
  | _ => True

/-- **Tokens among which no two bare words stand side by side.** -/
def Apart (tokens : List Token) : Prop :=
  tokens.IsChain fun token next => token.isWord = true → next.isWord = false

/-- One step further in a pass that has not failed. -/
theorem foldlM_cons_of_some {σ α : Type} {f : σ → α → Option σ} {state next : σ} {a : α}
    {rest : List α} (one : f state a = some next) :
    (a :: rest).foldlM f state = rest.foldlM f next := by
  rw [List.foldlM_cons, one]
  rfl

/-! ## Bare words -/

section Words

variable {c : Char} {token : Token}

/-- Bare words have neither gaps nor quotes in them. -/
theorem not_gap_of_isWordChar (inWord : isWordChar c = true) : isGap c = false ∧ c ≠ '\x22' := by
  have outside : ∀ d ∈ [' ', '\t', '\n', '\r', '\x22'], isWordChar d = false :=
    List.forall_iff_forall_mem.1 (by decide)
  have differs : ∀ d ∈ [' ', '\t', '\n', '\r', '\x22'], c ≠ d := by
    rintro d member rfl
    cases inWord.symm.trans (outside c member)
  simp only [List.forall_mem_cons] at differs
  obtain ⟨space, tab, feed, carriage, quote, -⟩ := differs
  simp only [isGap, Bool.or_eq_false_iff, beq_eq_false_iff_ne]
  exact ⟨⟨⟨⟨space, tab⟩, feed⟩, carriage⟩, quote⟩

theorem isWordChar_of_isDigit (digit : c.isDigit = true) : isWordChar c = true := by
  rw [isWordChar, Char.isAlphanum, digit, Bool.or_true, Bool.true_or, Bool.true_or, Bool.true_or]

/-- A number literal is written with the characters of bare words. -/
theorem Number.isWordChar_of_mem_text {n : Number} (digits : n.WellFormed) :
    ∀ c ∈ n.text, isWordChar c = true := by
  have number {m : ℕ} : ∀ c ∈ Nat.toDigits 10 m, isWordChar c = true :=
    fun c member => isWordChar_of_isDigit (isDigit_of_mem_toDigits c member)
  obtain ⟨negative, whole, fraction, exponent⟩ := n
  rw [text_eq]
  simp only [List.forall_mem_append]
  refine ⟨?_, number, ?_, ?_⟩
  · cases negative with
    | false => exact nofun
    | true => exact List.forall_mem_singleton.2 (by decide)
  · cases fraction with
    | nil => exact nofun
    | cons d more =>
      refine List.forall_mem_cons.2 ⟨by decide, fun c member => ?_⟩
      exact isWordChar_of_isDigit (digits c member)
  · cases exponent with
    | none => exact nofun
    | some power =>
      refine List.forall_mem_cons.2 ⟨by decide, List.forall_mem_cons.2 ⟨?_, number⟩⟩
      split <;> decide

theorem Token.isWordChar_of_mem_text (word : token.isWord = true) (wellFormed : token.WellFormed) :
    ∀ c ∈ token.text, isWordChar c = true := by
  cases token with
  | null => exact List.all_eq_true.1 (by decide)
  | bool b => cases b <;> exact List.all_eq_true.1 (by decide)
  | number n => exact Number.isWordChar_of_mem_text wellFormed
  | _ => cases word

/-- **A bare word is looked up as the token it was written for.** -/
theorem Token.ofWord?_text (word : token.isWord = true) (wellFormed : token.WellFormed) :
    ofWord? token.text = some token := by
  cases token with
  | null => rfl
  | bool b => cases b <;> rfl
  | number n =>
    have read := Number.ofText?_text wellFormed
    have other : ∀ name, Number.ofText? name = none → n.text ≠ name := by
      rintro _ nameless rfl
      cases nameless.symm.trans read
    have written : (Token.number n).text = n.text := rfl
    rw [written, ofWord?, if_neg (other _ (by decide)), if_neg (other _ (by decide)),
      if_neg (other _ (by decide)), read, Option.map_some]
  | _ => cases word

end Words

/-! ## Strings -/

/-- **How a character may be written in a string.** -/
inductive Escaped (c : Char) : Prop
  /-- By a backslash and a letter. -/
  | letter {letter : Char} (escaped : escapeChar c = ['\\', letter]) (notUnit : letter ≠ 'u')
      (spelled : escapedChar? letter = some c) : Escaped c
  /-- By its number. -/
  | number (escaped : escapeChar c = ['\\', 'u'] ++ Hex.fixed 4 c.toNat)
      (control : c.toNat < 0x20) : Escaped c
  /-- As it is. -/
  | plain (escaped : escapeChar c = [c]) (noQuote : c ≠ '\x22') (noBackslash : c ≠ '\\')
      (noControl : ¬ c.toNat < 0x20) : Escaped c

theorem escaped_escapeChar (c : Char) : Escaped c := by
  by_cases short : c ∈ ['\x22', '\\', '\x08', '\x0c', '\n', '\r', '\t']
  · simp only [List.mem_cons, List.not_mem_nil, or_false] at short
    rcases short with rfl | rfl | rfl | rfl | rfl | rfl | rfl <;> exact .letter rfl (by decide) rfl
  · simp only [List.mem_cons, List.not_mem_nil, or_false, not_or] at short
    obtain ⟨noQuote, noBackslash, back, form, feed, carriage, tab⟩ := short
    by_cases control : c.toNat < 0x20
    · refine .number ?_ control
      rw [escapeChar, if_neg noQuote, if_neg noBackslash, if_neg back, if_neg form, if_neg feed,
        if_neg carriage, if_neg tab, if_pos control]
    · refine .plain ?_ noQuote noBackslash control
      rw [escapeChar, if_neg noQuote, if_neg noBackslash, if_neg back, if_neg form, if_neg feed,
        if_neg carriage, if_neg tab, if_neg control]

theorem joinPieces_map_char (text : List Char) : joinPieces (text.map Piece.char) = some text := by
  induction text with
  | nil => rfl
  | cons c rest ih => rw [List.map_cons, joinPieces, ih, Option.map_some]

namespace Scan

variable {done : List Token}

/-! ## The pass over a bare word -/

theorem foldlM_step_word {word : List Char} (chars : ∀ c ∈ word, isWordChar c = true)
    (read : List Char) :
    word.foldlM step ⟨done, .word read⟩ = some ⟨done, .word (word.reverse ++ read)⟩ := by
  induction word generalizing read with
  | nil => rfl
  | cons c rest ih =>
    obtain ⟨first, chars⟩ := List.forall_mem_cons.1 chars
    have one : step ⟨done, .word read⟩ c = some ⟨done, .word (c :: read)⟩ := if_pos first
    rw [foldlM_cons_of_some one, ih chars (c :: read), List.reverse_cons, List.append_assoc,
      List.singleton_append]

/-- **A bare word is taken in whole**, and is not a token yet. -/
theorem foldlM_step_of_between {word : List Char} (started : word ≠ [])
    (chars : ∀ c ∈ word, isWordChar c = true) :
    word.foldlM step ⟨done, .between⟩ = some ⟨done, .word word.reverse⟩ := by
  obtain ⟨c, rest, rfl⟩ := List.exists_cons_of_ne_nil started
  obtain ⟨first, chars⟩ := List.forall_mem_cons.1 chars
  obtain ⟨noGap, noQuote⟩ := not_gap_of_isWordChar first
  have one : step ⟨done, .between⟩ c = some ⟨done, .word [c]⟩ := by
    rw [step, begin?, if_neg (by rw [noGap]; exact Bool.false_ne_true), if_neg noQuote,
      if_pos first]
  rw [foldlM_cons_of_some one, foldlM_step_word chars, List.reverse_cons]

/-- **A bare word becomes a token where something comes that cannot go on with it**, or nothing. -/
theorem foldlM_step_of_word {read text : List Char} {token : Token}
    (spelled : ofWord? read.reverse = some token)
    (ends : ∀ c ∈ text.head?, isWordChar c = false) :
    (text.foldlM step ⟨done, .word read⟩).bind finish? =
      (text.foldlM step ⟨token :: done, .between⟩).bind finish? := by
  have found : endWord? ⟨done, .word read⟩ read = some ⟨token :: done, .between⟩ := by
    rw [endWord?, spelled]
    rfl
  cases text with
  | nil => exact congrArg (fun scan => scan.map fun ended => ended.tokens.reverse) found
  | cons c rest =>
    have same : step ⟨done, .word read⟩ c = step ⟨token :: done, .between⟩ c := by
      rw [step]
      dsimp only
      rw [if_neg (by rw [ends c rfl]; exact Bool.false_ne_true), found]
      rfl
    rw [List.foldlM_cons, List.foldlM_cons, same]

/-! ## The pass over a string -/

/-- **An escape by number spells its unit**; the induction is on the digits still owed. -/
theorem foldlM_step_unit {digits : List Char} {read : List Piece} {owed value unit : ℕ}
    (length : digits.length = owed + 1) (shown : digits.foldlM Hex.shiftIn? value = some unit) :
    digits.foldlM step ⟨done, .unit read (owed + 1) value⟩ =
      some ⟨done, .string (Piece.ofUnit unit :: read)⟩ := by
  induction digits generalizing owed value with
  | nil => cases length
  | cons c rest ih =>
    rw [List.foldlM_cons] at shown
    cases shifted : Hex.shiftIn? value c with
    | none => rw [shifted] at shown; cases shown
    | some more =>
      rw [shifted] at shown
      have one : step ⟨done, .unit read (owed + 1) value⟩ c =
          some (if owed + 1 ≤ 1 then ⟨done, .string (Piece.ofUnit more :: read)⟩
            else ⟨done, .unit read owed more⟩) := by
        rw [step]
        dsimp only
        rw [inUnit?, shifted]
        rfl
      rw [List.foldlM_cons, one]
      cases owed with
      | zero =>
        obtain rfl : rest = [] := List.length_eq_zero_iff.1 (Nat.succ.inj length)
        cases shown
        rfl
      | succ owed =>
        rw [if_neg (by omega)]
        exact ih (Nat.succ.inj length) shown

/-- **A character is spelled by its escape.** -/
theorem foldlM_step_escapeChar (c : Char) (read : List Piece) :
    (escapeChar c).foldlM step ⟨done, .string read⟩ = some ⟨done, .string (.char c :: read)⟩ := by
  have opened : step ⟨done, .string read⟩ '\\' = some ⟨done, .escape read⟩ := rfl
  cases escaped_escapeChar c with
  | @letter letter escaped notUnit spelled =>
    have closed : step ⟨done, .escape read⟩ letter = some ⟨done, .string (.char c :: read)⟩ := by
      rw [step]
      dsimp only
      rw [if_neg notUnit, spelled]
      rfl
    rw [escaped, foldlM_cons_of_some opened, foldlM_cons_of_some closed]
    rfl
  | number escaped control =>
    have short : (Hex.fixed 4 c.toNat).length = 3 + 1 :=
      Hex.length_fixed (by decide) (control.trans (by decide))
    have unit : Piece.ofUnit c.toNat = .char c := by
      rw [Piece.ofUnit, if_neg (by omega), Char.ofNat_toNat]
    have started : step ⟨done, .escape read⟩ 'u' = some ⟨done, .unit read 4 0⟩ := rfl
    rw [escaped, List.cons_append, List.singleton_append, foldlM_cons_of_some opened,
      foldlM_cons_of_some started, foldlM_step_unit short (Hex.value?_fixed 4 c.toNat), unit]
  | plain escaped noQuote noBackslash noControl =>
    have taken : step ⟨done, .string read⟩ c = some ⟨done, .string (.char c :: read)⟩ := by
      rw [step]
      dsimp only
      rw [inString?, if_neg noQuote, if_neg noBackslash, if_neg noControl]
    rw [escaped, foldlM_cons_of_some taken]
    rfl

theorem foldlM_step_escapes (text : List Char) (read : List Piece) :
    (text.flatMap escapeChar).foldlM step ⟨done, .string read⟩ =
      some ⟨done, .string ((text.map Piece.char).reverse ++ read)⟩ := by
  induction text generalizing read with
  | nil => rfl
  | cons c rest ih =>
    rw [List.flatMap_cons, List.foldlM_append, foldlM_step_escapeChar, List.map_cons,
      List.reverse_cons, List.append_assoc]
    exact ih (.char c :: read)

/-! ## The pass over tokens -/

/-- **A token other than a bare word ends where its text ends.** -/
theorem foldlM_step_text {token : Token} (mark : token.isWord = false) :
    token.text.foldlM step ⟨done, .between⟩ = some ⟨token :: done, .between⟩ := by
  cases token with
  | null | bool | number => cases mark
  | openObject | closeObject | openArray | closeArray | comma | colon => rfl
  | string text =>
    cases text with
    | none => rfl
    | some text =>
      have opened : step ⟨done, .between⟩ '\x22' = some ⟨done, .string []⟩ := rfl
      have closed (read : List Piece) : step ⟨done, .string read⟩ '\x22' =
          some ⟨.string ((joinPieces read.reverse).map String.ofList) :: done, .between⟩ := rfl
      rw [Token.text_string, List.append_assoc, List.singleton_append, foldlM_cons_of_some opened,
        List.foldlM_append, foldlM_step_escapes, List.append_nil]
      dsimp only [Option.bind_eq_bind, Option.bind_some]
      rw [foldlM_cons_of_some (closed _), List.reverse_reverse, joinPieces_map_char, Option.map_some,
        String.ofList_toList]
      rfl

theorem exists_text_eq_cons {token : Token} (mark : token.isWord = false) :
    ∃ c more, token.text = c :: more ∧ isWordChar c = false := by
  cases token with
  | null | bool | number => cases mark
  | _ => exact ⟨_, _, rfl, by decide⟩

/-- Scanning goes on behind tokens; the induction is on the tokens still to come. -/
theorem foldlM_step_flatMap_text {tokens : List Token} (apart : Apart tokens)
    (wellFormed : ∀ token ∈ tokens, token.WellFormed) :
    ((tokens.flatMap Token.text).foldlM step ⟨done, .between⟩).bind finish? =
      some (done.reverse ++ tokens) := by
  induction tokens generalizing done with
  | nil => rw [List.append_nil]; rfl
  | cons token rest ih =>
    obtain ⟨next, apart⟩ := List.isChain_cons.1 apart
    obtain ⟨written, wellFormed⟩ := List.forall_mem_cons.1 wellFormed
    have goOn : ((rest.flatMap Token.text).foldlM step ⟨token :: done, .between⟩).bind finish? =
        some (done.reverse ++ token :: rest) := by
      rw [ih apart wellFormed, List.reverse_cons, List.append_assoc, List.singleton_append]
    rw [List.flatMap_cons, List.foldlM_append]
    cases word : token.isWord with
    | false =>
      rw [foldlM_step_text word]
      exact goOn
    | true =>
      -- the word is still open where its text ends; the next token, being no word, closes it
      have spelled := Token.ofWord?_text word written
      have started : token.text ≠ [] := by
        intro bare
        rw [bare] at spelled
        cases spelled
      have ends : ∀ c ∈ (rest.flatMap Token.text).head?, isWordChar c = false := by
        cases rest with
        | nil => exact nofun
        | cons following rest =>
          obtain ⟨c, more, text, notWord⟩ := exists_text_eq_cons (next following rfl word)
          rw [List.flatMap_cons, text]
          rintro _ ⟨⟩
          exact notWord
      rw [foldlM_step_of_between started (Token.isWordChar_of_mem_text word written)]
      refine Eq.trans ?_ goOn
      exact foldlM_step_of_word (by rwa [List.reverse_reverse]) ends

/-- **Written tokens are found again.** -/
theorem ofText?_flatMap_text {tokens : List Token} (apart : Apart tokens)
    (wellFormed : ∀ token ∈ tokens, token.WellFormed) :
    ofText? (tokens.flatMap Token.text) = some tokens :=
  foldlM_step_flatMap_text apart wellFormed

end Scan

end ProofOfWork.Json
