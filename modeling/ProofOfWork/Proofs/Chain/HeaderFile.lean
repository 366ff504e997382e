import Mathlib.Data.List.Forall2
import ProofOfWork.Chain.Document
import ProofOfWork.Proofs.Chain.Branch

/-!
# Proofs/Chain/HeaderFile — the texts that are header files

    text ──entries──▸ bits read, entry by entry ──▸ headers, heights consecutive ──▸ index

A text is a header file exactly when it lists a branch (`ListsBranch`): records, at least one, whose
bits can all be read and whose heights are consecutive.  Each of the three stages of reading either
passes the whole list on or refuses it, so entries come to one of four ends (`Loads`), and bits that
cannot be read are reported before any gap in the heights.  An index that is made has the branch of
its entries, and no other, behind its tip.
-/

namespace ProofOfWork

/-- **What an entry says of a header**: its height, its time, and bits that read as those it has. -/
structure FileEntry.Describes (entry : FileEntry) (header : Header) : Prop where
  height : header.height = entry.height
  time : header.time = entry.time
  bits : entry.bits.read = .ok header.bits

/-- **A text that lists a branch** from its root up: a list of records, not empty, each of which
describes its header, at consecutive heights. -/
def ListsBranch (text : String) (branch : List Header) : Prop :=
  ∃ entries, entriesOfText? text = some entries ∧ entries ≠ [] ∧
    List.Forall₂ FileEntry.Describes entries branch ∧ Consecutive (entries.map FileEntry.height)

/-- **The first entry whose bits cannot be read**, by its height and the reason; nothing is said of
what follows. -/
def FirstBad (entries : List FileEntry) (height : ℕ) (cause : BadCompact) : Prop :=
  ∃ before entry behind, entries = before ++ entry :: behind ∧
    (∀ earlier ∈ before, ∃ bits, earlier.bits.read = .ok bits) ∧
    entry.height = height ∧ entry.bits.read = .error cause

/-- **What comes of a list of entries.** -/
inductive Loads (entries : List FileEntry) : Except HeaderFileError ChainIndex → Prop
  /-- There are none. -/
  | noHeaders (bare : entries = []) : Loads entries (.error .noHeaders)
  /-- The bits of one cannot be read. -/
  | badBits {height : ℕ} {cause : BadCompact} (bad : FirstBad entries height cause) :
      Loads entries (.error (.badBits height cause))
  /-- All bits are read, but the heights have a gap. -/
  | gap {branch : List Header} {expected found : ℕ}
      (describes : List.Forall₂ FileEntry.Describes entries branch)
      (gap : FirstGap (entries.map FileEntry.height) expected found) :
      Loads entries (.error (.broken (.heightGap expected found)))
  /-- They describe a branch. -/
  | branch {branch : List Header} (listed : entries ≠ [])
      (describes : List.Forall₂ FileEntry.Describes entries branch)
      (rises : Consecutive (entries.map FileEntry.height)) :
      Loads entries (.ok (ChainIndex.stacked branch))

theorem ListsBranch.ne_nil {text : String} {branch : List Header}
    (lists : ListsBranch text branch) : branch ≠ [] := by
  rintro rfl
  obtain ⟨entries, -, listed, all, -⟩ := lists
  exact listed (List.forall₂_nil_right_iff.1 all)

/-! ## The bits of every entry -/

section Bits

variable {entries : List FileEntry} {headers : List Header} {height : ℕ} {cause : BadCompact}

theorem FileEntry.Describes.header_eq {entry : FileEntry} {header : Header}
    (describes : entry.Describes header) : entry.header = .ok header := by
  obtain ⟨height, time, bits⟩ := header
  obtain ⟨rfl, rfl, read⟩ := describes
  rw [FileEntry.header, read]

/-- An entry describes the header of its bits, if these can be read. -/
theorem FileEntry.describes_of_read {entry : FileEntry} {bits : Compact}
    (read : entry.bits.read = .ok bits) :
    entry.Describes ⟨entry.height, entry.time, bits⟩ := ⟨rfl, rfl, read⟩

/-- **All entries describe headers, or there is a first one that does not.** -/
theorem describes_or_firstBad (entries : List FileEntry) :
    (∃ headers, List.Forall₂ FileEntry.Describes entries headers) ∨
      ∃ height cause, FirstBad entries height cause := by
  induction entries with
  | nil => exact Or.inl ⟨[], .nil⟩
  | cons entry rest ih =>
    cases read : entry.bits.read with
    | error cause =>
      exact Or.inr ⟨entry.height, cause, [], entry, rest, rfl, nofun, rfl, read⟩
    | ok bits =>
      rcases ih with ⟨headers, all⟩ | ⟨height, cause, before, bad, behind, rfl, readable, stands⟩
      · exact Or.inl ⟨_, .cons (FileEntry.describes_of_read read) all⟩
      · refine Or.inr ⟨height, cause, entry :: before, bad, behind, rfl, ?_, stands⟩
        exact List.forall_mem_cons.2 ⟨⟨bits, read⟩, readable⟩

theorem headersOf_of_describes (all : List.Forall₂ FileEntry.Describes entries headers) :
    headersOf entries = .ok headers := by
  induction all with
  | nil => rfl
  | cons describes _ ih =>
    rw [headersOf, describes.header_eq, ih]
    rfl

/-- **The first bad entry is the one reported**, whatever comes behind it. -/
theorem FirstBad.headersOf_eq (bad : FirstBad entries height cause) :
    headersOf entries = .error (.badBits height cause) := by
  obtain ⟨before, entry, behind, rfl, readable, rfl, stands⟩ := bad
  induction before with
  | nil => rw [List.nil_append, headersOf, FileEntry.header, stands]
  | cons earlier before ih =>
    obtain ⟨⟨bits, read⟩, readable⟩ := List.forall_mem_cons.1 readable
    rw [List.cons_append, headersOf, (FileEntry.describes_of_read read).header_eq, ih readable]
    rfl

/-- Headers have the heights of the entries that describe them. -/
theorem map_height_of_describes (all : List.Forall₂ FileEntry.Describes entries headers) :
    headers.map Header.height = entries.map FileEntry.height := by
  induction all with
  | nil => rfl
  | cons describes _ ih => rw [List.map_cons, List.map_cons, describes.height, ih]

/-- All bits can be read exactly if all entries describe headers. -/
theorem exists_describes_iff : (∃ headers, List.Forall₂ FileEntry.Describes entries headers) ↔
    ∀ entry ∈ entries, ∃ bits, entry.bits.read = .ok bits := by
  induction entries with
  | nil => exact iff_of_true ⟨[], .nil⟩ nofun
  | cons entry rest ih =>
    simp only [List.forall_mem_cons, ← ih, List.forall₂_cons_left_iff]
    constructor
    · rintro ⟨_, header, headers, describes, all, rfl⟩
      exact ⟨⟨_, describes.bits⟩, headers, all⟩
    · rintro ⟨⟨bits, read⟩, headers, all⟩
      exact ⟨_, _, headers, FileEntry.describes_of_read read, all, rfl⟩

end Bits

/-! ## The index of a file -/

namespace ChainIndex

variable {entries : List FileEntry}

theorem ofEntries_of_ne_nil (listed : entries ≠ []) :
    ofEntries entries =
      match headersOf entries with
      | .error e => .error e
      | .ok headers =>
        match ofHeaders headers with
        | .error cause => .error (.broken cause)
        | .ok chain => .ok chain := by
  unfold ofEntries
  exact if_neg (by rwa [List.isEmpty_iff])

/-- **Each of the four ends is what the entries come to.** -/
theorem ofEntries_of_loads {result : Except HeaderFileError ChainIndex}
    (loads : Loads entries result) : ofEntries entries = result := by
  cases loads with
  | noHeaders bare =>
    rw [bare]
    rfl
  | badBits bad =>
    have listed : entries ≠ [] := by
      obtain ⟨before, entry, behind, rfl, -⟩ := bad
      simp
    rw [ofEntries_of_ne_nil listed, bad.headersOf_eq]
  | gap describes gap =>
    have listed : entries ≠ [] := by
      rintro rfl
      exact gap.ne_nil rfl
    rw [← map_height_of_describes describes] at gap
    rw [ofEntries_of_ne_nil listed, headersOf_of_describes describes]
    dsimp only
    rw [ofHeaders_of_firstGap gap]
  | branch listed describes rises =>
    rw [← map_height_of_describes describes] at rises
    rw [ofEntries_of_ne_nil listed, headersOf_of_describes describes]
    dsimp only
    rw [(ofHeaders_of_consecutive rises).1]

/-- **Entries come to one of the four ends.** -/
theorem loads_ofEntries (entries : List FileEntry) : Loads entries (ofEntries entries) := by
  obtain ⟨result, loads⟩ : ∃ result, Loads entries result := by
    by_cases bare : entries = []
    · exact ⟨_, .noHeaders bare⟩
    · rcases describes_or_firstBad entries with ⟨branch, describes⟩ | ⟨height, cause, bad⟩
      · rcases consecutive_or_firstGap (entries.map FileEntry.height) with
          rises | ⟨expected, found, gap⟩
        · exact ⟨_, .branch bare describes rises⟩
        · exact ⟨_, .gap describes gap⟩
      · exact ⟨_, .badBits bad⟩
  exact ofEntries_of_loads loads ▸ loads

theorem ofEntries_eq_iff {result : Except HeaderFileError ChainIndex} :
    ofEntries entries = result ↔ Loads entries result :=
  ⟨fun same => same ▸ loads_ofEntries entries, ofEntries_of_loads⟩

theorem ofHeaderFile_of_entries {text : String} (found : entriesOfText? text = some entries) :
    ofHeaderFile text = ofEntries entries := by
  rw [ofHeaderFile, found]

/-- **A text is read as a header file exactly when it lists a branch**, and its index, which calls
on the tip build, then keeps that branch. -/
theorem ofHeaderFile_cases (text : String) :
    (∃ branch chain, ListsBranch text branch ∧ ofHeaderFile text = .ok chain ∧
      chain.Reachable ∧ chain.Keeps branch) ∨
    ((∀ branch, ¬ ListsBranch text branch) ∧ ∃ e, ofHeaderFile text = .error e) := by
  cases found : entriesOfText? text with
  | none =>
    refine Or.inr ⟨?_, .malformed, by rw [ofHeaderFile, found]⟩
    rintro branch ⟨entries, present, -⟩
    cases found.symm.trans present
  | some entries =>
    have lists {branch : List Header} (lists : ListsBranch text branch) :
        ofHeaderFile text = .ok (stacked branch) := by
      obtain ⟨_, present, listed, describes, rises⟩ := lists
      obtain rfl := Option.some.inj (found.symm.trans present)
      rw [ofHeaderFile_of_entries found]
      exact ofEntries_of_loads (.branch listed describes rises)
    have made := ofHeaderFile_of_entries found
    cases outcome : ofHeaderFile text with
    | error e =>
      refine Or.inr ⟨fun branch listing => ?_, e, rfl⟩
      cases outcome.symm.trans (lists listing)
    | ok chain =>
      cases ofEntries_eq_iff.1 (made.symm.trans outcome) with
      | @branch branch listed describes rises =>
        refine Or.inl ⟨branch, _, ⟨entries, found, listed, describes, rises⟩, rfl,
          stacked_reachable branch, ?_⟩
        rw [← map_height_of_describes describes] at rises
        exact (ofHeaders_of_consecutive rises).2

end ChainIndex

end ProofOfWork
