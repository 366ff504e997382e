import ProofOfWork.Proofs.Chain.HeaderFile
import ProofOfWork.Proofs.Target.Document

/-!
# Proofs/Chain/HeaderText — header files read back

    entries ──records──▸ text ──entries──▸ the same entries ──▸ index

Entries are written as records of three fields, each of which reads back, the bits as a number where
they were given as one and as text where they were text; so a written header file lists the entries it
was written for (`entriesOfText?_headerFileText`).  What they come to is then settled by the entries,
whatever the spelling of their bits (`ChainIndex.ofHeaderFile_eq_of_describes`), and the records of
headers are those of entries whose bits are numbers (`FileEntry.ofHeader`).
-/

namespace ProofOfWork

open Json (Value)

/-! ## Bits -/

/-- **Bits read back as they were given**, as a number or as text. -/
theorem BitsField.ofJson?_toJson (bits : BitsField) : BitsField.ofJson? bits.toJson = some bits := by
  cases bits with
  | number bits =>
    have read : BitsField.ofJson? bits.toJson = (Compact.ofJson? bits.toJson).map .number := rfl
    rw [BitsField.toJson, read, Compact.ofJson?_toJson, Option.map_some]
  | text digits => rfl

theorem BitsField.wellFormed_toJson (bits : BitsField) : bits.toJson.WellFormed := by
  cases bits with
  | number bits => exact Value.wellFormed_int _
  | text digits => exact Value.wellFormed_text digits

/-! ## Entries -/

namespace FileEntry

/-- An entry is read field by field. -/
theorem ofJson?_of_fields {v height time bits : Value} {entry : FileEntry}
    (fields : v.record? ["height", "time", "bits"] = some [height, time, bits])
    (heightRead : height.natBelow? (2 ^ 64) = some entry.height)
    (timeRead : Seconds.ofJson? time = some entry.time)
    (bitsRead : BitsField.ofJson? bits = some entry.bits) :
    FileEntry.ofJson? v = some entry := by
  rw [FileEntry.ofJson?, fields]
  dsimp only [Option.bind_eq_bind, Option.bind_some]
  rw [heightRead, timeRead, bitsRead]
  rfl

/-- **An entry reads back from its record.** -/
theorem ofJson?_toJson {entry : FileEntry} (fits : entry.height < 2 ^ 64) :
    FileEntry.ofJson? entry.toJson = some entry := by
  have distinct : ["height", "time", "bits"].Nodup := by decide
  have fields : entry.toJson.record? ["height", "time", "bits"] =
      some [.int entry.height, entry.time.toJson, entry.bits.toJson] :=
    Value.record?_record
      [("height", .int entry.height), ("time", entry.time.toJson), ("bits", entry.bits.toJson)]
      distinct
  exact ofJson?_of_fields fields (Value.natBelow?_int fits) (Seconds.ofJson?_toJson entry.time)
    (BitsField.ofJson?_toJson entry.bits)

theorem wellFormed_toJson (entry : FileEntry) : entry.toJson.WellFormed := by
  refine Value.wellFormed_record ?_
  refine List.forall_mem_cons.2 ⟨Value.wellFormed_int _, List.forall_mem_cons.2 ⟨?_, ?_⟩⟩
  · exact Value.wellFormed_int _
  · exact List.forall_mem_singleton.2 entry.bits.wellFormed_toJson

end FileEntry

/-- **A written header file lists its entries**, in their order. -/
theorem entriesOfText?_headerFileText {entries : List FileEntry}
    (fits : ∀ entry ∈ entries, entry.height < 2 ^ 64) :
    entriesOfText? (headerFileText entries) = some entries := by
  have wellFormed : (Value.array (entries.map FileEntry.toJson)).WellFormed :=
    Value.wellFormed_array (List.forall_mem_map.2 fun entry _ => entry.wellFormed_toJson)
  rw [entriesOfText?, headerFileText, Value.read?_compact wellFormed]
  have each : (entries.map FileEntry.toJson).mapM FileEntry.ofJson? = some (entries.map id) :=
    Value.mapM_map_eq_some fun entry member => FileEntry.ofJson?_toJson (fits entry member)
  rwa [List.map_id] at each

namespace FileEntry

/-! ## Headers -/

/-- The entry of a header, with its bits as a number. -/
def ofHeader (h : Header) : FileEntry := ⟨h.height, h.time, .number h.bits⟩

theorem describes_map_ofHeader (branch : List Header) :
    List.Forall₂ Describes (branch.map ofHeader) branch := by
  rw [List.forall₂_map_left_iff]
  exact List.forall₂_same.2 fun _ _ => ⟨rfl, rfl, rfl⟩

/-- **The records of headers are those of their entries.** -/
theorem headerFileText_map_ofHeader (branch : List Header) :
    headerFileText (branch.map ofHeader) = (Value.array (branch.map Header.toJson)).compact := by
  rw [headerFileText, List.map_map]
  rfl

end FileEntry

/-- The text of the records of headers lists them, with their bits as numbers. -/
theorem entriesOfText?_compact {branch : List Header} (fits : ∀ h ∈ branch, h.height < 2 ^ 64) :
    entriesOfText? (Value.array (branch.map Header.toJson)).compact =
      some (branch.map FileEntry.ofHeader) := by
  rw [← FileEntry.headerFileText_map_ofHeader]
  exact entriesOfText?_headerFileText (List.forall_mem_map.2 fits)

/-! ## Files -/

namespace ChainIndex

variable {entries others : List FileEntry} {branch : List Header} {text otherText : String}

theorem ofHeaderFile_eq_iff (found : entriesOfText? text = some entries)
    {result : Except HeaderFileError ChainIndex} :
    ofHeaderFile text = result ↔ Loads entries result := by
  rw [ofHeaderFile_of_entries found, ofEntries_eq_iff]

/-- **A file is loaded exactly if it has entries, their bits can be read and their heights are
consecutive.** -/
theorem exists_ofHeaderFile_iff (found : entriesOfText? text = some entries) :
    (∃ chain, ofHeaderFile text = .ok chain) ↔
      entries ≠ [] ∧ (∀ entry ∈ entries, ∃ bits, entry.bits.read = .ok bits) ∧
        Consecutive (entries.map FileEntry.height) := by
  simp only [ofHeaderFile_eq_iff found, ← exists_describes_iff]
  constructor
  · rintro ⟨chain, loads⟩
    cases loads with
    | branch listed describes rises => exact ⟨listed, ⟨_, describes⟩, rises⟩
  · rintro ⟨listed, ⟨branch, describes⟩, rises⟩
    exact ⟨_, .branch listed describes rises⟩

/-- **What is loaded keeps the headers that the entries describe.** -/
theorem exists_keeps_of_ofHeaderFile (found : entriesOfText? text = some entries)
    {chain : ChainIndex} (loaded : ofHeaderFile text = .ok chain) :
    ∃ headers, List.Forall₂ FileEntry.Describes entries headers ∧ chain.Keeps headers := by
  cases (ofHeaderFile_eq_iff found).1 loaded with
  | @branch headers listed describes rises =>
    rw [← map_height_of_describes describes] at rises
    exact ⟨headers, describes, (ofHeaders_of_consecutive rises).2⟩

theorem ofHeaderFile_eq_noHeaders_iff (found : entriesOfText? text = some entries) :
    ofHeaderFile text = .error .noHeaders ↔ entries = [] := by
  rw [ofHeaderFile_eq_iff found]
  constructor
  · rintro (bare | _)
    exact bare
  · exact .noHeaders

theorem ofHeaderFile_eq_badBits_iff (found : entriesOfText? text = some entries) {height : ℕ}
    {cause : BadCompact} :
    ofHeaderFile text = .error (.badBits height cause) ↔ FirstBad entries height cause := by
  rw [ofHeaderFile_eq_iff found]
  constructor
  · rintro (_ | bad)
    exact bad
  · exact .badBits

theorem ofHeaderFile_eq_broken_iff (found : entriesOfText? text = some entries)
    {cause : ChainError} :
    ofHeaderFile text = .error (.broken cause) ↔
      (∀ entry ∈ entries, ∃ bits, entry.bits.read = .ok bits) ∧
        ∃ expected actual, FirstGap (entries.map FileEntry.height) expected actual ∧
          cause = .heightGap expected actual := by
  rw [ofHeaderFile_eq_iff found, ← exists_describes_iff]
  constructor
  · intro loads
    cases loads with
    | gap describes gap => exact ⟨⟨_, describes⟩, _, _, gap, rfl⟩
  · rintro ⟨⟨branch, describes⟩, expected, actual, gap, rfl⟩
    exact .gap describes gap

/-- **The spelling of the bits makes no difference**: entries that describe the same headers come to
the same. -/
theorem ofHeaderFile_eq_of_describes (found : entriesOfText? text = some entries)
    (otherFound : entriesOfText? otherText = some others)
    (describes : List.Forall₂ FileEntry.Describes entries branch)
    (otherDescribes : List.Forall₂ FileEntry.Describes others branch) :
    ofHeaderFile otherText = ofHeaderFile text := by
  have length : others.length = entries.length :=
    otherDescribes.length_eq.trans describes.length_eq.symm
  rw [ofHeaderFile_of_entries found, ofHeaderFile_of_entries otherFound]
  by_cases listed : entries = []
  · rw [listed, List.length_nil, List.length_eq_zero_iff] at length
    rw [length, listed]
  · have otherListed : others ≠ [] := by
      rwa [← List.length_pos_iff, length, List.length_pos_iff]
    rw [ofEntries_of_ne_nil listed, ofEntries_of_ne_nil otherListed,
      headersOf_of_describes describes, headersOf_of_describes otherDescribes]

/-- **Headers at consecutive heights come back from the text they are written as.** -/
theorem exists_keeps_of_compact (listed : branch ≠ [])
    (rises : Consecutive (branch.map Header.height)) (fits : ∀ h ∈ branch, h.height < 2 ^ 64) :
    ∃ chain, ofHeaderFile (Value.array (branch.map Header.toJson)).compact = .ok chain ∧
      chain.Keeps branch := by
  have describes := FileEntry.describes_map_ofHeader branch
  refine ⟨stacked branch, ?_, (ofHeaders_of_consecutive rises).2⟩
  rw [map_height_of_describes describes] at rises
  refine (ofHeaderFile_eq_iff (entriesOfText?_compact fits)).2 ?_
  exact .branch (mt List.map_eq_nil_iff.1 listed) describes rises

/-- Three headers, of which two have the same bits. -/
def mixedBranch : List Header :=
  [⟨10, 1000, ⟨0x1d00ffff⟩⟩, ⟨11, 1079, ⟨0x1d00ffff⟩⟩, ⟨12, 1158, ⟨0x1c7fffff⟩⟩]

/-- The same headers with their bits as a number, as text with the mark and as bare digits. -/
def mixedEntries : List FileEntry :=
  [⟨10, 1000, .number ⟨0x1d00ffff⟩⟩, ⟨11, 1079, .text "0x1d00ffff"⟩, ⟨12, 1158, .text "1c7fffff"⟩]

theorem mixedEntries_describe : List.Forall₂ FileEntry.Describes mixedEntries mixedBranch :=
  .cons ⟨rfl, rfl, rfl⟩ (.cons ⟨rfl, rfl, rfl⟩ (.cons ⟨rfl, rfl, rfl⟩ .nil))

end ChainIndex

end ProofOfWork
