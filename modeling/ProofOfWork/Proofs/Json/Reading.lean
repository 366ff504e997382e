import ProofOfWork.Json.Reader
import ProofOfWork.Json.Writer
import ProofOfWork.Proofs.Json.Scanning

/-!
# Proofs/Json/Reading — written documents read back

    document ──tokens──▸ text ──scan──▸ tokens ──frames──▸ document

The tokens of a document hold two bare words apart everywhere (`Value.apart_tokens`), so its text is
scanned as them; and wherever a value is expected they are read as the document, with whatever has
been opened around it as it was (`Value.foldlM_step_tokens`).  Both go by the structure of documents,
items and members at once.  So a document that can be written reads back (`Value.read?_compact`), and
of a record with distinct keys every field is found (`Value.record?_record`).
-/

namespace ProofOfWork.Json

open Expecting (step complete)

/-- **A document that can be written**: every number literal in it can. -/
def Value.WellFormed (v : Value) : Prop := ∀ token ∈ v.tokens, token.WellFormed

/-! ## Bare words in documents -/

section Apart

variable {token : Token} {tokens rest : List Token}

theorem Apart.cons (mark : token.isWord = false) (apart : Apart rest) : Apart (token :: rest) :=
  List.isChain_cons.2 ⟨fun _ _ word => absurd word (by rw [mark]; exact Bool.false_ne_true), apart⟩

/-- A mark holds what stands in front of it apart from what comes behind. -/
theorem Apart.append_cons (front : Apart tokens) (mark : token.isWord = false)
    (apart : Apart rest) : Apart (tokens ++ token :: rest) := by
  refine List.isChain_append.2 ⟨front, Apart.cons mark apart, fun _ _ next first _ => ?_⟩
  obtain rfl : token = next := Option.some.inj first
  exact mark

end Apart

namespace Value

mutual

/-- **No two bare words stand side by side in a document.** -/
theorem apart_tokens : (v : Value) → Apart v.tokens
  | .null | .bool _ | .number _ | .string _ => List.isChain_singleton _
  | .array [] | .object [] => Apart.cons rfl (List.isChain_singleton _)
  | .array (v :: rest) => Apart.cons rfl (apart_itemTokens rest (apart_tokens v))
  | .object ((_, v) :: rest) =>
    Apart.cons rfl (Apart.cons rfl (Apart.cons rfl (apart_memberTokens rest (apart_tokens v))))

/-- The items behind the first one begin with marks, and so does the end of the array. -/
theorem apart_itemTokens {front : List Token} : (items : List Value) → Apart front →
    Apart (front ++ itemTokens items ++ [.closeArray])
  | [], apart => by
    rw [itemTokens, List.append_nil]
    exact apart.append_cons rfl List.isChain_nil
  | v :: rest, apart => by
    rw [itemTokens, List.append_assoc]
    exact apart.append_cons rfl (apart_itemTokens rest (apart_tokens v))

/-- The members behind the first one begin with marks, and so does the end of the object. -/
theorem apart_memberTokens {front : List Token} : (members : List (Option String × Value)) →
    Apart front → Apart (front ++ memberTokens members ++ [.closeObject])
  | [], apart => by
    rw [memberTokens, List.append_nil]
    exact apart.append_cons rfl List.isChain_nil
  | (_, v) :: rest, apart => by
    rw [memberTokens, List.append_assoc]
    exact apart.append_cons rfl
      (Apart.cons rfl (Apart.cons rfl (apart_memberTokens rest (apart_tokens v))))

end

/-! ## Documents out of their tokens -/

/-- A document does not begin with the end of an array. -/
theorem exists_tokens_eq_cons (v : Value) :
    ∃ first more, v.tokens = first :: more ∧ first ≠ .closeArray := by
  cases v with
  | array items => cases items <;> exact ⟨_, _, rfl, nofun⟩
  | object members => cases members <;> exact ⟨_, _, rfl, nofun⟩
  | _ => exact ⟨_, _, rfl, nofun⟩

/-- The first item of an array is read like any other value. -/
theorem foldlM_step_firstItem (v : Value) (outer : List Frame) (rest : List Token) :
    (v.tokens ++ rest).foldlM step (.firstItem outer) =
      (v.tokens ++ rest).foldlM step (.value (.array [] :: outer)) := by
  obtain ⟨first, more, tokens, notEnd⟩ := v.exists_tokens_eq_cons
  have same : step (.firstItem outer) first = step (.value (.array [] :: outer)) first := by
    rw [step, step]
    exact notEnd
  rw [tokens, List.cons_append, List.foldlM_cons, List.foldlM_cons, same]

mutual

/-- **Where a value is expected, the tokens of a document are read as it.** -/
theorem foldlM_step_tokens (outer : List Frame) (behind : List Token) : (v : Value) →
    (v.tokens ++ behind).foldlM step (.value outer) = behind.foldlM step (complete v outer)
  | .null | .bool _ | .number _ | .string _ => rfl
  | .array [] | .object [] => rfl
  | .array (v :: rest) => by
    have opened : step (.value outer) .openArray = some (.firstItem outer) := rfl
    rw [tokens, List.cons_append, foldlM_cons_of_some opened, List.append_assoc, List.append_assoc,
      foldlM_step_firstItem, foldlM_step_tokens]
    -- `v` is complete inside the array, which now waits for a comma or its end
    exact foldlM_step_itemTokens [v] outer behind rest
  | .object ((name, v) :: rest) => by
    have opened : step (.value outer) .openObject = some (.firstKey outer) := rfl
    have named : step (.firstKey outer) (.string name) = some (.colon [] name outer) := rfl
    have colon : step (.colon [] name outer) .colon = some (.value (.object [] name :: outer)) := rfl
    rw [tokens, List.cons_append, foldlM_cons_of_some opened, List.cons_append,
      foldlM_cons_of_some named, List.cons_append, foldlM_cons_of_some colon, List.append_assoc,
      List.append_assoc, foldlM_step_tokens]
    exact foldlM_step_memberTokens [(name, v)] outer behind rest

/-- Behind an item, further items and the end of the array are read. -/
theorem foldlM_step_itemTokens (read : List Value) (outer : List Frame) (behind : List Token) :
    (items : List Value) →
    (itemTokens items ++ .closeArray :: behind).foldlM step (.moreItems read outer) =
      behind.foldlM step (complete (.array (read.reverse ++ items)) outer)
  | [] => by
    rw [List.append_nil]
    rfl
  | v :: rest => by
    have comma : step (.moreItems read outer) .comma = some (.value (.array read :: outer)) := rfl
    have next := foldlM_step_itemTokens (v :: read) outer behind rest
    rw [List.reverse_cons, List.append_assoc, List.singleton_append] at next
    rw [itemTokens, List.cons_append, foldlM_cons_of_some comma, List.append_assoc,
      foldlM_step_tokens]
    exact next

/-- Behind a member, further members and the end of the object are read. -/
theorem foldlM_step_memberTokens (read : List (Option String × Value)) (outer : List Frame)
    (behind : List Token) : (members : List (Option String × Value)) →
    (memberTokens members ++ .closeObject :: behind).foldlM step (.moreMembers read outer) =
      behind.foldlM step (complete (.object (read.reverse ++ members)) outer)
  | [] => by
    rw [List.append_nil]
    rfl
  | (name, v) :: rest => by
    have comma : step (.moreMembers read outer) .comma = some (.key read outer) := rfl
    have named : step (.key read outer) (.string name) = some (.colon read name outer) := rfl
    have colon : step (.colon read name outer) .colon =
        some (.value (.object read name :: outer)) := rfl
    have next := foldlM_step_memberTokens ((name, v) :: read) outer behind rest
    rw [List.reverse_cons, List.append_assoc, List.singleton_append] at next
    rw [memberTokens, List.cons_append, foldlM_cons_of_some comma, List.cons_append,
      foldlM_cons_of_some named, List.cons_append, foldlM_cons_of_some colon, List.append_assoc,
      foldlM_step_tokens]
    exact next

end

/-- **A written document reads back.** -/
theorem read?_compact {v : Value} (wellFormed : v.WellFormed) : read? v.compact = some v := by
  have read := foldlM_step_tokens [] [] v
  rw [List.append_nil] at read
  rw [read?, compact, String.toList_ofList, Scan.ofText?_flatMap_text v.apart_tokens wellFormed,
    Option.bind_some, ofTokens?, read]
  rfl

/-! ## Documents that can be written -/

theorem wellFormed_int (n : ℤ) : (int n).WellFormed :=
  List.forall_mem_singleton.2 (Number.wellFormed_ofInt n)

theorem wellFormed_text (s : String) : (text s).WellFormed :=
  List.forall_mem_singleton.2 trivial

theorem wellFormed_bool (b : Bool) : (bool b).WellFormed :=
  List.forall_mem_singleton.2 trivial

theorem wellFormed_itemTokens {items : List Value} (all : ∀ v ∈ items, v.WellFormed) :
    ∀ token ∈ itemTokens items, token.WellFormed := by
  induction items with
  | nil => exact nofun
  | cons v rest ih =>
    obtain ⟨first, all⟩ := List.forall_mem_cons.1 all
    exact List.forall_mem_cons.2 ⟨trivial, List.forall_mem_append.2 ⟨first, ih all⟩⟩

theorem wellFormed_memberTokens {members : List (Option String × Value)}
    (all : ∀ member ∈ members, member.2.WellFormed) :
    ∀ token ∈ memberTokens members, token.WellFormed := by
  induction members with
  | nil => exact nofun
  | cons member rest ih =>
    obtain ⟨first, all⟩ := List.forall_mem_cons.1 all
    refine List.forall_mem_cons.2 ⟨trivial, List.forall_mem_cons.2 ⟨trivial, ?_⟩⟩
    exact List.forall_mem_cons.2 ⟨trivial, List.forall_mem_append.2 ⟨first, ih all⟩⟩

/-- **An array can be written if its items can.** -/
theorem wellFormed_array {items : List Value} (all : ∀ v ∈ items, v.WellFormed) :
    (array items).WellFormed := by
  cases items with
  | nil => exact List.forall_mem_cons.2 ⟨trivial, List.forall_mem_singleton.2 trivial⟩
  | cons v rest =>
    obtain ⟨first, all⟩ := List.forall_mem_cons.1 all
    refine List.forall_mem_cons.2 ⟨trivial, ?_⟩
    refine List.forall_mem_append.2 ⟨?_, List.forall_mem_singleton.2 trivial⟩
    exact List.forall_mem_append.2 ⟨first, wellFormed_itemTokens all⟩

/-- **A record can be written if its fields can.** -/
theorem wellFormed_record {fields : List (String × Value)}
    (all : ∀ field ∈ fields, field.2.WellFormed) : (record fields).WellFormed := by
  cases fields with
  | nil => exact List.forall_mem_cons.2 ⟨trivial, List.forall_mem_singleton.2 trivial⟩
  | cons field rest =>
    obtain ⟨first, all⟩ := List.forall_mem_cons.1 all
    refine List.forall_mem_cons.2 ⟨trivial, List.forall_mem_cons.2 ⟨trivial, ?_⟩⟩
    refine List.forall_mem_cons.2 ⟨trivial, List.forall_mem_append.2 ⟨?_, ?_⟩⟩
    · refine List.forall_mem_append.2 ⟨first, wellFormed_memberTokens ?_⟩
      exact List.forall_mem_map.2 all
    · exact List.forall_mem_singleton.2 trivial

/-! ## Numbers in documents -/

theorem int?_int (n : ℤ) : (int n).int? = some n := Number.toInt?_ofInt n

/-- **A natural number below the bound is read from its document.** -/
theorem natBelow?_int {n bound : ℕ} (below : n < bound) : (int n).natBelow? bound = some n := by
  rw [natBelow?, int?_int, Option.bind_some, if_pos ⟨by omega, by omega⟩, Int.toNat_natCast]

/-! ## Fields of records -/

/-- What is read of every element makes up a list. -/
theorem mapM_map_eq_some {α β γ : Type} {read : β → Option γ} {write : α → β} {value : α → γ}
    {list : List α} (each : ∀ a ∈ list, read (write a) = some (value a)) :
    (list.map write).mapM read = some (list.map value) := by
  induction list with
  | nil => rfl
  | cons a rest ih =>
    obtain ⟨first, each⟩ := List.forall_mem_cons.1 each
    rw [List.map_cons, List.mapM_cons, first, ih each]
    rfl

section Record

variable {fields : List (String × Value)} {key : String} {v : Value}

/-- One field alone has a key, if no two have the same. -/
theorem filter_key_eq_singleton (distinct : (fields.map Prod.fst).Nodup)
    (present : (key, v) ∈ fields) :
    (fields.filter fun field => some field.1 == some key) = [(key, v)] := by
  induction fields with
  | nil => cases present
  | cons field rest ih =>
    rw [List.map_cons, List.nodup_cons] at distinct
    rcases List.mem_cons.1 present with rfl | present
    · have others : (rest.filter fun field => some field.1 == some key) = [] := by
        refine List.filter_eq_nil_iff.2 fun field member same => distinct.1 ?_
        exact List.mem_map.2 ⟨field, member, Option.some.inj (eq_of_beq same)⟩
      have same : (some key == some key) = true := beq_self_eq_true _
      rw [List.filter_cons, if_pos same, others]
    · have other : ¬ (some field.1 == some key) = true := fun same =>
        distinct.1 (List.mem_map.2 ⟨_, present, (Option.some.inj (eq_of_beq same)).symm⟩)
      rw [List.filter_cons, if_neg other, ih distinct.2 present]

/-- **A key that occurs once is found.** -/
theorem member?_of_mem (distinct : (fields.map Prod.fst).Nodup) (present : (key, v) ∈ fields) :
    member? (fields.map fun (key, v) => (some key, v)) key = some v := by
  have once := filter_key_eq_singleton distinct present
  rw [member?, List.filter_map]
  unfold Function.comp
  rw [once]
  rfl

/-- **The fields of a record are found under their keys.** -/
theorem record?_record (fields : List (String × Value)) (distinct : (fields.map Prod.fst).Nodup) :
    (record fields).record? (fields.map Prod.fst) = some (fields.map Prod.snd) := by
  have named : (fields.map fun (key, v) => (some key, v)).all fun member => member.1.isSome :=
    List.all_eq_true.2 (List.forall_mem_map.2 fun _ _ => rfl)
  rw [record, record?, if_pos named]
  exact mapM_map_eq_some fun field member => member?_of_mem distinct member

end Record

end Value

end ProofOfWork.Json
