import Mathlib.Data.String.Basic
import Sortie.Proofs.ReadBack
import Sortie.Proofs.Saving
import Sortie.Records.Document

set_option autoImplicit false

namespace Sortie

variable {α σ : Type}

/-- An entry whose key comes after all others is put at the end. -/
theorem Table.put_last {key : String} {value : α} {table : Table α}
    (last : ∀ entry ∈ table, entry.1 < key) : put key value table = table ++ [(key, value)] := by
  induction table with
  | nil => rfl
  | cons entry rest ih =>
    obtain ⟨other, old⟩ := entry
    have before : other < key := last _ List.mem_cons_self
    have others := ih fun entry member => last entry (List.mem_cons_of_mem _ member)
    rw [put, if_neg (lt_asymm before), if_neg before.ne', others, List.cons_append]

namespace Json

theorem Value.plainMembers_map {write : α → Value} {table : Table α}
    (plain : ∀ entry ∈ table, (write entry.2).Plain) :
    PlainMembers (table.map fun entry => (entry.1, write entry.2)) := by
  induction table with
  | nil => exact trivial
  | cons entry rest ih =>
    exact ⟨plain entry List.mem_cons_self,
      ih fun other member => plain other (List.mem_cons_of_mem _ member)⟩

namespace Decoder

theorem enter_of_lt {depth : Nat} (shallow : depth < depthLimit)
    (inside : Nat → Except Problem α) : enter depth inside = inside (depth + 1) :=
  if_neg (Nat.not_le_of_lt shallow)

/-- What a decoder finds in the outline of a value it finds in the text. -/
theorem run_indented {decode : Decoder α} {value : Value} {result : α} (plain : value.Plain)
    (reads : decode 0 value.outlined = .ok result) : run decode value.indented = .ok result := by
  rw [run, outline_indented plain]
  dsimp only
  rw [reads]
  rfl

theorem natural_ofNat {limit value : Nat} (fits : value ≤ limit) (depth : Nat) :
    natural limit depth (Value.ofNat value).outlined = .ok value :=
  if_pos fits

/-- The entries of a table in order are put one after the other. -/
theorem entries_outlined {decode : Decoder α} {write : α → Value} {depth : Nat}
    {before table : Table α} (sorted : Table.Sorted (before ++ table))
    (reads : ∀ entry ∈ table, decode depth (write entry.2).outlined = .ok entry.2) :
    entries decode depth .closed before
        (Value.outlinedMembers (table.map fun entry => (entry.1, write entry.2))) =
      .ok (before ++ table) := by
  induction table generalizing before with
  | nil =>
    rw [List.append_nil]
    rfl
  | cons entry rest ih =>
    have last : ∀ other ∈ before, other.1 < entry.1 := fun other member =>
      (List.pairwise_append.mp sorted).2.2 other member entry List.mem_cons_self
    rw [List.append_cons] at sorted ⊢
    rw [List.map_cons, Value.outlinedMembers, entries, reads entry List.mem_cons_self]
    show entries decode depth .closed (Table.put entry.1 entry.2 before) _ = _
    rw [Table.put_last last]
    exact ih sorted fun other member => reads other (List.mem_cons_of_mem _ member)

theorem table_outlined {decode : Decoder α} {write : α → Value} {depth : Nat} {contents : Table α}
    (shallow : depth < depthLimit) (sorted : contents.Sorted)
    (reads : ∀ entry ∈ contents, decode (depth + 1) (write entry.2).outlined = .ok entry.2) :
    table decode depth
        (Value.object (contents.map fun entry => (entry.1, write entry.2))).outlined =
      .ok contents := by
  rw [Value.outlined, table, enter_of_lt shallow]
  exact entries_outlined (List.nil_append contents ▸ sorted) reads

section

variable {fields : List (Field σ)} {depth : Nat} {ending : Ending} {seen : List String}
  {before : σ} {name : String} {node : Node} {rest : Members}

theorem record_object (shallow : depth < depthLimit) (members : Members) :
    record fields before depth (.object members ending) =
      fromMembers fields (depth + 1) ending [] before members := by
  show enter depth (fun depth => fromMembers fields depth ending [] before members) = _
  rw [enter_of_lt shallow]

/-- A member that is read for the first time changes its field. -/
theorem fromMembers_cons {decode : Decoder α} {put : α → σ → σ} {needed : Bool} {value : α}
    (known : (fields.find? fun field => field.name == name) =
      some { field name decode put with required := needed })
    (fresh : seen.contains name = false) (reads : decode depth node = .ok value) :
    fromMembers fields depth ending seen before ((.ok name, node) :: rest) =
      fromMembers fields depth ending (name :: seen) (put value before) rest := by
  rw [fromMembers, known]
  dsimp only
  rw [if_neg (Bool.eq_false_iff.mp fresh)]
  show (do
    let record ← (decode depth node).map (put · before)
    fromMembers fields depth ending (name :: seen) record rest) = _
  rw [reads]
  rfl

end

end Decoder

end Json

open Json Decoder

namespace MissionRecord

theorem performance_read (best : Option Performance) (depth : Nat) :
    optional (choice Performance.ofName?) depth
      (Value.ofOption (fun tier => .text tier.name) best).outlined = .ok best := by
  cases best with
  | none => rfl
  | some tier => cases tier <;> rfl

theorem plain_toValue {record : MissionRecord} (range : record.bestScore < 2 ^ 64) :
    record.toValue.Plain := by
  have counts (count : UInt32) : count.toNat ≤ Number.naturalLimit :=
    Nat.le_trans (Nat.le_of_lt count.toNat_lt) (by decide)
  refine ⟨Nat.le_sub_one_of_lt range, ?_, counts _, counts _, trivial⟩
  cases record.bestPerformance <;> exact trivial

theorem decoder_outlined {record : MissionRecord} (range : record.bestScore < 2 ^ 64) {depth : Nat}
    (shallow : depth < depthLimit) : decoder depth record.toValue.outlined = .ok record := by
  have counted (count : UInt32) (depth : Nat) :
      count32 depth (Value.ofNat count.toNat).outlined = .ok count.toNat :=
    natural_ofNat (Nat.le_sub_one_of_lt count.toNat_lt) depth
  rw [toValue, Value.outlined, decoder, record_object shallow, Value.outlinedMembers,
    fromMembers_cons rfl rfl (natural_ofNat (Nat.le_sub_one_of_lt range) _),
    Value.outlinedMembers, fromMembers_cons rfl rfl (performance_read _ _), Value.outlinedMembers,
    fromMembers_cons rfl rfl (counted _ _), Value.outlinedMembers,
    fromMembers_cons rfl rfl (counted _ _)]
  show Except.ok { record with
    wins := .ofNat record.wins.toNat, losses := .ofNat record.losses.toNat } = _
  rw [UInt32.ofNat_toNat, UInt32.ofNat_toNat]

end MissionRecord

namespace MissionRecords

variable {records : MissionRecords}

theorem plain_toValue (range : ∀ entry ∈ records.records, entry.2.bestScore < 2 ^ 64) :
    records.toValue.Plain :=
  ⟨Value.plainMembers_map fun entry member => MissionRecord.plain_toValue (range entry member),
    trivial⟩

theorem decoder_outlined (sorted : records.records.Sorted)
    (range : ∀ entry ∈ records.records, entry.2.bestScore < 2 ^ 64) :
    decoder 0 records.toValue.outlined = .ok records := by
  have shallow : 1 < depthLimit := by decide
  have reads := table_outlined shallow sorted fun entry member =>
    MissionRecord.decoder_outlined (range entry member) (by decide)
  rw [toValue, Value.outlined, decoder, record_object (by decide), Value.outlinedMembers,
    fromMembers_cons rfl rfl reads]
  rfl

/-- Records that were saved are read back. -/
theorem saved_records_read_back {before after : Storage} {path : Path}
    (sorted : records.records.Sorted)
    (range : ∀ entry ∈ records.records, entry.2.bestScore < 2 ^ 64)
    (saved : before.save path records.toValue = (none, after)) :
    after.load decoder path = .ok (some records) := by
  obtain ⟨directory, name, held⟩ := Storage.holds_of_save saved
  exact held.load (run_indented (plain_toValue range) (decoder_outlined sorted range))

/-- Records under names that need escapes, with the largest score and the largest count. -/
def logbook : MissionRecords where
  records := [("\"Ωmega\"\t\x01/hard",
      { bestScore := 2 ^ 64 - 1, bestPerformance := some .good, wins := 4294967295 }),
    ("😀/easy", { losses := 1 })]

def logbookPath : Path := ["records.json"]

/-- A tree in which other records were saved before. -/
def logbookBefore : Storage := (Storage.save {} logbookPath (toValue {})).2

def logbookAfter : Storage := (logbookBefore.save logbookPath logbook.toValue).2

theorem logbook_read_back : logbook.records.Sorted ∧
    (∀ entry ∈ logbook.records, entry.2.bestScore < 2 ^ 64) ∧
    logbookBefore.save logbookPath logbook.toValue = (none, logbookAfter) ∧
    logbookAfter.load decoder logbookPath = .ok (some logbook) := by
  have sorted : logbook.records.Sorted := by
    unfold Table.Sorted
    decide +kernel
  have range : ∀ entry ∈ logbook.records, entry.2.bestScore < 2 ^ 64 := by decide
  have saved : logbookBefore.save logbookPath logbook.toValue = (none, logbookAfter) :=
    Prod.ext (by decide +kernel) rfl
  exact ⟨sorted, range, saved, saved_records_read_back sorted range saved⟩

end MissionRecords

end Sortie
