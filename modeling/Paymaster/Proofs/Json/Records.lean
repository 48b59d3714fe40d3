import Paymaster.Json.Record
import Paymaster.Proofs.Calendar.ReadBack
import Paymaster.Proofs.Json.RoundTrip

/-
  Records written and read back.
  A record is written as an object whose names are all different, so that each field is found under
  its name (`fields?_object`). Each kind of field is read as it was written: numbers of every word,
  amounts, texts, what may be absent, and lists; an instant is read as its text gives it
  (`Instant.asRead`). So every record is read back from the value that it is written as, and that
  value is plain, so it is read back from its text (`roundTrip_of`). `records_survive` puts the
  kinds of records together.
-/

namespace Paymaster

/-- The budget as the texts of its instants give it. -/
def Budget.asRead (b : Budget) : Budget :=
  { b with
    runAt := b.runAt.map Instant.asRead
    createdAt := b.createdAt.asRead
    updatedAt := b.updatedAt.asRead }

/-- The entry as the texts of its instants give it. -/
def Entry.asRead (e : Entry) : Entry :=
  { e with createdAt := e.createdAt.asRead, updatedAt := e.updatedAt.asRead }

/-- The texts of the budget's instants give them, and no later ones. -/
def Budget.IsLegible (b : Budget) : Prop :=
  (∀ runAt, b.runAt = some runAt → runAt.IsLegible) ∧ b.createdAt.IsLegible ∧
    b.updatedAt.IsLegible

/-- The texts of the entry's instants give them, and no later ones. -/
def Entry.IsLegible (e : Entry) : Prop := e.createdAt.IsLegible ∧ e.updatedAt.IsLegible

theorem Budget.asRead_eq_iff {b : Budget} : b.asRead = b ↔ b.IsLegible := by
  unfold IsLegible
  rw [← Instant.asRead_eq_iff, ← Instant.asRead_eq_iff]
  obtain ⟨_, _, _, runAt, _, _, _⟩ := b
  rcases runAt with _ | runAt
  · simp [asRead]
  · simp [asRead, ← Instant.asRead_eq_iff]

theorem Entry.asRead_eq_iff {e : Entry} : e.asRead = e ↔ e.IsLegible := by
  unfold IsLegible
  rw [← Instant.asRead_eq_iff, ← Instant.asRead_eq_iff]
  obtain ⟨_, _, _, _, _, _, _, _⟩ := e
  simp [asRead]

namespace Json

/-! ## Fields -/

section
variable {members : List (String × Json)}

theorem find?_of_nodup (nodup : (members.map Prod.fst).Nodup) {m : String × Json}
    (mine : m ∈ members) : members.find? (·.1 = m.1) = some m := by
  induction members with
  | nil => cases mine
  | cons first rest ih =>
    rw [List.map_cons, List.nodup_cons] at nodup
    rcases List.mem_cons.1 mine with rfl | later
    · exact List.find?_cons_of_pos (by simp)
    · have other : first.1 ≠ m.1 := fun same =>
        nodup.1 (same ▸ List.mem_map_of_mem later)
      rw [List.find?_cons_of_neg (by simpa using other)]
      exact ih nodup.2 later

theorem length_named_le (nodup : (members.map Prod.fst).Nodup) (name : String) :
    (members.filter (·.1 = name)).length ≤ 1 := by
  have once := List.nodup_iff_count.1 nodup name
  rw [List.count, List.countP_map, List.countP_eq_length_filter] at once
  refine le_of_eq_of_le (congrArg List.length (List.filter_congr fun m _ => ?_)) once
  exact (beq_eq_decide m.1 name).symm

/-- The fields of an object are found under their names, if these are all different. -/
theorem fields?_object {names : List String} (named : members.map Prod.fst = names)
    (nodup : names.Nodup) :
    fields? names (object members) = some (members.map fun m => some m.2) := by
  subst named
  have once : (members.map Prod.fst).all fun name => (members.filter (·.1 = name)).length ≤ 1 :=
    List.all_eq_true.2 fun name _ => decide_eq_true (length_named_le nodup name)
  refine (if_pos once).trans ?_
  rw [List.map_map]
  refine congrArg some (List.map_congr_left fun m mine => ?_)
  rw [Function.comp_apply, find?_of_nodup nodup mine]
  rfl

end

@[simp] theorem required_some {α : Type} (read : Json → Option α) (v : Json) :
    required read (some v) = read v := rfl

@[simp] theorem int64?_ofInt64 (n : Int64) : int64? (ofInt64 n) = some n := by
  have range : Int64.minValue.toInt ≤ n.toInt ∧ n.toInt ≤ Int64.maxValue.toInt :=
    ⟨Int64.le_iff_toInt_le.1 n.minValue_le, Int64.le_iff_toInt_le.1 n.le_maxValue⟩
  exact (if_pos range).trans (congrArg some n.ofInt_toInt)

@[simp] theorem int32?_integer (n : Int32) : int32? (integer n.toInt) = some n := by
  have range : Int32.minValue.toInt ≤ n.toInt ∧ n.toInt ≤ Int32.maxValue.toInt :=
    ⟨Int32.le_iff_toInt_le.1 n.minValue_le, Int32.le_iff_toInt_le.1 n.le_maxValue⟩
  exact (if_pos range).trans (congrArg some n.ofInt_toInt)

@[simp] theorem money?_ofMoney (m : Money) : money? (ofMoney m) = some m := Money.ofInt?_toInt m

@[simp] theorem bool?_bool (b : Bool) : bool? (bool b) = some b := rfl

@[simp] theorem text?_string (s : String) : text? (string s) = some s := rfl

@[simp] theorem instant?_ofInstant (t : Instant) : instant? (ofInstant t) = some t.asRead :=
  Calendar.readInstant?_text t

/-- What may be absent is read as it is when it is there, if it is not written as null then. -/
theorem optional_ofOption {α : Type} {read : Json → Option α} {write : α → Json} {f : α → α}
    (read_write : ∀ a, read (write a) = some (f a)) (there : ∀ a, write a ≠ null) (o : Option α) :
    optional read (some (ofOption write o)) = some (o.map f) := by
  cases o with
  | none => rfl
  | some a =>
    unfold optional ofOption
    split
    · rename_i same
      cases same
    · rename_i same
      exact absurd (Option.some.inj same) (there a)
    · rename_i same
      cases same
      rw [read_write]
      rfl

@[simp] theorem optional_instant (t : Option Instant) :
    optional instant? (some (ofOption ofInstant t)) = some (t.map Instant.asRead) :=
  optional_ofOption instant?_ofInstant (fun _ => nofun) t

@[simp] theorem optional_int64 (n : Option Int64) :
    optional int64? (some (ofOption ofInt64 n)) = some n := by
  rw [optional_ofOption (f := id) int64?_ofInt64 (fun _ => nofun) n, Option.map_id]
  rfl

theorem list?_array {α : Type} {read : Json → Option α} {write : α → Json}
    (inverse : ∀ a, read (write a) = some a) (as : List α) :
    list? read (array (as.map write)) = some as := by
  show (as.map write).mapM read = some as
  induction as with
  | nil => rfl
  | cons a as ih =>
    rw [List.map_cons, List.mapM_cons, inverse, ih]
    rfl

/-! ## Records -/

theorem direction?_ofDirection (d : Direction) : direction? (ofDirection d) = some d := by
  cases d <;> rfl

@[simp] theorem ofIsCredit_isCredit (d : Direction) : Direction.ofIsCredit d.isCredit = d := by
  cases d <;> rfl

theorem sourceWeight?_ofSourceWeight (s : AutoBalance.SourceWeight) :
    sourceWeight? (ofSourceWeight s) = some s := by
  unfold sourceWeight? ofSourceWeight
  rw [fields?_object (by rfl) (by decide)]
  simp

@[simp] theorem list?_ofSourceWeight (sources : List AutoBalance.SourceWeight) :
    list? sourceWeight? (array (sources.map ofSourceWeight)) = some sources :=
  list?_array sourceWeight?_ofSourceWeight sources

theorem configuration?_ofConfiguration (c : AutoBalance.Configuration) :
    configuration? (ofConfiguration c) = some c := by
  unfold configuration? ofConfiguration
  rw [fields?_object (by rfl) (by decide)]
  simp

theorem budget?_ofBudget (b : Budget) : budget? (ofBudget b) = some b.asRead := by
  unfold budget? ofBudget
  rw [fields?_object (by rfl) (by decide)]
  simp [Budget.asRead]

theorem entry?_ofEntry (e : Entry) : entry? (ofEntry e) = some e.asRead := by
  unfold entry? ofEntry
  rw [fields?_object (by rfl) (by decide)]
  simp [Entry.asRead]

theorem edge?_ofEdge (e : Edge) : edge? (ofEdge e) = some e := by
  unfold edge? ofEdge
  rw [fields?_object (by rfl) (by decide)]
  simp

theorem member?_ofMember (m : Member) : member? (ofMember m) = some m := by
  unfold member? ofMember
  rw [fields?_object (by rfl) (by decide)]
  simp

/-! ## Written values are plain -/

theorem plain_ofOption {α : Type} {write : α → Json} (plain : ∀ a, Plain (write a))
    (o : Option α) : Plain (ofOption write o) := by
  cases o with
  | none => exact .null
  | some a => exact plain a

theorem plain_ofDirection (d : Direction) : Plain (ofDirection d) := by
  cases d <;> exact .string _

/-- An object is plain if its members are, one after another. -/
theorem plain_object {members : List (String × Json)}
    (h : members.Forall fun m => Plain m.2) : Plain (object members) :=
  .object (List.forall_iff_forall_mem.1 h)

theorem plain_ofSourceWeight (s : AutoBalance.SourceWeight) : Plain (ofSourceWeight s) :=
  plain_object ⟨.integer _, .integer _⟩

theorem plain_ofConfiguration (c : AutoBalance.Configuration) : Plain (ofConfiguration c) := by
  refine plain_object ⟨.bool _, .array fun v written => ?_⟩
  obtain ⟨s, -, rfl⟩ := List.mem_map.1 written
  exact plain_ofSourceWeight s

theorem plain_ofBudget (b : Budget) : Plain (ofBudget b) :=
  plain_object ⟨.integer _, .string _, .integer _, plain_ofOption (fun _ => .string _) _, .bool _,
    .string _, .string _⟩

theorem plain_ofEntry (e : Entry) : Plain (ofEntry e) :=
  plain_object ⟨.integer _, .integer _, plain_ofOption (fun _ => .integer _) _, .string _, .bool _,
    .integer _, .string _, .string _⟩

theorem plain_ofEdge (e : Edge) : Plain (ofEdge e) :=
  plain_object ⟨.integer _, .integer _, .integer _⟩

theorem plain_ofMember (m : Member) : Plain (ofMember m) :=
  plain_object ⟨.integer _, .integer _⟩

/-! ## Through the text -/

/-- What is read back from the text that a value is written as. -/
def roundTrip {α : Type} (write : α → Json) (decode : Json → Option α) (a : α) : Option α :=
  (read? (write a).text).bind decode

/-- Every value is read back from the text that it is written as. -/
def Survives {α : Type} (write : α → Json) (decode : Json → Option α) : Prop :=
  ∀ a, roundTrip write decode a = some a

theorem roundTrip_of {α : Type} {write : α → Json} {decode : Json → Option α} {f : α → α}
    (plain : ∀ a, Plain (write a)) (decode_write : ∀ a, decode (write a) = some (f a)) (a : α) :
    roundTrip write decode a = some (f a) := by
  rw [roundTrip, read?_text (plain a)]
  exact decode_write a

theorem survives_of {α : Type} {write : α → Json} {decode : Json → Option α}
    (plain : ∀ a, Plain (write a)) (inverse : ∀ a, decode (write a) = some a) :
    Survives write decode :=
  roundTrip_of plain inverse

theorem roundTrip_ofBudget (b : Budget) : roundTrip ofBudget budget? b = some b.asRead :=
  roundTrip_of plain_ofBudget budget?_ofBudget b

theorem roundTrip_ofEntry (e : Entry) : roundTrip ofEntry entry? e = some e.asRead :=
  roundTrip_of plain_ofEntry entry?_ofEntry e

/-- Amounts, directions, source weights, configurations and the stored records survive being
written as text and read back: whatever their numbers, texts, instants and lists are, and whether
what may be absent is there or not. Only a leap second within a minute is read as part of the second
after it, so budgets and entries come back just if none of their instants is one. -/
theorem records_survive :
    Survives ofMoney money? ∧ Survives ofDirection direction? ∧
      Survives ofSourceWeight sourceWeight? ∧ Survives ofConfiguration configuration? ∧
      Survives ofEdge edge? ∧ Survives ofMember member? ∧
      (∀ b, roundTrip ofBudget budget? b = some b.asRead ∧ (b.asRead = b ↔ b.IsLegible)) ∧
      ∀ e, roundTrip ofEntry entry? e = some e.asRead ∧ (e.asRead = e ↔ e.IsLegible) :=
  ⟨survives_of (fun _ => .integer _) money?_ofMoney,
    survives_of plain_ofDirection direction?_ofDirection,
    survives_of plain_ofSourceWeight sourceWeight?_ofSourceWeight,
    survives_of plain_ofConfiguration configuration?_ofConfiguration,
    survives_of plain_ofEdge edge?_ofEdge,
    survives_of plain_ofMember member?_ofMember,
    fun b => ⟨roundTrip_ofBudget b, b.asRead_eq_iff⟩,
    fun e => ⟨roundTrip_ofEntry e, e.asRead_eq_iff⟩⟩

/-- Half way through a leap second after second 29, texts show the half of second 30. -/
theorem not_survives_withinMinute :
    let leap : Instant := { seconds := 1709251229, nanos := 1500000000 }
    let read : Instant := { seconds := 1709251230, nanos := 500000000 }
    roundTrip ofBudget budget? ⟨1, "rent", ⟨100⟩, some leap, true, leap, leap⟩ =
        some ⟨1, "rent", ⟨100⟩, some read, true, read, read⟩ ∧
      roundTrip ofEntry entry? ⟨1, 1, none, "", .debit, ⟨30⟩, leap, leap⟩ =
        some ⟨1, 1, none, "", .debit, ⟨30⟩, read, read⟩ ∧
      ¬Survives ofBudget budget? ∧ ¬Survives ofEntry entry? := by
  intro leap read
  have moved : leap.asRead = read ∧ read ≠ leap := by decide
  have budget : roundTrip ofBudget budget? ⟨1, "rent", ⟨100⟩, some leap, true, leap, leap⟩ =
      some ⟨1, "rent", ⟨100⟩, some read, true, read, read⟩ := by
    rw [roundTrip_ofBudget, ← moved.1]
    rfl
  have entry : roundTrip ofEntry entry? ⟨1, 1, none, "", .debit, ⟨30⟩, leap, leap⟩ =
      some ⟨1, 1, none, "", .debit, ⟨30⟩, read, read⟩ := by
    rw [roundTrip_ofEntry, ← moved.1]
    rfl
  refine ⟨budget, entry, fun survives => ?_, fun survives => ?_⟩
  · have same := (survives _).symm.trans budget
    exact moved.2 (congrArg Budget.createdAt (Option.some.inj same)).symm
  · have same := (survives _).symm.trans entry
    exact moved.2 (congrArg Entry.createdAt (Option.some.inj same)).symm

end Json

end Paymaster
