import Paymaster.Proofs.Ledger.Posting
import Paymaster.Proofs.Ledger.Reading

/-
  What operations do to the store, whether or not they succeed.
  `Follows R m` says that the store before `m` and the store that it leaves stand in the relation
  `R`, also when `m` fails half way. If `R` may be taken in steps (`Stepwise`), what is built from
  parts that follow it follows it (`Follows.bind`). `Leaves R m` is the same for whole
  databases: transactions of operations that follow `R`, after checks that only read, are of this
  kind.

  A sequence of operations passes through a list of databases (`Database.through`); a relation that
  can be taken in steps holds along all of it if every step keeps to it
  (`Database.pairwise_through_cons`).
-/

namespace Paymaster

/-- It holds over no step, and over two steps if it holds over each. -/
structure Stepwise (R : Store → Store → Prop) : Prop where
  refl : ∀ s, R s s
  trans : ∀ {s t u}, R s t → R t u → R s u

namespace LedgerM

variable {α β : Type} {R : Store → Store → Prop} {m : LedgerM α}

/-- The operation works on the store alone, and leaves it in the relation `R` to what it was. -/
def Follows (R : Store → Store → Prop) (m : LedgerM α) : Prop :=
  Confined m ∧ ∀ s, R s (m.onStore s).2

theorem follows_pure (steps : Stepwise R) (a : α) : Follows R (pure a) :=
  ⟨confined_pure a, steps.refl⟩

theorem follows_throw (steps : Stepwise R) (failure : Failure) :
    Follows R (throw failure : LedgerM α) :=
  ⟨confined_throw failure, steps.refl⟩

theorem follows_checked (steps : Stepwise R) (x : Except Overflow α) : Follows R (checked x) := by
  cases x
  · exact follows_throw steps _
  · exact follows_pure steps _

/-- A statement that is refused changes nothing. -/
theorem follows_statement (steps : Stepwise R) {f : Store.Statement α}
    (h : ∀ s a t, f s = .ok (a, t) → R s t) : Follows R (statement f) := by
  refine ⟨confined_statement f, fun s => ?_⟩
  rw [onStore_statement]
  rcases done : f s with cause | ⟨a, t⟩
  · exact steps.refl s
  · exact h s a t done

theorem follows_query (steps : Stepwise R) (f : Store → α) : Follows R (query f) :=
  follows_statement steps fun s a t done => by
    cases done
    exact steps.refl s

/-- After an operation that follows `R`, either nothing runs or what comes next runs on a store in
the relation `R`. -/
theorem Follows.onStore_bind_cases (h : Follows R m) (k : α → LedgerM β) (s : Store) :
    (∃ failure t, (m >>= k).onStore s = (.error failure, t) ∧ R s t) ∨
      ∃ a t, (m >>= k).onStore s = (k a).onStore t ∧ R s t := by
  have first := h.2 s
  rw [h.1.onStore_bind]
  rcases ran : m.onStore s with ⟨failure | a, t⟩ <;> rw [ran] at first
  · exact .inl ⟨failure, t, rfl, first⟩
  · exact .inr ⟨a, t, rfl, first⟩

theorem Follows.bind (steps : Stepwise R) {k : α → LedgerM β} (h : Follows R m)
    (hk : ∀ a, Follows R (k a)) : Follows R (m >>= k) := by
  refine ⟨h.1.bind fun a => (hk a).1, fun s => ?_⟩
  rcases h.onStore_bind_cases k s with ⟨failure, t, failed, kept⟩ | ⟨a, t, goes_on, kept⟩
  · rw [failed]
    exact kept
  · rw [goes_on]
    exact steps.trans kept ((hk a).2 t)

/-! ## Databases -/

/-- `R` holds between the stores of two databases, or neither has one. -/
inductive OnStores (R : Store → Store → Prop) : Database → Database → Prop
  | live {s t : Session} : R s.store t.store → OnStores R (.live s) (.live t)
  | away {db db' : Database} : db.store? = none → db'.store? = none → OnStores R db db'

theorem onStores_live_iff {s t : Session} :
    OnStores R (.live s) (.live t) ↔ R s.store t.store := by
  refine ⟨fun h => ?_, .live⟩
  cases h with
  | live kept => exact kept
  | away none => cases none

theorem OnStores.imp {Q : Store → Store → Prop} (imp : ∀ {s t}, R s t → Q s t) {db db' : Database}
    (h : OnStores R db db') : OnStores Q db db' := by
  cases h with
  | live kept => exact .live (imp kept)
  | away none absent => exact .away none absent

theorem OnStores.of_store?_eq (steps : Stepwise R) {db db' : Database}
    (same : db'.store? = db.store?) : OnStores R db db' := by
  cases db with
  | live s =>
    cases db' with
    | live t =>
      refine .live ?_
      rw [Option.some.inj same]
      exact steps.refl s.store
    | disconnected => cases same
    | closed => cases same
  | disconnected => exact .away rfl same
  | closed => exact .away rfl same

theorem OnStores.refl (steps : Stepwise R) (db : Database) : OnStores R db db :=
  OnStores.of_store?_eq steps rfl

theorem OnStores.trans (steps : Stepwise R) {db db' db'' : Database}
    (first : OnStores R db db') (second : OnStores R db' db'') : OnStores R db db'' := by
  cases first with
  | live one =>
    cases second with
    | live two => exact .live (steps.trans one two)
    | away none => cases none
  | away none absent =>
    cases second with
    | live two => cases absent
    | away _ absent' => exact .away none absent'

/-- The operation leaves every database in the relation `R` to what it was. -/
def Leaves (R : Store → Store → Prop) (m : LedgerM α) : Prop := ∀ db, OnStores R db (m.run db).2

theorem Follows.leaves_transaction (steps : Stepwise R) (h : Follows R m) :
    Leaves R m.transaction := by
  intro db
  cases db with
  | live s =>
    have after := h.2 s.store
    rw [h.1.run_transaction]
    rcases ran : m.onStore s.store with ⟨failure | a, t⟩ <;> rw [ran] at after
    · exact .live (steps.refl s.store)
    · exact .live after
  | disconnected =>
    rw [run_transaction_of_refusal m rfl]
    exact .away rfl rfl
  | closed =>
    rw [run_transaction_of_refusal m rfl]
    exact .away rfl rfl

theorem Reads.leaves_bind (steps : Stepwise R) {k : α → LedgerM β} (h : Reads m)
    (hk : ∀ a, Leaves R (k a)) : Leaves R (m >>= k) := by
  intro db
  rcases h.bind_cases k db with ⟨failure, refused⟩ | ⟨a, -, goes_on⟩
  · rw [refused]
    exact OnStores.refl steps db
  · rw [goes_on]
    exact hk a db

theorem Leaves.bind_pure (h : Leaves R m) (f : α → β) : Leaves R (m >>= fun a => pure (f a)) := by
  intro db
  have after := h db
  rw [run_bind]
  rcases ran : m.run db with ⟨_ | _, _⟩ <;> rw [ran] at after <;> exact after

end LedgerM

/-! ## Sequences of operations -/

namespace Database

/-- The databases that a sequence of operations passes through, the first one among them. Whether an
operation succeeds is not looked at. -/
def through : List (LedgerM Unit) → Database → List Database
  | [], db => [db]
  | m :: ms, db => db :: through ms (m.run db).2

variable {R : Database → Database → Prop} {m : LedgerM Unit} {ms : List (LedgerM Unit)}
  {db : Database}

theorem mem_through_self (ms : List (LedgerM Unit)) (db : Database) : db ∈ through ms db := by
  cases ms <;> exact List.mem_cons_self

/-- If a relation holds along the databases, it holds between the first and all others. -/
theorem eq_or_of_mem_through (h : (through ms db).Pairwise R) {db' : Database}
    (passed : db' ∈ through ms db) : db' = db ∨ R db db' := by
  cases ms with
  | nil => exact .inl (List.mem_singleton.1 passed)
  | cons m ms => exact (List.mem_cons.1 passed).imp_right ((List.pairwise_cons.1 h).1 db')

/-- A relation that can be taken in steps holds along the databases if it holds over the first step
and along the rest. -/
theorem pairwise_through_cons (trans : ∀ db db' db'', R db db' → R db' db'' → R db db'') :
    (through (m :: ms) db).Pairwise R ↔
      R db (m.run db).2 ∧ (through ms (m.run db).2).Pairwise R := by
  rw [through, List.pairwise_cons]
  refine and_congr_left fun rest => ⟨fun h => h _ (mem_through_self ms _), fun step db' later => ?_⟩
  rcases eq_or_of_mem_through rest later with rfl | onward
  · exact step
  · exact trans _ _ _ step onward

theorem pairwise_through (trans : ∀ db db' db'', R db db' → R db' db'' → R db db'')
    (step : ∀ m ∈ ms, ∀ db, R db (m.run db).2) : (through ms db).Pairwise R := by
  induction ms generalizing db with
  | nil => exact List.pairwise_singleton _ _
  | cons m ms ih =>
    exact (pairwise_through_cons trans).2 ⟨step m List.mem_cons_self db,
      ih fun n hn => step n (List.mem_cons_of_mem m hn)⟩

end Database

end Paymaster
