import Paymaster.Ledger.Operations

/-
  Operations that touch nothing of a session but its store.
  Such an operation is a function of the store alone, `onStore`; the open transactions pass it by
  unchanged. Statements are confined, and what is built from confined parts is. A transaction
  around a confined operation keeps its work when it succeeds and leaves the store as it was when
  it fails, in any session (`Confined.run_transaction`).
-/

namespace Paymaster.LedgerM

variable {α β : Type}

/-- The outcome of an operation on a store, and the store that it leaves. -/
def onStore (m : LedgerM α) (s : Store) : Except Failure α × Store :=
  let (result, db) := m.run (.live { store := s })
  (result, db.store?.getD {})

/-- Of a session, the operation sees and changes the store alone. -/
def Confined (m : LedgerM α) : Prop :=
  ∀ s : Session,
    m.run (.live s) = ((m.onStore s.store).1, .live { s with store := (m.onStore s.store).2 })

/-- What a confined operation does in a session it does on the store of the session. -/
theorem Confined.onStore_of_run {m : LedgerM α} (h : Confined m) {s t : Session}
    {result : Except Failure α} (ran : m.run (.live s) = (result, .live t)) :
    m.onStore s.store = (result, t.store) := by
  rw [h s] at ran
  obtain ⟨answer, left⟩ := Prod.mk.inj ran
  exact Prod.ext answer (congrArg Session.store (Database.live.inj left))

/-- An operation that runs as a function of the store is confined, and is that function. -/
theorem confined_of {m : LedgerM α} {f : Store → Except Failure α × Store}
    (h : ∀ s : Session,
      m.run (.live s) = ((f s.store).1, .live { s with store := (f s.store).2 })) :
    Confined m ∧ ∀ s, m.onStore s = f s := by
  have same : ∀ s, m.onStore s = f s := fun s => by
    simp only [onStore, h, Database.store?, Option.getD_some]
  exact ⟨fun s => by rw [same, h], same⟩

/-! ## The parts of an operation -/

theorem confined_pure (a : α) : Confined (pure a) := fun _ => rfl

theorem onStore_pure (a : α) (s : Store) : (pure a : LedgerM α).onStore s = (.ok a, s) := rfl

theorem onStore_pure_ok {a b : α} {s t : Store} :
    (pure a : LedgerM α).onStore s = (.ok b, t) ↔ a = b ∧ s = t := by
  simp [onStore_pure]

theorem confined_throw (failure : Failure) : Confined (throw failure : LedgerM α) := fun _ => rfl

theorem onStore_throw (failure : Failure) (s : Store) :
    (throw failure : LedgerM α).onStore s = (.error failure, s) := rfl

theorem onStore_fail (e : Error) (s : Store) :
    (fail e : LedgerM α).onStore s = (.error (.error e), s) := rfl

theorem confined_fail (e : Error) : Confined (fail e : LedgerM α) := confined_throw _

theorem run_statement (f : Store.Statement α) (s : Session) :
    (statement f).run (.live s) = match f s.store with
      | .ok (a, store) => (.ok a, .live { s with store })
      | .error cause => (.error (.error (.database cause)), .live s) := by
  simp only [run, statement, ask, StateT.run, ExceptT.run, ExceptT.mk]
  rcases f s.store with _ | ⟨_, _⟩ <;> rfl

theorem confined_onStore_statement (f : Store.Statement α) :
    Confined (statement f) ∧ ∀ s, (statement f).onStore s = match f s with
      | .ok (a, t) => (.ok a, t)
      | .error cause => (.error (.error (.database cause)), s) := by
  apply confined_of
  intro s
  rw [run_statement]
  rcases f s.store with _ | ⟨_, _⟩ <;> rfl

theorem confined_statement (f : Store.Statement α) : Confined (statement f) :=
  (confined_onStore_statement f).1

theorem onStore_statement (f : Store.Statement α) (s : Store) :
    (statement f).onStore s = match f s with
      | .ok (a, t) => (.ok a, t)
      | .error cause => (.error (.error (.database cause)), s) :=
  (confined_onStore_statement f).2 s

theorem confined_query (f : Store → α) : Confined (query f) := confined_statement _

theorem onStore_query (f : Store → α) (s : Store) : (query f).onStore s = (.ok (f s), s) :=
  onStore_statement _ s

theorem Confined.run_bind {m : LedgerM α} (h : Confined m) (k : α → LedgerM β) (s : Session) :
    (m >>= k).run (.live s) = match m.onStore s.store with
      | (.ok a, t) => (k a).run (.live { s with store := t })
      | (.error failure, t) => (.error failure, .live { s with store := t }) := by
  rw [LedgerM.run_bind, h s]
  rcases m.onStore s.store with ⟨_ | _, _⟩ <;> rfl

theorem Confined.onStore_bind {m : LedgerM α} (h : Confined m) (k : α → LedgerM β) (s : Store) :
    (m >>= k).onStore s = match m.onStore s with
      | (.ok a, t) => (k a).onStore t
      | (.error failure, t) => (.error failure, t) := by
  simp only [onStore, h.run_bind]
  rcases m.run (.live { store := s }) with ⟨_ | _, db⟩ <;> rfl

theorem Confined.bind {m : LedgerM α} {k : α → LedgerM β} (h : Confined m)
    (hk : ∀ a, Confined (k a)) : Confined (m >>= k) := by
  intro s
  rw [h.run_bind, h.onStore_bind]
  rcases m.onStore s.store with ⟨_ | a, t⟩
  · rfl
  · exact hk a { s with store := t }

/-- A sequence succeeds when both of its parts do. -/
theorem Confined.onStore_bind_ok {m : LedgerM α} (h : Confined m) {k : α → LedgerM β} {b : β}
    {s u : Store} :
    (m >>= k).onStore s = (.ok b, u) ↔
      ∃ a t, m.onStore s = (.ok a, t) ∧ (k a).onStore t = (.ok b, u) := by
  rw [h.onStore_bind]
  constructor
  · intro ok
    rcases run : m.onStore s with ⟨_ | a, t⟩ <;> rw [run] at ok
    · cases ok
    · exact ⟨a, t, rfl, ok⟩
  · rintro ⟨a, t, run, ok⟩
    rw [run]
    exact ok

/-- What is made of a result does not touch the store. -/
theorem Confined.onStore_bind_pure {m : LedgerM α} (h : Confined m) (f : α → β) (s : Store) :
    ((m >>= fun a => pure (f a)).onStore s).2 = (m.onStore s).2 := by
  rw [h.onStore_bind]
  rcases m.onStore s with ⟨_ | _, _⟩ <;> rfl

theorem confined_checked (x : Except Overflow α) : Confined (checked x) := by
  cases x
  · exact confined_throw _
  · exact confined_pure _

theorem onStore_checked_ok {x : Except Overflow α} {a : α} {s t : Store} :
    (checked x).onStore s = (.ok a, t) ↔ x = .ok a ∧ s = t := by
  cases x <;> simp [checked, onStore_throw, onStore_pure]

/-! ## Transactions -/

/-- A confined operation in a transaction is kept if it succeeds, and leaves no trace in the store
if it fails. -/
theorem Confined.run_transaction {m : LedgerM α} (h : Confined m) (s : Session) :
    m.transaction.run (.live s) = match m.onStore s.store with
      | (.ok a, t) => (.ok a, .live { s with store := t })
      | (.error failure, _) => (.error failure, .live s.afterUndoing) := by
  have run := h s.begin
  rw [show s.begin.store = s.store from rfl] at run
  rcases onStored : m.onStore s.store with ⟨failure | a, t⟩ <;> rw [onStored] at run
  · exact run_transaction_error run rfl rfl
  · exact run_transaction_ok run rfl rfl

/-- A transaction on a database that is not there fails and changes nothing. -/
theorem run_transaction_of_refusal (m : LedgerM α) {db : Database} {cause : DbError}
    (h : db.refusal = some cause) :
    m.transaction.run db = (.error (.error (.database cause)), db) := by
  cases db <;> cases h <;> rfl

/-- A transaction either fails and leaves the store as it was, or succeeds as the operation does
on the store. -/
theorem run_transaction_cases {m : LedgerM α} (h : Confined m) (db : Database) :
    (∃ failure db', m.transaction.run db = (.error failure, db') ∧ db'.store? = db.store?) ∨
    ∃ s a t, db = .live s ∧ m.onStore s.store = (.ok a, t) ∧
      m.transaction.run db = (.ok a, .live { s with store := t }) := by
  cases db with
  | live s =>
    rw [h.run_transaction]
    rcases work : m.onStore s.store with ⟨failure | a, t⟩
    · exact .inl ⟨failure, _, rfl, rfl⟩
    · exact .inr ⟨s, a, t, rfl, work, rfl⟩
  | disconnected => exact .inl ⟨_, _, run_transaction_of_refusal m rfl, rfl⟩
  | closed => exact .inl ⟨_, _, run_transaction_of_refusal m rfl, rfl⟩

end Paymaster.LedgerM
