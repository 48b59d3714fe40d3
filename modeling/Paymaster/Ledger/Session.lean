import Paymaster.Ledger.Store

/-
  A session with the store: the store as the session sees it, and the transactions that are open.
  A transaction that begins within another is a savepoint of it. When a budget is to get an id and
  none is left, everything that is open is given up (`giveUp`). The user of the session does not
  learn of it: the end of the transaction is then refused, it goes on being counted as open, and
  whatever begins later is a savepoint within it.

  Main statements: a transaction whose statements left the savepoints alone ends as it should.
  `commit_begin` keeps what it did, `rollBack_begin` restores the store from before.
-/

namespace Paymaster

/-- What an open transaction goes back to. -/
structure Savepoint where
  /-- How many transactions were counted as open when it began. -/
  level : Nat
  before : Store
deriving DecidableEq, Repr

structure Session where
  store : Store := {}
  /-- What is open, the last one begun first. -/
  savepoints : List Savepoint := []
  /-- How many transactions are counted as open. -/
  depth : Nat := 0
deriving DecidableEq, Repr

namespace Session

/-- The transaction of a level cannot be ended, since it is no longer open. -/
def notOpen (verb : String) (level : Nat) : DbError :=
  .query (.driver (.refused 1 (
    if level = 0 then "cannot " ++ verb ++ " - no transaction is active"
    else "no such savepoint: _sqlx_savepoint_" ++ toString level)))

def begin (s : Session) : Session :=
  { s with savepoints := ⟨s.depth, s.store⟩ :: s.savepoints, depth := s.depth + 1 }

/-- The savepoints from that of a level on outward. -/
def savepointsFrom (s : Session) (level : Nat) : List Savepoint :=
  s.savepoints.dropWhile (·.level ≠ level)

/-- Ends the last transaction and keeps what it did. -/
def commit (s : Session) : Except DbError Session :=
  match s.savepointsFrom (s.depth - 1) with
  | [] => .error (notOpen "commit" (s.depth - 1))
  | _ :: outer => .ok { s with savepoints := outer, depth := s.depth - 1 }

/-- Ends the last transaction and undoes what it did. The savepoint of an inner one stays open. -/
def rollBack (s : Session) : Except DbError Session :=
  match s.savepointsFrom (s.depth - 1) with
  | [] => .error (notOpen "rollback" (s.depth - 1))
  | p :: outer => .ok {
      store := p.before
      savepoints := if p.level = 0 then outer else p :: outer
      depth := s.depth - 1 }

/-- Undoes all that is open. -/
def giveUp (s : Session) : Session :=
  { s with
    store := (s.savepoints.getLast?.map (·.before)).getD s.store
    savepoints := [] }

theorem commit_begin {s t : Session} (hs : t.savepoints = s.begin.savepoints)
    (hd : t.depth = s.begin.depth) :
    t.commit = .ok { store := t.store, savepoints := s.savepoints, depth := s.depth } := by
  simp [commit, savepointsFrom, hs, hd, begin]

/-- A session once a transaction that began in it is undone. -/
def afterUndoing (s : Session) : Session where
  store := s.store
  savepoints := if s.depth = 0 then s.savepoints else ⟨s.depth, s.store⟩ :: s.savepoints
  depth := s.depth

theorem afterUndoing_eq_self {s : Session} (h : s.depth = 0) : s.afterUndoing = s := by
  simp only [afterUndoing, h, if_true]
  rw [← h]

theorem rollBack_begin {s t : Session} (hs : t.savepoints = s.begin.savepoints)
    (hd : t.depth = s.begin.depth) : t.rollBack = .ok s.afterUndoing := by
  simp [rollBack, savepointsFrom, afterUndoing, hs, hd, begin]

end Session

end Paymaster
