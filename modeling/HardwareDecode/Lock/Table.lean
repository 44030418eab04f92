/-
Module: HardwareDecode.Lock.Table
Purpose: A table of lock handles, several of which may share one mutex, and the guards taken
  through it.  Guards are numbered in the order in which they are taken and live until dropped.
Main exports: LockEntry, LockTable, LockTable.Step, LockTable.Answer, LockTable.perform
-/
import HardwareDecode.Lock

namespace HardwareDecode

/-- How an entry of a table is made. -/
inductive LockEntry where
  /-- A mutex of its own. -/
  | fresh
  /-- No lock. -/
  | absent
  /-- A second handle to what an earlier entry stands for. -/
  | clone (entry : Nat)
deriving DecidableEq, Repr, Inhabited

/-- The lock an entry stands for, behind the locks of the entries before it.  A fresh mutex is
numbered by its place, so it differs from those before it. -/
def LockEntry.resolve (earlier : List DeviceLock) : LockEntry → Option DeviceLock
  | fresh => some (.mutex earlier.length)
  | absent => some .absent
  | clone entry => earlier[entry]?

/-- The locks of a list of entries, unless one clones an entry that is not before it. -/
def LockEntry.resolveAll (entries : List LockEntry) : Option (List DeviceLock) :=
  entries.foldlM (fun earlier entry => (entry.resolve earlier).map (earlier ++ [·])) []

/-- A guard, and whether it still lives. -/
structure Guard where
  lock : DeviceLock
  live : Bool := true
deriving DecidableEq, Repr, Inhabited

/-- The handles, the guards taken so far, and the state of the mutexes. -/
structure LockTable where
  handles : List DeviceLock
  guards : List Guard := []
  locks : Locks := {}
deriving DecidableEq, Repr, Inhabited

namespace LockTable

/-- What can be done with a table. -/
inductive Step where
  /-- Wait for a handle's lock, unless the wait would be in vain. -/
  | lock (handle : Nat)
  /-- Take a handle's lock if it is free. -/
  | tryLock (handle : Nat)
  /-- Panic while holding a handle's lock. -/
  | poison (handle : Nat)
  /-- Drop a guard. -/
  | drop (guard : Nat)
  /-- Ask whether a handle stands for no lock. -/
  | isAbsent (handle : Nat)
deriving DecidableEq, Repr, Inhabited

inductive Answer where
  | acquired
  | wouldBlock
  | blocked
  | poisoned
  | dropped
  | noGuard
  | isAbsent (answer : Bool)
deriving DecidableEq, Repr, Inhabited

/-- The handle with a number.  A number behind the last handle stands for no lock. -/
def handle (table : LockTable) (number : Nat) : DeviceLock :=
  table.handles.getD number .absent

/-- Take a lock and keep its guard, or give `refusal`. -/
def acquire (table : LockTable) (number : Nat) (refusal : Answer) : Answer × LockTable :=
  let lock := table.handle number
  match table.locks.take lock with
  | some locks => (.acquired, { table with guards := table.guards ++ [{ lock }], locks })
  | none => (refusal, table)

/-- Do one step. -/
def perform (table : LockTable) : Step → Answer × LockTable
  | .lock number => table.acquire number .wouldBlock
  | .tryLock number => table.acquire number .blocked
  | .poison number =>
      match table.locks.poison (table.handle number) with
      | some locks => (.poisoned, { table with locks })
      | none => (.wouldBlock, table)
  | .drop number =>
      match table.guards[number]? with
      | some { lock, live := true } =>
          (.dropped,
            { table with
              guards := table.guards.set number { lock, live := false }
              locks := table.locks.free lock false })
      | _ => (.noGuard, table)
  | .isAbsent number => (.isAbsent (table.handle number).isAbsent, table)

/-- For every handle, whether its lock can be had at once. -/
def free (table : LockTable) : List Bool :=
  table.handles.map table.locks.isFree

/-- Do steps in order: each answer with what was free after it, and the table in the end. -/
def performAll (table : LockTable) : List Step → List (Answer × List Bool) × LockTable
  | [] => ([], table)
  | step :: steps =>
      let (answer, after) := table.perform step
      let (answers, last) := after.performAll steps
      ((answer, after.free) :: answers, last)

end LockTable

end HardwareDecode
