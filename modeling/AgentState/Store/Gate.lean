/-
AgentState.Store.Gate — writers in line.

One write at a time goes through the gate of a store, commit and fan-out
together, in the order in which the writers came.

* `Desk` — a store, its gate, the writers in line and the time of the one
  whose turn it is to act.
* `Desk.get` — reads; every write that went through the gate before now is
  seen.
* `Desk.set`, `Desk.begin` — go through the gate behind the writers in line.
* `Desk.race` — writers who come together.
-/
import AgentState.Store.Write

namespace AgentState

/-- A write that somebody asks for. -/
structure Request where
  policy : VersionPolicy
  candidate : Snapshot

/-- A store with its gate.  Times are milliseconds; `free` is when the gate
is free for the next write.  `answers` are those of the writers in line
who had their turn. -/
structure Desk where
  store : Store
  supply : Supply
  now : Nat
  free : Nat
  line : List Request
  answers : List (Except StoreError Snapshot)

namespace Desk

/-- A desk without writers in line. -/
def fresh (store : Store) (supply : Supply) : Desk :=
  { store, supply, now := 0, free := 0, line := [], answers := [] }

/-- Lets one writer of the line through the gate. -/
def serve (d : Desk) (r : Request) : Desk :=
  let (now, supply) := d.supply.stamp
  let w := d.store.set now r.policy r.candidate
  { d with store := w.store, supply, free := d.free + w.elapsed, answers := d.answers ++ [w.result] }

/-- Lets writers through the gate while it is free in time for them. -/
def serveLine (inTime : Nat → Bool) : List Request → Desk → Desk
  | [], d => { d with line := [] }
  | r :: rest, d =>
      if inTime d.free then serveLine inTime rest (d.serve r) else { d with line := r :: rest }

/-- Lets the writers through whose turn came before now. -/
def catchUp (d : Desk) : Desk := serveLine (fun free => free < d.now) d.line d

/-- Lets all writers through, and waits for the gate. -/
def finishLine (d : Desk) : Desk :=
  let d := serveLine (fun _ => true) d.line d
  { d with now := max d.now d.free }

/-- Lets writers come in line and waits until all had their turn. -/
def race (rs : List Request) (d : Desk) : List (Except StoreError Snapshot) × Desk :=
  let d := { d with line := d.line ++ rs }.finishLine
  (d.answers, d)

/-- The current snapshot. -/
def get (d : Desk) : Option Snapshot × Desk :=
  let d := d.catchUp
  let (found, store) := d.store.get
  (found, { d with store })

/-- Takes over what a write of one's own left. -/
def leave {α : Type} (d : Desk) (w : Written α) : α × Desk :=
  (w.result, { d with store := w.store, now := d.now + w.elapsed, free := d.now + w.elapsed })

/-- Writes a candidate.  A defective one is refused at once; any other waits
for the gate. -/
def set (policy : VersionPolicy) (candidate : Snapshot) (d : Desk) :
    Except StoreError Snapshot × Desk :=
  match candidate.defect? with
  | some e => (.error (.defective e), d)
  | none =>
      let d := d.finishLine
      let (now, supply) := d.supply.stamp
      { d with supply }.leave (d.store.set now policy candidate)

/-- The current snapshot, after a cold start if there is none when the gate
is free. -/
def begin (d : Desk) : Snapshot × Desk :=
  let d := d.finishLine
  let (mark, supply) := d.supply.mark
  { d with supply }.leave (d.store.begin mark)

/-- What a step of the machine takes. -/
def mark (d : Desk) : StepMark × Desk :=
  let (m, supply) := d.supply.stepMark
  (m, { d with supply })

/-- Lets time pass. -/
def sleep (ms : Nat) (d : Desk) : Desk := { d with now := d.now + ms }

end Desk

end AgentState
