/-
AgentState.Wire.Frame — wire records as octets.

Integers have a fixed width, least octet first.  A text is its length in
eight octets and its UTF-8 form, an optional value an octet 0 or 1 and the
value after a 1, a list or a map its length in eight octets and its
elements, a point of time its text.  Nothing says which field comes next:
the fields stand in the order of the record.

* `Framed` — values with a frame: `Framed.put` writes one, `Framed.take?`
  reads one from the front of octets and leaves the rest.
-/
import AgentState.Wire.Record
import AgentState.Text.Timestamp

namespace AgentState

/-- Values with a frame. -/
class Framed (α : Type) where
  put : α → Octets
  take? : Octets → Option (α × Octets)

namespace Frame

open Framed

/-- The octets of a number, least first. -/
def putNat : Nat → Nat → Octets
  | 0, _ => []
  | width + 1, n => UInt8.ofNat (n % 256) :: putNat width (n / 256)

/-- A number of a given width from the front. -/
def takeNat? : Nat → Octets → Option (Nat × Octets)
  | 0, bs => some (0, bs)
  | _ + 1, [] => none
  | width + 1, b :: bs =>
      (takeNat? width bs).map (fun r => (b.toNat + 256 * r.1, r.2))

/-- A number of octets from the front. -/
def takeOctets? (n : Nat) (bs : Octets) : Option (Octets × Octets) :=
  if n ≤ bs.length then some (bs.take n, bs.drop n) else none

/-- A number of elements from the front. -/
def takeMany? {α : Type} [Framed α] : Nat → Octets → Option (List α × Octets)
  | 0, bs => some ([], bs)
  | n + 1, bs =>
      match take? bs with
      | none => none
      | some (a, bs) => (takeMany? n bs).map (fun r => (a :: r.1, r.2))

instance : Framed UInt32 where
  put n := putNat 4 n.toNat
  take? bs := (takeNat? 4 bs).map (fun r => (UInt32.ofNat r.1, r.2))

instance : Framed Int32 where
  put n := putNat 4 n.toUInt32.toNat
  take? bs := (takeNat? 4 bs).map (fun r => ((UInt32.ofNat r.1).toInt32, r.2))

instance : Framed UInt64 where
  put n := putNat 8 n.toNat
  take? bs := (takeNat? 8 bs).map (fun r => (UInt64.ofNat r.1, r.2))

instance : Framed String where
  put s := putNat 8 (octetsOf s).length ++ octetsOf s
  take? bs := do
    let (n, bs) ← takeNat? 8 bs
    let (body, bs) ← takeOctets? n bs
    let s ← textOf? body
    some (s, bs)

instance : Framed WallTime where
  put t := put (Timestamp.write t)
  take? bs := do
    let (s, bs) ← (take? bs : Option (String × Octets))
    let t ← Timestamp.read? s
    some (t, bs)

instance {α : Type} [Framed α] : Framed (Option α) where
  put
    | none => [0]
    | some a => 1 :: put a
  take?
    | [] => none
    | b :: bs =>
        if b = 0 then some (none, bs)
        else if b = 1 then (take? bs).map (fun r => (some r.1, r.2))
        else none

instance {α β : Type} [Framed α] [Framed β] : Framed (α × β) where
  put p := put p.1 ++ put p.2
  take? bs := do
    let (a, bs) ← take? bs
    let (b, bs) ← take? bs
    some ((a, b), bs)

instance {α : Type} [Framed α] : Framed (List α) where
  put xs := putNat 8 xs.length ++ xs.flatMap put
  take? bs := do
    let (n, bs) ← takeNat? 8 bs
    takeMany? n bs

instance : Framed TextMap where
  put m := put m.entries
  take? bs := (take? bs).map (fun r => (TextMap.ofList r.1, r.2))

instance : Framed WireTransition where
  put w :=
    put w.source ++ put w.target ++ put w.trigger ++ put w.status ++ put w.errorMessage ++
      put w.monotonic ++ put w.wall
  take? bs := do
    let (source, bs) ← take? bs
    let (target, bs) ← take? bs
    let (trigger, bs) ← take? bs
    let (status, bs) ← take? bs
    let (errorMessage, bs) ← take? bs
    let (monotonic, bs) ← take? bs
    let (wall, bs) ← take? bs
    some ({ source, target, trigger, status, errorMessage, monotonic, wall }, bs)

instance : Framed WireSnapshot where
  put w :=
    put w.format ++ put w.version ++ put w.state ++ put w.prevState ++ put w.reason ++
      put w.monotonic ++ put w.wall ++ put w.id ++ put w.parentId ++ put w.instanceId ++
      put w.sourceModule ++ put w.attempts ++ put w.history ++ put w.context ++ put w.metadata
  take? bs := do
    let (format, bs) ← take? bs
    let (version, bs) ← take? bs
    let (state, bs) ← take? bs
    let (prevState, bs) ← take? bs
    let (reason, bs) ← take? bs
    let (monotonic, bs) ← take? bs
    let (wall, bs) ← take? bs
    let (id, bs) ← take? bs
    let (parentId, bs) ← take? bs
    let (instanceId, bs) ← take? bs
    let (sourceModule, bs) ← take? bs
    let (attempts, bs) ← take? bs
    let (history, bs) ← take? bs
    let (context, bs) ← take? bs
    let (metadata, bs) ← take? bs
    some ({ format, version, state, prevState, reason, monotonic, wall, id, parentId,
            instanceId, sourceModule, attempts, history, context, metadata }, bs)

end Frame

end AgentState
