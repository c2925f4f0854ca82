/-
AgentState.Wire.Codec — the encodings of snapshots.

* `Encoding` — compact JSON, JSON over several lines, and frames.
* `Encoding.encode` — a snapshot as octets.
* `Encoding.decode` — octets as a snapshot.  The format is read first and
  alone, and a newer one is refused whatever else the octets hold; only
  then they are read in full.
-/
import AgentState.Wire.Json
import AgentState.Wire.Frame

namespace AgentState

/-- How a snapshot is written. -/
inductive Encoding where
  | json
  | pretty
  | binary
  deriving DecidableEq

/-- Why octets are no snapshot. -/
inductive DecodeError where
  | malformed
  | unsupportedVersion (found supported : UInt32)
  deriving DecidableEq

namespace DecodeError

/-- The text of the error. -/
def message : DecodeError → String
  | .malformed => "Deserialization failed"
  | .unsupportedVersion found supported =>
      "Unsupported wire format version " ++ Decimal.write found.toNat ++ ", supported: " ++
        Decimal.write supported.toNat

end DecodeError

/-- Refuses formats newer than the one that is written. -/
def checkFormat (found : UInt32) : Except DecodeError Unit :=
  if formatVersion < found then .error (.unsupportedVersion found formatVersion) else .ok ()

namespace Encoding

/-- The format and then the whole record, as octets give them. -/
structure Reading where
  format? : Octets → Option UInt32
  record? : Octets → Option WireSnapshot

/-- Reading JSON: one document and nothing after it. -/
def jsonReading : Reading where
  format? bs := (Json.Value.read? bs).bind WireSnapshot.formatOf?
  record? bs := (Json.Value.read? bs).bind Json.read?

/-- Reading frames; octets after the last field do not matter. -/
def binaryReading : Reading where
  format? bs := (Framed.take? bs).map Prod.fst
  record? bs := (Framed.take? bs).map Prod.fst

/-- How an encoding is read. -/
def reading : Encoding → Reading
  | .json => jsonReading
  | .pretty => jsonReading
  | .binary => binaryReading

/-- A wire record as octets. -/
def encodeRecord (e : Encoding) (w : WireSnapshot) : Octets :=
  match e with
  | .json => (Json.write w).render .compact
  | .pretty => (Json.write w).render .pretty
  | .binary => Framed.put w

/-- A snapshot as octets. -/
def encode (e : Encoding) (s : Snapshot) : Octets := e.encodeRecord (.ofSnapshot s)

/-- The wire record of octets. -/
def decodeRecord (e : Encoding) (bs : Octets) : Except DecodeError WireSnapshot := do
  let format ← ((e.reading.format? bs).map Except.ok).getD (.error .malformed)
  checkFormat format
  ((e.reading.record? bs).map Except.ok).getD (.error .malformed)

/-- The snapshot of octets; `ids` are for a record that brings none. -/
def decode (e : Encoding) (ids : FreshIds) (bs : Octets) : Except DecodeError Snapshot :=
  (e.decodeRecord bs).map (WireSnapshot.toSnapshot ids)

end Encoding

end AgentState
