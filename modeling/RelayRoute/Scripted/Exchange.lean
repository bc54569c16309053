import RelayRoute.Scripted.Transport

/-!
# Exchanges over a transport

Writing a whole text, reading up to a number of bytes, and reading a line.  Each step goes to
something that can do actions (`Actor`), so that the same exchange works over a transport and over a
tunnel.

* `writeAll`, `writeText` — bytes are written until all of them are taken;
* `readUpTo`, `readLine` — bytes are read until there are enough, or until a line ends;
* `carrierActor` — a transport of a rehearsal, with the stage it acts on.

Exchanges end when the other side does, at a fault, or after as many steps as they were given.
-/

namespace RelayRoute.Scripted

/-- Something that does actions and changes with them. -/
abbrev Actor (σ : Type) := (action : Action) → σ → action.Reply × σ

/-- Writes all of the bytes, with as many steps as there are bytes. -/
def writeAll {σ : Type} (actor : Actor σ) : (steps : Nat) → List UInt8 → σ → Except IoFault Unit × σ
  | _, [], s => (.ok (), s)
  | 0, _, s => (.error (.bare .writeZero), s)
  | steps + 1, bytes, s =>
    match actor (.write bytes) s with
    | (.error fault, s) => (.error fault, s)
    | (.ok 0, s) => (.error (.bare .writeZero), s)
    | (.ok taken, s) => writeAll actor steps (bytes.drop taken) s

/-- Reads until there are so many bytes or the stream ends; what was read is lost at a fault. -/
def readUpTo {σ : Type} (actor : Actor σ) : (most : Nat) → (steps : Nat) → σ →
    Except IoFault (List UInt8) × σ
  | 0, _, s | _, 0, s => (.ok [], s)
  | most, steps + 1, s =>
    match actor (.read most) s with
    | (.error fault, s) => (.error fault, s)
    | (.ok [], s) => (.ok [], s)
    | (.ok bytes, s) =>
      let (rest, s) := readUpTo actor (most - bytes.length) steps s
      (rest.map (bytes ++ ·), s)

/-- Reads byte by byte what stands before the next line feed. -/
def readLine {σ : Type} (actor : Actor σ) : (steps : Nat) → σ → Except IoFault (List UInt8) × σ
  | 0, s => (.error (.bare .invalidData), s)
  | steps + 1, s =>
    match actor (.read 1) s with
    | (.error fault, s) => (.error fault, s)
    | (.ok [], s) => (.error (.bare .unexpectedEnd), s)
    | (.ok (byte :: _), s) =>
      if byte = 10 then (.ok [], s)
      else
        let (rest, s) := readLine actor steps s
        (rest.map (byte :: ·), s)

/-- The bytes of a text. -/
def bytesOf (text : String) : List UInt8 :=
  text.toUTF8.toList

/-- A carrier and the stage as an actor. -/
def carrierActor : Actor (Carrier × Stage) := fun action (carrier, stage) =>
  Carrier.perform action carrier stage

/-- Writes all of a text to a transport. -/
def writeText (text : String) (carrier : Carrier) (stage : Stage) :
    Except IoFault Unit × Carrier × Stage :=
  let bytes := bytesOf text
  writeAll carrierActor bytes.length bytes (carrier, stage)

end RelayRoute.Scripted
