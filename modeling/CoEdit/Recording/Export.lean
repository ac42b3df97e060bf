import CoEdit.Error
import CoEdit.Text.Utf8
import CoEdit.Wire.Recording

/-!
# Exporting a Recording

A recording is exported as lines of JSON: one object per entry, each followed by a newline. The
export may go to a place with bounded room, which takes what fits and then fails.

## Main definitions

* `Recording.lines`, `Recording.export`: the lines and the whole text.
* `Room`, `Recording.exportInto`: the export into bounded room.
-/

namespace CoEdit

/-- Room for so many octets, and the octets in it. -/
structure Room where
  capacity : Nat
  written : List UInt8
  deriving DecidableEq, Repr

namespace Room

/-- Room with nothing in it. -/
def ofCapacity (capacity : Nat) : Room := ⟨capacity, []⟩

/-- Writes octets as far as they fit, and tells whether all did. -/
def write (r : Room) (octets : List UInt8) : Bool × Room :=
  let free := r.capacity - r.written.length
  (octets.length ≤ free, { r with written := r.written ++ octets.take free })

end Room

namespace Recording

/-- The object of each entry, in order. -/
def lines (r : Recording) : List String :=
  r.entries.map fun e => e.toJson.render

/-- The exported text. -/
def exportText (r : Recording) : String :=
  String.join (r.lines.map (· ++ "\n"))

/-- What is said when room runs out. -/
def noRoom : String := "failed to write whole buffer"

/-- Writes lines until one does not fit. Where the object itself does not fit, it could not be
written as text; where only its newline does not, writing failed. -/
def exportLines : List String → Room → Except Error Unit × Room
  | [], room => (.ok (), room)
  | line :: rest, room =>
    match room.write (Text.Utf8.encode line) with
    | (false, room) => (.error (.serialization noRoom), room)
    | (true, room) =>
      match room.write [0x0A] with
      | (false, room) => (.error (.io noRoom), room)
      | (true, room) => exportLines rest room

/-- Exports into bounded room. -/
def exportInto (r : Recording) (room : Room) : Except Error Unit × Room :=
  exportLines r.lines room

end Recording

end CoEdit
