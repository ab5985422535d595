import Standings.Calendar.Place

/-! # Zones

The zone in which days begin and end: that of the host, a fixed offset, or a place of the time
zone database. The host keeps UTC. -/

namespace Standings

namespace Calendar

/-- Where the calendar is read. -/
inductive Zone where
  /-- The host's own zone. -/
  | hostLocal
  /-- A fixed offset. -/
  | fixed (offset : Offset)
  /-- A place with the clocks that are kept there. -/
  | named (name : String) (table : OffsetTable)
  deriving DecidableEq, Repr

namespace Zone

/-- The clocks of a zone. -/
def table : Zone → OffsetTable
  | .hostLocal => Offset.utc.table
  | .fixed offset => offset.table
  | .named _ table => table

/-- The zone of a place, by its name. -/
def ofName? (name : String) : Option Zone :=
  (Place.table? name).map (named name)

/-- The description of a zone in a log. -/
def describe : Zone → String
  | .hostLocal => "Local"
  | .fixed offset => "Fixed(" ++ offset.write ++ ")"
  | .named name _ => "Named(" ++ name ++ ")"

end Zone

end Calendar

end Standings
