import Sortie.Json.Decoder

namespace Sortie

open Json Json.Decoder

inductive FormationKind where
  /-- The leader in front, the others behind, left and right in turn. -/
  | wedge
  /-- Side by side. -/
  | line
  /-- One behind the other. -/
  | column
  deriving DecidableEq, Repr

namespace FormationKind

def name : FormationKind → String
  | wedge => "wedge"
  | line => "line"
  | column => "column"

def ofName? : String → Option FormationKind
  | "wedge" => some wedge
  | "line" => some line
  | "column" => some column
  | _ => none

end FormationKind

/-- Where the members of a group stand around its anchor. -/
structure Formation where
  kind : FormationKind := .wedge
  spacing : Vec := ⟨30, 0, 30⟩

namespace Formation

/-- Where the member of an index stands, as seen from the anchor. -/
def offset (formation : Formation) (index : Nat) : Vec :=
  let spacing := formation.spacing
  match formation.kind with
  | .wedge =>
    if index = 0 then .zero
    else
      let row := Scalar.ofCount ((index + 1) / 2)
      let side : Scalar := if index % 2 = 1 then -1 else 1
      ⟨side * spacing.x * row, spacing.y * row, spacing.z * row⟩
  | .line => ⟨spacing.x * Scalar.ofCount index, 0, 0⟩
  | .column => ⟨0, 0, spacing.z * Scalar.ofCount index⟩

def decoder : Decoder Formation :=
  Decoder.record
    [field "type" (choice FormationKind.ofName?) fun kind f => { f with kind },
      field "spacing" vec fun spacing f => { f with spacing }]
    {}

def toValue (formation : Formation) : Value :=
  .object [("type", .text formation.kind.name), ("spacing", .ofVec formation.spacing)]

end Formation

end Sortie
