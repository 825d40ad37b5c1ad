import Sortie.ConfigError
import Sortie.Formation
import Sortie.Squad

namespace Sortie

open Json Json.Decoder

/-- One spacecraft. -/
structure CraftDescriptor where
  id : Option String := none
  name : Option String := none
  /-- A squad's name, or its name and the member's number. -/
  squad : Option String := none
  team : Option String := none
  craftClass : String := ""
  loadout : Option String := none
  position : Option Vec := none
  velocity : Vec := .zero
  formation : Option Formation := none
  piloted : Bool := false
  /-- Starts outside the battle space. -/
  away : Bool := false

namespace CraftDescriptor

def decoder : Decoder CraftDescriptor :=
  Decoder.record
    [field "id" (optional string) fun id c => { c with id },
      field "name" (optional string) fun name c => { c with name },
      field "squad" (optional string) fun squad c => { c with squad },
      field "team" (optional string) fun team c => { c with team },
      required "class" string fun craftClass c => { c with craftClass },
      field "loadout" (optional string) fun loadout c => { c with loadout },
      field "position" (optional vec) fun position c => { c with position },
      field "velocity" vec fun velocity c => { c with velocity },
      field "formation" (optional Formation.decoder) fun formation c => { c with formation },
      field "piloted" bool fun piloted c => { c with piloted },
      field "away" bool fun away c => { c with away }]
    {}

def toValue (craft : CraftDescriptor) : Value :=
  .object
    [("id", .ofOption .text craft.id), ("name", .ofOption .text craft.name),
      ("squad", .ofOption .text craft.squad), ("team", .ofOption .text craft.team),
      ("class", .text craft.craftClass), ("loadout", .ofOption .text craft.loadout),
      ("position", .ofOption .ofVec craft.position), ("velocity", .ofVec craft.velocity),
      ("formation", .ofOption Formation.toValue craft.formation),
      ("piloted", .bool craft.piloted), ("away", .bool craft.away)]

/-- What rules call the spacecraft by. -/
def label (craft : CraftDescriptor) : Option String := (craft.id.or craft.squad).or craft.name

/-- The place in a formation of its squad's member. -/
def formationIndex (craft : CraftDescriptor) : Nat :=
  match craft.squad with
  | some squad => (Squad.parse squad).index - 1
  | none => 0

/-- The description with its position resolved. An explicit position comes before a formation. -/
def resolve (craft : CraftDescriptor) : CraftDescriptor :=
  match craft.formation with
  | none => craft
  | some formation =>
    { craft with
      formation := none
      position := craft.position.or (some (formation.offset craft.formationIndex)) }

end CraftDescriptor

/-- Several similar spacecraft. -/
structure GroupDescriptor where
  count : Nat := 0
  names : List String := []
  loadouts : List String := []
  positions : List Vec := []
  /-- The name of the squad whose members they are, numbered from one. -/
  squad : Option String := none
  team : Option String := none
  craftClass : String := ""
  loadout : Option String := none
  /-- The anchor of the formation. -/
  position : Vec := .zero
  velocity : Vec := .zero
  formation : Option Formation := none
  pilotedIndex : Option Nat := none
  away : Bool := false

namespace GroupDescriptor

def decoder : Decoder GroupDescriptor :=
  Decoder.record
    [required "count" count64 fun count g => { g with count },
      field "names" (list string) fun names g => { g with names },
      field "loadouts" (list string) fun loadouts g => { g with loadouts },
      field "positions" (list vec) fun positions g => { g with positions },
      field "squad" (optional string) fun squad g => { g with squad },
      field "team" (optional string) fun team g => { g with team },
      required "class" string fun craftClass g => { g with craftClass },
      field "loadout" (optional string) fun loadout g => { g with loadout },
      field "position" vec fun position g => { g with position },
      field "velocity" vec fun velocity g => { g with velocity },
      field "formation" (optional Formation.decoder) fun formation g => { g with formation },
      field "pilotedIndex" (optional count64) fun pilotedIndex g => { g with pilotedIndex },
      field "away" bool fun away g => { g with away }]
    {}

def toValue (group : GroupDescriptor) : Value :=
  .object
    [("count", .ofNat group.count), ("names", .list (group.names.map .text)),
      ("loadouts", .list (group.loadouts.map .text)),
      ("positions", .list (group.positions.map .ofVec)),
      ("squad", .ofOption .text group.squad), ("team", .ofOption .text group.team),
      ("class", .text group.craftClass), ("loadout", .ofOption .text group.loadout),
      ("position", .ofVec group.position), ("velocity", .ofVec group.velocity),
      ("formation", .ofOption Formation.toValue group.formation),
      ("pilotedIndex", .ofOption .ofNat group.pilotedIndex), ("away", .bool group.away)]

/-- The offset of a member from the anchor. -/
def offset (group : GroupDescriptor) (index : Nat) : Vec :=
  match group.formation with
  | some formation => formation.offset index
  | none => .zero

/-- The member of an index. What the lists do not reach is common to all members. -/
def member (group : GroupDescriptor) (index : Nat) : CraftDescriptor where
  name := group.names[index]?
  squad := group.squad.map fun squad => squad ++ " " ++ toString (index + 1)
  team := group.team
  craftClass := group.craftClass
  loadout := group.loadouts[index]?.or group.loadout
  position := some (group.positions[index]?.getD (group.position + group.offset index))
  velocity := group.velocity
  piloted := group.pilotedIndex == some index
  away := group.away

end GroupDescriptor

/-- An entry of the list of spacecraft. It stands for one description for each of its spacecraft,
with the position resolved. -/
inductive CraftEntry where
  | group (group : GroupDescriptor)
  | single (craft : CraftDescriptor)

namespace CraftEntry

/-- An entry that can be read as a group is one. -/
def decoder : Decoder CraftEntry :=
  firstOf
    [fun depth node => (GroupDescriptor.decoder depth node).map .group,
      fun depth node => (CraftDescriptor.decoder depth node).map .single]

def toValue : CraftEntry → Value
  | group descriptor => descriptor.toValue
  | single craft => craft.toValue

/-- One description for each spacecraft of the entry. -/
def expand : CraftEntry → List CraftDescriptor
  | group descriptor => (List.range descriptor.count).map descriptor.member
  | single craft => [craft.resolve]

/-- The report of an entry that gives both a formation and explicit positions. -/
def problems : CraftEntry → List ConfigError
  | group descriptor =>
    if descriptor.formation.isSome && !descriptor.positions.isEmpty then
      [.positionOverridesFormation (descriptor.squad.getD descriptor.craftClass)]
    else []
  | single craft =>
    if craft.formation.isSome && craft.position.isSome then
      [.positionOverridesFormation (craft.label.getD "")]
    else []

/-- The spacecraft of all entries, in order. -/
def expandAll (entries : List CraftEntry) : List CraftDescriptor := entries.flatMap expand

/-- The reports of all entries, in order. -/
def problemsOfAll (entries : List CraftEntry) : List ConfigError := entries.flatMap problems

end CraftEntry

end Sortie
