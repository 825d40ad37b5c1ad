import Sortie.Descriptor.Crafts
import Sortie.Descriptor.Rules
import Sortie.Environment.Document

namespace Sortie

open Json Json.Decoder

/-- An environment: known elsewhere by its name, or described in place. -/
inductive EnvironmentChoice where
  | named (name : String)
  | described (descriptor : EnvironmentDescriptor)

namespace EnvironmentChoice

def decoder : Decoder EnvironmentChoice :=
  firstOf
    [fun depth node => (string depth node).map .named,
      fun depth node => (EnvironmentDescriptor.decoder depth node).map .described]

def toValue : EnvironmentChoice → Value
  | named name => .text name
  | .described descriptor => descriptor.toValue

/-- The environment at the start of the mission. -/
def environment : EnvironmentChoice → Environment
  | named name => { name }
  | .described descriptor => descriptor.environment

end EnvironmentChoice

/-- A team: an id, possibly with a name and a color. -/
inductive TeamDescriptor where
  | bare (id : String)
  | full (id : String) (name : Option String) (color : Option Color)

namespace TeamDescriptor

/-- The fields of a team that is written in full. -/
structure Fields where
  id : String := ""
  name : Option String := none
  color : Option Color := none

def fields : Decoder Fields :=
  Decoder.object
    [required "id" string fun id f => { f with id },
      field "name" (optional string) fun name f => { f with name },
      field "color" (optional color) fun color f => { f with color }]
    {}

def decoder : Decoder TeamDescriptor :=
  firstOf
    [fun depth node => (string depth node).map .bare,
      fun depth node => (fields depth node).map fun f => .full f.id f.name f.color]

def toValue : TeamDescriptor → Value
  | bare id => .text id
  | full id name color =>
    .object
      [("id", .text id), ("name", .ofOption .text name),
        ("color", .ofOption (fun color => .list (color.toList.map .ofScalar)) color)]

def team : TeamDescriptor → Team
  | bare id => .ofId id
  | full id name color => ⟨id, name.getD id, color.getD .white⟩

end TeamDescriptor

/-- A mission as its file describes it. -/
structure MissionDescriptor where
  name : String := ""
  title : Option String := none
  description : Option String := none
  environment : EnvironmentChoice := .named ""
  teams : List TeamDescriptor := []
  spacecrafts : List CraftEntry := []
  events : List EventDescriptor := []

namespace MissionDescriptor

def decoder : Decoder MissionDescriptor :=
  Decoder.record
    [field "name" string fun name m => { m with name },
      field "title" (optional string) fun title m => { m with title },
      field "description" (optional string) fun description m => { m with description },
      field "environment" EnvironmentChoice.decoder fun environment m => { m with environment },
      field "teams" (list TeamDescriptor.decoder) fun teams m => { m with teams },
      field "spacecrafts" (list CraftEntry.decoder) fun spacecrafts m => { m with spacecrafts },
      field "events" (list EventDescriptor.decoder) fun events m => { m with events }]
    {}

def toValue (mission : MissionDescriptor) : Value :=
  .object
    [("name", .text mission.name), ("title", .ofOption .text mission.title),
      ("description", .ofOption .text mission.description),
      ("environment", mission.environment.toValue),
      ("teams", .list (mission.teams.map TeamDescriptor.toValue)),
      ("spacecrafts", .list (mission.spacecrafts.map CraftEntry.toValue)),
      ("events", .list (mission.events.map EventDescriptor.toValue))]

def ofText (text : String) : Except Problem MissionDescriptor := Decoder.run decoder text

end MissionDescriptor

end Sortie
