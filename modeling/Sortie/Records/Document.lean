import Sortie.Json.Decoder
import Sortie.Records.Basic

namespace Sortie

open Json Json.Decoder

namespace Performance

def all : List Performance := [perfect, excellent, good, fair, poor]

def ofName? (text : String) : Option Performance := all.find? fun tier => tier.name == text

end Performance

namespace MissionRecord

def decoder : Decoder MissionRecord :=
  Decoder.record
    [field "bestScore" count64 fun bestScore r => { r with bestScore },
      field "bestPerformance" (optional (choice Performance.ofName?)) fun bestPerformance r =>
        { r with bestPerformance },
      field "wins" count32 fun wins r => { r with wins := wins.toUInt32 },
      field "losses" count32 fun losses r => { r with losses := losses.toUInt32 }]
    {}

def toValue (record : MissionRecord) : Value :=
  .object
    [("bestScore", .ofNat record.bestScore),
      ("bestPerformance", .ofOption (fun tier => .text tier.name) record.bestPerformance),
      ("wins", .ofNat record.wins.toNat), ("losses", .ofNat record.losses.toNat)]

end MissionRecord

namespace MissionRecords

def decoder : Decoder MissionRecords :=
  Decoder.record
    [required "records" (table MissionRecord.decoder) fun records r => { r with records }]
    {}

def toValue (records : MissionRecords) : Value :=
  .object
    [("records", .object (records.records.map fun entry => (entry.1, entry.2.toValue)))]

end MissionRecords

end Sortie
