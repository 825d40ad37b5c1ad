import Sortie.Json.Access
import Sortie.Main
import Sortie.Proofs.BattleEnd
import Sortie.Proofs.Completion
import Sortie.Proofs.DelayedActions
import Sortie.Proofs.Departure
import Sortie.Proofs.FiringPolicy
import Sortie.Proofs.FirstHit
import Sortie.Proofs.GraphicsNeutral
import Sortie.Proofs.NoticeHistory
import Sortie.Proofs.PoolOperations
import Sortie.Proofs.PoolReuse
import Sortie.Proofs.Returns
import Sortie.Proofs.Saving
import Sortie.Proofs.ShotLedger
import Sortie.Proofs.Trails
import Sortie.Proofs.Verdicts
import Sortie.Text.Lossy
import Sortie.Proofs.Guests
import Sortie.Proofs.Rosters
import Sortie.Proofs.Enrolment
import Sortie.Proofs.Display
import Sortie.Proofs.Prospects
import Sortie.Proofs.Commands
import Sortie.Proofs.Hits
import Sortie.Proofs.StrictTick
import Sortie.Proofs.Thresholds
import Sortie.Proofs.Periods
import Sortie.Proofs.Damage
import Sortie.Proofs.Recentering
import Sortie.Proofs.Piloting
import Sortie.Proofs.SquadNames
import Sortie.Proofs.RecordHistory
import Sortie.Proofs.SavedRecords
import Sortie.Proofs.Recovery
import Sortie.Proofs.Jumps
import Sortie.Proofs.NoticeNumbers
import Sortie.Proofs.Silence
import Sortie.Proofs.Misconfiguration
