import OptimiqVoice.Routing.Compile.RowOrder
import OptimiqVoice.Routing.EmergencyReports
import OptimiqVoice.Routing.Screening
import OptimiqVoice.Routing.FollowMeAgreement
import OptimiqVoice.Routing.OutboundSelection
import OptimiqVoice.Routing.Executable
import OptimiqVoice.Routing.FeatureDialing
import OptimiqVoice.Telephony.MidCallCodes
import OptimiqVoice.Engine.SingleWinner
import OptimiqVoice.Engine.ConferenceMembers
import OptimiqVoice.Engine.ConferenceAdmission
import OptimiqVoice.Engine.MailboxOpening
import OptimiqVoice.Calls.TimedWalk
import OptimiqVoice.Calls.NoZombie
import OptimiqVoice.Nats.Fencing
import OptimiqVoice.Events.Selection
import OptimiqVoice.Cdr.Filing
import OptimiqVoice.Sipd.SweepRuns
import OptimiqVoice.Sipd.Intervals
import OptimiqVoice.Sipd.Ordering
import OptimiqVoice.Sipd.Responses
import OptimiqVoice.Mediad.Bridges
import OptimiqVoice.Mediad.Conservation
import OptimiqVoice.Mediad.Announcer
import OptimiqVoice.Mediad.Latch
import OptimiqVoice.Mediad.Files
