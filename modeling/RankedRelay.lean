import RankedRelay.Main
import RankedRelay.Proofs.Ranking
import RankedRelay.Proofs.Registry
import RankedRelay.Proofs.Run
import RankedRelay.Proofs.Slot
import RankedRelay.Proofs.Watch
import RankedRelay.Proofs.Coherence
import RankedRelay.Proofs.Calls
import RankedRelay.Proofs.Rounds
import RankedRelay.Proofs.Measurement
import RankedRelay.Proofs.Probing
import RankedRelay.Proofs.Journey
import RankedRelay.Proofs.Traffic
import RankedRelay.Proofs.Forwarding
import RankedRelay.Proofs.Pool
import RankedRelay.Proofs.Lending
import RankedRelay.Proofs.Quiet
import RankedRelay.Proofs.Solitude
import RankedRelay.Proofs.Timeline
import RankedRelay.Proofs.Visits
import RankedRelay.Proofs.Isolation
import RankedRelay.Proofs.Scheduler
import RankedRelay.Proofs.Laps
import RankedRelay.Proofs.Drain
import RankedRelay.Proofs.Answering
import RankedRelay.Proofs.Counting
import RankedRelay.Proofs.View
import RankedRelay.Proofs.Arrangement
import RankedRelay.Proofs.Acceptance
import RankedRelay.Proofs.Cadence
import RankedRelay.Proofs.History
import RankedRelay.Proofs.Traceless
import RankedRelay.Proofs.Quantity
import RankedRelay.Proofs.Replies
import RankedRelay.Proofs.Registration
import RankedRelay.Proofs.Naming
import RankedRelay.Proofs.Printing
import RankedRelay.Proofs.ErrorBody
import RankedRelay.Proofs.Loading
import RankedRelay.Proofs.Directives
