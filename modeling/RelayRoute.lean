import RelayRoute.Proofs.AddressParts
import RelayRoute.Proofs.ConfigShape
import RelayRoute.Proofs.ConfigText
import RelayRoute.Proofs.Custody
import RelayRoute.Proofs.Delegation
import RelayRoute.Proofs.DialedOnce
import RelayRoute.Proofs.DialedTransports
import RelayRoute.Proofs.DialLimits
import RelayRoute.Proofs.DialOrder
import RelayRoute.Proofs.Established
import RelayRoute.Proofs.History
import RelayRoute.Proofs.HostText
import RelayRoute.Proofs.Journal
import RelayRoute.Proofs.LetterCase
import RelayRoute.Proofs.LiteralTargets
import RelayRoute.Proofs.MadeSettings
import RelayRoute.Proofs.PendingSettings
import RelayRoute.Proofs.Preference
import RelayRoute.Proofs.Prepared
import RelayRoute.Proofs.ReadableValue
import RelayRoute.Proofs.Records
import RelayRoute.Proofs.RecordShape
import RelayRoute.Proofs.RelayedText
import RelayRoute.Proofs.SameTarget
import RelayRoute.Proofs.Simulation
import RelayRoute.Proofs.TcpLifecycle
import RelayRoute.Proofs.Unfinished
