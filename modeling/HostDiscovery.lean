import HostDiscovery.Main
import HostDiscovery.Network.System
import HostDiscovery.Proofs.Address.Grammar
import HostDiscovery.Proofs.Address.Loopback
import HostDiscovery.Proofs.Calendar.Ranges
import HostDiscovery.Proofs.Home.Additions
import HostDiscovery.Proofs.Home.BestEffort
import HostDiscovery.Proofs.Home.Confinement
import HostDiscovery.Proofs.Home.LineEndings
import HostDiscovery.Proofs.Home.Settling
import HostDiscovery.Proofs.Log.Atomicity
import HostDiscovery.Proofs.Log.Files
import HostDiscovery.Proofs.Network.Fields
import HostDiscovery.Proofs.Properties.Concatenation
import HostDiscovery.Proofs.Properties.Continuation
import HostDiscovery.Proofs.Properties.Fields
import HostDiscovery.Proofs.Properties.Spelling
import HostDiscovery.Proofs.CommandLine.Discovery
import HostDiscovery.Proofs.Resolver.Answering
import HostDiscovery.Proofs.Resolver.Closing
import HostDiscovery.Proofs.Resolver.HostAddresses
import HostDiscovery.Proofs.Resolver.HostName
import HostDiscovery.Proofs.Resolver.LocalAddress
import HostDiscovery.Proofs.Resolver.SocketFamily
import HostDiscovery.Proofs.Resolver.TableSearch
import HostDiscovery.Proofs.Settings.Environment
import HostDiscovery.Proofs.Settings.Items
import HostDiscovery.Proofs.Settings.Validation
import HostDiscovery.Proofs.Text.ControlSequence
import HostDiscovery.Proofs.Transfer.Refusal
