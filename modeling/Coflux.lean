import Coflux.Ptyd.OutputLog
import Coflux.Ptyd.Input
import Coflux.Ptyd.Replies
import Coflux.Runtime.Commit
import Coflux.Runtime.Assembly
import Coflux.Sessiond.Marks
import Coflux.Runtime.Replay
import Coflux.Runtime.Queries
import Coflux.Device.Content
import Coflux.Device.Outbox
import Coflux.Device.Prepared
import Coflux.Device.AgentIo
import Coflux.Launcher.Probation
import Coflux.Server.Delivery
import Coflux.Server.Outcomes
import Coflux.Server.SessionExit
import Coflux.Client.Lanes
import Coflux.Runtime.Vault
import Coflux.Executor.Sandbox
import Coflux.Ptyd.Orphans
import Coflux.Device.Grants
import Coflux.Client.Screen
import Coflux.Sessiond.Retransmit
import Coflux.Sessiond.VtParser
import Coflux.Server.Preview
import Coflux.Desktop.ChunkedScanner
import Coflux.Desktop.Annotations
import Coflux.Desktop.CodeComments
