import VpnSs.Lib.DecisionList
import VpnSs.Lib.Except
import VpnSs.Lib.Heap
import VpnSs.Lib.Lts
import VpnSs.Tunnel.Grammar
import VpnSs.Tunnel.Lifecycle
import VpnSs.Tunnel.PathChanges
import VpnSs.Lead.Selection
import VpnSs.Lead.Observers
import VpnSs.Lead.Connect
import VpnSs.Lead.ConfigForm
import VpnSs.Lead.YYHud
import VpnSs.Server.Udp
import VpnSs.NEKit.EndToEnd
import VpnSs.NEKit.SocketRuns
import VpnSs.NEKit.ProxyServer
import VpnSs.Lib.Descent
import VpnSs.MMDB.Database
import VpnSs.MMDB.Lookup
import VpnSs.NEKit.Resolving
