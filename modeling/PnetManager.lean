import PnetManager.CNumber
import PnetManager.CStdio
import PnetManager.ConnectionTracking
import PnetManager.StackLedger
import PnetManager.ScriptLines
import PnetManager.PolicyApply
import PnetManager.FailedApply
import PnetManager.AppliedCommands
import PnetManager.SecurityAudit
import PnetManager.RestoreUnapplied
import PnetManager.ConfigKeys
import PnetManager.ByteOrder
import PnetManager.WatchdogGap
import PnetManager.AddressValidation
import PnetManager.InlineComments
import PnetManager.LongLines
import PnetManager.RewrittenFile
import PnetManager.RuleOrder
import PnetManager.ScriptBuffer
import PnetManager.AuditMemory
import PnetManager.RecoverySchedule
import PnetManager.NumericValues
import PnetManager.DottedQuads
import PnetManager.ProcessImage
import PnetManager.OutputStatus
import PnetManager.LastAssignment
import PnetManager.TunnelReading
import PnetManager.InterfaceNames
import PnetManager.TcpTuning
import PnetManager.StackConfig
import PnetManager.SubmoduleTable
import PnetManager.RtReport
import PnetManager.ManagerEffects
import PnetManager.AddressText
import PnetManager.PacketVerdicts
import PnetManager.TunnelStore
import PnetManager.RewritingSettles
import PnetManager.InterfaceQueries
import PnetManager.RtFindings
import PnetManager.StackProtocol
import PnetManager.RtHistory
