import SandboxedApi.ClassicBpf.Machine
import SandboxedApi.ClassicBpf.Sequence
import SandboxedApi.ClassicBpf.Word64
import SandboxedApi.Lists
import SandboxedApi.Status
import SandboxedApi.Sandbox2.Util.BpfHelper
import SandboxedApi.Sandbox2.Util.ResolveJumps
import SandboxedApi.Sandbox2.Util.LabelProgram
import SandboxedApi.Sandbox2.Util.Arg64
import SandboxedApi.Sandbox2.Syscall
import SandboxedApi.Sandbox2.PolicyBuilder.AddPolicyOnSyscalls
import SandboxedApi.Sandbox2.PolicyBuilder.Builder
import SandboxedApi.Sandbox2.Policy
import SandboxedApi.Sandbox2.MandatoryChecks
import SandboxedApi.Sandbox2.PolicyBuilder.FirstMatch
import SandboxedApi.Util.Path
import SandboxedApi.Util.CleanPath
import SandboxedApi.Sandbox2.Mounts
import SandboxedApi.Sandbox2.Mounts.Update
import SandboxedApi.Sandbox2.Mounts.ResolvePath
import SandboxedApi.Sandbox2.Comms.RecvFd
import SandboxedApi.Bytes.Prefix
import SandboxedApi.Sandbox2.NetworkProxy.Filtering
import SandboxedApi.Sandbox2.MonitorPtrace
import SandboxedApi.Posix.FdTable
import SandboxedApi.HashTable.SwissTable
import SandboxedApi.Text.Decimal
import SandboxedApi.Sandbox2.Client
import SandboxedApi.Sandbox2.ForkServer
import SandboxedApi.Bytes.LittleEndian
import SandboxedApi.Concurrency.LockedWriters
import SandboxedApi.Lists.RunLength
import SandboxedApi.Sandbox2.StackTrace
import SandboxedApi.Tools.ClangGenerator.Emitter
import SandboxedApi.Sandbox2.Util.CharPtrArray
import SandboxedApi.Logic.StateExcept
import SandboxedApi.Sandbox2.Util.MiniElf
import SandboxedApi.Sandbox2.Util.MiniElfSafety
import SandboxedApi.Sandbox2.Comms.Tlv
import SandboxedApi.Sandbox2.Comms.TlvRoundTrip
import SandboxedApi.Sandbox2.NetworkProxy.Connect
import SandboxedApi.RpcChannel
import SandboxedApi.SandboxCall
import SandboxedApi.Sandbox2.MonitorUnotify
import SandboxedApi.Graph.Worklist
import SandboxedApi.Sandbox2.Mounts.Binary
import SandboxedApi.Sandbox2.MonitorPtrace.Run
import SandboxedApi.Sandbox2.MonitorPtrace.PidWaiter
import SandboxedApi.Search.LowerBound
import SandboxedApi.Sandbox2.SyscallTable
import SandboxedApi.Client
import SandboxedApi.RpcSession
import SandboxedApi.Text.Scanf
import SandboxedApi.Sandbox2.Util.MapsParser
