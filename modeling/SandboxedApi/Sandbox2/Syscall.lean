import SandboxedApi.Sandbox2.Util.BpfHelper

/-! # The host the sandbox is built for

The model fixes the build to x86-64 (`SAPI_X86_64`): the architecture codes of
`sapi::cpu::Architecture` that the filters pass to the monitor as `TRACE` data, the audit
architectures the kernel reports in `seccomp_data.arch`, and the system call numbers and flag
values the default policy names.
-/
namespace SandboxedApi

/-- `sapi::cpu::Architecture`: a magic value below `1 << 15`, so that it fits the data of a
seccomp return. -/
inductive Cpu.Architecture where
  | kUnknown
  | kX8664
  | kX86
  | kPPC64LE
  | kArm64
  | kArm
  deriving DecidableEq, Repr

def Cpu.Architecture.value : Cpu.Architecture → UInt32
  | .kUnknown => 0xCAF0
  | .kX8664 => 0xCAF1
  | .kX86 => 0xCAF2
  | .kPPC64LE => 0xCAF3
  | .kArm64 => 0xCAF4
  | .kArm => 0xCAF5

namespace Sandbox2
open ClassicBpf

def Syscall.getHostArch : Cpu.Architecture := .kX8664

def auditArchX8664 : UInt32 := 0xC000003E
def auditArchI386 : UInt32 := 0x40000003

def Syscall.getHostAuditArch : UInt32 := auditArchX8664

def nrRead : UInt32 := 0
def nrMmap : UInt32 := 9
def nrClone : UInt32 := 56
def nrPtrace : UInt32 := 101
def nrSeccomp : UInt32 := 317
def nrBpf : UInt32 := 321
def nrExecveat : UInt32 := 322

def cloneUntraced : UInt32 := 0x00800000
def seccompFilterFlagNewListener : UInt32 := 8
def atEmptyPath : UInt32 := 0x1000

/-- `internal::kExecveMagic`, the value the fork server passes in the last arguments of its
`execveat`. -/
def kExecveMagic : UInt32 := 0x921c2c34

/-- `SANDBOX2_TRACE`: hand the system call to the monitor, tagged with the host architecture. -/
def sandbox2Trace : SockFilter := trace Syscall.getHostArch.value

end Sandbox2
end SandboxedApi
