import NamespaceBootstrap.Os.Io
import NamespaceBootstrap.Bootstrap.Tag

/-!
Failures of the bootstrap. Every one ends the process image with exit status 1: a failed step
of the configuration channel, a namespace that could not be joined, a clone the kernel
refused, a second resumption of one image, or an unusable configuration.
-/

namespace NamespaceBootstrap

/-- A failure of the bootstrap: the channel failed during a protocol step, joining a namespace
or cloning the child failed, the image was already resumed on one side when the other was asked
for, or the configuration cannot be used. -/
inductive BootstrapError where
  | channel (step : String) (cause : Os.IoFailure)
  | join (path : String) (errno : Os.Errno)
  | clone (errno : Os.Errno)
  | handoff (previous attempted : Tag)
  | config (reason : String)
  deriving DecidableEq, Repr

def BootstrapError.message : BootstrapError → String
  | .channel step cause => s!"config channel failed while {step}: {cause.message}"
  | .join path errno => s!"failed to join namespace {path}: {errno.osText}"
  | .clone errno => s!"failed to clone child process: {errno.brief}"
  | .handoff previous attempted =>
    s!"resumption point already signalled {previous.phrase}, refusing {attempted.phrase}"
  | .config reason => s!"invalid bootstrap configuration: {reason}"

/-- The failure with its causes, each after a colon: the channel's failure, or the system's
error for a join or a clone, is the cause of the failure that names it. -/
def BootstrapError.chain (e : BootstrapError) : String :=
  match e with
  | .channel _ cause => e.message ++ ": " ++ cause.message
  | .join _ errno => e.message ++ ": " ++ errno.osText
  | .clone errno => e.message ++ ": " ++ errno.brief
  | _ => e.message

/-- The exit status of a process image that fails this way. -/
def BootstrapError.exitCode (_ : BootstrapError) : Int := 1

end NamespaceBootstrap
