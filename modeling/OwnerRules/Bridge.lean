import OwnerRules.Kernel.Gateway
import OwnerRules.Logging.Event
import OwnerRules.Telemetry
/-!
Clearing rule bits of a user id in the kernel's owner map: open the map once, look the entry up,
and write back what remains of it. An entry is never written back with no rule left.
-/
namespace OwnerRules

open Kernel

structure Bridge (σ : Type) where
  kernel : σ
  serializes : Bool
  descriptor : Option Int32
  telemetry : Telemetry
  log : List Event
  capabilities : Capabilities

inductive Access
  | opened (fd : Int32)
  | unsupported
  deriving DecidableEq

namespace Bridge

variable {σ : Type}

def start (kernel : σ) (serializes : Bool) : Bridge σ :=
  ⟨kernel, serializes, none, .zero, [], .empty⟩

def call (b : Bridge σ) (g : Gateway σ) (c : Call) : Except Errno c.Answer × Bridge σ :=
  let (answer, k) := g.serve c b.kernel
  (answer, { b with kernel := k })

def emit (b : Bridge σ) (e : Event) : Bridge σ := { b with log := b.log ++ [e] }

def countKernelError (b : Bridge σ) (c : Command) : Bridge σ :=
  { b with telemetry := b.telemetry.countKernelError c }

def fill (b : Bridge σ) (path : MapPath) (fd : Int32) : Bridge σ :=
  let b := b.emit (.mapOpened path fd)
  { b with descriptor := some fd, telemetry := b.telemetry.countMapOpen }

/-- The first descriptor is kept for good and later paths are not looked at. -/
def ensureOpen (b : Bridge σ) (g : Gateway σ) (path : MapPath) : Except Failure Access × Bridge σ :=
  match b.descriptor with
  | some fd => (.ok (.opened fd), b)
  | none =>
    if path.hasNul then (.error (.invalidPath path.lossyText), b)
    else
      match b.call g (.objGet path Flag.readWrite) with
      | (.ok fd, b) => (.ok (.opened fd), b.fill path fd)
      | (.error e, b) =>
        if e = .ENOSYS then (.ok .unsupported, b.emit (.mapUnsupported path))
        else
          (.error (.kernel .objGet e),
            (b.emit (.mapOpenFailed path e (b.capabilities.hintFor e))).countKernelError
              .objGet)

def conclude (b : Bridge σ) (uid : UInt32) (r : Removal) : Except Failure Removal × Bridge σ :=
  let b := b.emit (.removalFinished uid r.outcome)
  (.ok r, { b with telemetry := b.telemetry.countOutcome r.outcome })

def noteFailure (b : Bridge σ) (c : Command) (uid : UInt32) (e : Errno) : Bridge σ :=
  (b.emit (.commandFailed uid c e (b.capabilities.hintFor e))).countKernelError c

def writeBack (b : Bridge σ) (g : Gateway σ) (fd : Int32) (uid : UInt32) (entry : Entry) :
    Option Failure × Bridge σ :=
  if entry.rule ≠ 0 then
    match b.call g (.update fd uid entry Flag.any) with
    | (.ok _, b) => (none, b.emit (.entryUpdated uid entry.rule))
    | (.error e, b) => (some (.kernel .update e), b.noteFailure .update uid e)
  else
    match b.call g (.delete fd uid) with
    | (.ok _, b) => (none, b.emit (.entryDeleted uid))
    | (.error e, b) =>
      if e = .ENOENT then (none, b.emit (.entryAlreadyDeleted uid))
      else (some (.kernel .delete e), b.noteFailure .delete uid e)

def clearAt (b : Bridge σ) (g : Gateway σ) (fd : Int32) (uid mask : UInt32) :
    Except Failure Removal × Bridge σ :=
  match b.call g (.lookup fd uid) with
  | (.error e, b) =>
    if e = .ENOENT then b.conclude uid (.of .notFound)
    else (.error (.kernel .lookup e), b.noteFailure .lookup uid e)
  | (.ok entry, b) =>
    if entry.rule &&& mask = 0 then
      (b.emit (.noRequestedBits uid entry.rule mask)).conclude uid (.of .noMatch)
    else
      let (deferred, b) := b.writeBack g fd uid { entry with rule := entry.rule &&& ~~~mask }
      b.conclude uid (.afterWrite deferred)

/-- Clears `rules` at `uid`. Only the low 32 bits can match, and the path counts only until the map
is open. -/
def clearRules (b : Bridge σ) (g : Gateway σ) (path : MapPath) (uid : UInt32) (rules : UInt64) :
    Except Failure Removal × Bridge σ :=
  match b.ensureOpen g path with
  | (.error f, b) => (.error f, b)
  | (.ok .unsupported, b) => b.conclude uid (.of .unsupported)
  | (.ok (.opened fd), b) => b.clearAt g fd uid rules.toUInt32

def clearForHost (b : Bridge σ) (g : Gateway σ) (path : MapPath) (uid : Int32)
    (rules : Int64) : Except Failure Removal × Bridge σ :=
  b.clearRules g path uid.toUInt32 rules.toUInt64

def answerHost (b : Bridge σ) (g : Gateway σ) (path : MapPath) (uid : Int32)
    (rules : Int64) : Except Failure Bool × Bridge σ :=
  let (r, b) := b.clearForHost g path uid rules
  (r.bind Removal.answer, b)

end Bridge

end OwnerRules
