import ProxyControl.Failure
import ProxyControl.Validation.Coerce

namespace ProxyControl

/-- A field of a document: left out, given as null, or given with a value. -/
inductive Field (α : Type) where
  | unset
  | null
  | value (a : α)
  deriving DecidableEq, Repr

namespace Field

def value? {α : Type} : Field α → Option α
  | value a => some a
  | _ => none

def isSet {α : Type} : Field α → Bool
  | unset => false
  | _ => true

/-- A field from a document, where `none` is a field left out and `some none` is null. -/
def ofNested {α : Type} : Option (Option α) → Field α
  | none => unset
  | some none => null
  | some (some a) => value a

end Field

/-- A time during which another minimum of replicas applies. -/
structure ScheduledWindow where
  minReplicas : Nat
  opening : Text
  closing : Text
  timezone : Field Text := .unset
  deriving DecidableEq, Repr

/-- The autoscaling policy of an instance. A trigger that is unset is not the same as a trigger of zero. -/
structure Autoscale where
  minReplicas : Option Nat := none
  maxReplicas : Option Nat := none
  cpu : Field Int := .unset
  memory : Field Int := .unset
  rps : Field Int := .unset
  schedules : Field (List ScheduledWindow) := .unset
  deriving DecidableEq, Repr

/-- A member that is there only with a value. -/
def optionalMember (key : Text) (value : Option Json) : List (Text × Json) :=
  match value with
  | some value => [(key, value)]
  | none => []

namespace ScheduledWindow

/-- Reads a window; both the wire name and the attribute name of a field are taken, the wire name first. -/
def check (input : Datum) : Validation.Checked ScheduledWindow := do
  let entries ← Validation.entries "ScheduledWindow" input
  let build (minReplicas : Nat) (opening closing : Text) (timezone : Option (Option Text)) : ScheduledWindow :=
    { minReplicas, opening, closing, timezone := .ofNested timezone }
  (Validation.Checked.with (.ok build) (Validation.required ["minReplicas", "min_replicas"] Validation.count entries))
    |>.with (Validation.required ["start"] Validation.text entries)
    |>.with (Validation.required ["end"] Validation.text entries)
    |>.with (Validation.field ["timezone"] (Validation.optional Validation.text) entries)

/-- The names of the fields that were given, in alphabetical order. -/
def givenFields (w : ScheduledWindow) : List Text :=
  "end" :: "min_replicas" :: "start" :: (if w.timezone.isSet then ["timezone"] else [])

/-- What is sent for a window: fields without a value stay away. -/
def payload (w : ScheduledWindow) : Json :=
  .object (("minReplicas", .int w.minReplicas) :: ("start", .text w.opening) :: ("end", .text w.closing) ::
    optionalMember "timezone" (w.timezone.value?.map .text))

def expression (w : ScheduledWindow) : Boundary → Text
  | .opening => w.opening
  | .closing => w.closing

/-- Whether two windows have the same values, given or not. -/
def sameValues (a b : ScheduledWindow) : Bool :=
  a.minReplicas == b.minReplicas && a.opening == b.opening && a.closing == b.closing &&
    a.timezone.value? == b.timezone.value?

end ScheduledWindow

namespace Autoscale

def minimum (a : Autoscale) : Nat := a.minReplicas.getD 0

def maximum (a : Autoscale) : Nat := a.maxReplicas.getD 0

/-- Reads a policy; unknown fields are ignored. -/
def check (input : Datum) : Validation.Checked Autoscale := do
  let entries ← Validation.entries "Autoscale" input
  let build (minReplicas maxReplicas : Option Nat) (cpu memory rps : Option (Option Int))
      (schedules : Option (Option (List ScheduledWindow))) : Autoscale :=
    { minReplicas, maxReplicas, cpu := .ofNested cpu, memory := .ofNested memory, rps := .ofNested rps,
      schedules := .ofNested schedules }
  let trigger (name : Text) := Validation.field [name] (Validation.optional Validation.integer) entries
  (Validation.Checked.with (.ok build) (Validation.field ["minReplicas", "min_replicas"] Validation.count entries))
    |>.with (Validation.field ["maxReplicas", "max_replicas"] Validation.count entries)
    |>.with (trigger "cpu")
    |>.with (trigger "memory")
    |>.with (trigger "rps")
    |>.with (Validation.field ["schedules"]
      (Validation.optional (Validation.listOf ScheduledWindow.check)) entries)

/-- The names of the fields that were given, in alphabetical order. -/
def givenFields (a : Autoscale) : List Text :=
  let fields : List (Text × Bool) :=
    [("cpu", a.cpu.isSet), ("max_replicas", a.maxReplicas.isSome), ("memory", a.memory.isSet),
      ("min_replicas", a.minReplicas.isSome), ("rps", a.rps.isSet), ("schedules", a.schedules.isSet)]
  (fields.filter Prod.snd).map Prod.fst

/-- What is sent for a policy: both replica bounds, and the triggers and windows that have a value. -/
def payload (a : Autoscale) : Json :=
  .object (("minReplicas", .int a.minimum) :: ("maxReplicas", .int a.maximum) ::
    (optionalMember "cpu" (a.cpu.value?.map .int) ++ optionalMember "memory" (a.memory.value?.map .int) ++
      optionalMember "rps" (a.rps.value?.map .int) ++
      optionalMember "schedules" (a.schedules.value?.map fun windows => .list (windows.map ScheduledWindow.payload))))

def sameWindows : List ScheduledWindow → List ScheduledWindow → Bool
  | [], [] => true
  | a :: as, b :: bs => a.sameValues b && sameWindows as bs
  | _, _ => false

/-- Whether two policies have the same values, given or not. -/
def sameValues (a b : Autoscale) : Bool :=
  a.minimum == b.minimum && a.maximum == b.maximum && a.cpu.value? == b.cpu.value? &&
    a.memory.value? == b.memory.value? && a.rps.value? == b.rps.value? &&
    (match a.schedules.value?, b.schedules.value? with
    | some as, some bs => sameWindows as bs
    | none, none => true
    | _, _ => false)

/-- Reads a policy from a JSON value. -/
def validate (input : Json) : Outcome Autoscale :=
  (Validation.report "Autoscale" (check input.toDatum)).mapError .invalidData

end Autoscale

/-- Reads a window from a JSON value. -/
def ScheduledWindow.validate (input : Json) : Outcome ScheduledWindow :=
  (Validation.report "ScheduledWindow" (check input.toDatum)).mapError .invalidData

/-- Reads a JSON text, or fails as reading it does. -/
def Json.ofText (source : Text) : Outcome Json := (Json.parse source).mapError (Failure.ofParseError source)

end ProxyControl
