import ATV2Utils.Addresses
import ATV2Utils.Lib.Machine

/-! # Reachability flags

`UIDevice (Reachability)` keeps the last flags it was given in a file-level
variable. Every query refreshes it first, and a refresh that fails prints a
message and leaves the variable as it is. The calls are the steps of a machine
over the two globals; what the framework answers is the input of each step. -/
namespace ATV2Utils.Reachability
open ATV2Utils.Interfaces ATV2Utils.Addresses ATV2Utils.Lib.Machine

/-- `SCNetworkConnectionFlags`. -/
abbrev Flags := BitVec 32

def kSCNetworkFlagsReachable : Flags := 1#32 <<< 1
def kSCNetworkFlagsConnectionRequired : Flags := 1#32 <<< 2
def kSCNetworkReachabilityFlagsIsWWAN : Flags := 1#32 <<< 18

/-- The file-level globals; `reachability` is whether the reference exists. -/
structure Globals where
  connectionFlags : Flags
  reachability : Bool
deriving DecidableEq

def Globals.zero : Globals := ⟨0, false⟩

/-- `SCNetworkReachabilityGetFlags`: `none` when it fails, the flags variable untouched. -/
abbrev GetFlags := Option Flags

def pingReachabilityInternal (g : Globals) (getFlags : GetFlags) : Globals :=
  let g := if g.reachability then g else { g with reachability := true }
  match getFlags with
  | some flags => { g with connectionFlags := flags }
  | none => g

/-- Reachable, and no connection has to be made first. -/
def saysAvailable (flags : Flags) : Bool :=
  let isReachable := flags &&& kSCNetworkFlagsReachable != 0
  let needsConnection := flags &&& kSCNetworkFlagsConnectionRequired != 0
  isReachable && !needsConnection

def networkAvailable (g : Globals) (getFlags : GetFlags) : Globals × Bool :=
  let g := pingReachabilityInternal g getFlags
  (g, saysAvailable g.connectionFlags)

def activeWWAN (g : Globals) (getFlags : GetFlags) : Globals × Bool :=
  let (g, available) := networkAvailable g getFlags
  if !available then (g, false)
  else (g, g.connectionFlags &&& kSCNetworkReachabilityFlagsIsWWAN != 0)

/-- `scheduleReachabilityWatcher:`, with whether the watcher conforms to the
protocol and what `SetCallback` and `ScheduleWithRunLoop` answer. -/
def scheduleReachabilityWatcher (g : Globals) (conforms : Bool) (getFlags : GetFlags)
    (setCallback scheduled : Bool) : Globals × Bool :=
  if !conforms then (g, false)
  else
    let g := pingReachabilityInternal g getFlags
    if setCallback then
      if !scheduled then (g, false) else (g, true)
    else (g, false)

/-! ## A host by name -/

/-- What `gethostbyname` finds: a first address and further ones. -/
structure Hostent where
  first : InAddr
  others : List InAddr

def getIPAddressForHost (gethostbyname : String → Option Hostent) (theHost : String) :
    Option String :=
  (gethostbyname theHost).map fun host => inetNtoa host.first

/-- `addressFromString:address:`; what `inet_aton` parses is a parameter. -/
def addressFromString (inetAton : String → Option InAddr) (ipAddress : String) : Option InAddr :=
  if ipAddress.length = 0 then none else inetAton ipAddress

/-- `hostAvailable:` keeps its flags in a local variable. -/
def hostAvailable (gethostbyname : String → Option Hostent) (inetAton : String → Option InAddr)
    (theHost : String) (getFlags : InAddr → GetFlags) : Bool :=
  match getIPAddressForHost gethostbyname theHost with
  | none => false
  | some addressString =>
    match addressFromString inetAton addressString with
    | none => false
    | some address =>
      match getFlags address with
      | none => false
      | some flags => flags &&& kSCNetworkFlagsReachable != 0

/-! ## Runs of calls -/

/-- A call, with what the framework answers to it. -/
inductive Call where
  | networkAvailable (getFlags : GetFlags)
  | activeWWAN (getFlags : GetFlags)
  | scheduleReachabilityWatcher (conforms : Bool) (getFlags : GetFlags)
      (setCallback scheduled : Bool)
deriving DecidableEq

def step (g : Globals) : Call → Globals × Bool
  | .networkAvailable getFlags => networkAvailable g getFlags
  | .activeWWAN getFlags => activeWWAN g getFlags
  | .scheduleReachabilityWatcher conforms getFlags setCallback scheduled =>
    scheduleReachabilityWatcher g conforms getFlags setCallback scheduled

/-- What a call does to the flags variable. -/
def Call.refresh (flags : Flags) : Call → Flags
  | .networkAvailable getFlags => getFlags.getD flags
  | .activeWWAN getFlags => getFlags.getD flags
  | .scheduleReachabilityWatcher conforms getFlags _ _ =>
    if conforms then getFlags.getD flags else flags

/-- The flags of the last successful retrieval of a run, 0 before the first. -/
def lastRetrieved (run : List Call) : Flags := run.foldl Call.refresh 0

@[simp] theorem ping_connectionFlags (g : Globals) (getFlags : GetFlags) :
    (pingReachabilityInternal g getFlags).connectionFlags = getFlags.getD g.connectionFlags := by
  unfold pingReachabilityInternal
  cases getFlags <;> split <;> rfl

@[simp] theorem networkAvailable_fst (g : Globals) (getFlags : GetFlags) :
    (networkAvailable g getFlags).1 = pingReachabilityInternal g getFlags := rfl

theorem networkAvailable_snd (g : Globals) (getFlags : GetFlags) :
    (networkAvailable g getFlags).2 = saysAvailable (getFlags.getD g.connectionFlags) := by
  simp [networkAvailable]

theorem activeWWAN_fst (g : Globals) (getFlags : GetFlags) :
    (activeWWAN g getFlags).1 = pingReachabilityInternal g getFlags := by
  by_cases h : saysAvailable (getFlags.getD g.connectionFlags) = true <;>
    simp [activeWWAN, networkAvailable, h]

theorem activeWWAN_snd (g : Globals) (getFlags : GetFlags) :
    (activeWWAN g getFlags).2 = ((networkAvailable g getFlags).2 &&
      (getFlags.getD g.connectionFlags &&& kSCNetworkReachabilityFlagsIsWWAN != 0)) := by
  by_cases h : saysAvailable (getFlags.getD g.connectionFlags) = true <;>
    simp [activeWWAN, networkAvailable, h]

theorem step_connectionFlags (g : Globals) (call : Call) :
    (step g call).1.connectionFlags = call.refresh g.connectionFlags := by
  cases call with
  | networkAvailable getFlags => simp [step, Call.refresh]
  | activeWWAN getFlags => simp [step, Call.refresh, activeWWAN_fst]
  | scheduleReachabilityWatcher conforms getFlags setCallback scheduled =>
    cases conforms <;> cases setCallback <;> cases scheduled <;>
      simp [step, Call.refresh, scheduleReachabilityWatcher]

/-! ## Stale verdicts -/

/-- The verdict rests on the retrieval made in the same call. -/
structure FreshVerdict (getFlags : GetFlags) (verdict : Bool) : Prop where
  retrieved : verdict = true → ∃ flags, getFlags = some flags ∧
    flags &&& kSCNetworkFlagsReachable ≠ 0 ∧ flags &&& kSCNetworkFlagsConnectionRequired = 0
  failed : getFlags = none → verdict = false

/-- What a call in state `g` reports is fresh; for `activeWWAN` the verdict is
that of the `networkAvailable` it calls. -/
def ReportsFresh (g : Globals) : Call → Prop
  | .networkAvailable getFlags => FreshVerdict getFlags (networkAvailable g getFlags).2
  | .activeWWAN getFlags => FreshVerdict getFlags (networkAvailable g getFlags).2 ∧
      (getFlags = none → (activeWWAN g getFlags).2 = false)
  | .scheduleReachabilityWatcher .. => True

/-- The call reports a verdict, and its retrieval fails. -/
def Call.QueryFails : Call → Prop
  | .networkAvailable getFlags => getFlags = none
  | .activeWWAN getFlags => getFlags = none
  | .scheduleReachabilityWatcher .. => False

theorem saysAvailable_iff (flags : Flags) :
    saysAvailable flags = true ↔ flags &&& kSCNetworkFlagsReachable ≠ 0 ∧
      flags &&& kSCNetworkFlagsConnectionRequired = 0 := by
  simp [saysAvailable]

theorem freshVerdict_iff (g : Globals) (getFlags : GetFlags) :
    FreshVerdict getFlags (networkAvailable g getFlags).2 ↔
      (getFlags = none → saysAvailable g.connectionFlags = false) := by
  rw [networkAvailable_snd]
  cases getFlags with
  | none =>
    constructor
    · exact fun h _ => h.failed rfl
    · intro h
      have hno : saysAvailable ((none : GetFlags).getD g.connectionFlags) = false := h rfl
      exact ⟨fun hy => absurd (hno.symm.trans hy) (by decide), fun _ => hno⟩
  | some flags =>
    constructor
    · exact fun _ h => by cases h
    · intro _
      exact ⟨fun hy => ⟨flags, rfl, (saysAvailable_iff flags).mp hy⟩, fun h => by cases h⟩

/-- One call: only a failed query on flags that say available reports a stale verdict. -/
theorem reportsFresh_iff (g : Globals) (call : Call) :
    ReportsFresh g call ↔ (call.QueryFails → saysAvailable g.connectionFlags = false) := by
  cases call with
  | networkAvailable getFlags => exact freshVerdict_iff g getFlags
  | activeWWAN getFlags =>
    simp only [ReportsFresh, Call.QueryFails, ← freshVerdict_iff]
    refine ⟨And.left, fun h => ⟨h, fun hf => ?_⟩⟩
    rw [activeWWAN_snd, h.failed hf]
    rfl
  | scheduleReachabilityWatcher conforms getFlags setCallback scheduled =>
    simp [ReportsFresh, Call.QueryFails]

/-- A failed retrieval is a NO for `hostAvailable:`, whatever was retrieved before. -/
theorem hostAvailable_failed (gethostbyname : String → Option Hostent)
    (inetAton : String → Option InAddr) (theHost : String) :
    hostAvailable gethostbyname inetAton theHost (fun _ => none) = false := by
  unfold hostAvailable
  split
  · rfl
  · split <;> rfl

/-- **When no verdict of a run is stale.** Exactly when every query whose
retrieval fails comes after a last successful retrieval that did not say
available (or after none). `hostAvailable:` answers NO to the same failure. -/
theorem verdicts_fresh_iff (run : List Call) :
    (AtEveryStep step ReportsFresh Globals.zero run ∧
      ∀ gethostbyname inetAton theHost,
        hostAvailable gethostbyname inetAton theHost (fun _ => none) = false) ↔
    ∀ pre call post, run = pre ++ call :: post → call.QueryFails →
      saysAvailable (lastRetrieved pre) = false := by
  have hrun := atEveryStep_observe (P := ReportsFresh)
    (Q := fun flags call => call.QueryFails → saysAvailable flags = false)
    Globals.connectionFlags Call.refresh step_connectionFlags reportsFresh_iff Globals.zero run
  constructor
  · rintro ⟨h, _⟩
    exact hrun.mp h
  · intro h
    exact ⟨hrun.mpr h, hostAvailable_failed⟩

/-- A successful query, then a failed one. -/
def failingRefresh : List Call :=
  [.networkAvailable (some kSCNetworkFlagsReachable), .networkAvailable none]

theorem failingRefresh_stale :
    (networkAvailable (after step Globals.zero (failingRefresh.take 1)) none).2 = true ∧
      ¬ AtEveryStep step ReportsFresh Globals.zero failingRefresh := by
  have hyes : (networkAvailable (after step Globals.zero (failingRefresh.take 1)) none).2 = true := by
    decide
  refine ⟨hyes, fun h => ?_⟩
  have hfresh : FreshVerdict none _ :=
    h (failingRefresh.take 1) (.networkAvailable none) [] rfl
  exact absurd (hfresh.failed rfl) (by rw [hyes]; decide)

end ATV2Utils.Reachability
