import ATV2Utils.Lib.Memory
import ATV2Utils.Lib.Simulation
import ATV2Utils.Reachability

/-! # Watching the reachability

The same globals as in `Reachability`, with the reference they name: who owns it,
whom its callback calls, and what is left of it when it is given up. A watcher is
not retained by the watch, so it may be gone when the flags change. -/
namespace ATV2Utils.ReachabilityWatcher
open ATV2Utils.Reachability ATV2Utils.Lib.Memory ATV2Utils.Lib.Simulation

/-- What `SCNetworkReachabilityRef` points to. `info` is the watcher of the
context, and null without a callback. -/
structure Target where
  info : Pointer
  scheduled : Bool
deriving DecidableEq, Repr

def Target.idle : Target := ⟨none, false⟩

/-- The globals, the references, and each watcher with how often it was told. -/
structure State where
  connectionFlags : Flags
  reachability : Pointer
  targets : Heap (Counted Target)
  watchers : Heap Nat
deriving DecidableEq, Repr

def State.zero : State := ⟨0, none, Heap.empty, Heap.empty⟩

/-- Whether `SCNetworkReachabilityCreateWithAddress` makes a reference, and what
`SCNetworkReachabilityGetFlags` answers. -/
structure PingAnswers where
  created : Bool
  getFlags : GetFlags
deriving DecidableEq

/-- The first branch of `pingReachabilityInternal`, with its `CFRetain`. -/
def createReachability (s : State) (created : Bool) : Except Fault State :=
  if s.reachability.isNone then do
    let reachability := if created then some s.targets.size else none
    let targets := if created then create s.targets Target.idle else s.targets
    let targets ← retain targets reachability
    return { s with reachability := reachability, targets := targets }
  else .ok s

def pingReachabilityInternal (s : State) (a : PingAnswers) : Except Fault State := do
  let s ← createReachability s a.created
  let _ ← s.targets.load s.reachability
  match a.getFlags with
  | some flags => return { s with connectionFlags := flags }
  | none => return s

def networkAvailable (s : State) (a : PingAnswers) : Except Fault (State × Bool) := do
  let s ← pingReachabilityInternal s a
  return (s, saysAvailable s.connectionFlags)

/-- What is answered to `scheduleReachabilityWatcher:`. -/
structure ScheduleAnswers where
  conforms : Bool
  ping : PingAnswers
  setCallback : Bool
  scheduled : Bool
deriving DecidableEq

/-- A message to `nil` answers NO. -/
def conformsToProtocol (s : State) (watcher : Pointer) (answer : Bool) : Except Fault Bool :=
  match watcher with
  | none => .ok false
  | some _ => do
    let _ ← s.watchers.load watcher
    return answer

def scheduleReachabilityWatcher (s : State) (watcher : Pointer) (a : ScheduleAnswers) :
    Except Fault (State × Bool) := do
  let conforms ← conformsToProtocol s watcher a.conforms
  if !conforms then return (s, false)
  else
    let s ← pingReachabilityInternal s a.ping
    if a.setCallback then
      let targets ← send s.targets s.reachability fun t => { t with info := watcher }
      if !a.scheduled then
        let targets ← send targets s.reachability fun t => { t with info := none }
        return ({ s with targets := targets }, false)
      else
        let targets ← send targets s.reachability fun t => { t with scheduled := true }
        return ({ s with targets := targets }, true)
    else return (s, false)

/-- `SCNetworkReachabilitySetCallback` without a callback, and
`SCNetworkReachabilityUnscheduleFromRunLoop`: both answer NO to a null reference. -/
def stopCallback (s : State) : Except Fault (Heap (Counted Target)) :=
  if s.reachability.isSome then do
    let targets ← send s.targets s.reachability fun t => { t with info := none }
    send targets s.reachability fun t => { t with scheduled := false }
  else .ok s.targets

/-- `CFRelease` does not take a null reference. -/
def unscheduleReachabilityWatcher (s : State) : Except Fault State := do
  let targets ← stopCallback s
  let targets ← release targets s.reachability
  return { s with targets := targets, reachability := none }

/-- `ReachabilityCallback`. -/
def reachabilityCallback (s : State) (info : Pointer) : Except Fault State := do
  let watchers ← s.watchers.modify info fun told => told + 1
  return { s with watchers := watchers }

/-- The flags of a reference change. -/
def flagsChanged (s : State) (target : Nat) : Except Fault State :=
  match s.targets.get? target with
  | none => .ok s
  | some c =>
    if c.object.scheduled && c.object.info.isSome then reachabilityCallback s c.object.info
    else .ok s

inductive Op where
  | networkAvailable (a : PingAnswers)
  | scheduleReachabilityWatcher (watcher : Pointer) (a : ScheduleAnswers)
  | unscheduleReachabilityWatcher
  | flagsChanged (target : Nat)
  | newWatcher
  | dealloc (watcher : Nat)
deriving DecidableEq

def step (s : State) : Op → Except Fault State
  | .networkAvailable a => do
    let (s, _) ← networkAvailable s a
    return s
  | .scheduleReachabilityWatcher watcher a => do
    let (s, _) ← scheduleReachabilityWatcher s watcher a
    return s
  | .unscheduleReachabilityWatcher => unscheduleReachabilityWatcher s
  | .flagsChanged target => flagsChanged s target
  | .newWatcher => .ok { s with watchers := s.watchers.alloc 0 }
  | .dealloc watcher => do
    let watchers ← s.watchers.free (some watcher)
    return { s with watchers := watchers }

/-! ## The automaton -/

/-- How many references were made, whether the last of them is the current one,
whom it calls, and the watchers. -/
structure Watch where
  made : Nat
  current : Bool
  target : Target
  watchers : Heap Nat
deriving DecidableEq, Repr

def Watch.zero : Watch := ⟨0, false, Target.idle, Heap.empty⟩

def Watch.ping (w : Watch) (created : Bool) : Option Watch :=
  if w.current then some w
  else if created then some { w with made := w.made + 1, current := true, target := Target.idle }
  else none

/-- A scheduling that fails takes the callback of an earlier one away. -/
def Watch.schedule (w : Watch) (watcher : Nat) (a : ScheduleAnswers) : Watch :=
  if !a.setCallback then w
  else if a.scheduled then { w with target := ⟨some watcher, true⟩ }
  else { w with target := { w.target with info := none } }

def Watch.tell (w : Watch) (watcher : Nat) : Option Watch :=
  match w.watchers.get? watcher with
  | some told => some { w with watchers := w.watchers.put watcher (some (told + 1)) }
  | none => none

def follow (w : Watch) : Op → Option Watch
  | .networkAvailable a => w.ping a.created
  | .scheduleReachabilityWatcher none _ => some w
  | .scheduleReachabilityWatcher (some watcher) a =>
    if (w.watchers.get? watcher).isNone then none
    else if !a.conforms then some w
    else (w.ping a.ping.created).map fun w => w.schedule watcher a
  | .unscheduleReachabilityWatcher =>
    if w.current then some { w with current := false, target := Target.idle } else none
  | .flagsChanged target =>
    if w.current && target + 1 == w.made && w.target.scheduled then
      match w.target.info with
      | some watcher => w.tell watcher
      | none => some w
    else some w
  | .newWatcher => some { w with watchers := w.watchers.alloc 0 }
  | .dealloc watcher =>
    if (w.watchers.get? watcher).isSome then
      some { w with watchers := w.watchers.put watcher none }
    else none

/-! ## What a state of the automaton stands for -/

/-- The current reference is owned twice. One that was given up is still owned
once, by nobody. -/
def Watch.cell (w : Watch) (k : Nat) : Counted Target :=
  if w.current ∧ k + 1 = w.made then ⟨2, w.target⟩ else ⟨1, Target.idle⟩

structure Describes (s : State) (w : Watch) : Prop where
  size : s.targets.size = w.made
  cell : ∀ k < w.made, s.targets.get? k = some (w.cell k)
  reachability : s.reachability = if w.current then some (w.made - 1) else none
  made : w.current = true → 0 < w.made
  watchers : s.watchers = w.watchers

theorem zero_describes : Describes State.zero Watch.zero :=
  ⟨rfl, nofun, rfl, nofun, rfl⟩

/-! ## Steps -/
section Steps
variable {s : State} {w : Watch}

/-- The current reference and its cell. -/
theorem Describes.current (h : Describes s w) (hcurrent : w.current = true) :
    s.reachability = some (w.made - 1) ∧ s.targets.get? (w.made - 1) = some ⟨2, w.target⟩ := by
  have hmade := h.made hcurrent
  refine ⟨by rw [h.reachability, if_pos hcurrent], ?_⟩
  rw [h.cell _ (by omega), Watch.cell, if_pos ⟨hcurrent, by omega⟩]

/-- What is done to the current reference. -/
theorem Describes.put (h : Describes s w) (hcurrent : w.current = true) (t : Target) :
    Describes { s with targets := s.targets.put (w.made - 1) (some ⟨2, t⟩) }
      { w with target := t } := by
  have hmade := h.made hcurrent
  refine ⟨(Heap.size_put ..).trans h.size, ?_, h.reachability, h.made, h.watchers⟩
  intro k hk
  rw [Heap.get?_put (by rw [h.size]; omega)]
  rcases eq_or_ne k (w.made - 1) with rfl | hne
  · rw [if_pos rfl, Watch.cell, if_pos ⟨hcurrent, by show w.made - 1 + 1 = w.made; omega⟩]
  · have hother : ¬ k + 1 = w.made := by omega
    rw [if_neg hne, h.cell k hk, Watch.cell, Watch.cell, if_neg (fun hk => hother hk.2),
      if_neg (fun hk => hother hk.2)]

theorem send_current (h : Describes s w) (hcurrent : w.current = true) (f : Target → Target) :
    send s.targets s.reachability f =
      .ok (s.targets.put (w.made - 1) (some ⟨2, f w.target⟩)) := by
  obtain ⟨hreachability, hcell⟩ := h.current hcurrent
  rw [hreachability, send, Heap.modify_some hcell]

/-- A new reference is retained once more at once. -/
theorem create_retain (targets : Heap (Counted Target)) (t : Target) :
    retain (create targets t) (some targets.size) = .ok (targets.alloc ⟨2, t⟩) := by
  rw [retain, create, Heap.modify_some (Heap.get?_alloc_size ..), Heap.put_alloc]

theorem Describes.create (h : Describes s w) (hcurrent : w.current = false) :
    Describes { s with reachability := some s.targets.size,
                       targets := s.targets.alloc ⟨2, Target.idle⟩ }
      { w with made := w.made + 1, current := true, target := Target.idle } := by
  refine ⟨?_, ?_, ?_, fun _ => Nat.succ_pos _, h.watchers⟩
  · rw [Heap.size_alloc, h.size]
  · intro k hk
    rw [Heap.get?_alloc, h.size]
    rcases eq_or_ne k w.made with rfl | hne
    · rw [if_pos rfl, Watch.cell, if_pos ⟨rfl, rfl⟩]
    · have hother : ¬ k + 1 = w.made + 1 := by omega
      rw [if_neg hne, h.cell k (by simp only at hk; omega), Watch.cell, Watch.cell,
        if_neg (by simp [hcurrent]), if_neg (fun hk => hother hk.2)]
  · rw [if_pos rfl, h.size]
    rfl

/-- The reference that was current keeps its second owner. -/
theorem Describes.giveUp (h : Describes s w) (hcurrent : w.current = true) :
    Describes { s with targets := s.targets.put (w.made - 1) (some ⟨1, Target.idle⟩),
                       reachability := none }
      { w with current := false, target := Target.idle } := by
  have hmade := h.made hcurrent
  refine ⟨(Heap.size_put ..).trans h.size, ?_, rfl, nofun, h.watchers⟩
  intro k hk
  simp only at hk
  rw [Heap.get?_put (by rw [h.size]; omega)]
  split
  · rw [Watch.cell, if_neg (by simp)]
  · have hother : ¬ k + 1 = w.made := by omega
    rw [h.cell k hk, Watch.cell, Watch.cell, if_neg (fun hk => hother hk.2), if_neg (by simp)]

theorem Describes.withFlags (h : Describes s w) (flags : Flags) :
    Describes { s with connectionFlags := flags } w :=
  ⟨h.size, h.cell, h.reachability, h.made, h.watchers⟩

/-- After a ping there is a current reference, or the program has crashed. -/
theorem ping_matches (h : Describes s w) (a : PingAnswers) :
    Matches (fun s' w' => Describes s' w' ∧ w'.current = true)
      (pingReachabilityInternal s a) (w.ping a.created) := by
  have hanswer {s' : State} {w' : Watch} (hdescribes : Describes s' w')
      (hcurrent : w'.current = true) :
      Matches (fun s' w' => Describes s' w' ∧ w'.current = true)
        (match a.getFlags with
          | some flags => .ok { s' with connectionFlags := flags }
          | none => .ok s' : Except Fault State) (some w') := by
    cases a.getFlags with
    | none => exact ⟨hdescribes, hcurrent⟩
    | some flags => exact ⟨hdescribes.withFlags flags, hcurrent⟩
  cases hcurrent : w.current with
  | true =>
    obtain ⟨hreachability, hcell⟩ := h.current hcurrent
    have hload : s.targets.load s.reachability = .ok ⟨2, w.target⟩ := by
      rw [hreachability, Heap.load_some hcell]
    have hsome : s.reachability.isNone = false := by rw [hreachability]; rfl
    simp only [pingReachabilityInternal, createReachability, hsome, Bool.false_eq_true, if_false, bind, Except.bind,
      pure, Except.pure, hload, Watch.ping, hcurrent, if_true]
    exact hanswer h hcurrent
  | false =>
    have hnone : s.reachability = none := by rw [h.reachability, hcurrent]; rfl
    cases hcreated : a.created with
    | false =>
      simp only [pingReachabilityInternal, createReachability, hnone, Option.isNone_none, if_true, hcreated,
        Bool.false_eq_true, if_false, Watch.ping, hcurrent]
      exact Matches.fault
    | true =>
      simp only [pingReachabilityInternal, createReachability, hnone, Option.isNone_none, if_true, hcreated,
        create_retain, bind, Except.bind, pure, Except.pure,
        Heap.load_some (Heap.get?_alloc_size ..), Watch.ping, hcurrent, Bool.false_eq_true, if_false]
      exact hanswer (h.create hcurrent) rfl

theorem networkAvailable_matches (h : Describes s w) (a : PingAnswers) :
    Matches Describes (step s (.networkAvailable a)) (follow w (.networkAvailable a)) := by
  have hping := ping_matches h a
  rw [step, follow, networkAvailable]
  cases hw : w.ping a.created with
  | none =>
    rw [hw] at hping
    obtain ⟨e, he⟩ := hping.error_of_none
    rw [he]
    exact Matches.fault
  | some w' =>
    rw [hw] at hping
    obtain ⟨s', hs', hdescribes, -⟩ := hping.state_of_some
    rw [hs']
    exact Matches.ok hdescribes

theorem schedule_matches (h : Describes s w) (watcher : Pointer) (a : ScheduleAnswers) :
    Matches Describes (step s (.scheduleReachabilityWatcher watcher a))
      (follow w (.scheduleReachabilityWatcher watcher a)) := by
  cases watcher with
  | none => exact Matches.ok h
  | some i =>
    rw [step, follow, scheduleReachabilityWatcher, conformsToProtocol, ← h.watchers]
    cases hi : s.watchers.get? i with
    | none =>
      rw [Heap.load_dead hi]
      exact Matches.fault
    | some told =>
      rw [Heap.load_some hi]
      cases hconforms : a.conforms with
      | false => exact Matches.ok h
      | true =>
        have hping := ping_matches h a.ping
        simp only [bind, Except.bind, pure, Except.pure, Option.isNone_some, Bool.false_eq_true,
          if_false, Bool.not_true]
        cases hw : w.ping a.ping.created with
        | none =>
          rw [hw] at hping
          obtain ⟨e, he⟩ := hping.error_of_none
          simp only [he]
          exact Matches.fault
        | some w' =>
          rw [hw] at hping
          obtain ⟨s', hs', hdescribes, hcurrent⟩ := hping.state_of_some
          have hset := hdescribes.put hcurrent ⟨some i, w'.target.scheduled⟩
          simp only [hs', Option.map_some, Watch.schedule]
          cases a.setCallback with
          | false => exact Matches.ok hdescribes
          | true =>
            have hsecond := send_current hset hcurrent
            simp only at hsecond
            cases a.scheduled with
            | false =>
              simp only [send_current hdescribes hcurrent, hsecond, Heap.put_put, if_true,
                Bool.not_false, Bool.not_true, Bool.false_eq_true, if_false]
              exact Matches.ok (hdescribes.put hcurrent _)
            | true =>
              simp only [send_current hdescribes hcurrent, hsecond, Heap.put_put, if_true,
                Bool.not_true, Bool.false_eq_true, if_false]
              exact Matches.ok (hdescribes.put hcurrent _)

theorem unschedule_matches (h : Describes s w) :
    Matches Describes (step s .unscheduleReachabilityWatcher)
      (follow w .unscheduleReachabilityWatcher) := by
  rw [step, follow, unscheduleReachabilityWatcher]
  cases hcurrent : w.current with
  | false =>
    have hnone : s.reachability = none := by rw [h.reachability, hcurrent]; rfl
    rw [stopCallback, hnone]
    exact Matches.fault
  | true =>
    have hset := h.put hcurrent ⟨none, w.target.scheduled⟩
    have hsecond := send_current hset hcurrent
    simp only at hsecond
    obtain ⟨hreachability, hcell⟩ := h.current hcurrent
    have hsome : s.reachability.isSome = true := by rw [hreachability]; rfl
    have hrelease (t : Target) :
        release (s.targets.put (w.made - 1) (some ⟨2, t⟩)) s.reachability =
          .ok (s.targets.put (w.made - 1) (some ⟨1, t⟩)) := by
      have hget : (s.targets.put (w.made - 1) (some ⟨2, t⟩)).get? (w.made - 1) = some ⟨2, t⟩ := by
        rw [Heap.get?_put (Heap.lt_size hcell), if_pos rfl]
      rw [hreachability, release_shared hget (Nat.lt_succ_self 1), Heap.put_put]
      rfl
    simp only [stopCallback, hsome, if_true, bind, Except.bind, send_current h hcurrent, hsecond,
      Heap.put_put, hrelease]
    exact Matches.ok (h.giveUp hcurrent)

theorem flagsChanged_matches (h : Describes s w) (target : Nat) :
    Matches Describes (step s (.flagsChanged target)) (follow w (.flagsChanged target)) := by
  rw [step, follow, flagsChanged]
  rcases Nat.lt_or_ge target w.made with hlt | hge
  · rw [h.cell target hlt, Watch.cell]
    by_cases hnamed : w.current = true ∧ target + 1 = w.made
    · rw [if_pos hnamed, hnamed.1, hnamed.2, beq_self_eq_true]
      dsimp only
      cases hscheduled : w.target.scheduled with
      | false => exact Matches.ok h
      | true =>
        cases hinfo : w.target.info with
        | none => exact Matches.ok h
        | some watcher =>
          simp only [Option.isSome_some, Bool.and_self, if_true, reachabilityCallback, Watch.tell,
            ← h.watchers]
          cases hi : s.watchers.get? watcher with
          | none =>
            rw [Heap.modify_dead hi]
            exact Matches.fault
          | some told =>
            rw [Heap.modify_some hi]
            exact Matches.ok ⟨h.size, h.cell, h.reachability, h.made, rfl⟩
    · have hnot : ¬ (w.current && target + 1 == w.made && w.target.scheduled) = true := by
        simp only [Bool.and_eq_true, beq_iff_eq]
        exact fun ⟨hw, _⟩ => hnamed hw
      rw [if_neg hnamed, if_neg hnot]
      exact Matches.ok h
  · have hnot : ¬ (w.current && target + 1 == w.made && w.target.scheduled) = true := by
      simp only [Bool.and_eq_true, beq_iff_eq]
      omega
    rw [Heap.get?_beyond (h.size.trans_le hge), if_neg hnot]
    exact Matches.ok h

theorem dealloc_matches (h : Describes s w) (watcher : Nat) :
    Matches Describes (step s (.dealloc watcher)) (follow w (.dealloc watcher)) := by
  rw [step, follow, ← h.watchers]
  cases hi : s.watchers.get? watcher with
  | none =>
    rw [Heap.free, hi]
    exact Matches.fault
  | some told =>
    rw [Heap.free_some hi]
    exact Matches.ok ⟨h.size, h.cell, h.reachability, h.made, rfl⟩

theorem step_matches (s : State) (w : Watch) (op : Op) (h : Describes s w) :
    Matches Describes (step s op) (follow w op) := by
  cases op with
  | networkAvailable a => exact networkAvailable_matches h a
  | scheduleReachabilityWatcher watcher a => exact schedule_matches h watcher a
  | unscheduleReachabilityWatcher => exact unschedule_matches h
  | flagsChanged target => exact flagsChanged_matches h target
  | newWatcher =>
    exact ⟨h.size, h.cell, h.reachability, h.made, by rw [h.watchers]⟩
  | dealloc watcher => exact dealloc_matches h watcher

end Steps

/-! ## Runs -/

/-- A run faults exactly where the automaton stops, and else leads to what its
state describes. -/
theorem watch_run_matches (ops : List Op) :
    Matches Describes (ops.foldlM step State.zero) (ops.foldlM follow Watch.zero) :=
  matches_run step_matches zero_describes ops

/-- **When watching goes wrong**: a run of queries, schedulings and reports uses a
watcher or a reference that is no more exactly where the automaton stops. -/
theorem watch_faults_iff (ops : List Op) :
    (∃ e, ops.foldlM step State.zero = .error e) ↔ ops.foldlM follow Watch.zero = none :=
  (watch_run_matches ops).fault_iff

/-! ### What is left behind -/

theorem Watch.ping_made {w w' : Watch} {created : Bool} (h : w.ping created = some w') :
    w'.made + w.current.toNat = w.made + 1 ∧ w'.current = true := by
  rw [Watch.ping] at h
  cases hcurrent : w.current with
  | true =>
    rw [hcurrent, if_pos rfl] at h
    obtain rfl := Option.some.inj h
    exact ⟨rfl, hcurrent⟩
  | false =>
    rw [hcurrent, if_neg Bool.false_ne_true] at h
    split at h
    · obtain rfl := Option.some.inj h
      exact ⟨rfl, rfl⟩
    · cases h

theorem Watch.schedule_made (w : Watch) (watcher : Nat) (a : ScheduleAnswers) :
    (w.schedule watcher a).made = w.made ∧ (w.schedule watcher a).current = w.current := by
  rw [Watch.schedule]
  split
  · exact ⟨rfl, rfl⟩
  · split <;> exact ⟨rfl, rfl⟩

/-- A reference is made only when none is current, and given up only by
`unscheduleReachabilityWatcher`. -/
theorem follow_made {w w' : Watch} {op : Op} (h : follow w op = some w') :
    w'.made + w.current.toNat =
      w.made + w'.current.toNat + if op = .unscheduleReachabilityWatcher then 1 else 0 := by
  cases op with
  | networkAvailable a =>
    obtain ⟨hmade, hcurrent⟩ := Watch.ping_made h
    simp [hcurrent, hmade]
  | scheduleReachabilityWatcher watcher a =>
    cases watcher with
    | none =>
      obtain rfl := Option.some.inj h
      simp
    | some i =>
      rw [follow] at h
      split at h
      · cases h
      · split at h
        · obtain rfl := Option.some.inj h
          simp
        · obtain ⟨w₁, hping, rfl⟩ := Option.map_eq_some_iff.mp h
          obtain ⟨hmade, hcurrent⟩ := Watch.ping_made hping
          obtain ⟨hsame, hstill⟩ := w₁.schedule_made i a
          simp [hsame, hstill, hcurrent, hmade]
  | unscheduleReachabilityWatcher =>
    rw [follow] at h
    split at h
    case isTrue hcurrent =>
      obtain rfl := Option.some.inj h
      simp [hcurrent]
    case isFalse => cases h
  | flagsChanged target =>
    rw [follow] at h
    split at h
    · split at h
      · rw [Watch.tell] at h
        split at h
        · obtain rfl := Option.some.inj h
          simp
        · cases h
      · obtain rfl := Option.some.inj h
        simp
    · obtain rfl := Option.some.inj h
      simp
  | newWatcher =>
    obtain rfl := Option.some.inj h
    simp
  | dealloc watcher =>
    rw [follow] at h
    split at h
    · obtain rfl := Option.some.inj h
      simp
    · cases h

theorem followRun_made {w w' : Watch} {ops : List Op} (h : ops.foldlM follow w = some w') :
    w'.made + w.current.toNat =
      w.made + w'.current.toNat + ops.count .unscheduleReachabilityWatcher := by
  induction ops generalizing w with
  | nil =>
    obtain rfl := Option.some.inj h
    rfl
  | cons op ops ih =>
    rw [List.foldlM_cons] at h
    obtain ⟨w₁, hstep, hrun⟩ := Option.bind_eq_some_iff.mp h
    have hfirst := follow_made hstep
    have hrest := ih hrun
    rw [List.count_cons]
    simp only [beq_iff_eq]
    omega

theorem Describes.live {s : State} {w : Watch} (h : Describes s w) : s.targets.live = w.made := by
  rw [← h.size]
  refine Heap.live_eq_size fun k hk => ?_
  rw [h.cell k (h.size ▸ hk)]
  rfl

/-- **Every unscheduling leaves a reference behind.** After a run without a fault
the references still alive are the current one, if there is one, and one for each
call of `unscheduleReachabilityWatcher`. -/
theorem references_left {ops : List Op} {s : State} (h : ops.foldlM step State.zero = .ok s) :
    s.targets.live = ops.count .unscheduleReachabilityWatcher + s.reachability.isSome.toNat ∧
      ∀ k < s.targets.size, s.reachability ≠ some k →
        s.targets.get? k = some ⟨1, Target.idle⟩ := by
  have hmatches := watch_run_matches ops
  rw [h] at hmatches
  obtain ⟨w, hw, hdescribes⟩ := hmatches.related
  have hmade := followRun_made hw
  constructor
  · rw [hdescribes.live, hdescribes.reachability]
    cases hcurrent : w.current <;> simp [Watch.zero, hcurrent] at hmade ⊢ <;> omega
  · intro k hk hother
    rw [hdescribes.size] at hk
    rw [hdescribes.cell k hk, Watch.cell, if_neg]
    rintro ⟨hcurrent, hlast⟩
    rw [hdescribes.reachability, if_pos hcurrent] at hother
    exact hother (congrArg some (by omega))

/-- A watcher is scheduled, told once, and unscheduled. -/
def watchedOnce : List Op :=
  [.newWatcher,
    .scheduleReachabilityWatcher (some 0) ⟨true, ⟨true, some kSCNetworkFlagsReachable⟩, true, true⟩,
    .flagsChanged 0, .unscheduleReachabilityWatcher]

def unwatched : State where
  connectionFlags := kSCNetworkFlagsReachable
  reachability := none
  targets := ⟨[some ⟨1, Target.idle⟩]⟩
  watchers := ⟨[some 1]⟩

theorem references_left_watchedOnce :
    unwatched.targets.live =
        watchedOnce.count .unscheduleReachabilityWatcher + unwatched.reachability.isSome.toNat ∧
      ∀ k < unwatched.targets.size, unwatched.reachability ≠ some k →
        unwatched.targets.get? k = some ⟨1, Target.idle⟩ :=
  references_left (by decide)

/-! ### The flags -/

/-- The call of `Reachability` that an operation makes; a watcher that is `nil`
conforms to nothing. -/
def Op.call : Op → Option Call
  | .networkAvailable a => some (.networkAvailable a.getFlags)
  | .scheduleReachabilityWatcher watcher a =>
    some (.scheduleReachabilityWatcher (watcher.isSome && a.conforms) a.ping.getFlags a.setCallback
      a.scheduled)
  | _ => none

theorem ping_flags {s s' : State} {a : PingAnswers} (h : pingReachabilityInternal s a = .ok s') :
    s'.connectionFlags = a.getFlags.getD s.connectionFlags := by
  obtain ⟨s₁, hcreate, h⟩ := bind_ok h
  obtain ⟨c, -, h⟩ := bind_ok h
  have hflags : s₁.connectionFlags = s.connectionFlags := by
    rw [createReachability] at hcreate
    split at hcreate
    · obtain ⟨targets, -, hcreate⟩ := bind_ok hcreate
      exact Except.ok.inj hcreate ▸ rfl
    · exact Except.ok.inj hcreate ▸ rfl
  cases hanswer : a.getFlags with
  | none =>
    rw [hanswer] at h
    exact Except.ok.inj h ▸ hflags
  | some flags =>
    rw [hanswer] at h
    exact Except.ok.inj h ▸ rfl

theorem conformsToProtocol_ok {s : State} {watcher : Pointer} {answer conforms : Bool}
    (h : conformsToProtocol s watcher answer = .ok conforms) :
    conforms = (watcher.isSome && answer) := by
  cases watcher with
  | none => exact (Except.ok.inj h).symm
  | some i =>
    obtain ⟨told, -, h⟩ := bind_ok h
    exact (Except.ok.inj h).symm

theorem schedule_flags {s s' : State} {watcher : Pointer} {a : ScheduleAnswers} {answer : Bool}
    (h : scheduleReachabilityWatcher s watcher a = .ok (s', answer)) :
    s'.connectionFlags =
      if watcher.isSome && a.conforms then a.ping.getFlags.getD s.connectionFlags
      else s.connectionFlags := by
  obtain ⟨conforms, hconforms, h⟩ := bind_ok h
  rw [← conformsToProtocol_ok hconforms]
  cases conforms with
  | false =>
    obtain ⟨rfl, -⟩ := Prod.mk.inj (Except.ok.inj h)
    rfl
  | true =>
    obtain ⟨s₁, hping, h⟩ := bind_ok h
    rw [if_pos rfl, ← ping_flags hping]
    split at h
    · obtain ⟨targets, -, h⟩ := bind_ok h
      split at h
      · obtain ⟨targets', -, h⟩ := bind_ok h
        obtain ⟨rfl, -⟩ := Prod.mk.inj (Except.ok.inj h)
        rfl
      · obtain ⟨targets', -, h⟩ := bind_ok h
        obtain ⟨rfl, -⟩ := Prod.mk.inj (Except.ok.inj h)
        rfl
    · obtain ⟨rfl, -⟩ := Prod.mk.inj (Except.ok.inj h)
      rfl

/-- Of all that happens only the calls of `Reachability` touch the flags. -/
theorem step_flags {s s' : State} {op : Op} (h : step s op = .ok s') :
    s'.connectionFlags = match op.call with
      | some call => call.refresh s.connectionFlags
      | none => s.connectionFlags := by
  cases op with
  | networkAvailable a =>
    obtain ⟨⟨s₁, available⟩, hcall, h⟩ := bind_ok h
    obtain ⟨s₂, hping, hcall⟩ := bind_ok hcall
    obtain ⟨rfl, -⟩ := Prod.mk.inj (Except.ok.inj hcall)
    obtain rfl := Except.ok.inj h
    exact ping_flags hping
  | scheduleReachabilityWatcher watcher a =>
    obtain ⟨⟨s₁, answer⟩, hcall, h⟩ := bind_ok h
    obtain rfl := Except.ok.inj h
    exact schedule_flags hcall
  | unscheduleReachabilityWatcher =>
    obtain ⟨targets, -, h⟩ := bind_ok h
    obtain ⟨targets', -, h⟩ := bind_ok h
    exact Except.ok.inj h ▸ rfl
  | flagsChanged target =>
    rw [step, flagsChanged] at h
    split at h
    · exact Except.ok.inj h ▸ rfl
    · split at h
      · obtain ⟨watchers, -, h⟩ := bind_ok h
        exact Except.ok.inj h ▸ rfl
      · exact Except.ok.inj h ▸ rfl
  | newWatcher => exact Except.ok.inj h ▸ rfl
  | dealloc watcher =>
    obtain ⟨watchers, -, h⟩ := bind_ok h
    exact Except.ok.inj h ▸ rfl

theorem run_flags {ops : List Op} {s s' : State} (h : ops.foldlM step s = .ok s') :
    s'.connectionFlags = (ops.filterMap Op.call).foldl Call.refresh s.connectionFlags := by
  induction ops generalizing s with
  | nil => exact Except.ok.inj h ▸ rfl
  | cons op ops ih =>
    rw [List.foldlM_cons] at h
    obtain ⟨s₁, hstep, hrun⟩ := bind_ok h
    rw [ih hrun, step_flags hstep]
    cases hcall : op.call with
    | none => rw [List.filterMap_cons_none hcall]
    | some call => rw [List.filterMap_cons_some hcall, List.foldl_cons]

/-- **What a verdict is made of after any run**: the flags the query retrieves, or,
when that fails, the last that a query or a scheduling retrieved, for a scheduling
asks for the flags too. Reports, unschedulings and watchers that go do not matter. -/
theorem verdict_of_run {ops : List Op} {s s' : State} {a : PingAnswers} {verdict : Bool}
    (h : ops.foldlM step State.zero = .ok s) (hquery : networkAvailable s a = .ok (s', verdict)) :
    verdict = saysAvailable (a.getFlags.getD (lastRetrieved (ops.filterMap Op.call))) := by
  obtain ⟨s₁, hping, hquery⟩ := bind_ok hquery
  obtain ⟨rfl, rfl⟩ := Prod.mk.inj (Except.ok.inj hquery)
  rw [ping_flags hping, run_flags h]
  rfl

/-- A new reference is made, and the flags are not retrieved. -/
def queriedAgain : State :=
  { unwatched with
    reachability := some 1
    targets := ⟨[some ⟨1, Target.idle⟩, some ⟨2, Target.idle⟩]⟩ }

theorem verdict_of_run_watchedOnce :
    true = saysAvailable ((none : GetFlags).getD (lastRetrieved (watchedOnce.filterMap Op.call))) :=
  verdict_of_run (by decide : watchedOnce.foldlM step State.zero = .ok unwatched)
    (by decide : networkAvailable unwatched ⟨true, none⟩ = .ok (queriedAgain, true))

end ATV2Utils.ReachabilityWatcher
