import ATV2Utils.Appliance

/-! # Sessions with the remote control

Menus are opened from the list of categories, rows are selected, and the menu
button goes back. A handler that raises ends the application, and so may whatever
it asks of the system; it then starts again with an empty stack and with flags
that were never retrieved. -/
namespace ATV2Utils.MenuSession
open ATV2Utils.Foundation ATV2Utils.MenuList ATV2Utils.Environment ATV2Utils.Reachability
open ATV2Utils.Appliance ATV2Utils.Tasks ATV2Utils.Lib.Handler ATV2Utils.Lib.Machine

/-! ## The stack -/

/-- A controller on the stack. -/
inductive Screen where
  | alert
  | software (menu : Menu SoftwareMainMenu.Datum)
  | hardware (menu : Menu HardwareMainMenu.Datum)
  | network (menu : Menu NetworkMainMenu.Datum)
  | memory (menu : Menu MemoryMainMenu.Datum)
  | power (menu : Menu String)
  | log (menu : Menu LogMainMenu.Datum)

/-- The category whose menu it is. -/
def Screen.identifier : Screen → String
  | .alert => HW_ID
  | .software _ => SOFTWARE_ID
  | .hardware _ => HARDWARE_ID
  | .network _ => NETWORK_ID
  | .memory _ => MEMORY_ID
  | .power _ => POWER_ID
  | .log _ => LOG_ID

/-- What `init` made of a controller; nil is not pushed. -/
def screenOf : Controller → Except Crash (Option Screen)
  | .alert _ _ _ => .ok (some .alert)
  | .software (.ok menu) => .ok (menu.map .software)
  | .software (.error crash) => .error crash
  | .hardware (.ok menu) => .ok (some (.hardware menu))
  | .hardware (.error f) => .error (.fault f)
  | .network menu => .ok (some (.network menu))
  | .memory (.ok (menu, _)) => .ok (some (.memory menu))
  | .memory (.error e) => .error (.exception e)
  | .power menu => .ok (some (.power menu))
  | .log menu => .ok (some (.log menu))

/-- Nothing catches what a handler raises. -/
def uncaught {α : Type} (handler : Act α) : Traced Action Crash α :=
  handler.mapError Crash.exception

/-- `itemSelected:` of the controller on top, with what it pushes. -/
def itemSelected (g : Globals) (a : Answers) (canLaunch : String → Bool) (selected : Long) :
    Screen → Traced Action Crash (Globals × Option Screen)
  | .alert => return (g, none)
  | .software menu => do
    match ← uncaught (silently (SoftwareMainMenu.itemSelected menu.names selected)) with
    | some (.system command) => do
      ask (.system command)
      return (g, none)
    | some (.execlp file) => do
      ask (.execlp file)
      return (g, none)
    -- the controller is made and given up again; its `init` asks `networkAvailable`
    | some .newHardwareMainMenu => do
      let _menu ← silently ((HardwareMainMenu.init (a.refreshed g)).mapError Crash.fault)
      return ((networkAvailable g a.getFlags).1, none)
    | none => return (g, none)
  | .hardware menu => do
    match ← uncaught (silently (HardwareMainMenu.itemSelected menu.names selected)) with
    | some command => do
      ask (.system command)
      return (g, none)
    | none => return (g, none)
  | .network menu => do
    uncaught (silently (NetworkMainMenu.itemSelected menu.names selected))
    return (g, none)
  | .memory menu => do
    match ← uncaught (silently (MemoryMainMenu.itemSelected menu.names selected)) with
    | some .logMainMenu => return (g, some (.log (LogMainMenu.init a.attributes)))
    | none => return (g, none)
  | .power _ => do
    uncaught (PowerMainMenu.itemSelected canLaunch selected)
    return (g, none)
  | .log menu => do
    uncaught (LogMainMenu.itemSelected canLaunch menu.names selected)
    return (g, none)

/-! ## Sessions -/

/-- The globals, the stack with the top first, and what the system was asked for
since the beginning, each action with the menu that asked. -/
structure Session where
  globals : Globals
  stack : List Screen
  asked : List (String × Action)

def Session.zero : Session := ⟨Globals.zero, [], []⟩

/-- The application ends and starts again. -/
def Session.restart (s : Session) : Session := ⟨Globals.zero, [], s.asked⟩

inductive RemoteAction where
  | menu | ok | up | down | left | right | playPause
deriving DecidableEq, Repr

inductive Event where
  | openCategory (identifier : String) (answers : Answers)
  | itemSelected (selected : Long) (answers : Answers) (canLaunch : String → Bool)
  | brEventAction (action : RemoteAction)
  | call (c : Call)
  | restart

/-- The list of categories is reached only with an empty stack. -/
def step (s : Session) : Event → Session × Option Crash
  | .openCategory identifier a =>
    if s.stack.isEmpty then
      let (g, controller) := controllerForIdentifier s.globals a identifier
      match controller.map screenOf with
      | none => (⟨g, [], s.asked⟩, none)
      | some (.ok pushed) => (⟨g, pushed.toList, s.asked⟩, none)
      | some (.error crash) => (s.restart, some crash)
    else (s, none)
  | .itemSelected selected a canLaunch =>
    match s.stack with
    | [] => (s, none)
    | top :: rest =>
      let handled := itemSelected s.globals a canLaunch selected top
      let s := { s with asked := s.asked ++ handled.asked.map (Prod.mk top.identifier) }
      match handled.result with
      | .ok (g, pushed) => ({ s with globals := g, stack := pushed.toList ++ top :: rest }, none)
      | .error crash => (s.restart, some crash)
  | .brEventAction action =>
    if action = .menu then ({ s with stack := s.stack.tail }, none) else (s, none)
  | .call c => ({ s with globals := (Reachability.step s.globals c).1 }, none)
  | .restart => (s.restart, none)

/-! ## What is on the stack -/

/-- A menu is as its `init` built it. -/
def Screen.Built : Screen → Prop
  | .alert => True
  | .software menu => ∃ a, SoftwareMainMenu.init a = .ok (some menu)
  | .hardware menu => ∃ device, HardwareMainMenu.init device = .ok menu
  | .network menu => ∃ a, menu = NetworkMainMenu.init a
  | .memory menu => ∃ device log rest, MemoryMainMenu.init device log = .ok (menu, rest)
  | .power menu => menu = PowerMainMenu.init
  | .log menu => ∃ attributes, menu = LogMainMenu.init attributes

/-- No controller, that of a category, or the Log menu that a row of the Memory
menu opens. -/
inductive Shape : List Screen → Prop where
  | empty : Shape []
  | category {screen : Screen} (built : screen.Built) : Shape [screen]
  | log {memory : Menu MemoryMainMenu.Datum} {attributes : LogMainMenu.Attributes}
      (built : (Screen.memory memory).Built) :
      Shape [.log (LogMainMenu.init attributes), .memory memory]

theorem Shape.tail {stack : List Screen} (h : Shape stack) : Shape stack.tail := by
  cases h with
  | empty => exact .empty
  | category built => exact .empty
  | log built => exact .category built

theorem Shape.top {top : Screen} {rest : List Screen} (h : Shape (top :: rest)) : top.Built := by
  cases h with
  | category built => exact built
  | log built => exact ⟨_, rfl⟩

/-- A controller is what an `init` gave. -/
def Made : Controller → Prop
  | .alert _ _ _ => True
  | .software menu => ∃ a, menu = SoftwareMainMenu.init a
  | .hardware menu => ∃ device, menu = HardwareMainMenu.init device
  | .network menu => ∃ a, menu = NetworkMainMenu.init a
  | .memory menu => ∃ device log, menu = MemoryMainMenu.init device log
  | .power menu => menu = PowerMainMenu.init
  | .log menu => ∃ attributes, menu = LogMainMenu.init attributes

theorem controllerForIdentifier_made {g : Globals} {a : Answers} {identifier : String}
    {controller : Controller} (h : (controllerForIdentifier g a identifier).2 = some controller) :
    Made controller := by
  unfold controllerForIdentifier at h
  split_ifs at h <;> cases h
  · trivial
  · exact ⟨_, rfl⟩
  · exact ⟨_, rfl⟩
  · exact ⟨_, rfl⟩
  · exact ⟨_, _, rfl⟩
  · exact rfl
  · exact ⟨_, rfl⟩

theorem screenOf_built {controller : Controller} {screen : Screen} (h : Made controller)
    (hs : screenOf controller = .ok (some screen)) : screen.Built := by
  cases controller with
  | alert titled primaryText secondaryText =>
    cases hs
    trivial
  | software menu =>
    obtain ⟨a, rfl⟩ := h
    cases hinit : SoftwareMainMenu.init a with
    | error e => rw [hinit] at hs; cases hs
    | ok menu =>
      rw [hinit] at hs
      obtain ⟨menu', rfl, rfl⟩ := Option.map_eq_some_iff.mp (Except.ok.inj hs)
      exact ⟨a, hinit⟩
  | hardware menu =>
    obtain ⟨device, rfl⟩ := h
    cases hinit : HardwareMainMenu.init device with
    | error f => rw [hinit] at hs; cases hs
    | ok menu =>
      rw [hinit] at hs
      cases hs
      exact ⟨device, hinit⟩
  | network menu =>
    cases hs
    exact h
  | memory menu =>
    obtain ⟨device, log, rfl⟩ := h
    cases hinit : MemoryMainMenu.init device log with
    | error e => rw [hinit] at hs; cases hs
    | ok built =>
      rw [hinit] at hs
      cases hs
      exact ⟨device, log, built.2, hinit⟩
  | power menu =>
    cases hs
    exact h
  | log menu =>
    cases hs
    exact h

/-- Only the Memory menu opens another, and that is the Log menu. -/
theorem itemSelected_pushes {g g' : Globals} {a : Answers} {canLaunch : String → Bool}
    {selected : Long} {top screen : Screen}
    (h : (itemSelected g a canLaunch selected top).result = .ok (g', some screen)) :
    ∃ memory, top = .memory memory ∧ screen = .log (LogMainMenu.init a.attributes) := by
  cases top with
  | alert => cases h
  | software menu =>
    obtain ⟨effect, -, h⟩ := result_bind_ok h
    cases effect with
    | none => cases h
    | some effect =>
      cases effect with
      | system command => cases h
      | execlp file => cases h
      | newHardwareMainMenu =>
        obtain ⟨made, -, h⟩ := result_bind_ok h
        cases h
  | hardware menu =>
    obtain ⟨command, -, h⟩ := result_bind_ok h
    cases command <;> cases h
  | network menu =>
    obtain ⟨nothing, -, h⟩ := result_bind_ok h
    cases h
  | memory menu =>
    obtain ⟨pushed, -, h⟩ := result_bind_ok h
    cases pushed with
    | none => cases h
    | some controller =>
      cases controller
      cases h
      exact ⟨menu, rfl, rfl⟩
  | power menu =>
    obtain ⟨nothing, -, h⟩ := result_bind_ok h
    cases h
  | log menu =>
    obtain ⟨nothing, -, h⟩ := result_bind_ok h
    cases h

theorem step_shape (s : Session) (e : Event) (h : Shape s.stack) : Shape (step s e).1.stack := by
  obtain ⟨g, stack, asked⟩ := s
  cases e with
  | openCategory identifier a =>
    rw [step]
    split
    case isFalse => exact h
    case isTrue =>
      cases hc : (controllerForIdentifier g a identifier).2 with
      | none =>
        simp only [hc, Option.map_none]
        exact .empty
      | some controller =>
        simp only [hc, Option.map_some]
        cases hs : screenOf controller with
        | error crash => exact .empty
        | ok pushed =>
          cases pushed with
          | none => exact .empty
          | some screen => exact .category (screenOf_built (controllerForIdentifier_made hc) hs)
  | itemSelected selected a canLaunch =>
    cases stack with
    | nil => exact h
    | cons top rest =>
      simp only [step]
      cases hr : (itemSelected g a canLaunch selected top).result with
      | error e => exact .empty
      | ok handled =>
        obtain ⟨g', pushed⟩ := handled
        cases pushed with
        | none => exact h
        | some screen =>
          obtain ⟨memory, rfl, rfl⟩ := itemSelected_pushes hr
          cases h with
          | category built => exact .log built
  | brEventAction action =>
    rw [step]
    split
    · exact h.tail
    · exact h
  | call c => exact h
  | restart => exact .empty

def softwareActions : List Action :=
  [.system "sleep 6s", .execlp "ifconfig >>imho.txt", .system "halt", .system "echo Poweroff",
   .system "echo purge", .system "echo reboot"]

def hardwareActions : List Action := [.system "echo reboot"]

def powerActions : List Action :=
  [.system "killall -9 AppleTV", .system "killall  -9 AppleTV", .system "halt", .system "sbreload",
   .system "echo reboot", .reboot 0, .reboot 1,
   .spawn "/bin" ["mkdir it_works1"], .spawn "/bin/bash" ["mkdir it_works2"],
   .spawn "/usr/sbin" ["mkdir it_works3"], .spawn "/bin/bash" ["touch hoi"],
   .spawn "/bin/bash" ["-c", "mkdir", "it_worksx"]]

def logActions : List Action :=
  [.spawn "/usr/bin/openssl" ["yourScript.sh"],
   .writeToFile "/private/var/root/sample1.txt" "Sample text",
   .spawn "/usr/sbin/chown" ["-R", "root:staff", "/var/log/test.mho"],
   .spawn "/bin/chmod" ["-R", "+x", "/var/log/test.mho"]]

/-- What the menu of a category can ask for. -/
def possible (identifier : String) : List Action :=
  if identifier = SOFTWARE_ID then softwareActions
  else if identifier = HARDWARE_ID then hardwareActions
  else if identifier = POWER_ID then powerActions
  else if identifier = LOG_ID then logActions
  else []

theorem toInt_eq_toNat {selected : Long} {n : Nat} (h : selected.toNat < n) (hn : n ≤ 2 ^ 31) :
    selected.toInt = selected.toNat := by
  refine BitVec.toInt_eq_toNat_of_lt ?_
  omega

/-- What a branch of the Software menu asks for. -/
def effectActions : Option SoftwareMainMenu.Effect → List Action
  | some (.system command) => [.system command]
  | some (.execlp file) => [.execlp file]
  | _ => []

theorem effectActions_subset (k : Fin 8) :
    ∀ action ∈ effectActions (SoftwareMainMenu.effectOf k), action ∈ softwareActions := by
  revert k
  decide

theorem software_asks {menu : Menu SoftwareMainMenu.Datum} (h : (Screen.software menu).Built)
    (g : Globals) (a : Answers) (canLaunch : String → Bool) (selected : Long) :
    ∀ action ∈ (itemSelected g a canLaunch selected (.software menu)).asked,
      action ∈ softwareActions := by
  obtain ⟨answers, hinit⟩ := h
  obtain ⟨info, machine, rfl⟩ := SoftwareMainMenu.init_rows hinit
  intro action haction
  rw [itemSelected, mem_asked_bind] at haction
  rcases haction with hnone | ⟨effect, hresult, haction⟩
  · cases hnone
  · obtain ⟨hlt, rfl⟩ := SoftwareMainMenu.itemSelected_ok (except_mapError_ok_iff.mp hresult)
    have height : selected.toNat < 8 := hlt
    have hrow := effectActions_subset ⟨selected.toNat, height⟩ action
    rw [Fin.val_mk, ← toInt_eq_toNat height (by norm_num)] at hrow
    refine hrow ?_
    cases heffect : SoftwareMainMenu.effectOf selected.toInt with
    | none =>
      rw [heffect] at haction
      cases haction
    | some effect =>
      rw [heffect] at haction
      cases effect with
      | system command => exact haction
      | execlp file => exact haction
      | newHardwareMainMenu =>
        -- a second `init` of the Hardware menu asks for nothing
        rw [asked_bind_pure] at haction
        cases haction

theorem hardware_asks (menu : Menu HardwareMainMenu.Datum) (g : Globals) (a : Answers)
    (canLaunch : String → Bool) (selected : Long) :
    ∀ action ∈ (itemSelected g a canLaunch selected (.hardware menu)).asked,
      action ∈ hardwareActions := by
  intro action haction
  rw [itemSelected, mem_asked_bind] at haction
  rcases haction with hnone | ⟨command, hresult, haction⟩
  · cases hnone
  · cases command with
    | none => cases haction
    | some command =>
      obtain rfl := HardwareMainMenu.itemSelected_ok (except_mapError_ok_iff.mp hresult)
      exact haction

theorem launchTwice_asks {canLaunch : String → Bool} {launchPath argument : String} {action : Action}
    (h : action ∈ (PowerMainMenu.launchTwice canLaunch launchPath argument).asked) :
    action = .spawn launchPath [argument] := by
  rw [PowerMainMenu.launchTwice_eq] at h
  dsimp only at h
  split at h
  · exact List.mem_singleton.mp h
  · cases h

theorem runForOutput_asks {canLaunch : String → Bool} {command : String} {action : Action}
    (h : action ∈ (PowerMainMenu.runForOutput canLaunch command).asked) :
    action = .spawn "/bin/bash" ["-c", "mkdir", "it_worksx"] :=
  launchNewTask_asks h

theorem power_asks (canLaunch : String → Bool) (selected : Long) :
    ∀ action ∈ (PowerMainMenu.itemSelected canLaunch selected).asked, action ∈ powerActions := by
  intro action haction
  rw [PowerMainMenu.itemSelected] at haction
  -- each row asks for one thing, launches a task that is then launched again, runs
  -- the one command of `runForOutput:`, or asks for nothing
  split at haction <;>
    first
      | (rw [runForOutput_asks haction]; decide)
      | (rw [launchTwice_asks haction]; decide)
      | (rw [List.mem_singleton.mp haction]; decide)
      | cases haction

theorem log_asks (attributes : LogMainMenu.Attributes) (canLaunch : String → Bool)
    (selected : Long) :
    ∀ action ∈ (LogMainMenu.itemSelected canLaunch (LogMainMenu.init attributes).names
      selected).asked, action ∈ logActions := by
  intro action haction
  have hlen : (LogMainMenu.init attributes).names.length = 4 := rfl
  rw [LogMainMenu.itemSelected] at haction
  rcases Nat.lt_or_ge selected.toNat (LogMainMenu.init attributes).names.length with hlt | hge
  · rw [objectAtIndex_lt hlt, silently_ok_bind] at haction
    have hrow := toInt_eq_toNat (hlen ▸ hlt) (by norm_num)
    split at haction
    · rw [launchNewTask_asks haction]
      decide
    · rw [List.mem_singleton.mp haction]
      decide
    · rw [launchNewTask_asks haction]
      decide
    · rw [launchNewTask_asks haction]
      decide
    -- the branches of rows 4 and 5 are behind the end of the list
    · omega
    · omega
    · cases haction
  · rw [objectAtIndex_ge hge, silently_error_bind] at haction
    cases haction

/-- A built menu asks only for what is in its list. -/
theorem itemSelected_asks {top : Screen} (h : top.Built) (g : Globals) (a : Answers)
    (canLaunch : String → Bool) (selected : Long) :
    ∀ action ∈ (itemSelected g a canLaunch selected top).asked,
      action ∈ possible top.identifier := by
  intro action haction
  cases top with
  | alert => cases haction
  | software menu => exact software_asks h g a canLaunch selected action haction
  | hardware menu => exact hardware_asks menu g a canLaunch selected action haction
  | network menu =>
    rw [itemSelected, asked_bind_pure] at haction
    cases haction
  | memory menu =>
    rw [itemSelected, mem_asked_bind] at haction
    rcases haction with hnone | ⟨pushed, -, hnone⟩
    · cases hnone
    · cases pushed <;> cases hnone
  | power menu =>
    rw [itemSelected, asked_bind_pure] at haction
    exact power_asks canLaunch selected action haction
  | log menu =>
    obtain ⟨attributes, rfl⟩ := h
    rw [itemSelected, asked_bind_pure] at haction
    exact log_asks attributes canLaunch selected action haction

/-- Everything asked so far is in the list of the menu that asked. -/
def AskedPossible (asked : List (String × Action)) : Prop :=
  ∀ entry ∈ asked, entry.2 ∈ possible entry.1

theorem AskedPossible.append {asked : List (String × Action)} {identifier : String}
    {actions : List Action} (h : AskedPossible asked)
    (hnew : ∀ action ∈ actions, action ∈ possible identifier) :
    AskedPossible (asked ++ actions.map (Prod.mk identifier)) := by
  intro entry hentry
  rcases List.mem_append.mp hentry with hold | hmem
  · exact h entry hold
  · obtain ⟨action, haction, rfl⟩ := List.mem_map.mp hmem
    exact hnew action haction

theorem step_asked (s : Session) (e : Event) (h : Shape s.stack ∧ AskedPossible s.asked) :
    Shape (step s e).1.stack ∧ AskedPossible (step s e).1.asked := by
  refine ⟨step_shape s e h.1, ?_⟩
  obtain ⟨g, stack, asked⟩ := s
  obtain ⟨hshape, hasked⟩ := h
  cases e with
  | openCategory identifier a =>
    rw [step]
    split
    case isFalse => exact hasked
    case isTrue =>
      dsimp only
      split <;> exact hasked
  | itemSelected selected a canLaunch =>
    cases stack with
    | nil => exact hasked
    | cons top rest =>
      have hpossible := AskedPossible.append hasked
        (itemSelected_asks hshape.top g a canLaunch selected)
      simp only [step]
      split <;> exact hpossible
  | brEventAction action =>
    rw [step]
    split <;> exact hasked
  | call c => exact hasked
  | restart => exact hasked

/-! ### Every one of them -/

def plainAnswers : Answers where
  getFlags := none
  device := (plainDevice false).toDevice
  log := Stream'.const 0
  network := ⟨false, false, none, none, none, none, "", "", "", none, none, "", "", fun _ => none,
    none, none, none⟩
  software := ⟨none, none, some ⟨none, none⟩, some "AppleTV2,1", "iPhone OS", none, none, "1"⟩
  attributes := ⟨none, none, none, none, "syslog"⟩

/-- A category is opened, and a row of its menu is selected. -/
def openAndSelect (identifier : String) (row : Nat) : List Event :=
  [.openCategory identifier plainAnswers,
    .itemSelected (BitVec.ofNat 32 row) plainAnswers fun _ => true]

def askedBy (identifier : String) (row : Nat) : List (String × Action) :=
  (after step Session.zero (openAndSelect identifier row)).asked

theorem possible_asked {identifier : String} {action : Action} (h : action ∈ possible identifier) :
    ∃ row, (identifier, action) ∈ askedBy identifier row := by
  have hsoftware : ∀ action ∈ softwareActions,
      ∃ row : Fin 8, (SOFTWARE_ID, action) ∈ askedBy SOFTWARE_ID row := by decide
  have hhardware : ∀ action ∈ hardwareActions,
      (HARDWARE_ID, action) ∈ askedBy HARDWARE_ID 0 := by decide
  have hpower : ∀ action ∈ powerActions,
      ∃ row : Fin 24, (POWER_ID, action) ∈ askedBy POWER_ID row := by decide
  have hlog : ∀ action ∈ logActions,
      ∃ row : Fin 4, (LOG_ID, action) ∈ askedBy LOG_ID row := by decide
  unfold possible at h
  split_ifs at h with hid hid hid hid
  · subst hid
    obtain ⟨row, hrow⟩ := hsoftware action h
    exact ⟨row, hrow⟩
  · subst hid
    exact ⟨0, hhardware action h⟩
  · subst hid
    obtain ⟨row, hrow⟩ := hpower action h
    exact ⟨row, hrow⟩
  · subst hid
    obtain ⟨row, hrow⟩ := hlog action h
    exact ⟨row, hrow⟩
  · cases h

/-- **What each menu ever asks of the system.** Over all sessions exactly the
actions of its list. The Software menu never asks for `killall` nor for
"echo HALT", nor the Log menu for a `chmod` of its last two branches: those
branches stand behind the ends of their lists. -/
theorem asked_iff (identifier : String) (action : Action) :
    (∃ events, (identifier, action) ∈ (after step Session.zero events).asked) ↔
      action ∈ possible identifier := by
  constructor
  · rintro ⟨events, haction⟩
    have hzero : Shape Session.zero.stack ∧ AskedPossible Session.zero.asked := ⟨.empty, nofun⟩
    have hrun := after_invariant (P := fun s : Session => Shape s.stack ∧ AskedPossible s.asked)
      step_asked hzero events
    exact hrun.2 _ haction
  · intro h
    obtain ⟨row, hrow⟩ := possible_asked h
    exact ⟨_, hrow⟩

/-- The same `killall` belongs to the Power menu and not to the Software menu. -/
example : Action.system "killall -9 AppleTV" ∈ possible POWER_ID ∧
    Action.system "killall -9 AppleTV" ∉ possible SOFTWARE_ID := by decide

/-! ## What ends the application -/

end ATV2Utils.MenuSession
