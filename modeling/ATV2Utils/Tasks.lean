import ATV2Utils.Foundation
import ATV2Utils.Lib.Handler

/-! # Asking the system

Commands, reboots and tasks. An `NSTask` is launched once: whatever is done to it
afterwards raises. -/
namespace ATV2Utils.Tasks
open ATV2Utils.Foundation ATV2Utils.Lib.Handler

inductive Action where
  | system (command : String)
  | reboot (howto : Nat)
  | execlp (file : String)
  | spawn (launchPath : String) (arguments : List String)
  | writeToFile (path contents : String)
deriving DecidableEq, Repr

/-- A handler of a menu. -/
abbrev Act := Traced Action NSException

structure NSTask where
  launchPath : Option String
  arguments : List String
  launched : Bool
deriving Repr

def NSTask.new : NSTask := ⟨none, [], false⟩

def NSTask.setLaunchPath (task : NSTask) (launchPath : String) : Act NSTask :=
  if task.launched then raise .invalidArgumentException
  else return { task with launchPath := some launchPath }

def NSTask.setArguments (task : NSTask) (arguments : List String) : Act NSTask :=
  if task.launched then raise .invalidArgumentException
  else return { task with arguments := arguments }

/-- `launch`; whether a path can be launched is the file system's answer. -/
def NSTask.launch (task : NSTask) (canLaunch : String → Bool) : Act NSTask :=
  if task.launched then raise .invalidArgumentException
  else
    match task.launchPath with
    | none => raise .invalidArgumentException
    | some launchPath =>
      if canLaunch launchPath then do
        ask (.spawn launchPath task.arguments)
        return { task with launched := true }
      else raise .invalidArgumentException

def launchedTaskWithLaunchPath (canLaunch : String → Bool) (launchPath : String)
    (arguments : List String) : Act NSTask :=
  NSTask.launch ⟨some launchPath, arguments, false⟩ canLaunch

/-- A new task is set up and launched. -/
def launchNewTask (canLaunch : String → Bool) (launchPath : String) (arguments : List String) :
    Act Unit := do
  let task ← NSTask.new.setLaunchPath launchPath
  let task ← task.setArguments arguments
  let _ ← task.launch canLaunch

/-- What a launch asks for, and whether it raises. -/
theorem launch_eq (canLaunch : String → Bool) (launchPath : String) (arguments : List String) :
    NSTask.launch ⟨some launchPath, arguments, false⟩ canLaunch =
      if canLaunch launchPath then
        ⟨[.spawn launchPath arguments], .ok ⟨some launchPath, arguments, true⟩⟩
      else raise .invalidArgumentException := by
  simp only [NSTask.launch, Bool.false_eq_true, if_false]
  rfl

theorem launchNewTask_eq (canLaunch : String → Bool) (launchPath : String)
    (arguments : List String) :
    launchNewTask canLaunch launchPath arguments =
      if canLaunch launchPath then ⟨[.spawn launchPath arguments], .ok ()⟩
      else raise .invalidArgumentException := by
  have hset : launchNewTask canLaunch launchPath arguments =
      NSTask.launch ⟨some launchPath, arguments, false⟩ canLaunch >>= fun _ => pure () := rfl
  rw [hset, launch_eq]
  split <;> rfl

theorem launchNewTask_asks {canLaunch : String → Bool} {launchPath : String}
    {arguments : List String} {action : Action}
    (h : action ∈ (launchNewTask canLaunch launchPath arguments).asked) :
    action = .spawn launchPath arguments := by
  rw [launchNewTask_eq] at h
  split at h
  · exact List.mem_singleton.mp h
  · cases h

end ATV2Utils.Tasks
