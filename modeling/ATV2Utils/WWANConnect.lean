import ATV2Utils.Addresses
import ATV2Utils.Lib.Memory

/-! # Connections over the wireless network

`wwanconnect.c` and its two callers in `UIDevice (Reachability)`. A connection is
a malloc'd block that owns a pair of streams and is owned by a file-level
pointer. The memory they live in is explicit, since what goes wrong here is what
is released when, and what is used after. -/
namespace ATV2Utils.WWANConnect
open ATV2Utils.Interfaces ATV2Utils.Addresses ATV2Utils.Lib.Memory

/-- `ConnectClientCallBack`; the application has one. -/
inductive ConnectClientCallBack where
  | myClientCallback
deriving DecidableEq, Repr

/-- `struct MyStreamInfoStruct`. -/
structure MyStreamInfo where
  wStreamRef : Pointer
  rStreamRef : Pointer
  clientCB : Option ConnectClientCallBack
  refCon : Pointer
  error : Int
  errorOccurred : Bool
  isConnected : Bool
  isStreamInitd : Bool
  isClientSet : Bool
deriving DecidableEq, Repr

/-- What a stream knows of its client, and whether a run loop serves it. -/
structure Stream where
  client : Pointer
  scheduled : Bool
  isOpen : Bool
deriving DecidableEq, Repr

def Stream.idle : Stream := ⟨none, false, false⟩

def Stream.close (s : Stream) : Stream := { s with scheduled := false, isOpen := false }

/-- Malloc'd blocks, streams with their retain counts, and the local `value` of
each call of `forceWWAN`. -/
structure World where
  blocks : Heap MyStreamInfo
  streams : Heap (Counted Stream)
  frames : Heap Int
deriving DecidableEq, Repr

def World.empty : World := ⟨Heap.empty, Heap.empty, Heap.empty⟩

def World.modifyInfo (w : World) (p : Pointer) (f : MyStreamInfo → MyStreamInfo) :
    Except Fault World := do
  let blocks ← w.blocks.modify p f
  return { w with blocks := blocks }

def World.modifyStream (w : World) (p : Pointer) (f : Stream → Stream) : Except Fault World := do
  let streams ← send w.streams p f
  return { w with streams := streams }

/-! ## Events -/

inductive CFStreamEventType where
  | openCompleted
  | errorOccurred (error : Int)
  | endEncountered
deriving DecidableEq, Repr

/-- An event of a stream, and the interface list while it is handled. -/
structure Delivery where
  stream : Nat
  type : CFStreamEventType
  interfaces : Getifaddrs
deriving DecidableEq

def testGetIFAddrsWalk : List Ifaddrs → Bool
  | [] => false
  | ifiterator :: next =>
    if ifiterator.family = AF_INET then
      if !hasPrefix ifiterator.ifaName "lo0" then true else testGetIFAddrsWalk next
    else testGetIFAddrsWalk next

/-- `TestGetIFAddrs`: the result of `getifaddrs` is not looked at, so the list is
whatever the stack held when it fails. -/
def testGetIFAddrs : Getifaddrs → Except Fault Bool
  | none => .error .uninitialised
  | some ifbase => .ok (testGetIFAddrsWalk ifbase)

/-- `myClientCallback` prints the number its argument points to. -/
def ConnectClientCallBack.call (w : World) (refCon : Pointer) : ConnectClientCallBack → Except Fault Int
  | .myClientCallback => w.frames.load refCon

def myCFWriteStreamClientCallBack (w : World) (type : CFStreamEventType) (myInfoPtr : Pointer)
    (interfaces : Getifaddrs) : Except Fault World :=
  match type with
  | .openCompleted => do
    let w ← w.modifyInfo myInfoPtr fun b => { b with isConnected := true }
    let _ ← testGetIFAddrs interfaces
    let b ← w.blocks.load myInfoPtr
    match b.clientCB with
    | some clientCB => do
      let _ ← clientCB.call w b.refCon
      return w
    | none => return w
  | .errorOccurred error => do
    let w ← w.modifyInfo myInfoPtr fun b => { b with errorOccurred := true }
    let b ← w.blocks.load myInfoPtr
    -- `CFWriteStreamGetError`
    let _ ← w.streams.load b.wStreamRef
    w.modifyInfo myInfoPtr fun b => { b with error := error }
  | .endEncountered => return w

/-- A run loop hands the event to the stream's client, if it serves the stream. -/
def deliver (w : World) (d : Delivery) : Except Fault World :=
  match w.streams.get? d.stream with
  | none => .ok w
  | some c =>
    if c.object.scheduled then
      match c.object.client with
      | none => .ok w
      | some client => myCFWriteStreamClientCallBack w d.type (some client) d.interfaces
    else .ok w

/-! ## Starting and stopping -/

/-- What the system answers to `StartWWAN`: whether there is memory, whether the
pair of streams is made, what the two calls on it return, and the event that
stops the run loop, unless something else does. -/
structure StartAnswers where
  malloc : Bool
  createPair : Bool
  setClient : Bool
  openStream : Bool
  runLoop : Option Delivery
deriving DecidableEq

/-- The block after `memset` and the two assignments behind it. -/
def newInfo (clientCB : Option ConnectClientCallBack) (refCon : Pointer) : MyStreamInfo :=
  ⟨none, none, clientCB, refCon, 0, false, false, false, false⟩

def cleanupAfterWAAN (w : World) (myInfoPtr : Pointer) : Except Fault World := do
  let b ← w.blocks.load myInfoPtr
  if b.isClientSet then
    let w ← w.modifyStream b.wStreamRef fun s => { s with client := none }
    let w ← w.modifyStream b.wStreamRef fun s => { s with scheduled := false }
    w.modifyInfo myInfoPtr fun b => { b with isClientSet := false }
  else return w

/-- One half of `CloseStreams`: a stream that is there is closed and forgotten. -/
def closeStream (w : World) (myInfoPtr : Pointer) (ref : MyStreamInfo → Pointer)
    (forget : MyStreamInfo → MyStreamInfo) : Except Fault World := do
  let b ← w.blocks.load myInfoPtr
  if (ref b).isSome then
    let w ← w.modifyStream (ref b) Stream.close
    w.modifyInfo myInfoPtr forget
  else return w

def closeStreams (w : World) (myInfoPtr : Pointer) : Except Fault World := do
  let w ← closeStream w myInfoPtr MyStreamInfo.rStreamRef fun b => { b with rStreamRef := none }
  closeStream w myInfoPtr MyStreamInfo.wStreamRef fun b => { b with wStreamRef := none }

/-- The two streams are made, or the block's pointers stay null. -/
def createPair (w : World) (myInfoPtr : Pointer) (created : Bool) : Except Fault World :=
  if created then
    let rStreamRef := some w.streams.size
    let w := { w with streams := create w.streams Stream.idle }
    let wStreamRef := some w.streams.size
    let w := { w with streams := create w.streams Stream.idle }
    w.modifyInfo myInfoPtr fun b => { b with rStreamRef := rStreamRef, wStreamRef := wStreamRef }
  else w.modifyInfo myInfoPtr fun b => { b with rStreamRef := none, wStreamRef := none }

/-- From the flags to `CFWriteStreamSetClient`; the result is `errorOccurred`. -/
def setClient (w : World) (myInfoPtr : Pointer) (answer : Bool) : Except Fault (World × Bool) := do
  let w ← w.modifyInfo myInfoPtr fun b =>
    { b with isConnected := false, isStreamInitd := true, isClientSet := false }
  let b ← w.blocks.load myInfoPtr
  -- `CFWriteStreamSetProperty`
  let _ ← w.streams.load b.wStreamRef
  if !answer then return (w, true)
  else
    let w ← w.modifyStream b.wStreamRef fun s => { s with client := myInfoPtr }
    let w ← w.modifyInfo myInfoPtr fun b => { b with isClientSet := true }
    return (w, false)

/-- The stream is scheduled and opened; the result is `errorOccurred`. -/
def openStream (w : World) (myInfoPtr : Pointer) (answer : Bool) : Except Fault (World × Bool) := do
  let b ← w.blocks.load myInfoPtr
  let w ← w.modifyStream b.wStreamRef fun s => { s with scheduled := true }
  if !answer then return (w, true)
  else
    let w ← w.modifyStream b.wStreamRef fun s => { s with isOpen := true }
    return (w, false)

/-- `CFRunLoopRun`, up to the event whose callback stops it. -/
def cfRunLoopRun (w : World) : Option Delivery → Except Fault World
  | some d => deliver w d
  | none => .ok w

/-- The run loop runs; the result is `errorOccurred`. -/
def runLoop (w : World) (myInfoPtr : Pointer) (event : Option Delivery) :
    Except Fault (World × Bool) := do
  let w ← cfRunLoopRun w event
  let b ← w.blocks.load myInfoPtr
  return (w, b.errorOccurred)

/-- The branch at the end of `StartWWAN` for an error. -/
def giveUp (w : World) (myInfoPtr : Pointer) : Except Fault (World × Pointer) := do
  let w ← w.modifyInfo myInfoPtr fun b => { b with isConnected := false }
  let w ← cleanupAfterWAAN w myInfoPtr
  let w ← closeStreams w myInfoPtr
  let b ← w.blocks.load myInfoPtr
  let w ← if b.isStreamInitd then do
      let streams ← release w.streams b.rStreamRef
      let streams ← release streams b.wStreamRef
      World.modifyInfo { w with streams := streams } myInfoPtr fun b => { b with isStreamInitd := false }
    else .ok w
  let blocks ← w.blocks.free myInfoPtr
  return ({ w with blocks := blocks }, none)

/-- `StartWWAN`. The host is a name, so the streams are made for a name. -/
def startWWAN (w : World) (a : StartAnswers) (clientCB : Option ConnectClientCallBack)
    (refCon : Pointer) : Except Fault (World × Pointer) :=
  if !a.malloc then .ok (w, none)
  else do
    let myInfoPtr := some w.blocks.size
    let w := { w with blocks := w.blocks.alloc (newInfo clientCB refCon) }
    let w ← createPair w myInfoPtr a.createPair
    let (w, errorOccurred) ← setClient w myInfoPtr a.setClient
    let (w, errorOccurred) ← if !errorOccurred then openStream w myInfoPtr a.openStream
      else .ok (w, errorOccurred)
    let (w, errorOccurred) ← if !errorOccurred then runLoop w myInfoPtr a.runLoop
      else .ok (w, errorOccurred)
    if errorOccurred then giveUp w myInfoPtr
    else return (w, myInfoPtr)

/-- `StopWWAN`. -/
def stopWWAN (w : World) (myInfoPtr : Pointer) : Except Fault World := do
  let w ← w.modifyInfo myInfoPtr fun b => { b with isConnected := false }
  let w ← cleanupAfterWAAN w myInfoPtr
  let w ← closeStreams w myInfoPtr
  let blocks ← w.blocks.free myInfoPtr
  return { w with blocks := blocks }

/-! ## The two methods -/

/-- The world and the file-level `myInfoPtr`. -/
structure Session where
  world : World
  myInfoPtr : Pointer
deriving DecidableEq, Repr

def Session.zero : Session := ⟨World.empty, none⟩

/-- `forceWWAN`: the callback is given the address of a local variable. -/
def forceWWAN (s : Session) (a : StartAnswers) : Except Fault (Session × Bool) := do
  let value := some s.world.frames.size
  let w := { s.world with frames := s.world.frames.alloc 0 }
  let (w, myInfoPtr) ← startWWAN w a (some .myClientCallback) value
  let frames ← w.frames.free value
  return (⟨{ w with frames := frames }, myInfoPtr⟩, myInfoPtr != none)

/-- `shutdownWWAN` leaves the pointer as it is. -/
def shutdownWWAN (s : Session) : Except Fault Session :=
  if s.myInfoPtr.isSome then do
    let w ← stopWWAN s.world s.myInfoPtr
    return { s with world := w }
  else .ok s

inductive Op where
  | forceWWAN (answers : StartAnswers)
  | shutdownWWAN
  | event (d : Delivery)
deriving DecidableEq

def step (s : Session) : Op → Except Fault Session
  | .forceWWAN answers => do
    let (s, _) ← forceWWAN s answers
    return s
  | .shutdownWWAN => shutdownWWAN s
  | .event d => do
    let w ← deliver s.world d
    return { s with world := w }

end ATV2Utils.WWANConnect
