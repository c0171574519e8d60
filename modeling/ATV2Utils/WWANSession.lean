import ATV2Utils.Lib.Simulation
import ATV2Utils.WWANStart

/-! # Runs of connecting and disconnecting

What `forceWWAN`, `shutdownWWAN` and late events of the streams do over a whole
run, against an automaton that only knows which connections were not stopped and
which of them the file-level pointer names. -/
namespace ATV2Utils.WWANSession
open ATV2Utils.Interfaces ATV2Utils.Lib.Memory ATV2Utils.Lib.Simulation ATV2Utils.WWANConnect
open ATV2Utils.WWANStart

/-! ## The automaton -/

/-- The connections ever made, each with whether it is still open, and the one
the pointer names. -/
structure Connections where
  opened : List Bool
  pointer : Option Nat
deriving DecidableEq, Repr

def Connections.zero : Connections := ⟨[], none⟩

/-- The open connection an event of the stream reaches. The streams of connection
`i` are number `2 * i`, which is read, and number `2 * i + 1`, which is written. -/
def reached (opened : List Bool) (stream : Nat) : Option Nat :=
  if stream % 2 = 1 ∧ opened[stream / 2]? = some true then some (stream / 2) else none

/-- An opening that comes late finds the local variable of `forceWWAN` gone. -/
def survives (opened : List Bool) (d : Delivery) : Bool :=
  (reached opened d.stream).isNone || d.type != .openCompleted

/-- The event that stops the run loop of `StartWWAN` opens the connection, ends
it, or is another's; an error of its own makes it give up. -/
def runLoopSurvives (opened : List Bool) : Option Delivery → Bool
  | none => true
  | some d =>
    if d.stream = 2 * opened.length + 1 then
      match d.type with
      | .openCompleted => d.interfaces.isSome
      | .errorOccurred _ => false
      | .endEncountered => true
    else survives opened d

def follow (c : Connections) : Op → Option Connections
  | .forceWWAN a =>
    if !a.malloc then some { c with pointer := none }
    else if a.createPair && a.setClient && a.openStream && runLoopSurvives c.opened a.runLoop then
      some ⟨c.opened ++ [true], some c.opened.length⟩
    else none
  | .shutdownWWAN =>
    match c.pointer with
    | none => some c
    | some i => if c.opened[i]? = some true then some { c with opened := c.opened.set i false } else none
  | .event d => if survives c.opened d then some c else none

/-! ## What a state of the automaton stands for -/

/-- The block of connection `i`, as long as it is open. -/
structure Linked (argument : Nat → Prop) (b : MyStreamInfo) (i : Nat) : Prop where
  write : b.wStreamRef = some (2 * i + 1)
  initd : b.isStreamInitd = true
  read : b.rStreamRef = some (2 * i)
  set : b.isClientSet = true
  callback : b.clientCB = some .myClientCallback
  refCon : ∃ f, b.refCon = some f ∧ argument f

/-- The streams of a connection outlive it, each with its one reference. -/
structure ConnectionAt (argument : Nat → Prop) (w : World) (i : Nat) (opened : Bool) : Prop where
  block : if opened then ∃ b, w.blocks.get? i = some b ∧ Linked argument b i
    else w.blocks.get? i = none
  read : ∃ c, w.streams.get? (2 * i) = some ⟨1, c⟩ ∧ c.client = none
  write : ∃ c, w.streams.get? (2 * i + 1) = some ⟨1, c⟩ ∧ c.scheduled = opened ∧
    c.client = if opened then some i else none

/-- The local variable of a call that has returned. -/
def Gone (w : World) (f : Nat) : Prop := f < w.frames.size ∧ w.frames.get? f = none

def Settled (w : World) (opened : List Bool) : Prop :=
  ∀ i o, opened[i]? = some o → ConnectionAt (Gone w) w i o

structure Holds (w : World) (opened : List Bool) : Prop where
  blocks : w.blocks.size = opened.length
  streams : w.streams.size = 2 * opened.length
  settled : Settled w opened

structure Describes (s : Session) (c : Connections) : Prop where
  holds : Holds s.world c.opened
  pointer : s.myInfoPtr = c.pointer
  named : ∀ i, c.pointer = some i → i < c.opened.length

theorem zero_describes : Describes Session.zero Connections.zero :=
  ⟨⟨rfl, rfl, nofun⟩, rfl, nofun⟩

/-! ## One connection, and the rest -/
section Connections
variable {P Q : Nat → Prop} {w w' : World} {opened : List Bool} {i j : Nat} {o : Bool}

theorem ConnectionAt.congr (h : ConnectionAt P w i o) (hPQ : ∀ f, P f → Q f)
    (hblock : w'.blocks.get? i = w.blocks.get? i)
    (hread : w'.streams.get? (2 * i) = w.streams.get? (2 * i))
    (hwrite : w'.streams.get? (2 * i + 1) = w.streams.get? (2 * i + 1)) : ConnectionAt Q w' i o := by
  refine ⟨?_, hread ▸ h.read, hwrite ▸ h.write⟩
  cases o with
  | false => exact hblock.trans h.block
  | true =>
    obtain ⟨b, hb, hlinked⟩ := h.block
    obtain ⟨f, hf, hP⟩ := hlinked.refCon
    exact ⟨b, hblock.trans hb, { hlinked with refCon := ⟨f, hf, hPQ f hP⟩ }⟩

/-- The block of a connection changes, not what links it to the streams. -/
theorem ConnectionAt.put_info {b b' : MyStreamInfo} (h : ConnectionAt P w i true)
    (hb : w.blocks.get? i = some b') (hlinked : Linked P b i) :
    ConnectionAt P { w with blocks := w.blocks.put i (some b) } i true :=
  ⟨⟨b, by rw [Heap.get?_put (Heap.lt_size hb), if_pos rfl], hlinked⟩, h.read, h.write⟩

/-- A stream that reaches no open connection has no client. -/
theorem Settled.unreached {k : Nat} (h : Settled w opened) (hk : k / 2 < opened.length)
    (hreached : reached opened k = none) {c : Counted Stream} (hc : w.streams.get? k = some c) :
    c.object.client = none := by
  obtain ⟨o, ho⟩ : ∃ o, opened[k / 2]? = some o := ⟨_, List.getElem?_eq_getElem hk⟩
  have hat := h _ o ho
  rcases Nat.mod_two_eq_zero_or_one k with heven | hodd
  · obtain ⟨r, hr, hclient⟩ := hat.read
    rw [show 2 * (k / 2) = k by omega, hc] at hr
    obtain rfl := Option.some.inj hr
    exact hclient
  · obtain ⟨s, hs, -, hclient⟩ := hat.write
    rw [show 2 * (k / 2) + 1 = k by omega, hc] at hs
    obtain rfl := Option.some.inj hs
    cases o with
    | false => exact hclient
    | true => simp [reached, hodd, ho] at hreached

/-- What may be changed while the others stay. -/
structure Touched (w w' : World) (opened : List Bool) : Prop where
  size : w'.blocks.size = w.blocks.size
  above : ∀ i, opened.length ≤ i → w'.blocks.get? i = w.blocks.get? i
  streams : w'.streams = w.streams
  frames : w'.frames = w.frames
  settled : Settled w' opened

theorem Settled.touched (h : Settled w opened) : Touched w w opened :=
  ⟨rfl, fun _ _ => rfl, rfl, rfl, h⟩

theorem Settled.touched_put {b b' : MyStreamInfo} (h : Settled w opened)
    (hi : opened[i]? = some true) (hb : w.blocks.get? i = some b') (hlinked : Linked (Gone w) b i) :
    Touched w { w with blocks := w.blocks.put i (some b) } opened := by
  have hlt := Heap.lt_size hb
  obtain ⟨hlength, -⟩ := List.getElem?_eq_some_iff.mp hi
  refine ⟨Heap.size_put .., fun j hj => ?_, rfl, rfl, fun j o hj => ?_⟩
  · rw [Heap.get?_put hlt, if_neg (by omega)]
  · rcases eq_or_ne j i with rfl | hne
    · obtain rfl : o = true := Option.some.inj (hj.symm.trans hi)
      exact (h j true hj).put_info hb hlinked
    · refine (h j o hj).congr (fun _ hf => hf) ?_ rfl rfl
      rw [Heap.get?_put hlt, if_neg hne]

/-- An event of a settled connection, or of no connection at all. -/
theorem deliver_settled (h : Settled w opened) (d : Delivery)
    (hbeyond : opened.length ≤ d.stream / 2 →
      ∀ c, w.streams.get? d.stream = some c → c.object.client = none) :
    Matches (fun w' _ => Touched w w' opened) (deliver w d)
      (if survives opened d then some () else none) := by
  cases hreached : reached opened d.stream with
  | none =>
    have hclient : ∀ c, w.streams.get? d.stream = some c → c.object.client = none := by
      intro c hc
      rcases Nat.lt_or_ge (d.stream / 2) opened.length with hlt | hge
      · exact h.unreached hlt hreached hc
      · exact hbeyond hge c hc
    rw [deliver_unreached hclient, survives, hreached]
    exact h.touched
  | some i =>
    obtain ⟨⟨hodd, hi⟩, rfl⟩ : (d.stream % 2 = 1 ∧ opened[d.stream / 2]? = some true) ∧
        d.stream / 2 = i := by simpa [reached] using hreached
    have hat := h _ _ hi
    obtain ⟨b, hb, hlinked⟩ := hat.block
    obtain ⟨s, hs, hscheduled, hclient⟩ := hat.write
    obtain ⟨f, hf, hgone⟩ := hlinked.refCon
    have hstream : 2 * (d.stream / 2) + 1 = d.stream := by omega
    have hwrite := hlinked.write
    rw [hstream] at hs hwrite
    rw [deliver_reached hs hclient hscheduled hb hwrite hlinked.callback hf, hgone.2, survives,
      hreached]
    cases htype : d.type with
    | openCompleted => cases d.interfaces <;> exact trivial
    | errorOccurred error => exact h.touched_put hi hb { hlinked with }
    | endEncountered => exact h.touched

end Connections

/-! ## Stopping -/

/-- Stopping an open connection frees the block, and closes the streams without
releasing them. -/
theorem stopWWAN_opened {w : World} {i : Nat} {argument : Nat → Prop}
    (h : ConnectionAt argument w i true) :
    ∃ r s, stopWWAN w (some i) = .ok { w with
        blocks := w.blocks.put i none
        streams := ((w.streams.put (2 * i + 1) (some ⟨1, ⟨none, false, s⟩⟩)).put (2 * i)
          (some ⟨1, r⟩)).put (2 * i + 1) (some ⟨1, ⟨none, false, false⟩⟩) } ∧
      r.client = none := by
  obtain ⟨blocks, streams, frames⟩ := w
  obtain ⟨b, hb, hlinked⟩ := h.block
  obtain ⟨r, hr, hrclient⟩ := h.read
  obtain ⟨s, hs, hscheduled, hclient⟩ := h.write
  have hi := Heap.lt_size hb
  have hread := Heap.lt_size hr
  have hwrite := Heap.lt_size hs
  have hne : 2 * i ≠ 2 * i + 1 := by omega
  refine ⟨r.close, s.isOpen, ?_, hrclient⟩
  have hafter (x : MyStreamInfo) : (blocks.put i (some x)).get? i = some x := by
    rw [Heap.get?_put hi, if_pos rfl]
  have hread' (x : Option (Counted Stream)) :
      (streams.put (2 * i + 1) x).get? (2 * i) = some ⟨1, r⟩ := by
    rw [Heap.get?_put hwrite, if_neg hne]
    exact hr
  have hwrite' (x : Counted Stream) (y : Option (Counted Stream)) :
      ((streams.put (2 * i + 1) (some x)).put (2 * i) y).get? (2 * i + 1) = some x := by
    rw [Heap.get?_put (by rw [Heap.size_put]; exact hread), if_neg hne.symm,
      Heap.get?_put hwrite, if_pos rfl]
  have hcleanup := cleanupAfterWAAN_set frames
    (hafter { b with isConnected := false }) hlinked.set hlinked.write hs
  have hcloseRead := closeStream_some frames MyStreamInfo.rStreamRef (fun b => { b with rStreamRef := none })
    (hafter { b with isConnected := false, isClientSet := false }) hlinked.read
    (hread' (some ⟨1, ⟨none, false, s.isOpen⟩⟩))
  have hcloseWrite := closeStream_some frames MyStreamInfo.wStreamRef (fun b => { b with wStreamRef := none })
    (hafter { b with isConnected := false, isClientSet := false, rStreamRef := none }) hlinked.write
    (hwrite' ⟨1, ⟨none, false, s.isOpen⟩⟩ (some ⟨1, r.close⟩))
  simp only [stopWWAN, modifyInfo_some hb, bind, Except.bind, hcleanup, closeStreams, Heap.put_put,
    hcloseRead, hcloseWrite, Heap.free_some (hafter _)]
  rfl

/-! ## The run loop of a start -/
section Start
variable {w : World} {opened : List Bool} {value : Nat}

/-- The settled connections, and one that is being opened for a call of
`forceWWAN` whose local variable is number `value`. -/
structure Starting (w : World) (opened : List Bool) (value : Nat) : Prop where
  blocks : w.blocks.size = opened.length + 1
  streams : w.streams.size = 2 * opened.length + 2
  settled : Settled w opened
  own : ConnectionAt (· = value) w opened.length true
  noError : ∀ b, w.blocks.get? opened.length = some b → b.errorOccurred = false
  frame : w.frames.get? value = some 0

theorem started_starting (hblocks : w.blocks.size = opened.length)
    (hstreams : w.streams.size = 2 * opened.length) (hsettled : Settled w opened)
    (hframe : w.frames.get? value = some 0) :
    Starting (started w (some .myClientCallback) (some value)) opened value := by
  have hsize : (w.streams.alloc ⟨1, Stream.idle⟩).size = 2 * opened.length + 1 := by
    rw [Heap.size_alloc, hstreams]
  have hown : (started w (some .myClientCallback) (some value)).blocks.get? opened.length =
      some (openedInfo w (some .myClientCallback) (some value)) := by
    rw [← hblocks]
    exact Heap.get?_alloc_size ..
  refine ⟨?_, ?_, fun i o hi => ?_, ⟨⟨_, hown, ?_⟩, ⟨Stream.idle, ?_, rfl⟩,
    ⟨⟨some w.blocks.size, true, true⟩, ?_, rfl, ?_⟩⟩, fun b hb => ?_, hframe⟩
  · rw [started, Heap.size_alloc, hblocks]
  · rw [started, Heap.size_alloc, hsize]
  · obtain ⟨hlt, -⟩ := List.getElem?_eq_some_iff.mp hi
    refine (hsettled i o hi).congr (fun _ hf => hf) ?_ ?_ ?_
    · rw [started, Heap.get?_alloc, if_neg (by omega)]
    · rw [started, Heap.get?_alloc, hsize, if_neg (by omega), Heap.get?_alloc, if_neg (by omega)]
    · rw [started, Heap.get?_alloc, hsize, if_neg (by omega), Heap.get?_alloc, if_neg (by omega)]
  · exact ⟨by rw [openedInfo, hstreams], rfl, by rw [openedInfo, hstreams], rfl, rfl, value, rfl, rfl⟩
  · rw [started, Heap.get?_alloc, hsize, if_neg (by omega), Heap.get?_alloc, hstreams, if_pos rfl]
  · rw [started, Heap.get?_alloc, hsize, if_pos rfl]
  · rw [if_pos rfl, hblocks]
  · rw [hown] at hb
    obtain rfl := Option.some.inj hb
    rfl

theorem opening_ok {w' : World} {event : Option Delivery}
    (hrun : cfRunLoopRun w event = .ok w') (h : Starting w' opened value) :
    opening w opened.length event = .ok (w', some opened.length) := by
  obtain ⟨b, hb, -⟩ := h.own.block
  rw [opening_eq hrun hb, h.noError b hb]
  rfl

theorem Starting.touched {w' : World} (h : Starting w opened value) (ht : Touched w w' opened) :
    Starting w' opened value := by
  refine ⟨ht.size.trans h.blocks, ht.streams ▸ h.streams, ht.settled,
    h.own.congr (fun _ hf => hf) (ht.above _ le_rfl) (by rw [ht.streams]) (by rw [ht.streams]),
    fun b hb => h.noError b ?_, ht.frames ▸ h.frame⟩
  rw [← ht.above _ le_rfl]
  exact hb

theorem Starting.put_own {b b' : MyStreamInfo} (h : Starting w opened value)
    (hb : w.blocks.get? opened.length = some b') (hlinked : Linked (· = value) b opened.length)
    (hnoError : b.errorOccurred = false) :
    Starting { w with blocks := w.blocks.put opened.length (some b) } opened value := by
  have hlt := Heap.lt_size hb
  refine ⟨(Heap.size_put ..).trans h.blocks, h.streams, fun i o hi => ?_, h.own.put_info hb hlinked,
    fun c hc => ?_, h.frame⟩
  · obtain ⟨hi', -⟩ := List.getElem?_eq_some_iff.mp hi
    refine (h.settled i o hi).congr (fun _ hf => hf) ?_ rfl rfl
    rw [Heap.get?_put hlt, if_neg (by omega)]
  · rw [Heap.get?_put hlt, if_pos rfl] at hc
    obtain rfl := Option.some.inj hc
    exact hnoError

/-- Of the streams that are no settled connection's, only the one that is being
opened has a client. -/
theorem Starting.beyond {k : Nat} (h : Starting w opened value) (hk : k ≠ 2 * opened.length + 1)
    (hbeyond : opened.length ≤ k / 2) (c : Counted Stream) (hc : w.streams.get? k = some c) :
    c.object.client = none := by
  have hlt := Heap.lt_size hc
  rw [h.streams] at hlt
  obtain rfl : k = 2 * opened.length := by omega
  obtain ⟨r, hr, hclient⟩ := h.own.read
  obtain rfl := Option.some.inj (hr.symm.trans hc)
  exact hclient

/-- The start faults or succeeds as the event of its run loop lets it. -/
theorem opening_matches (h : Starting w opened value) (event : Option Delivery) :
    Matches (fun r _ => r.2 = some opened.length ∧ Starting r.1 opened value)
      (opening w opened.length event) (if runLoopSurvives opened event then some () else none) := by
  cases event with
  | none =>
    rw [opening_ok rfl h]
    exact ⟨rfl, h⟩
  | some d =>
    by_cases hstream : d.stream = 2 * opened.length + 1
    · obtain ⟨b, hb, hlinked⟩ := h.own.block
      obtain ⟨s, hs, hscheduled, hclient⟩ := h.own.write
      obtain ⟨_, hf, rfl⟩ := hlinked.refCon
      have hwrite := hlinked.write
      rw [← hstream] at hs hwrite
      have hdeliver : cfRunLoopRun w (some d) = _ :=
        deliver_reached hs hclient hscheduled hb hwrite hlinked.callback hf
      rw [runLoopSurvives, if_pos hstream]
      cases htype : d.type with
      | openCompleted =>
        rw [htype, h.frame] at hdeliver
        cases hifs : d.interfaces with
        | none =>
          rw [hifs] at hdeliver
          rw [opening_fault hdeliver]
          exact Matches.fault
        | some ifbase =>
          rw [hifs] at hdeliver
          have hafter := h.put_own (b := { b with isConnected := true }) hb { hlinked with }
            (h.noError b hb)
          rw [opening_ok hdeliver hafter]
          exact Matches.ok ⟨rfl, hafter⟩
      | errorOccurred error =>
        rw [htype] at hdeliver
        have hafter : (w.blocks.put opened.length
            (some { b with errorOccurred := true, error := error })).get? opened.length =
            some { b with errorOccurred := true, error := error } := by
          rw [Heap.get?_put (Heap.lt_size hb), if_pos rfl]
        rw [opening_eq hdeliver hafter, if_pos rfl]
        exact Matches.fault_of (giveUp_faults hafter hlinked.initd)
      | endEncountered =>
        rw [htype] at hdeliver
        rw [opening_ok hdeliver h]
        exact Matches.ok ⟨rfl, h⟩
    · have hsettled := deliver_settled h.settled d (h.beyond hstream)
      rw [runLoopSurvives, if_neg hstream]
      cases hsurvives : survives opened d with
      | false =>
        rw [hsurvives] at hsettled
        obtain ⟨e, he⟩ := hsettled.error_of_none
        have hrun : cfRunLoopRun w (some d) = .error e := he
        rw [opening_fault hrun]
        exact Matches.fault
      | true =>
        rw [hsurvives] at hsettled
        obtain ⟨w', hw', htouched⟩ := hsettled.state_of_some
        have hrun : cfRunLoopRun w (some d) = .ok w' := hw'
        rw [opening_ok hrun (h.touched htouched)]
        exact Matches.ok ⟨rfl, h.touched htouched⟩

end Start

/-! ## The steps of a session -/
section Steps
variable {w : World} {s : Session} {c : Connections}

theorem Gone.pop {f value : Nat} (hvalue : value < w.frames.size) (h : Gone w f ∨ f = value) :
    Gone { w with frames := w.frames.put value none } f := by
  have hlt : f < w.frames.size := by
    rcases h with h | rfl
    · exact h.1
    · exact hvalue
  refine ⟨(Heap.size_put ..).symm ▸ hlt, ?_⟩
  rw [Heap.get?_put hvalue]
  split
  · rfl
  · exact (h.resolve_right ‹_›).2

theorem Holds.pop_frame {opened : List Bool} {value : Nat} (h : Holds w opened)
    (hvalue : value < w.frames.size) :
    Holds { w with frames := w.frames.put value none } opened :=
  ⟨h.blocks, h.streams, fun i o hi =>
    (h.settled i o hi).congr (fun _ hf => Gone.pop hvalue (.inl hf)) rfl rfl rfl⟩

/-- The local variable of a call dies when the call returns. -/
theorem Starting.pop_frame {opened : List Bool} {value : Nat} (h : Starting w opened value) :
    Holds { w with frames := w.frames.put value none } (opened ++ [true]) := by
  have hvalue := Heap.lt_size h.frame
  refine ⟨by rw [List.length_append]; exact h.blocks, ?_, fun i o hi => ?_⟩
  · rw [List.length_append, List.length_singleton, Nat.mul_add]
    exact h.streams
  · rcases Nat.lt_or_ge i opened.length with hlt | hge
    · rw [List.getElem?_append_left hlt] at hi
      exact (h.settled i o hi).congr (fun _ hf => Gone.pop hvalue (.inl hf)) rfl rfl rfl
    · rw [List.getElem?_append_right hge, List.getElem?_singleton] at hi
      split at hi
      case isFalse => cases hi
      case isTrue hzero =>
        obtain rfl : i = opened.length := by omega
        obtain rfl := Option.some.inj hi
        exact h.own.congr (fun _ hf => Gone.pop hvalue (.inr hf)) rfl rfl rfl

theorem Holds.push_frame {opened : List Bool} (h : Holds w opened) (x : Int) :
    Holds { w with frames := w.frames.alloc x } opened := by
  refine ⟨h.blocks, h.streams, fun i o hi => (h.settled i o hi).congr (fun f hf => ?_) rfl rfl rfl⟩
  have hlt := hf.1
  refine ⟨by rw [Heap.size_alloc]; omega, ?_⟩
  rw [Heap.get?_alloc, if_neg (by omega)]
  exact hf.2

theorem forceWWAN_matches (h : Describes s c) (a : StartAnswers) :
    Matches Describes (step s (.forceWWAN a)) (follow c (.forceWWAN a)) := by
  have hpushed := h.holds.push_frame 0
  have hvalue := Heap.get?_alloc_size s.world.frames 0
  cases hmalloc : a.malloc with
  | false =>
    simp only [step, forceWWAN, startWWAN, hmalloc, follow, bind, Except.bind, Heap.free_some hvalue,
      Bool.not_false, if_true]
    exact ⟨hpushed.pop_frame (Heap.lt_size hvalue), rfl, nofun⟩
  | true =>
    by_cases hanswers : a.createPair = true ∧ a.setClient = true ∧ a.openStream = true
    · have hstarting := started_starting hpushed.blocks hpushed.streams hpushed.settled hvalue
      have hopening := opening_matches hstarting a.runLoop
      rw [← h.holds.blocks] at hopening
      simp only [step, forceWWAN, startWWAN_started _ _ _ hmalloc hanswers, follow, hmalloc,
        hanswers.1, hanswers.2.1, hanswers.2.2, Bool.not_true, Bool.false_eq_true, if_false,
        Bool.and_self, Bool.true_and]
      cases hsurvives : runLoopSurvives c.opened a.runLoop with
      | false =>
        rw [hsurvives] at hopening
        obtain ⟨e, he⟩ := hopening.error_of_none
        simp only [he, bind, Except.bind]
        exact Matches.fault
      | true =>
        rw [hsurvives] at hopening
        obtain ⟨⟨w', p⟩, hw', rfl, hstarting'⟩ := hopening.state_of_some
        simp only [hw', bind, Except.bind, Heap.free_some hstarting'.frame]
        refine ⟨hstarting'.pop_frame, congrArg some h.holds.blocks, ?_⟩
        rintro i ⟨⟩
        simp
    · have hstops : follow c (.forceWWAN a) = none := by
        have hnot : ¬ (a.createPair && a.setClient && a.openStream &&
            runLoopSurvives c.opened a.runLoop) = true := by
          simp only [Bool.and_eq_true, not_and]
          exact fun ⟨⟨hpair, hclient⟩, hopen⟩ => absurd ⟨hpair, hclient, hopen⟩ hanswers
        simp only [follow, hmalloc, if_neg hnot, Bool.not_true, Bool.false_eq_true, if_false]
      rw [hstops]
      refine Matches.fault_of fun r hr => ?_
      obtain ⟨⟨s', b⟩, hforce, -⟩ := bind_ok hr
      obtain ⟨r', hstart, -⟩ := bind_ok hforce
      exact startWWAN_faults _ _ _ hmalloc hanswers r' hstart

/-- A stop takes one connection out, and touches no other. -/
theorem Holds.stopWWAN {opened : List Bool} {i : Nat} (h : Holds w opened)
    (hi : opened[i]? = some true) :
    ∃ w', stopWWAN w (some i) = .ok w' ∧ Holds w' (opened.set i false) := by
  have hat := h.settled i true hi
  obtain ⟨r, s, hstop, hr⟩ := stopWWAN_opened hat
  obtain ⟨hlt, -⟩ := List.getElem?_eq_some_iff.mp hi
  have hblocks := h.blocks
  have hstreams := h.streams
  refine ⟨_, hstop, ?_, ?_, fun j o hj => ?_⟩
  · rw [Heap.size_put, List.length_set]
    exact hblocks
  · simp only [Heap.size_put, List.length_set]
    exact hstreams
  · rcases eq_or_ne j i with rfl | hne
    · rw [List.getElem?_set_self hlt] at hj
      obtain rfl := Option.some.inj hj
      refine ⟨?_, ⟨r, ?_, hr⟩, ⟨⟨none, false, false⟩, ?_, rfl, rfl⟩⟩
      · exact (Heap.get?_put (by omega) ..).trans (if_pos rfl)
      · simp only [Heap.get?_put, Heap.size_put, hstreams, show 2 * j < 2 * opened.length by omega,
          show 2 * j + 1 < 2 * opened.length by omega, show ¬ 2 * j = 2 * j + 1 by omega, if_false,
          if_true]
      · simp only [Heap.get?_put, Heap.size_put, hstreams,
          show 2 * j + 1 < 2 * opened.length by omega, if_true]
    · rw [List.getElem?_set_ne hne.symm] at hj
      refine (h.settled j o hj).congr (fun _ hf => hf) ?_ ?_ ?_
      · rw [Heap.get?_put (by omega), if_neg hne]
      · simp only [Heap.get?_put, Heap.size_put, hstreams, show 2 * i < 2 * opened.length by omega,
          show 2 * i + 1 < 2 * opened.length by omega, show ¬ 2 * j = 2 * i + 1 by omega,
          show ¬ 2 * j = 2 * i by omega, if_false]
      · simp only [Heap.get?_put, Heap.size_put, hstreams, show 2 * i < 2 * opened.length by omega,
          show 2 * i + 1 < 2 * opened.length by omega, show ¬ 2 * j + 1 = 2 * i by omega,
          show ¬ 2 * j + 1 = 2 * i + 1 by omega, if_false]

/-- The pointer goes on naming a connection that was stopped. -/
theorem shutdownWWAN_dangling {i : Nat} (h : Describes s c) (hpointer : c.pointer = some i)
    (hi : c.opened[i]? = some false) : step s .shutdownWWAN = .error (.dangling i) := by
  have hat := h.holds.settled i false hi
  have hdead : stopWWAN s.world (some i) = .error (.dangling i) := by
    simp only [stopWWAN, World.modifyInfo, Heap.modify_dead hat.block, bind, Except.bind]
  rw [step, shutdownWWAN, h.pointer, hpointer]
  simp only [Option.isSome_some, if_true, hdead]
  rfl

theorem shutdownWWAN_matches (h : Describes s c) :
    Matches Describes (step s .shutdownWWAN) (follow c .shutdownWWAN) := by
  cases hpointer : c.pointer with
  | none =>
    rw [step, shutdownWWAN, follow, h.pointer, hpointer]
    exact h
  | some i =>
    obtain ⟨o, ho⟩ : ∃ o, c.opened[i]? = some o := ⟨_, List.getElem?_eq_getElem (h.named i hpointer)⟩
    cases o with
    | false =>
      rw [shutdownWWAN_dangling h hpointer ho, follow, hpointer]
      simp only [ho]
      exact Matches.fault
    | true =>
      obtain ⟨w', hw', hholds⟩ := h.holds.stopWWAN ho
      rw [step, shutdownWWAN, follow, h.pointer, hpointer]
      simp only [Option.isSome_some, if_true, hw', ho, bind, Except.bind]
      refine ⟨hholds, rfl, ?_⟩
      rintro j ⟨⟩
      rw [List.length_set]
      exact h.named i hpointer

theorem event_matches (h : Describes s c) (d : Delivery) :
    Matches Describes (step s (.event d)) (follow c (.event d)) := by
  have hsettled := deliver_settled h.holds.settled d (fun hge k hk => by
    have hlt := Heap.lt_size hk
    have hsize := h.holds.streams
    omega)
  rw [follow, step]
  cases hsurvives : survives c.opened d with
  | false =>
    rw [hsurvives] at hsettled
    obtain ⟨e, he⟩ := hsettled.error_of_none
    rw [he]
    exact Matches.fault
  | true =>
    rw [hsurvives] at hsettled
    obtain ⟨w', hw', htouched⟩ := hsettled.state_of_some
    rw [hw']
    exact ⟨⟨htouched.size.trans h.holds.blocks, htouched.streams ▸ h.holds.streams,
      htouched.settled⟩, h.pointer, h.named⟩

theorem step_matches (s : Session) (c : Connections) (op : Op) (h : Describes s c) :
    Matches Describes (step s op) (follow c op) := by
  cases op with
  | forceWWAN a => exact forceWWAN_matches h a
  | shutdownWWAN => exact shutdownWWAN_matches h
  | event d => exact event_matches h d

end Steps

/-! ## Runs -/

/-- A run faults exactly where the automaton stops, and else leads to what its
state describes. -/
theorem run_matches (ops : List Op) :
    Matches Describes (ops.foldlM step Session.zero) (ops.foldlM follow Connections.zero) :=
  matches_run step_matches zero_describes ops

/-- **When a session goes wrong**: a run of calls and stream events uses memory
that is gone, null or never set exactly where the automaton stops. -/
theorem run_faults_iff (ops : List Op) :
    (∃ e, ops.foldlM step Session.zero = .error e) ↔
      ops.foldlM follow Connections.zero = none :=
  (run_matches ops).fault_iff

/-- A connection is made by a `forceWWAN` that finds memory. -/
def connects : Op → Bool
  | .forceWWAN a => a.malloc
  | _ => false

theorem follow_length {c c' : Connections} {op : Op} (h : follow c op = some c') :
    c'.opened.length = c.opened.length + if connects op then 1 else 0 := by
  cases op with
  | forceWWAN a =>
    rw [follow] at h
    cases hmalloc : a.malloc with
    | false =>
      simp only [hmalloc, Bool.not_false, if_true, Option.some.injEq] at h
      simp [← h, connects, hmalloc]
    | true =>
      simp only [hmalloc, Bool.not_true, Bool.false_eq_true, if_false] at h
      split at h
      · obtain rfl := Option.some.inj h
        simp [connects, hmalloc]
      · cases h
  | shutdownWWAN =>
    rw [follow] at h
    split at h
    · obtain rfl := Option.some.inj h
      rfl
    · split at h
      · obtain rfl := Option.some.inj h
        simp [connects]
      · cases h
  | event d =>
    rw [follow] at h
    split at h
    · obtain rfl := Option.some.inj h
      rfl
    · cases h

theorem followRun_length {c c' : Connections} {ops : List Op} (h : ops.foldlM follow c = some c') :
    c'.opened.length = c.opened.length + ops.countP connects := by
  induction ops generalizing c with
  | nil =>
    obtain rfl := Option.some.inj h
    rfl
  | cons op ops ih =>
    rw [List.foldlM_cons] at h
    obtain ⟨c₁, hstep, hrun⟩ := Option.bind_eq_some_iff.mp h
    rw [ih hrun, follow_length hstep, List.countP_cons]
    omega

/-- The block of a connection is alive exactly as long as the connection is open. -/
theorem Describes.block_iff {s : Session} {c : Connections} (h : Describes s c) (i : Nat) :
    (s.world.blocks.get? i).isSome = true ↔ c.opened[i]? = some true := by
  rcases Nat.lt_or_ge i c.opened.length with hlt | hge
  · obtain ⟨o, ho⟩ : ∃ o, c.opened[i]? = some o := ⟨_, List.getElem?_eq_getElem hlt⟩
    have hat := (h.holds.settled i o ho).block
    cases o with
    | false => simp [show s.world.blocks.get? i = none from hat, ho]
    | true =>
      obtain ⟨b, hb, -⟩ := hat
      simp [hb, ho]
  · have hnone : s.world.blocks.get? i = none := Heap.get?_beyond (h.holds.blocks ▸ hge)
    simp [hnone, List.getElem?_eq_none hge]

/-- What is alive: one block for each open connection, and both streams of every
connection ever made. -/
theorem Describes.live {s : Session} {c : Connections} (h : Describes s c) :
    s.world.blocks.live = c.opened.count true ∧ s.world.streams.live = 2 * c.opened.length := by
  constructor
  · refine Heap.live_eq_count h.holds.blocks fun i o hi => ?_
    rw [Bool.eq_iff_iff, h.block_iff, hi, Option.some.injEq]
  · rw [← h.holds.streams, Heap.live_eq_size]
    intro k hk
    rw [h.holds.streams] at hk
    obtain ⟨o, ho⟩ : ∃ o, c.opened[k / 2]? = some o := ⟨_, List.getElem?_eq_getElem (by omega)⟩
    have hat := h.holds.settled _ o ho
    rcases Nat.mod_two_eq_zero_or_one k with heven | hodd
    · obtain ⟨r, hr, -⟩ := hat.read
      rw [show 2 * (k / 2) = k by omega] at hr
      rw [hr]
      rfl
    · obtain ⟨r, hr, -⟩ := hat.write
      rw [show 2 * (k / 2) + 1 = k by omega] at hr
      rw [hr]
      rfl

/-- No stream is ever released: after a run without a fault both streams of every
connection it made are alive, while the blocks are those of the connections still
open. -/
theorem run_live {ops : List Op} {s : Session} (h : ops.foldlM step Session.zero = .ok s) :
    s.world.streams.live = 2 * ops.countP connects ∧
      ∃ c, ops.foldlM follow Connections.zero = some c ∧
        (∀ i, (s.world.blocks.get? i).isSome = true ↔ c.opened[i]? = some true) ∧
        s.world.blocks.live = c.opened.count true := by
  have hmatches := run_matches ops
  rw [h] at hmatches
  obtain ⟨c, hc, hdescribes⟩ := hmatches.related
  obtain ⟨hblocks, hstreams⟩ := hdescribes.live
  refine ⟨?_, c, hc, hdescribes.block_iff, hblocks⟩
  rw [hstreams, followRun_length hc]
  simp [Connections.zero]

/-- A call of `forceWWAN` that succeeds, with a run loop that something else stops. -/
def connecting : Op := .forceWWAN ⟨true, true, true, true, none⟩

def connected : Session where
  world.blocks := ⟨[some ⟨some 1, some 0, some .myClientCallback, some 0, 0, false, false, true, true⟩]⟩
  world.streams := ⟨[some ⟨1, Stream.idle⟩, some ⟨1, ⟨some 0, true, true⟩⟩]⟩
  world.frames := ⟨[none]⟩
  myInfoPtr := some 0

def disconnected : Session where
  world.blocks := ⟨[none]⟩
  world.streams := ⟨[some ⟨1, Stream.idle⟩, some ⟨1, Stream.idle⟩]⟩
  world.frames := ⟨[none]⟩
  myInfoPtr := some 0

/-- Connecting and disconnecting leaves two streams behind. -/
theorem run_live_disconnected : disconnected.world.streams.live =
      2 * [connecting, .shutdownWWAN].countP connects ∧
    ∃ c, [connecting, .shutdownWWAN].foldlM follow Connections.zero = some c ∧
      (∀ i, (disconnected.world.blocks.get? i).isSome = true ↔ c.opened[i]? = some true) ∧
      disconnected.world.blocks.live = c.opened.count true :=
  run_live (by decide)

/-- Without a `forceWWAN` the pointer goes on naming the connection that was
stopped. -/
theorem followRun_stopped {c c' : Connections} {ops : List Op} {i : Nat}
    (hops : ∀ op ∈ ops, ∀ a, op ≠ .forceWWAN a) (hpointer : c.pointer = some i)
    (hi : c.opened[i]? ≠ some true) (h : ops.foldlM follow c = some c') :
    c'.pointer = some i ∧ c'.opened[i]? ≠ some true := by
  induction ops generalizing c with
  | nil =>
    obtain rfl := Option.some.inj h
    exact ⟨hpointer, hi⟩
  | cons op ops ih =>
    rw [List.foldlM_cons] at h
    obtain ⟨c₁, hstep, hrun⟩ := Option.bind_eq_some_iff.mp h
    have hc₁ : c₁ = c := by
      cases op with
      | forceWWAN a => exact absurd rfl (hops _ List.mem_cons_self a)
      | shutdownWWAN =>
        rw [follow, hpointer] at hstep
        simp only [if_neg hi] at hstep
        cases hstep
      | event d =>
        rw [follow] at hstep
        split at hstep
        · exact (Option.some.inj hstep).symm
        · cases hstep
    exact ih (fun op hop => hops op (List.mem_cons_of_mem _ hop)) (hc₁ ▸ hpointer) (hc₁ ▸ hi) hrun

/-- A run that gets past a `shutdownWWAN` of connection `i` has stopped it. -/
theorem followRun_shutdownWWAN {c c' : Connections} {between : List Op} {i : Nat}
    (hpointer : c.pointer = some i) (hnamed : i < c.opened.length)
    (hbetween : ∀ op ∈ between, ∀ a, op ≠ .forceWWAN a)
    (h : (Op.shutdownWWAN :: between).foldlM follow c = some c') :
    c'.pointer = some i ∧ c'.opened[i]? ≠ some true := by
  rw [List.foldlM_cons] at h
  obtain ⟨c₁, hstop, hrun⟩ := Option.bind_eq_some_iff.mp h
  have hc₁ : c₁ = ⟨c.opened.set i false, some i⟩ := by
    rw [follow, hpointer] at hstop
    dsimp only at hstop
    split at hstop
    case isTrue => exact (Option.some.inj hstop).symm
    case isFalse => cases hstop
  have hstopped : (c.opened.set i false)[i]? ≠ some true := by
    rw [List.getElem?_set_self hnamed]
    exact nofun
  subst hc₁
  exact followRun_stopped hbetween rfl hstopped hrun

/-- Once the pointer names connection `i`, a second `shutdownWWAN` uses its freed
block, whatever the run does between the two but another `forceWWAN`. -/
theorem shutdownWWAN_twice {before between : List Op} {s s' : Session} {i : Nat}
    (hbefore : before.foldlM step Session.zero = .ok s) (hpointer : s.myInfoPtr = some i)
    (hbetween : ∀ op ∈ between, ∀ a, op ≠ .forceWWAN a)
    (hrun : (before ++ Op.shutdownWWAN :: between).foldlM step Session.zero = .ok s') :
    step s' .shutdownWWAN = .error (.dangling i) := by
  have hmatches := run_matches before
  rw [hbefore] at hmatches
  obtain ⟨c, hc, hdescribes⟩ := hmatches.related
  have hnamed := hdescribes.pointer ▸ hpointer
  have hmatches' := run_matches (before ++ Op.shutdownWWAN :: between)
  rw [hrun] at hmatches'
  obtain ⟨c', hc', hdescribes'⟩ := hmatches'.related
  rw [List.foldlM_append, hc, Option.bind_eq_bind, Option.bind_some] at hc'
  obtain ⟨hpointer', hstopped⟩ :=
    followRun_shutdownWWAN hnamed (hdescribes.named i hnamed) hbetween hc'
  refine shutdownWWAN_dangling hdescribes' hpointer' ?_
  obtain ⟨o, ho⟩ : ∃ o, c'.opened[i]? = some o :=
    ⟨_, List.getElem?_eq_getElem (hdescribes'.named i hpointer')⟩
  cases o with
  | false => exact ho
  | true => exact absurd ho hstopped

/-- An error of the stream that was written comes late, and reaches no one. -/
theorem shutdownWWAN_twice_connected : step disconnected .shutdownWWAN = .error (.dangling 0) :=
  @shutdownWWAN_twice [connecting] [.event ⟨1, .errorOccurred 5, none⟩] connected disconnected 0
    (by decide) rfl (by simp) (by decide)

end ATV2Utils.WWANSession
