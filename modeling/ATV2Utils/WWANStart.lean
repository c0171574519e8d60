import ATV2Utils.WWANConnect

/-! # Starting a connection

What the calls of `StartWWAN` do to the world, and that its branch for an error
never returns: it releases the streams through pointers that `CloseStreams` has
just cleared. -/
namespace ATV2Utils.WWANStart
open ATV2Utils.Interfaces ATV2Utils.Lib.Memory ATV2Utils.WWANConnect

/-! ## Steps of the world -/
section Parts
variable {blocks : Heap MyStreamInfo} {streams : Heap (Counted Stream)} {frames : Heap Int}
variable {i k : Nat} {b : MyStreamInfo} {c : Counted Stream}

theorem modifyInfo_some (hb : blocks.get? i = some b) (f : MyStreamInfo → MyStreamInfo) :
    World.modifyInfo ⟨blocks, streams, frames⟩ (some i) f =
      .ok ⟨blocks.put i (some (f b)), streams, frames⟩ := by
  rw [World.modifyInfo, Heap.modify_some hb]
  rfl

theorem modifyStream_some (hc : streams.get? k = some c) (f : Stream → Stream) :
    World.modifyStream ⟨blocks, streams, frames⟩ (some k) f =
      .ok ⟨blocks, streams.put k (some { c with object := f c.object }), frames⟩ := by
  rw [World.modifyStream, send, Heap.modify_some hc]
  rfl

theorem cleanupAfterWAAN_set (frames : Heap Int) (hb : blocks.get? i = some b) (hset : b.isClientSet = true)
    (hwrite : b.wStreamRef = some k) (hc : streams.get? k = some c) :
    cleanupAfterWAAN ⟨blocks, streams, frames⟩ (some i) =
      .ok ⟨blocks.put i (some { b with isClientSet := false }),
        streams.put k (some { c with object := { c.object with client := none, scheduled := false } }),
        frames⟩ := by
  have hk := Heap.lt_size hc
  have hafter (x : Counted Stream) : (streams.put k (some x)).get? k = some x := by
    rw [Heap.get?_put hk, if_pos rfl]
  simp only [cleanupAfterWAAN, Heap.load_some hb, bind, Except.bind, hset, if_true, hwrite,
    modifyStream_some hc, modifyStream_some (hafter _), Heap.put_put, modifyInfo_some hb]

theorem closeStream_some (frames : Heap Int) (ref : MyStreamInfo → Pointer)
    (forget : MyStreamInfo → MyStreamInfo) (hb : blocks.get? i = some b) (href : ref b = some k) (hc : streams.get? k = some c) :
    closeStream ⟨blocks, streams, frames⟩ (some i) ref forget =
      .ok ⟨blocks.put i (some (forget b)),
        streams.put k (some { c with object := c.object.close }), frames⟩ := by
  simp only [closeStream, Heap.load_some hb, bind, Except.bind, href, Option.isSome_some, if_true,
    modifyStream_some hc, modifyInfo_some hb]

end Parts

/-- An event that reaches no client does nothing. -/
theorem deliver_unreached {w : World} {d : Delivery}
    (h : ∀ c, w.streams.get? d.stream = some c → c.object.client = none) : deliver w d = .ok w := by
  unfold deliver
  cases hc : w.streams.get? d.stream with
  | none => rfl
  | some c =>
    simp only [h c hc]
    split <;> rfl

/-- What an event does to the connection it reaches. -/
theorem deliver_reached {w : World} {d : Delivery} {i f : Nat} {b : MyStreamInfo} {c : Counted Stream}
    (hc : w.streams.get? d.stream = some c) (hclient : c.object.client = some i)
    (hscheduled : c.object.scheduled = true) (hb : w.blocks.get? i = some b)
    (hwrite : b.wStreamRef = some d.stream) (hcallback : b.clientCB = some .myClientCallback)
    (hf : b.refCon = some f) :
    deliver w d = match d.type with
      | .openCompleted =>
        match d.interfaces, w.frames.get? f with
        | none, _ => .error .uninitialised
        | some _, none => .error (.dangling f)
        | some _, some _ =>
          .ok { w with blocks := w.blocks.put i (some { b with isConnected := true }) }
      | .errorOccurred error =>
        .ok { w with
          blocks := w.blocks.put i (some { b with errorOccurred := true, error := error }) }
      | .endEncountered => .ok w := by
  obtain ⟨blocks, streams, frames⟩ := w
  have hi := Heap.lt_size hb
  have hafter (x : MyStreamInfo) : (blocks.put i (some x)).get? i = some x := by
    rw [Heap.get?_put hi, if_pos rfl]
  simp only [deliver, hc, hscheduled, if_true, hclient, myCFWriteStreamClientCallBack]
  cases d.type with
  | openCompleted =>
    simp only [modifyInfo_some hb, bind, Except.bind, Heap.load_some (hafter _), hcallback]
    cases hifs : d.interfaces with
    | none => rfl
    | some ifbase =>
      simp only [testGetIFAddrs, ConnectClientCallBack.call, hf]
      cases hframe : frames.get? f with
      | none => rw [Heap.load_dead hframe]
      | some value =>
        rw [Heap.load_some hframe]
        rfl
  | errorOccurred error =>
    simp only [modifyInfo_some hb, bind, Except.bind, Heap.load_some (hafter _), hwrite,
      Heap.load_some hc, modifyInfo_some (hafter _), Heap.put_put]
  | endEncountered => rfl

/-! ## Giving up

Whatever the streams are, the pointers to them are null when they are released. -/

theorem modifyInfo_ok {w w' : World} {i : Nat} {f : MyStreamInfo → MyStreamInfo}
    (h : w.modifyInfo (some i) f = .ok w') :
    ∃ b, w.blocks.get? i = some b ∧ w'.blocks.get? i = some (f b) := by
  obtain ⟨blocks, hblocks, hw⟩ := bind_ok h
  obtain ⟨b, hb, rfl⟩ := modify_ok hblocks
  obtain rfl := Except.ok.inj hw
  exact ⟨b, hb, by rw [Heap.get?_put (Heap.lt_size hb), if_pos rfl]⟩

theorem modifyStream_ok {w w' : World} {p : Pointer} {f : Stream → Stream}
    (h : w.modifyStream p f = .ok w') : w'.blocks = w.blocks := by
  obtain ⟨streams, -, hw⟩ := bind_ok h
  obtain rfl := Except.ok.inj hw
  rfl

theorem load_ok {w : World} {i : Nat} {b c : MyStreamInfo} (hb : w.blocks.get? i = some b)
    (h : w.blocks.load (some i) = .ok c) : c = b := by
  rw [Heap.load_some hb] at h
  exact (Except.ok.inj h).symm

theorem cleanupAfterWAAN_ok {w w' : World} {i : Nat} {b : MyStreamInfo}
    (hb : w.blocks.get? i = some b) (h : cleanupAfterWAAN w (some i) = .ok w') :
    ∃ b', w'.blocks.get? i = some b' ∧ b'.isStreamInitd = b.isStreamInitd := by
  obtain ⟨c, hload, h⟩ := bind_ok h
  obtain rfl := load_ok hb hload
  split at h
  · obtain ⟨w₁, hclient, h⟩ := bind_ok h
    obtain ⟨w₂, hscheduled, h⟩ := bind_ok h
    obtain ⟨b', hb', hw'⟩ := modifyInfo_ok h
    rw [modifyStream_ok hscheduled, modifyStream_ok hclient, hb] at hb'
    obtain rfl := Option.some.inj hb'
    exact ⟨_, hw', rfl⟩
  · obtain rfl := Except.ok.inj h
    exact ⟨c, hb, rfl⟩

theorem closeStream_ok {w w' : World} {i : Nat} {b : MyStreamInfo} {ref : MyStreamInfo → Pointer}
    {forget : MyStreamInfo → MyStreamInfo} (hb : w.blocks.get? i = some b)
    (h : closeStream w (some i) ref forget = .ok w') :
    w'.blocks.get? i = some (forget b) ∨ w'.blocks.get? i = some b ∧ ref b = none := by
  obtain ⟨c, hload, h⟩ := bind_ok h
  obtain rfl := load_ok hb hload
  split at h
  case isTrue =>
    obtain ⟨w₁, hclose, h⟩ := bind_ok h
    obtain ⟨b', hb', hw'⟩ := modifyInfo_ok h
    rw [modifyStream_ok hclose, hb] at hb'
    obtain rfl := Option.some.inj hb'
    exact .inl hw'
  case isFalse hnone =>
    obtain rfl := Except.ok.inj h
    exact .inr ⟨hb, by simpa using hnone⟩

theorem closeStreams_ok {w w' : World} {i : Nat} {b : MyStreamInfo}
    (hb : w.blocks.get? i = some b) (h : closeStreams w (some i) = .ok w') :
    ∃ b', w'.blocks.get? i = some b' ∧ b'.isStreamInitd = b.isStreamInitd ∧ b'.rStreamRef = none := by
  obtain ⟨w₁, hread, hwrite⟩ := bind_ok h
  obtain ⟨b₁, hb₁, hinitd, hnull⟩ : ∃ b₁, w₁.blocks.get? i = some b₁ ∧
      b₁.isStreamInitd = b.isStreamInitd ∧ b₁.rStreamRef = none := by
    rcases closeStream_ok hb hread with hb₁ | ⟨hb₁, hnull⟩
    · exact ⟨_, hb₁, rfl, rfl⟩
    · exact ⟨b, hb₁, rfl, hnull⟩
  rcases closeStream_ok hb₁ hwrite with hb₂ | ⟨hb₂, -⟩
  · exact ⟨_, hb₂, hinitd, hnull⟩
  · exact ⟨b₁, hb₂, hinitd, hnull⟩

/-- Giving up never comes to its end: `CFRelease` is called with a null pointer. -/
theorem giveUp_faults {w : World} {i : Nat} {b : MyStreamInfo} (hb : w.blocks.get? i = some b)
    (hinitd : b.isStreamInitd = true) (r : World × Pointer) : giveUp w (some i) ≠ .ok r := by
  intro h
  obtain ⟨w₁, hconnected, h⟩ := bind_ok h
  obtain ⟨b₁, hb₁, hw₁⟩ := modifyInfo_ok hconnected
  rw [hb] at hb₁
  obtain rfl := Option.some.inj hb₁
  obtain ⟨w₂, hcleanup, h⟩ := bind_ok h
  obtain ⟨b₂, hw₂, hinitd₂⟩ := cleanupAfterWAAN_ok hw₁ hcleanup
  obtain ⟨w₃, hclose, h⟩ := bind_ok h
  obtain ⟨b₃, hw₃, hinitd₃, hnull⟩ := closeStreams_ok hw₂ hclose
  obtain ⟨b₄, hload, h⟩ := bind_ok h
  obtain rfl := load_ok hw₃ hload
  rw [if_pos (hinitd₃.trans (hinitd₂.trans hinitd))] at h
  obtain ⟨w₄, hrelease, -⟩ := bind_ok h
  rw [hnull] at hrelease
  cases hrelease

/-! ## Starting -/

/-- The block of a connection that is being opened. -/
def openedInfo (w : World) (clientCB : Option ConnectClientCallBack) (refCon : Pointer) :
    MyStreamInfo :=
  ⟨some (w.streams.size + 1), some w.streams.size, clientCB, refCon, 0, false, false, true, true⟩

/-- The world when the run loop of `StartWWAN` starts. -/
def started (w : World) (clientCB : Option ConnectClientCallBack) (refCon : Pointer) : World where
  blocks := w.blocks.alloc (openedInfo w clientCB refCon)
  streams := (w.streams.alloc ⟨1, Stream.idle⟩).alloc ⟨1, ⟨some w.blocks.size, true, true⟩⟩
  frames := w.frames

/-- `StartWWAN` from the run loop on. -/
def opening (w : World) (i : Nat) (event : Option Delivery) : Except Fault (World × Pointer) := do
  let (w, errorOccurred) ← runLoop w (some i) event
  if errorOccurred then giveUp w (some i) else return (w, some i)

/-- An error that the run loop left behind decides. -/
theorem opening_eq {w w' : World} {i : Nat} {event : Option Delivery} {b : MyStreamInfo}
    (hrun : cfRunLoopRun w event = .ok w') (hb : w'.blocks.get? i = some b) :
    opening w i event = if b.errorOccurred then giveUp w' (some i) else .ok (w', some i) := by
  simp only [opening, runLoop, bind, Except.bind, hrun, Heap.load_some hb, pure, Except.pure]

theorem opening_fault {w : World} {i : Nat} {event : Option Delivery} {e : Fault}
    (hrun : cfRunLoopRun w event = .error e) : opening w i event = .error e := by
  simp only [opening, runLoop, bind, Except.bind, hrun]

/-- With every call answered well, the run loop decides. -/
theorem startWWAN_started (w : World) {a : StartAnswers} (clientCB : Option ConnectClientCallBack)
    (refCon : Pointer) (hmalloc : a.malloc = true)
    (h : a.createPair = true ∧ a.setClient = true ∧ a.openStream = true) :
    startWWAN w a clientCB refCon =
      opening (started w clientCB refCon) w.blocks.size a.runLoop := by
  obtain ⟨blocks, streams, frames⟩ := w
  obtain ⟨hpair, hclient, hopen⟩ := h
  simp only [startWWAN, hmalloc, hpair, hclient, hopen, createPair, setClient, openStream, create,
    modifyInfo_some (Heap.get?_alloc_size _ _), Heap.load_some (Heap.get?_alloc_size _ _),
    modifyStream_some (Heap.get?_alloc_size _ _), Heap.put_alloc, bind, Except.bind, pure, Except.pure,
    Bool.not_true, Bool.false_eq_true, if_false, if_true, Bool.not_false, newInfo, opening]
  rw [started, openedInfo, Heap.size_alloc]

/-- Without one of them it gives up. -/
theorem startWWAN_faults (w : World) {a : StartAnswers} (clientCB : Option ConnectClientCallBack)
    (refCon : Pointer) (hmalloc : a.malloc = true)
    (h : ¬ (a.createPair = true ∧ a.setClient = true ∧ a.openStream = true)) (r : World × Pointer) :
    startWWAN w a clientCB refCon ≠ .ok r := by
  obtain ⟨blocks, streams, frames⟩ := w
  cases hpair : a.createPair with
  | false =>
    have hnull : streams.load none = .error .null := rfl
    simp only [startWWAN, hmalloc, hpair, createPair, setClient, newInfo,
      modifyInfo_some (Heap.get?_alloc_size _ _), Heap.load_some (Heap.get?_alloc_size _ _),
      Heap.put_alloc, bind, Except.bind, hnull, Bool.not_true, Bool.false_eq_true, if_false]
    exact nofun
  | true =>
    cases hclient : a.setClient with
    | false =>
      simp only [startWWAN, hmalloc, hpair, hclient, createPair, setClient, create,
        modifyInfo_some (Heap.get?_alloc_size _ _), Heap.load_some (Heap.get?_alloc_size _ _),
        Heap.put_alloc, bind, Except.bind, pure, Except.pure,
        Bool.not_true, Bool.false_eq_true, if_false, if_true, Bool.not_false]
      exact giveUp_faults (by exact Heap.get?_alloc_size _ _) rfl r
    | true =>
      have hopen : a.openStream = false := by simpa [hpair, hclient] using h
      simp only [startWWAN, hmalloc, hpair, hclient, hopen, createPair, setClient, openStream, create,
        modifyInfo_some (Heap.get?_alloc_size _ _), Heap.load_some (Heap.get?_alloc_size _ _),
        modifyStream_some (Heap.get?_alloc_size _ _), Heap.put_alloc, bind, Except.bind, pure,
        Except.pure, Bool.not_true, Bool.false_eq_true, if_false, if_true, Bool.not_false]
      exact giveUp_faults (by exact Heap.get?_alloc_size _ _) rfl r

/-- Whatever the world is like, a block that is set up stays so. -/
def Initd (w : World) (i : Nat) : Prop :=
  ∃ b, w.blocks.get? i = some b ∧ b.isStreamInitd = true

theorem Initd.modifyInfo {w w' : World} {i : Nat} {p : Pointer} {f : MyStreamInfo → MyStreamInfo}
    (h : Initd w i) (hf : ∀ b, (f b).isStreamInitd = b.isStreamInitd)
    (hmodify : w.modifyInfo p f = .ok w') : Initd w' i := by
  obtain ⟨b, hb, hinitd⟩ := h
  obtain ⟨blocks, hblocks, hw⟩ := bind_ok hmodify
  obtain rfl := Except.ok.inj hw
  cases p with
  | none => cases hblocks
  | some j =>
    obtain ⟨b', hb', rfl⟩ := modify_ok hblocks
    rcases eq_or_ne i j with rfl | hne
    · obtain rfl := Option.some.inj (hb.symm.trans hb')
      exact ⟨f b, by rw [Heap.get?_put (Heap.lt_size hb), if_pos rfl], (hf b).trans hinitd⟩
    · exact ⟨b, by rw [Heap.get?_put (Heap.lt_size hb'), if_neg hne]; exact hb, hinitd⟩

theorem Initd.callBack {w w' : World} {i : Nat} {type : CFStreamEventType} {p : Pointer}
    {interfaces : Getifaddrs} (h : Initd w i)
    (hcall : myCFWriteStreamClientCallBack w type p interfaces = .ok w') : Initd w' i := by
  cases type with
  | openCompleted =>
    obtain ⟨w₁, hconnected, hcall⟩ := bind_ok hcall
    obtain ⟨_, -, hcall⟩ := bind_ok hcall
    obtain ⟨b, -, hcall⟩ := bind_ok hcall
    have hw₁ : Initd w₁ i := h.modifyInfo (by intro b; rfl) hconnected
    split at hcall
    · obtain ⟨_, -, hcall⟩ := bind_ok hcall
      exact Except.ok.inj hcall ▸ hw₁
    · exact Except.ok.inj hcall ▸ hw₁
  | errorOccurred error =>
    obtain ⟨w₁, hfailed, hcall⟩ := bind_ok hcall
    obtain ⟨b, -, hcall⟩ := bind_ok hcall
    obtain ⟨_, -, hcall⟩ := bind_ok hcall
    have hw₁ : Initd w₁ i := h.modifyInfo (by intro b; rfl) hfailed
    exact hw₁.modifyInfo (by intro b; rfl) hcall
  | endEncountered => exact Except.ok.inj hcall ▸ h

theorem Initd.runLoop {w w' : World} {i : Nat} {event : Option Delivery} (h : Initd w i)
    (hrun : cfRunLoopRun w event = .ok w') : Initd w' i := by
  cases event with
  | none => exact Except.ok.inj hrun ▸ h
  | some d =>
    rw [cfRunLoopRun, deliver] at hrun
    split at hrun
    · exact Except.ok.inj hrun ▸ h
    · split at hrun
      · split at hrun
        · exact Except.ok.inj hrun ▸ h
        · exact h.callBack hrun
      · exact Except.ok.inj hrun ▸ h

/-- In no world does `StartWWAN` come back with a null pointer for an error: it
does so only for want of memory. -/
theorem startWWAN_null_iff (w : World) (a : StartAnswers) (clientCB : Option ConnectClientCallBack)
    (refCon : Pointer) :
    (∃ w', startWWAN w a clientCB refCon = .ok (w', none)) ↔ a.malloc = false := by
  constructor
  · rintro ⟨w', hstart⟩
    by_contra hmalloc
    rw [Bool.not_eq_false] at hmalloc
    by_cases hanswers : a.createPair = true ∧ a.setClient = true ∧ a.openStream = true
    · rw [startWWAN_started w clientCB refCon hmalloc hanswers] at hstart
      obtain ⟨r, hrun, -⟩ := bind_ok hstart
      obtain ⟨w₁, hloop, -⟩ := bind_ok hrun
      have hinitd : Initd (started w clientCB refCon) w.blocks.size :=
        ⟨_, Heap.get?_alloc_size .., rfl⟩
      obtain ⟨b, hb, hset⟩ := hinitd.runLoop hloop
      rw [opening_eq hloop hb] at hstart
      split at hstart
      case isTrue => exact giveUp_faults hb hset _ hstart
      case isFalse => cases hstart
    · exact startWWAN_faults w clientCB refCon hmalloc hanswers _ hstart
  · intro hmalloc
    exact ⟨w, by simp only [startWWAN, hmalloc, Bool.not_false, if_true]⟩

end ATV2Utils.WWANStart
