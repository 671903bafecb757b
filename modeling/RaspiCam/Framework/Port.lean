import RaspiCam.Headers.Circulation
import RaspiCam.Lib.Threads

/-!
# Sending Headers to a Port

`mmal_port.c`, as far as buffer headers pass through it: `mmal_port_enable` and
`mmal_port_disable`, `mmal_port_send_buffer`, the callback that returns a
header, `mmal_port_pause` and `mmal_port_flush`. The client is one of the two
classes of the camera, whose callback releases the header and sends the next
one, as in `Headers.Circulation`; here it runs against the port as it is
written.

A port counts the headers that are in transit: with the component, in its own
queue while it is paused, or in a callback. The count goes up and down under
`transit_lock`, and `transit_sema` has one token while it is zero, which
whoever makes it positive takes and whoever makes it zero gives back. So
`mmal_port_disable` can wait for the token, after it has cleared `is_enabled`
under `send_lock`, where a sender looks at it.

`disabled_port_is_empty` is what comes of this: when `mmal_port_disable` has
succeeded, no header is left in the port or the component and no callback is
running, and since only then the address of the callback is cleared, no header
is ever returned through a null pointer, `callback_set`.

The component takes a header or refuses it, gives it back whenever it likes,
and may fail to be disabled. The calls to the callback that a flush makes one
after the other may overlap here, which allows for more than the code does.

## Main definitions

* `PortPlace`: How far a thread is.
* `Port`: The port, its component and the pool.
* `PortOp`, `portStep`: The steps, in any order.
* `Counted`: The invariant.

## Theorems

* `counted_step`: Every step keeps the invariant.
* `counted_run`: So it holds in every run.
* `disabled_port_is_empty`: What `mmal_port_disable` waits for.
* `callback_set`: The callback that is called is there.
-/

namespace RaspiCam

namespace Framework

open RaspiCam.Headers Threads Transition

variable {η : Type*}

/-- A call of `mmal_port_send_buffer`, in the callback or in the loop of
    `startCapture`. -/
inductive Sending (η : Type*)
  | again (h : η)
  | initial (left : Nat) (h : η)
deriving DecidableEq

/-- The header that is being sent. -/
def Sending.header : Sending η → η
  | .again h => h
  | .initial _ h => h

/-- Where in the class the call is. -/
def Sending.activity : Sending η → Activity η
  | .again h => .resending h
  | .initial left h => .startSending left h

/-- How far a thread is. `client` is in the code of the class, and the next four
    are in `mmal_port_send_buffer`. -/
inductive PortPlace (η : Type*)
  | client (a : Activity η)
  -- the send lock is taken, and the port is enabled
  | locked (a : Sending η)
  -- the count has been zero, and the token is to be taken
  | counting (a : Sending η)
  -- the header is counted
  | counted (a : Sending η)
  -- the component has refused the header
  | refused (a : Sending η)
  -- the callback is through, and the header is no longer in transit
  | returning
  -- the queue of a paused port goes to the component, under the send lock
  | resuming
  -- headers that were flushed out of the queue
  | flushing (hs : List η)
  -- `mmal_port_disable`: the port lock is taken
  | disabling
  -- `is_enabled` is cleared, and the component is being disabled
  | shutting
  -- it could not be disabled
  | reopening
  -- it is disabled, and the queue is being flushed
  | draining
  -- waits until nothing is in transit
  | awaiting
  -- the token is taken, and has to be given back
  | reposting
deriving DecidableEq

/-- A port with its component and the pool of the class. `waiting` is the queue
    of a paused port, and `callback` is set while there is a callback. -/
structure Port (η : Type*) where
  queue : List η
  component : List η
  waiting : List η
  isPaused : Bool
  isEnabled : Bool
  callback : Bool
  transit : Nat
  transitSema : Nat
  sendLock : Bool
  transitLock : Bool
  portLock : Bool
  places : List (PortPlace η)

/-- A new port and a new pool. -/
def Port.init (hs : List η) : Port η where
  queue := hs
  component := []
  waiting := []
  isPaused := false
  isEnabled := false
  callback := false
  transit := 0
  transitSema := 1
  sendLock := false
  transitLock := false
  portLock := false
  places := []

/-- The steps. What the component and the camera answer is part of them. -/
inductive PortOp (η : Type*)
  | enable (ok : Bool)
  | startCapture (accepted : Bool)
  | getInitial (left : Nat)
  | started
  | release (h : η)
  | test
  | get
  | lock (a : Sending η)
  | count (a : Sending η)
  | claim (a : Sending η)
  | pass (a : Sending η) (ok : Bool)
  | refuse (a : Sending η)
  | deliver (h : η)
  | finish
  | pause
  | resume
  | resumeSend (ok : Bool)
  | flush (ok : Bool)
  | flushNext (hs : List η)
  | disable
  | shut
  | shutDown (ok : Bool)
  | reopen
  | drain
  | await
  | repost
deriving DecidableEq

variable [DecidableEq η]

/-- A thread moves on. -/
def Port.move (s : Port η) (t : PortPlace η) (next : Option (PortPlace η)) : Option (Port η) :=
  (advance s.places t next).map fun places => { s with places := places }

/-- Where a thread goes on after the call, whether it succeeded or not. The
    callback is through then, and `startCapture` has its loop left. -/
def Sending.after : Sending η → PortPlace η
  | .again _ => .returning
  | .initial left _ => .client (.starting left)

/-- `IN_TRANSIT_DECREMENT`, when nobody has the lock. -/
def Port.decrement (s : Port η) : Port η :=
  { s with
    transit := s.transit - 1
    transitSema := if s.transit - 1 = 0 then s.transitSema + 1 else s.transitSema }

/-- `mmal_port_enable_internal` for a port that is not enabled. The callback is
    set before the component is asked. -/
def Port.enableInternal (s : Port η) (ok : Bool) : Port η :=
  { s with callback := true, isEnabled := ok }

/-- `mmal_port_disable` up to the port lock, for a port that looks enabled. -/
def Port.beginDisable (s : Port η) : Option (Port η) :=
  if s.isEnabled then
    if s.portLock then none
    else some { s with portLock := true, places := .disabling :: s.places }
  else some s

/-- The loop of `startCapture` begins. -/
def Port.beginLoop (s : Port η) : Port η :=
  { s with places := .client (.starting s.queue.length) :: s.places }

/-- The steps of the classes and the port. A step is not possible while a lock
    it needs is taken. -/
def portStep (role : Role) (s : Port η) : PortOp η → Option (Port η)
  -- The call in `create_camera_component`.
  | .enable ok =>
    if role = .video ∧ s.portLock = false ∧ s.isEnabled = false then some (s.enableInternal ok)
    else none
  | .startCapture accepted =>
    match role with
    | .video => if accepted then some s.beginLoop else s.beginDisable
    | .still =>
      if s.isEnabled then some s
      else if s.portLock then none
      else
        let s := s.enableInternal accepted
        some (if accepted then s.beginLoop else s)
  -- With an empty queue the loop would send a null pointer, and that is the end.
  | .getInitial left =>
    match s.queue with
    | [] => none
    | h :: queue =>
      { s with queue := queue }.move (.client (.starting (left + 1)))
        (some (.client (.startSending left h)))
  | .started => s.move (.client (.starting 0)) none
  | .release h =>
    { s with queue := s.queue ++ [h] }.move (.client (.callback h)) (some (.client .recycling))
  | .test =>
    s.move (.client .recycling) (some (if s.isEnabled then .client .taking else .returning))
  | .get =>
    match s.queue with
    | [] => s.move (.client .taking) (some .returning)
    | h :: queue =>
      { s with queue := queue }.move (.client .taking) (some (.client (.resending h)))
  -- `mmal_port_send_buffer`
  | .lock a =>
    if s.sendLock then none
    else if s.isEnabled then
      { s with sendLock := true }.move (.client a.activity) (some (.locked a))
    else s.move (.client a.activity) (some a.after)
  | .count a =>
    if s.transitLock then none
    else if s.transit = 0 then
      { s with transit := 1, transitLock := true }.move (.locked a) (some (.counting a))
    else { s with transit := s.transit + 1 }.move (.locked a) (some (.counted a))
  | .claim a =>
    if s.transitSema = 0 then none
    else
      { s with transitSema := s.transitSema - 1, transitLock := false }.move (.counting a)
        (some (.counted a))
  | .pass a ok =>
    if s.isPaused then
      { s with waiting := s.waiting ++ [a.header], sendLock := false }.move (.counted a)
        (some a.after)
    else if ok then
      { s with component := s.component ++ [a.header], sendLock := false }.move (.counted a)
        (some a.after)
    else s.move (.counted a) (some (.refused a))
  | .refuse a =>
    if s.transitLock then none
    else { s.decrement with sendLock := false }.move (.refused a) (some a.after)
  -- `mmal_port_buffer_header_callback`
  | .deliver h =>
    if h ∈ s.component then
      some { s with component := s.component.erase h
                    places := .client (.callback h) :: s.places }
    else none
  | .finish => if s.transitLock then none else s.decrement.move .returning none
  -- `mmal_port_pause`
  | .pause => if s.sendLock then none else some { s with isPaused := true }
  | .resume =>
    if s.sendLock then none
    else if s.isEnabled then some { s with sendLock := true, places := .resuming :: s.places }
    else some { s with isPaused := false }
  -- Nobody else looks at the queue while the headers leave it one by one.
  | .resumeSend ok =>
    match s.waiting with
    | [] => { s with isPaused := false, sendLock := false }.move .resuming none
    | h :: waiting =>
      if ok then
        { s with waiting := waiting, component := s.component ++ [h] }.move .resuming
          (some .resuming)
      else { s with sendLock := false }.move .resuming none
  -- `mmal_port_flush`
  | .flush ok =>
    if s.sendLock then none
    else if s.isEnabled = true ∧ ok = true then
      some { s with waiting := [], places := .flushing s.waiting :: s.places }
    else some s
  | .flushNext hs =>
    match hs with
    | [] => s.move (.flushing []) none
    | h :: rest =>
      { s with places := .client (.callback h) :: s.places }.move (.flushing (h :: rest))
        (some (.flushing rest))
  -- `mmal_port_disable`
  | .disable => s.beginDisable
  | .shut =>
    if s.sendLock then none
    else { s with isEnabled := false }.move .disabling (some .shutting)
  | .shutDown ok => s.move .shutting (some (if ok then .draining else .reopening))
  | .reopen =>
    if s.sendLock then none
    else { s with isEnabled := true, portLock := false }.move .reopening none
  | .drain =>
    match s.waiting with
    | [] => s.move .draining (some .awaiting)
    | h :: waiting =>
      { s with waiting := waiting, places := .client (.callback h) :: s.places }.move .draining
        (some .draining)
  | .await =>
    if s.transitSema = 0 then none
    else { s with transitSema := s.transitSema - 1 }.move .awaiting (some .reposting)
  | .repost =>
    { s with transitSema := s.transitSema + 1, callback := false, portLock := false }.move
      .reposting none

/-- Whether a call is made in a callback. -/
def Sending.inCallback (a : Sending η) : Nat := a.activity.isCallback.toNat

/-- The headers that are in transit because of a thread: the one the callback
    was called with, and the one that is being sent. -/
@[simp]
def PortPlace.inTransit : PortPlace η → Nat
  | .client a => a.isCallback.toNat
  | .locked a => a.inCallback
  | .counting a | .counted a | .refused a => a.inCallback + 1
  | .returning => 1
  | .flushing hs => hs.length
  | .resuming | .disabling | .shutting | .reopening | .draining | .awaiting | .reposting => 0

/-- The thread has the send lock. -/
@[simp]
def PortPlace.sends : PortPlace η → Nat
  | .locked _ | .counting _ | .counted _ | .refused _ | .resuming => 1
  | _ => 0

/-- The thread has the transit lock. -/
@[simp]
def PortPlace.counts : PortPlace η → Nat
  | .counting _ => 1
  | _ => 0

/-- The port is about to be disabled. -/
@[simp]
def PortPlace.opens : PortPlace η → Nat
  | .disabling => 1
  | _ => 0

/-- The port is being disabled. -/
@[simp]
def PortPlace.closes : PortPlace η → Nat
  | .shutting | .reopening | .draining | .awaiting => 1
  | _ => 0

/-- The token is taken by who waits for it. -/
@[simp]
def PortPlace.reposts : PortPlace η → Nat
  | .reposting => 1
  | _ => 0

/-- The count is right, and so are the token and the locks. Nothing is in
    transit in a port that is neither enabled nor being disabled. -/
structure Counted (s : Port η) : Prop where
  transit : s.transit =
    s.component.length + s.waiting.length + total PortPlace.inTransit s.places
  free : s.transit = 0 →
    s.transitSema + total PortPlace.reposts s.places = 1 + total PortPlace.counts s.places
  taken : s.transit ≠ 0 →
    s.transitSema + total PortPlace.reposts s.places = total PortPlace.counts s.places
  sendLock : s.sendLock.toNat = total PortPlace.sends s.places
  sending : total PortPlace.sends s.places ≤ s.isEnabled.toNat
  transitLock : s.transitLock.toNat = total PortPlace.counts s.places
  portLock : s.portLock.toNat = total PortPlace.opens s.places +
    total PortPlace.closes s.places + total PortPlace.reposts s.places
  opening : total PortPlace.opens s.places ≤ s.isEnabled.toNat
  closing : total PortPlace.closes s.places + total PortPlace.reposts s.places +
    s.isEnabled.toNat ≤ 1
  closed : s.isEnabled.toNat + total PortPlace.closes s.places = 0 → s.transit = 0
  callback : s.isEnabled.toNat + total PortPlace.closes s.places ≤ s.callback.toNat

variable {s s' : Port η}

theorem portMove_some {u : Port η} {t : PortPlace η} {next : Option (PortPlace η)}
    (h : u.move t next = some s') :
    ∃ places, advance u.places t next = some places ∧ s' = { u with places := places } := by
  simp only [Port.move, Option.map_eq_some_iff] at h
  obtain ⟨places, hp, rfl⟩ := h
  exact ⟨places, hp, rfl⟩

/-- What a step of a thread does to all the numbers. -/
theorem numbers_advance {ts us : List (PortPlace η)} {t : PortPlace η}
    {next : Option (PortPlace η)} (h : advance ts t next = some us) :
    let Moved := fun w : PortPlace η → Nat => total w us + w t = total w ts + total w next.toList
    Moved PortPlace.inTransit ∧ Moved PortPlace.sends ∧ Moved PortPlace.counts ∧
      Moved PortPlace.opens ∧ Moved PortPlace.closes ∧ Moved PortPlace.reposts :=
  ⟨total_advance _ h, total_advance _ h, total_advance _ h, total_advance _ h,
    total_advance _ h, total_advance _ h⟩

omit [DecidableEq η] in
theorem counted_init (hs : List η) : Counted (Port.init hs) := by
  constructor <;> simp [Port.init]

omit [DecidableEq η] in
/-- Who takes the token while it counts also has the send lock. -/
theorem counts_le_sends (ts : List (PortPlace η)) :
    total PortPlace.counts ts ≤ total PortPlace.sends ts := by
  refine total_mono fun t _ => ?_
  cases t <;> simp [PortPlace.counts, PortPlace.sends]

/-- A thread goes from one place where it has no lock to another one. -/
theorem counted_stroll (hs : Counted s) {t : PortPlace η} {next : Option (PortPlace η)}
    {u : Port η} (h : u.move t next = some s') (hu : ∃ queue, u = { s with queue := queue })
    (ht : t.sends = 0 ∧ t.counts = 0 ∧ t.opens = 0 ∧ t.closes = 0 ∧ t.reposts = 0)
    (hn : ∀ n, next = some n → n.inTransit = t.inTransit ∧
      n.sends = 0 ∧ n.counts = 0 ∧ n.opens = 0 ∧ n.closes = 0 ∧ n.reposts = 0)
    (hend : next = none → t.inTransit = 0) : Counted s' := by
  obtain ⟨queue, rfl⟩ := hu
  obtain ⟨places, hp, rfl⟩ := portMove_some h
  obtain ⟨htransit, hfreed, htaken, hsend, hsending, htlock, hplock, hopening, hclosing, hclosed,
    hcb⟩ := hs
  obtain ⟨hi, hse, hc, ho, hcl, hr⟩ := numbers_advance hp
  cases next with
  | none =>
      have hzero := hend rfl
      simp only [Option.toList_none, total_nil] at hi hse hc ho hcl hr
      constructor <;> simp only <;> omega
  | some n =>
      have hsame := hn n rfl
      simp only [Option.toList_some, total_cons, total_nil] at hi hse hc ho hcl hr
      constructor <;> simp only <;> omega

/-- The calls that only the class makes. -/
theorem counted_client (hs : Counted s) {role : Role} {op : PortOp η}
    (hop : (∃ left, op = .getInitial left) ∨ op = .started ∨ (∃ b, op = .release b) ∨ op = .test ∨
      op = .get)
    (h : portStep role s op = some s') : Counted s' := by
  obtain ⟨left, rfl⟩ | rfl | ⟨b, rfl⟩ | rfl | rfl := hop
  · simp only [portStep] at h
    split at h
    · cases h
    · exact counted_stroll hs h ⟨_, rfl⟩ (by simp) (by simp [Activity.isCallback]) (by simp)
  · exact counted_stroll hs h ⟨s.queue, rfl⟩ (by simp) (by simp) (by simp [Activity.isCallback])
  · exact counted_stroll hs h ⟨_, rfl⟩ (by simp) (by simp [Activity.isCallback]) (by simp)
  · refine counted_stroll hs h ⟨s.queue, rfl⟩ (by simp) (fun n hn => ?_) (by simp)
    cases hen : s.isEnabled with
    | true =>
        simp only [hen, if_true, Option.some.injEq] at hn
        subst hn
        simp [Activity.isCallback]
    | false =>
        simp only [hen, Bool.false_eq_true, if_false, Option.some.injEq] at hn
        subst hn
        simp [Activity.isCallback]
  · simp only [portStep] at h
    split at h
    · exact counted_stroll hs h ⟨s.queue, rfl⟩ (by simp) (by simp [Activity.isCallback]) (by simp)
    · exact counted_stroll hs h ⟨_, rfl⟩ (by simp) (by simp [Activity.isCallback]) (by simp)

/-- `mmal_port_send_buffer`. -/
theorem counted_send (hs : Counted s) {role : Role} {op : PortOp η}
    (hop : ∃ a ok, op = .lock a ∨ op = .count a ∨ op = .claim a ∨ op = .pass a ok ∨ op = .refuse a)
    (h : portStep role s op = some s') : Counted s' := by
  have hle := counts_le_sends s.places
  obtain ⟨htransit, hfreed, htaken, hsend, hsending, htlock, hplock, hopening, hclosing, hclosed,
    hcb⟩ := hs
  obtain ⟨a, ok, rfl | rfl | rfl | rfl | rfl⟩ := hop
  · simp only [portStep] at h
    split at h
    · cases h
    · rename_i hfree
      have hzero : s.sendLock.toNat = 0 := by simp [hfree]
      split at h
      · rename_i hen
        have hone : s.isEnabled.toNat = 1 := by simp [hen]
        obtain ⟨places, hp, rfl⟩ := portMove_some h
        obtain ⟨hi, hse, hc, ho, hcl, hr⟩ := numbers_advance hp
        simp [Sending.inCallback] at hi hse hc ho hcl hr
        constructor <;> simp only [Bool.toNat_true] <;> omega
      · obtain ⟨places, hp, rfl⟩ := portMove_some h
        obtain ⟨hi, hse, hc, ho, hcl, hr⟩ := numbers_advance hp
        cases a <;> simp [Sending.activity, Sending.after, Activity.isCallback]
          at hi hse hc ho hcl hr <;> constructor <;> simp only <;> omega
  · simp only [portStep] at h
    split at h
    · cases h
    · rename_i hfree
      have hzero : s.transitLock.toNat = 0 := by simp [hfree]
      split at h
      · obtain ⟨places, hp, rfl⟩ := portMove_some h
        have hone := le_total PortPlace.sends (mem_of_advance hp)
        obtain ⟨hi, hse, hc, ho, hcl, hr⟩ := numbers_advance hp
        simp at hi hse hc ho hcl hr hone
        constructor <;> simp only [Bool.toNat_true] <;> omega
      · obtain ⟨places, hp, rfl⟩ := portMove_some h
        have hone := le_total PortPlace.sends (mem_of_advance hp)
        obtain ⟨hi, hse, hc, ho, hcl, hr⟩ := numbers_advance hp
        simp at hi hse hc ho hcl hr hone
        constructor <;> simp only <;> omega
  · simp only [portStep] at h
    split at h
    · cases h
    · obtain ⟨places, hp, rfl⟩ := portMove_some h
      have hone := le_total PortPlace.counts (mem_of_advance hp)
      obtain ⟨hi, hse, hc, ho, hcl, hr⟩ := numbers_advance hp
      have htl := Bool.toNat_le s.transitLock
      simp at hi hse hc ho hcl hr hone
      constructor <;> simp only [Bool.toNat_false] <;> omega
  · have hsl := Bool.toNat_le s.sendLock
    simp only [portStep] at h
    split at h
    · obtain ⟨places, hp, rfl⟩ := portMove_some h
      have hone := le_total PortPlace.sends (mem_of_advance hp)
      obtain ⟨hi, hse, hc, ho, hcl, hr⟩ := numbers_advance hp
      cases a <;> simp [Sending.inCallback, Sending.activity, Sending.after,
        Activity.isCallback] at hi hse hc ho hcl hr hone <;> constructor <;>
        simp only [Bool.toNat_false, List.length_append, List.length_singleton] <;> omega
    · split at h
      · obtain ⟨places, hp, rfl⟩ := portMove_some h
        have hone := le_total PortPlace.sends (mem_of_advance hp)
        obtain ⟨hi, hse, hc, ho, hcl, hr⟩ := numbers_advance hp
        cases a <;> simp [Sending.inCallback, Sending.activity, Sending.after,
          Activity.isCallback] at hi hse hc ho hcl hr hone <;> constructor <;>
          simp only [Bool.toNat_false, List.length_append, List.length_singleton] <;> omega
      · obtain ⟨places, hp, rfl⟩ := portMove_some h
        obtain ⟨hi, hse, hc, ho, hcl, hr⟩ := numbers_advance hp
        simp at hi hse hc ho hcl hr
        constructor <;> simp only <;> omega
  · have hsl := Bool.toNat_le s.sendLock
    simp only [portStep] at h
    split at h
    · cases h
    · rename_i hfree
      have hzero : s.transitLock.toNat = 0 := by simp [hfree]
      obtain ⟨places, hp, rfl⟩ := portMove_some h
      change advance s.places (.refused a) (some a.after) = some places at hp
      have hone := le_total PortPlace.sends (mem_of_advance hp)
      have hin := le_total PortPlace.inTransit (mem_of_advance hp)
      obtain ⟨hi, hse, hc, ho, hcl, hr⟩ := numbers_advance hp
      by_cases hlast : s.transit - 1 = 0
      · simp only [Port.decrement, if_pos hlast]
        cases a <;> simp [Sending.inCallback, Sending.activity, Sending.after,
          Activity.isCallback] at hi hse hc ho hcl hr hone hin <;> constructor <;>
          simp only [Bool.toNat_false] <;> omega
      · simp only [Port.decrement, if_neg hlast]
        cases a <;> simp [Sending.inCallback, Sending.activity, Sending.after,
          Activity.isCallback] at hi hse hc ho hcl hr hone hin <;> constructor <;>
          simp only [Bool.toNat_false] <;> omega

/-- The callback, `mmal_port_pause` and `mmal_port_flush`. -/
theorem counted_return (hs : Counted s) {role : Role} {op : PortOp η}
    (hop : (∃ b, op = .deliver b) ∨ op = .finish ∨ op = .pause ∨ op = .resume ∨
      (∃ ok, op = .resumeSend ok) ∨ (∃ ok, op = .flush ok) ∨ ∃ hs, op = .flushNext hs)
    (h : portStep role s op = some s') : Counted s' := by
  have hle := counts_le_sends s.places
  obtain ⟨htransit, hfreed, htaken, hsend, hsending, htlock, hplock, hopening, hclosing, hclosed,
    hcb⟩ := hs
  obtain ⟨b, rfl⟩ | rfl | rfl | rfl | ⟨ok, rfl⟩ | ⟨ok, rfl⟩ | ⟨hs, rfl⟩ := hop
  · simp only [portStep] at h
    split at h
    · rename_i hb
      cases h
      have hpos := List.length_pos_of_mem hb
      have hlen := List.length_erase_of_mem hb
      constructor <;> simp only [total_cons, PortPlace.inTransit, PortPlace.sends,
        PortPlace.counts, PortPlace.opens, PortPlace.closes, PortPlace.reposts,
        Activity.isCallback, Bool.toNat_true] <;> omega
    · cases h
  · simp only [portStep] at h
    split at h
    · cases h
    · rename_i hfree
      have hzero : s.transitLock.toNat = 0 := by simp [hfree]
      obtain ⟨places, hp, rfl⟩ := portMove_some h
      change advance s.places .returning none = some places at hp
      have hin := le_total PortPlace.inTransit (mem_of_advance hp)
      obtain ⟨hi, hse, hc, ho, hcl, hr⟩ := numbers_advance hp
      simp at hi hse hc ho hcl hr hin
      by_cases hlast : s.transit - 1 = 0
      · simp only [Port.decrement, if_pos hlast]
        constructor <;> simp only <;> omega
      · simp only [Port.decrement, if_neg hlast]
        constructor <;> simp only <;> omega
  · simp only [portStep] at h
    split at h
    · cases h
    · cases h
      exact ⟨htransit, hfreed, htaken, hsend, hsending, htlock, hplock, hopening, hclosing, hclosed,
        hcb⟩
  · simp only [portStep] at h
    split at h
    · cases h
    · rename_i hfree
      have hzero : s.sendLock.toNat = 0 := by simp [hfree]
      split at h
      · rename_i hen
        have hone : s.isEnabled.toNat = 1 := by simp [hen]
        cases h
        constructor <;> simp only [total_cons, PortPlace.inTransit, PortPlace.sends,
          PortPlace.counts, PortPlace.opens, PortPlace.closes, PortPlace.reposts,
          Bool.toNat_true] <;> omega
      · cases h
        exact ⟨htransit, hfreed, htaken, hsend, hsending, htlock, hplock, hopening, hclosing,
          hclosed, hcb⟩
  · have hsl := Bool.toNat_le s.sendLock
    simp only [portStep] at h
    cases hw : s.waiting with
    | nil =>
        rw [hw] at h
        obtain ⟨places, hp, rfl⟩ := portMove_some h
        have hone := le_total PortPlace.sends (mem_of_advance hp)
        obtain ⟨hi, hse, hc, ho, hcl, hr⟩ := numbers_advance hp
        simp [hw] at hi hse hc ho hcl hr hone htransit
        constructor <;> simp only [Bool.toNat_false, List.length_nil] <;> omega
    | cons b waiting =>
        rw [hw] at h htransit
        simp only at h
        split at h
        · obtain ⟨places, hp, rfl⟩ := portMove_some h
          obtain ⟨hi, hse, hc, ho, hcl, hr⟩ := numbers_advance hp
          simp at hi hse hc ho hcl hr htransit
          constructor <;> simp only [List.length_append, List.length_singleton] <;> omega
        · obtain ⟨places, hp, rfl⟩ := portMove_some h
          have hone := le_total PortPlace.sends (mem_of_advance hp)
          obtain ⟨hi, hse, hc, ho, hcl, hr⟩ := numbers_advance hp
          simp at hi hse hc ho hcl hr hone htransit
          constructor <;> simp only [Bool.toNat_false, List.length_cons] <;> omega
  · simp only [portStep] at h
    split at h
    · cases h
    · split at h
      · cases h
        constructor <;> simp only [total_cons, PortPlace.inTransit, PortPlace.sends,
          PortPlace.counts, PortPlace.opens, PortPlace.closes, PortPlace.reposts,
          List.length_nil] <;> omega
      · cases h
        exact ⟨htransit, hfreed, htaken, hsend, hsending, htlock, hplock, hopening, hclosing,
          hclosed, hcb⟩
  · simp only [portStep] at h
    cases hs with
    | nil =>
        obtain ⟨places, hp, rfl⟩ := portMove_some h
        obtain ⟨hi, hse, hc, ho, hcl, hr⟩ := numbers_advance hp
        simp at hi hse hc ho hcl hr
        constructor <;> simp only <;> omega
    | cons b rest =>
        obtain ⟨places, hp, rfl⟩ := portMove_some h
        obtain ⟨hi, hse, hc, ho, hcl, hr⟩ := numbers_advance hp
        simp [Activity.isCallback] at hi hse hc ho hcl hr
        constructor <;> simp only <;> omega

omit [DecidableEq η] in
theorem counted_beginDisable (hs : Counted s) (h : s.beginDisable = some s') : Counted s' := by
  obtain ⟨htransit, hfreed, htaken, hsend, hsending, htlock, hplock, hopening, hclosing, hclosed,
    hcb⟩ := hs
  simp only [Port.beginDisable] at h
  split at h
  · rename_i hen
    have hone : s.isEnabled.toNat = 1 := by simp [hen]
    split at h
    · cases h
    · rename_i hfree
      have hzero : s.portLock.toNat = 0 := by simp [hfree]
      cases h
      constructor <;> simp only [total_cons, PortPlace.inTransit, PortPlace.sends,
        PortPlace.counts, PortPlace.opens, PortPlace.closes, PortPlace.reposts,
        Bool.toNat_true] <;> omega
  · cases h
    exact ⟨htransit, hfreed, htaken, hsend, hsending, htlock, hplock, hopening, hclosing, hclosed,
      hcb⟩

/-- `mmal_port_disable`. -/
theorem counted_disable (hs : Counted s) {role : Role} {op : PortOp η}
    (hop : ∃ ok, op = .disable ∨ op = .shut ∨ op = .shutDown ok ∨ op = .reopen ∨ op = .drain ∨
      op = .await ∨ op = .repost)
    (h : portStep role s op = some s') : Counted s' := by
  obtain ⟨ok, rfl | hop⟩ := hop
  · exact counted_beginDisable hs h
  have hle := counts_le_sends s.places
  have hpl := Bool.toNat_le s.portLock
  obtain ⟨htransit, hfreed, htaken, hsend, hsending, htlock, hplock, hopening, hclosing, hclosed,
    hcb⟩ := hs
  obtain rfl | rfl | rfl | rfl | rfl | rfl := hop
  · simp only [portStep] at h
    split at h
    · cases h
    · rename_i hfree
      have hzero : s.sendLock.toNat = 0 := by simp [hfree]
      obtain ⟨places, hp, rfl⟩ := portMove_some h
      have hone := le_total PortPlace.opens (mem_of_advance hp)
      obtain ⟨hi, hse, hc, ho, hcl, hr⟩ := numbers_advance hp
      have hen := Bool.toNat_le s.isEnabled
      simp at hi hse hc ho hcl hr hone
      constructor <;> simp only [Bool.toNat_false] <;> omega
  · obtain ⟨places, hp, rfl⟩ := portMove_some h
    obtain ⟨hi, hse, hc, ho, hcl, hr⟩ := numbers_advance hp
    cases ok <;> simp at hi hse hc ho hcl hr <;> constructor <;> simp only <;> omega
  · simp only [portStep] at h
    split at h
    · cases h
    · rename_i hfree
      obtain ⟨places, hp, rfl⟩ := portMove_some h
      have hone := le_total PortPlace.closes (mem_of_advance hp)
      obtain ⟨hi, hse, hc, ho, hcl, hr⟩ := numbers_advance hp
      simp at hi hse hc ho hcl hr hone
      constructor <;> simp only [Bool.toNat_true, Bool.toNat_false] <;> omega
  · simp only [portStep] at h
    cases hw : s.waiting with
    | nil =>
        rw [hw] at h htransit
        obtain ⟨places, hp, rfl⟩ := portMove_some h
        obtain ⟨hi, hse, hc, ho, hcl, hr⟩ := numbers_advance hp
        simp at hi hse hc ho hcl hr htransit
        constructor <;> simp only [hw, List.length_nil] <;> omega
    | cons b waiting =>
        rw [hw] at h htransit
        obtain ⟨places, hp, rfl⟩ := portMove_some h
        obtain ⟨hi, hse, hc, ho, hcl, hr⟩ := numbers_advance hp
        simp [Activity.isCallback] at hi hse hc ho hcl hr htransit
        constructor <;> simp only <;> omega
  · simp only [portStep] at h
    split at h
    · cases h
    · obtain ⟨places, hp, rfl⟩ := portMove_some h
      have hone := le_total PortPlace.closes (mem_of_advance hp)
      obtain ⟨hi, hse, hc, ho, hcl, hr⟩ := numbers_advance hp
      simp at hi hse hc ho hcl hr hone
      constructor <;> simp only <;> omega
  · obtain ⟨places, hp, rfl⟩ := portMove_some h
    have hone := le_total PortPlace.reposts (mem_of_advance hp)
    obtain ⟨hi, hse, hc, ho, hcl, hr⟩ := numbers_advance hp
    simp at hi hse hc ho hcl hr hone
    constructor <;> simp only [Bool.toNat_false] <;> omega

omit [DecidableEq η] in
theorem counted_enable (hs : Counted s) (hport : s.portLock = false) (hen : s.isEnabled = false)
    (ok : Bool) : Counted (s.enableInternal ok) := by
  have hle := counts_le_sends s.places
  obtain ⟨htransit, hfreed, htaken, hsend, hsending, htlock, hplock, hopening, hclosing, hclosed,
    hcb⟩ := hs
  have hzero : s.portLock.toNat = 0 := by simp [hport]
  have hoff : s.isEnabled.toNat = 0 := by simp [hen]
  have hok := Bool.toNat_le ok
  constructor <;> simp only [Port.enableInternal, Bool.toNat_true] <;> omega

omit [DecidableEq η] in
theorem counted_beginLoop (hs : Counted s) : Counted s.beginLoop := by
  obtain ⟨htransit, hfreed, htaken, hsend, hsending, htlock, hplock, hopening, hclosing, hclosed,
    hcb⟩ := hs
  constructor <;> simp only [Port.beginLoop, total_cons, PortPlace.inTransit, PortPlace.sends,
    PortPlace.counts, PortPlace.opens, PortPlace.closes, PortPlace.reposts, Activity.isCallback,
    Bool.toNat_false] <;> omega

theorem counted_start (hs : Counted s) {role : Role} {accepted : Bool}
    (h : portStep role s (.startCapture accepted) = some s') : Counted s' := by
  cases role with
  | video =>
      cases accepted with
      | true =>
          cases h
          exact counted_beginLoop hs
      | false => exact counted_beginDisable hs h
  | still =>
      simp only [portStep] at h
      split at h
      · cases h
        exact hs
      · split at h
        · cases h
        · rename_i hen hport
          simp only [Bool.not_eq_true] at hen hport
          have henabled := counted_enable hs hport hen accepted
          cases h
          cases accepted with
          | true => exact counted_beginLoop henabled
          | false => exact henabled

/-- Every step keeps the count right. -/
theorem counted_step (role : Role) (s : Port η) (op : PortOp η) (s' : Port η) (hs : Counted s)
    (h : portStep role s op = some s') : Counted s' := by
  cases op with
  | enable ok =>
      simp only [portStep] at h
      split at h
      · rename_i hcond
        cases h
        exact counted_enable hs hcond.2.1 hcond.2.2 ok
      · cases h
  | startCapture accepted => exact counted_start hs h
  | getInitial left => exact counted_client hs (by simp) h
  | started => exact counted_client hs (by simp) h
  | release b => exact counted_client hs (by simp) h
  | test => exact counted_client hs (by simp) h
  | get => exact counted_client hs (by simp) h
  | lock a => exact counted_send hs ⟨a, true, by simp⟩ h
  | count a => exact counted_send hs ⟨a, true, by simp⟩ h
  | claim a => exact counted_send hs ⟨a, true, by simp⟩ h
  | pass a ok => exact counted_send hs ⟨a, ok, by simp⟩ h
  | refuse a => exact counted_send hs ⟨a, true, by simp⟩ h
  | deliver b => exact counted_return hs (by simp) h
  | finish => exact counted_return hs (by simp) h
  | pause => exact counted_return hs (by simp) h
  | resume => exact counted_return hs (by simp) h
  | resumeSend ok => exact counted_return hs (by simp) h
  | flush ok => exact counted_return hs (by simp) h
  | flushNext hs' => exact counted_return hs (by simp) h
  | disable => exact counted_disable hs ⟨true, by simp⟩ h
  | shut => exact counted_disable hs ⟨true, by simp⟩ h
  | shutDown ok => exact counted_disable hs ⟨ok, by simp⟩ h
  | reopen => exact counted_disable hs ⟨true, by simp⟩ h
  | drain => exact counted_disable hs ⟨true, by simp⟩ h
  | await => exact counted_disable hs ⟨true, by simp⟩ h
  | repost => exact counted_disable hs ⟨true, by simp⟩ h

theorem counted_run {role : Role} {hs : List η} {ops : List (PortOp η)}
    (h : run (portStep role) (.init hs) ops = some s) : Counted s :=
  run_invariant (counted_step role) (counted_init hs) h

omit [DecidableEq η] in
/-- The places that count for nothing. -/
theorem place_idle {t : PortPlace η} (hin : t.inTransit = 0) (hsend : t.sends = 0)
    (hopen : t.opens = 0) (hclose : t.closes = 0) (hrepost : t.reposts = 0) :
    t = .flushing [] ∨ ∃ a, t = .client a ∧ a.isCallback = false := by
  cases t <;> simp at hin hsend hopen hclose hrepost
  · simpa using hin
  · simpa using hin

/-- A port that is neither enabled nor being disabled has nothing in it: no
    header is with the component or in the queue of the port, nobody is in a
    callback, and nobody who has been let in is still sending. -/
theorem disabled_port_is_empty {role : Role} {hs : List η} {ops : List (PortOp η)}
    (h : run (portStep role) (.init hs) ops = some s) (hen : s.isEnabled = false)
    (hport : s.portLock = false) :
    s.component = [] ∧ s.waiting = [] ∧
      ∀ t ∈ s.places, t = .flushing [] ∨ ∃ a, t = .client a ∧ a.isCallback = false := by
  have hcounted := counted_run h
  have htransit := hcounted.transit
  have hplock := hcounted.portLock
  have hsending := hcounted.sending
  simp only [hport, Bool.toNat_false] at hplock
  simp only [hen, Bool.toNat_false] at hsending
  have hzero := hcounted.closed (by simp only [hen, Bool.toNat_false]; omega)
  refine ⟨List.length_eq_zero_iff.mp (by omega), List.length_eq_zero_iff.mp (by omega), ?_⟩
  intro t ht
  have hin : t.inTransit = 0 := total_eq_zero_iff.mp (by omega) t ht
  have hsend : t.sends = 0 := total_eq_zero_iff.mp (by omega) t ht
  have hopen : t.opens = 0 := total_eq_zero_iff.mp (by omega) t ht
  have hclose : t.closes = 0 := total_eq_zero_iff.mp (by omega) t ht
  have hrepost : t.reposts = 0 := total_eq_zero_iff.mp (by omega) t ht
  exact place_idle hin hsend hopen hclose hrepost

/-- A header comes back while the port waits for it to be disabled. -/
theorem disabled_port_is_empty_once :
    ∃ s, run (portStep .still) (.init [7]) [.startCapture true, .getInitial 0,
        .lock (.initial 0 7), .count (.initial 0 7), .claim (.initial 0 7),
        .pass (.initial 0 7) true, .started, .disable, .shut, .shutDown true, .drain, .deliver 7,
        .release 7, .test, .finish, .await, .repost] = some s ∧ s.component = [] := by
  refine ⟨_, rfl, ?_⟩
  exact (disabled_port_is_empty (show run (portStep .still) (.init [7]) [.startCapture true,
    .getInitial 0, .lock (.initial 0 7), .count (.initial 0 7), .claim (.initial 0 7),
    .pass (.initial 0 7) true, .started, .disable, .shut, .shutDown true, .drain, .deliver 7,
    .release 7, .test, .finish, .await, .repost] = some _ from rfl) rfl rfl).1

/-- While anything is in transit the callback is set, so that a header is never
    returned through a null pointer. -/
theorem callback_set {role : Role} {hs : List η} {ops : List (PortOp η)}
    (h : run (portStep role) (.init hs) ops = some s) (hb : s.component ≠ [] ∨ s.waiting ≠ [] ∨
      ∃ t ∈ s.places, t.inTransit ≠ 0) : s.callback = true := by
  have hcounted := counted_run h
  have htransit := hcounted.transit
  by_contra hc
  rw [Bool.not_eq_true] at hc
  have hcb := hcounted.callback
  simp only [hc, Bool.toNat_false] at hcb
  have hzero := hcounted.closed (by omega)
  rcases hb with hb | hb | ⟨t, ht, hb⟩
  · have hpos := List.length_pos_iff.mpr hb
    omega
  · have hpos := List.length_pos_iff.mpr hb
    omega
  · have hle := le_total PortPlace.inTransit ht
    omega

/-- A header is with the component. -/
theorem callback_set_once :
    ∃ s, run (portStep .still) (.init [7]) [.startCapture true, .getInitial 0,
        .lock (.initial 0 7), .count (.initial 0 7), .claim (.initial 0 7),
        .pass (.initial 0 7) true] = some s ∧ s.callback = true := by
  refine ⟨_, rfl, ?_⟩
  exact callback_set (show run (portStep .still) (.init [7]) [.startCapture true, .getInitial 0,
    .lock (.initial 0 7), .count (.initial 0 7), .claim (.initial 0 7),
    .pass (.initial 0 7) true] = some _ from rfl) (Or.inl (by decide))

end Framework

end RaspiCam
