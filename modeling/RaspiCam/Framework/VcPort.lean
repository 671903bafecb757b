import Mathlib.Data.List.Count
import Mathlib.Logic.Function.Basic
import RaspiCam.Vcos.Blockpool

/-!
# The Way through VideoCore

What `Framework.Port` calls the component is, for the camera and the encoder,
`mmal_vc_api.c`. A header that is sent to a port gets a context from the pool of
the port and goes to VideoCore with it. When it comes back,
`mmal_vc_port_send_callback`, on the thread of VCHIQ, frees the context, puts
the header into the queue of the component and triggers the action of
`mmal_component.c`, a thread that hands every header in the queue to its port.
An event of VideoCore takes the same way from `mmal_vc_port_send_event_callback`
on. An event that is sent to a port does not: it goes back to the port at once.

The action takes its event before it looks at the queue, and looks again after
every header, so the event is never signalled in vain: once everything is at
rest, nothing is left in the queue, `nothing_left`. The same loop runs in
`mmal_vc_port_disable`, on another thread. Both hold `action_mutex`, and between
them everything is delivered once, in the order in which VideoCore has given it
back, `delivered_in_order`.

All ports of a component share the queue. VideoCore gives a header back whenever
it likes. The pool of a port is a count of contexts, which is what
`Vcos.Blockpool` makes of it, `context_of_pool`. A port or a component with a
bad handle loses a context with every header that is sent to it.

Two things break this, and the code says so. If a bulk transfer fails after its
message, the context is free, and VideoCore has the header nevertheless. And if
a port is disabled before its headers are back, their contexts go with the pool.
Neither is expected of VCHIQ and VideoCore, `VcOp.expected`.

## Main definitions

* `Turn`, `Courier`: The loop over the queue, and who can be in it.
* `VcComponent`: The component, its contexts, its queue and its threads.
* `vcStep`: The steps, in any order.
* `OwnMove`: What the threads do by themselves.
* `Underway`: The invariant.

## Theorems

* `underway_step`: Every step keeps the invariant.
* `delivered_in_order`: Everything is delivered once, and in order.
* `contexts_counted`: When a port has a context for a header.
* `context_of_pool`: The pool of blocks has one then.
* `nothing_left`: Nothing stays in the queue.
* `delivery_ends`: The threads come to rest.
-/

namespace RaspiCam

namespace Framework

open Transition

/-- What is in the queue, with its port: a header that VideoCore gives back, or
    an event, which has the context of the events. -/
inductive Parcel (α : Type*)
  | buffer (x : α)
  | event (x : α)
deriving DecidableEq

/-- The header that is given back. -/
def Parcel.header {α : Type*} : Parcel α → Option α
  | .buffer x => some x
  | .event _ => none

variable {π η : Type*}

/-- Where a thread is that holds `action_mutex`. -/
inductive Turn (π η : Type*)
  -- `mmal_port_disable_internal` of a port, or `mmal_port_flush`
  | holding (disables : Option π)
  -- before `mmal_queue_length`
  | checking
  -- before `mmal_queue_get`
  | popping
  -- in `mmal_port_buffer_header_callback` or `mmal_port_event_send`
  | delivering (x : Parcel (π × η))
  -- through with the loop
  | unlocking
deriving DecidableEq

/-- The thread of the action, or one that disables or flushes a port. -/
inductive Courier
  | action
  | client
deriving DecidableEq

/-- Where the thread of VCHIQ is in `mmal_vc_port_send_callback` or
    `mmal_vc_port_send_event_callback`. -/
inductive Vchiq (π η : Type*)
  | idle
  -- the context is free
  | returning (x : Parcel (π × η))
  -- in the queue
  | triggering
deriving DecidableEq

/-- What becomes of `mmal_vc_send_message`: the message is not queued, or it is,
    with its bulk transfer or without. -/
inductive Queued
  | sent
  | refused
  | torn
deriving DecidableEq

/-- A component that VideoCore runs. `pool` are the contexts that are free, if
    the port has a pool, which was created with `bufferNum`. `sending` are the
    headers that have a context and are not in a message yet, `sent` those that
    VideoCore has. `awake` says that the thread of the action has taken its event
    and wants the mutex. What the ports have accepted, what they gave back at
    once, what VideoCore has given back, what was delivered, and how many
    contexts were lost since a port was enabled is recorded. -/
structure VcComponent (π η : Type*) where
  pool : π → Option Nat
  bufferNum : π → Nat
  sending : List (π × η)
  sent : List (π × η)
  queue : List (Parcel (π × η))
  event : Bool
  awake : Bool
  vchiq : Vchiq π η
  holder : Option (Courier × Turn π η)
  accepted : List (π × η)
  bounced : List (π × η)
  returned : List (Parcel (π × η))
  delivered : List (Parcel (π × η))
  lost : π → Nat

/-- A component that was created. No port is enabled. -/
def VcComponent.init : VcComponent π η where
  pool := fun _ => none
  bufferNum := fun _ => 0
  sending := []
  sent := []
  queue := []
  event := false
  awake := false
  vchiq := .idle
  holder := none
  accepted := []
  bounced := []
  returned := []
  delivered := []
  lost := fun _ => 0

/-- The steps. -/
inductive VcOp (π η : Type*)
  -- `mmal_vc_port_enable` that succeeds
  | enable (p : π) (bufferNum : Nat)
  -- `mmal_vc_port_send` of an event
  | bounce (x : π × η)
  -- `mmal_vc_port_send`
  | alloc (x : π × η)
  | queue (x : π × η) (status : Queued)
  -- `mmal_vc_port_send_callback`, and `mmal_vc_port_send_event_callback`
  | giveBack (x : π × η)
  | raise (x : π × η)
  | put
  | trigger
  -- `mmal_component_action_thread_func`
  | wake
  | lock
  -- `mmal_component_action_lock` on another thread
  | hold (disables : Option π)
  -- the answer of VideoCore to it
  | held
  -- `mmal_vc_do_callback_loop`, or the loop in `mmal_vc_port_disable`
  | check
  | pop
  | deliver
  | unlock
deriving DecidableEq

variable [DecidableEq π] [DecidableEq η]

/-- `vcos_blockpool_free` of a context. -/
def VcComponent.freeContext (s : VcComponent π η) (p : π) : VcComponent π η :=
  { s with pool := Function.update s.pool p ((s.pool p).map (· + 1)) }

/-- The steps of the component. `handles` says whether VideoCore has given the
    component and the port handles that `mmal_vc_port_send` finds good. -/
def vcStep (handles : π → Bool) (s : VcComponent π η) : VcOp π η → Option (VcComponent π η)
  | .enable p bufferNum =>
    if s.pool p = none then
      some { s with
        pool := Function.update s.pool p (some bufferNum)
        bufferNum := Function.update s.bufferNum p bufferNum
        lost := Function.update s.lost p 0 }
    else none
  | .bounce x => some { s with accepted := x :: s.accepted, bounced := s.bounced ++ [x] }
  | .alloc x =>
    match s.pool x.1 with
    -- Without a pool nothing is sent, and neither is it without a context.
    | none => none
    | some 0 => none
    | some (free + 1) =>
      let s := { s with pool := Function.update s.pool x.1 (some free) }
      if handles x.1 then some { s with sending := x :: s.sending }
      -- It returns without freeing the context.
      else some { s with lost := Function.update s.lost x.1 (s.lost x.1 + 1) }
  | .queue x status =>
    if x ∈ s.sending then
      let s := { s with sending := s.sending.erase x }
      match status with
      | .sent => some { s with sent := x :: s.sent, accepted := x :: s.accepted }
      | .refused => some (s.freeContext x.1)
      | .torn => some ({ s with sent := x :: s.sent }.freeContext x.1)
    else none
  | .giveBack x =>
    if s.vchiq = .idle ∧ x ∈ s.sent then
      some { s.freeContext x.1 with
        sent := s.sent.erase x
        returned := s.returned ++ [.buffer x]
        vchiq := .returning (.buffer x) }
    else none
  | .raise x =>
    if s.vchiq = .idle then
      some { s with returned := s.returned ++ [.event x], vchiq := .returning (.event x) }
    else none
  | .put =>
    match s.vchiq with
    | .returning x => some { s with queue := s.queue ++ [x], vchiq := .triggering }
    | _ => none
  | .trigger =>
    if s.vchiq = .triggering then some { s with event := true, vchiq := .idle } else none
  -- The thread of the action waits if it is neither awake nor in the loop.
  | .wake =>
    if s.event = true ∧ s.awake = false ∧ s.holder.map Prod.fst ≠ some .action then
      some { s with event := false, awake := true }
    else none
  | .lock =>
    if s.awake = true ∧ s.holder = none then
      some { s with awake := false, holder := some (.action, .checking) }
    else none
  | .hold disables =>
    if s.holder = none then some { s with holder := some (.client, .holding disables) } else none
  | .held =>
    match s.holder with
    -- The pool is deleted, and the loop follows.
    | some (c, .holding (some p)) =>
      some { s with pool := Function.update s.pool p none, holder := some (c, .checking) }
    | some (c, .holding none) => some { s with holder := some (c, .unlocking) }
    | _ => none
  | .check =>
    match s.holder with
    | some (c, .checking) =>
      some { s with holder := some (c, if s.queue.length = 0 then .unlocking else .popping) }
    | _ => none
  -- With nothing in the queue nothing is called, and the loop goes on.
  | .pop =>
    match s.holder with
    | some (c, .popping) =>
      match s.queue with
      | [] => some { s with holder := some (c, .checking) }
      | x :: queue => some { s with queue := queue, holder := some (c, .delivering x) }
    | _ => none
  | .deliver =>
    match s.holder with
    | some (c, .delivering x) =>
      some { s with delivered := s.delivered ++ [x], holder := some (c, .checking) }
    | _ => none
  | .unlock =>
    match s.holder with
    | some (_, .unlocking) => some { s with holder := none }
    | _ => none

/-- How many headers of a port are in a list. -/
def ofPort (p : π) (xs : List (π × η)) : Nat := xs.countP fun x => x.1 = p

/-- The headers of a port that is being disabled are back. -/
def VcComponent.allBack (s : VcComponent π η) : Bool :=
  match s.holder with
  | some (_, .holding (some p)) => ofPort p s.sending = 0 ∧ ofPort p s.sent = 0
  | _ => true

/-- No bulk transfer fails after its message, and VideoCore gives all headers of
    a port back before it answers that the port is disabled. While a port is
    disabled `mmal_port.c` lets nobody send to it. -/
def VcOp.expected (s : VcComponent π η) : VcOp π η → Bool
  | .queue _ status => status ≠ .torn
  | .held => s.allBack
  | _ => true

omit [DecidableEq π] [DecidableEq η] in
/-- What is in the hand of the thread that holds the mutex. -/
def VcComponent.inHand (s : VcComponent π η) : List (Parcel (π × η)) :=
  match s.holder with
  | some (_, .delivering x) => [x]
  | _ => []

omit [DecidableEq π] [DecidableEq η] in
/-- What is in the hand of the thread of VCHIQ. -/
def VcComponent.onItsWay (s : VcComponent π η) : List (Parcel (π × η)) :=
  match s.vchiq with
  | .returning x => [x]
  | _ => []

/-- Somebody is going to look at the queue. -/
def VcComponent.attended (s : VcComponent π η) : Prop :=
  s.event = true ∨ s.vchiq = .triggering ∨ s.awake = true ∨
    ∃ c, s.holder = some (c, .checking) ∨ s.holder = some (c, .popping) ∨
      ∃ x, s.holder = some (c, .delivering x)

/-- Every context of a port is free or in use or lost, and without a pool there
    is none. -/
def Contexts (handles : π → Bool) (s : VcComponent π η) (p : π) : Prop :=
  match s.pool p with
  | none => ofPort p s.sending = 0 ∧ ofPort p s.sent = 0
  | some free => free + ofPort p s.sending + ofPort p s.sent + s.lost p = s.bufferNum p ∧
      (handles p = true → s.lost p = 0)

/-- Everything is in one place, the contexts are counted, and the queue is not
    forgotten. -/
structure Underway (handles : π → Bool) (s : VcComponent π η) : Prop where
  order : s.returned = s.delivered ++ s.inHand ++ s.queue ++ s.onItsWay
  accepted : s.accepted.Perm (s.sent ++ s.returned.filterMap Parcel.header ++ s.bounced)
  counted : ∀ p, Contexts handles s p
  attended : s.queue ≠ [] → s.attended

variable {handles : π → Bool} {s s' u : VcComponent π η}

/-- The steps that need nothing from outside but the answer to what is being
    disabled or flushed: nothing from the client, no header and no event from
    VideoCore, and no other thread that takes the mutex. -/
def VcOp.isOwn : VcOp π η → Bool
  | .enable _ _ | .bounce _ | .alloc _ | .queue _ _ | .giveBack _ | .raise _ | .hold _ => false
  | _ => true

/-- What the threads do by themselves, and from where. -/
inductive OwnMove (s : VcComponent π η) : VcOp π η → VcComponent π η → Prop
  | put (x : Parcel (π × η)) (h : s.vchiq = .returning x) :
    OwnMove s .put { s with queue := s.queue ++ [x], vchiq := .triggering }
  | trigger (h : s.vchiq = .triggering) :
    OwnMove s .trigger { s with event := true, vchiq := .idle }
  | wake (h : s.event = true) (hawake : s.awake = false) :
    OwnMove s .wake { s with event := false, awake := true }
  | lock (h : s.awake = true) (hfree : s.holder = none) :
    OwnMove s .lock { s with awake := false, holder := some (.action, .checking) }
  | disabled (c : Courier) (p : π) (h : s.holder = some (c, .holding (some p))) :
    OwnMove s .held
      { s with pool := Function.update s.pool p none, holder := some (c, .checking) }
  | flushed (c : Courier) (h : s.holder = some (c, .holding none)) :
    OwnMove s .held { s with holder := some (c, .unlocking) }
  | empty (c : Courier) (h : s.holder = some (c, .checking)) (hq : s.queue = []) :
    OwnMove s .check { s with holder := some (c, .unlocking) }
  | found (c : Courier) (h : s.holder = some (c, .checking)) (hq : s.queue ≠ []) :
    OwnMove s .check { s with holder := some (c, .popping) }
  | missed (c : Courier) (h : s.holder = some (c, .popping)) (hq : s.queue = []) :
    OwnMove s .pop { s with holder := some (c, .checking) }
  | popped (c : Courier) (x : Parcel (π × η)) (queue : List (Parcel (π × η)))
    (h : s.holder = some (c, .popping)) (hq : s.queue = x :: queue) :
    OwnMove s .pop { s with queue := queue, holder := some (c, .delivering x) }
  | deliver (c : Courier) (x : Parcel (π × η)) (h : s.holder = some (c, .delivering x)) :
    OwnMove s .deliver { s with delivered := s.delivered ++ [x], holder := some (c, .checking) }
  | unlock (c : Courier) (h : s.holder = some (c, .unlocking)) :
    OwnMove s .unlock { s with holder := none }

/-- A step of the threads is one of their moves. -/
theorem own_move {op : VcOp π η} (hop : op.isOwn = true) (h : vcStep handles s op = some s') :
    OwnMove s op s' := by
  cases op with
  | enable | bounce | alloc | queue | giveBack | raise | hold => cases hop
  | put =>
      simp only [vcStep] at h
      split at h
      · cases h
        exact .put _ ‹_›
      · cases h
  | trigger =>
      simp only [vcStep] at h
      split at h
      · cases h
        exact .trigger ‹_›
      · cases h
  | wake =>
      simp only [vcStep] at h
      split at h
      · rename_i hcond
        cases h
        exact .wake hcond.1 hcond.2.1
      · cases h
  | lock =>
      simp only [vcStep] at h
      split at h
      · rename_i hcond
        cases h
        exact .lock hcond.1 hcond.2
      · cases h
  | held =>
      simp only [vcStep] at h
      split at h
      · cases h
        exact .disabled _ _ ‹_›
      · cases h
        exact .flushed _ ‹_›
      · cases h
  | check =>
      simp only [vcStep] at h
      split at h
      · cases h
        by_cases hq : s.queue = []
        · rw [if_pos (List.length_eq_zero_iff.mpr hq)]
          exact .empty _ ‹_› hq
        · rw [if_neg fun hlength => hq (List.length_eq_zero_iff.mp hlength)]
          exact .found _ ‹_› hq
      · cases h
  | pop =>
      simp only [vcStep] at h
      split at h
      · split at h
        · cases h
          exact .missed _ ‹_› ‹_›
        · cases h
          exact .popped _ _ _ ‹_› ‹_›
      · cases h
  | deliver =>
      simp only [vcStep] at h
      split at h
      · cases h
        exact .deliver _ _ ‹_›
      · cases h
  | unlock =>
      simp only [vcStep] at h
      split at h
      · cases h
        exact .unlock _ ‹_›
      · cases h

omit [DecidableEq η] in
theorem underway_init : Underway handles (VcComponent.init : VcComponent π η) := by
  refine ⟨rfl, List.Perm.nil, fun p => ⟨rfl, rfl⟩, fun h => ?_⟩
  exact absurd rfl h

theorem ofPort_erase {x : π × η} {xs : List (π × η)} (h : x ∈ xs) (p : π) :
    ofPort p xs = ofPort p (xs.erase x) + if x.1 = p then 1 else 0 := by
  rw [ofPort, (List.perm_cons_erase h).countP_eq, List.countP_cons, ofPort]
  simp

omit [DecidableEq η] in
theorem ofPort_cons (x : π × η) (xs : List (π × η)) (p : π) :
    ofPort p (x :: xs) = ofPort p xs + if x.1 = p then 1 else 0 := by
  rw [ofPort, List.countP_cons, ofPort]
  simp

omit [DecidableEq η] in
/-- A step that leaves as many headers of a port in use leaves its contexts
    counted. -/
theorem Contexts.same {p : π} (h : Contexts handles s p)
    (hu : u.pool p = s.pool p ∧ u.bufferNum p = s.bufferNum p ∧ u.lost p = s.lost p)
    (hin : ofPort p u.sending + ofPort p u.sent = ofPort p s.sending + ofPort p s.sent) :
    Contexts handles u p := by
  obtain ⟨hpool, hnum, hlost⟩ := hu
  rw [Contexts, hpool, hnum, hlost]
  unfold Contexts at h
  cases hfree : s.pool p with
  | none =>
      rw [hfree] at h
      simp only at h ⊢
      omega
  | some free =>
      rw [hfree] at h
      exact ⟨by omega, h.2⟩

omit [DecidableEq η] in
/-- A port with a header that is being sent, or with VideoCore, has its pool. -/
theorem Contexts.pool {p : π} (h : Contexts handles s p)
    (hin : 0 < ofPort p s.sending + ofPort p s.sent) : ∃ free, s.pool p = some free ∧
      free + ofPort p s.sending + ofPort p s.sent + s.lost p = s.bufferNum p ∧
      (handles p = true → s.lost p = 0) := by
  unfold Contexts at h
  split at h
  · omega
  · rename_i free hpool
    exact ⟨free, hpool, h⟩

omit [DecidableEq η] in
/-- A context is freed with the header that it was for. -/
theorem Contexts.freed {x : π × η} {p : π} (h : Contexts handles s p)
    (hu : u.pool = Function.update s.pool x.1 ((s.pool x.1).map (· + 1)) ∧
      u.bufferNum = s.bufferNum ∧ u.lost = s.lost)
    (hone : ofPort p u.sending + ofPort p u.sent + (if x.1 = p then 1 else 0) =
      ofPort p s.sending + ofPort p s.sent) : Contexts handles u p := by
  obtain ⟨hpool, hnum, hlost⟩ := hu
  by_cases hp : x.1 = p
  · subst hp
    rw [if_pos rfl] at hone
    obtain ⟨free, hfree, hcount, hgood⟩ := h.pool (by omega)
    rw [Contexts, hpool, Function.update_self, hfree, hnum, hlost]
    exact ⟨by simp only; omega, hgood⟩
  · rw [if_neg hp] at hone
    refine h.same ⟨?_, by rw [hnum], by rw [hlost]⟩ hone
    rw [hpool, Function.update_of_ne (Ne.symm hp)]

/-- `mmal_vc_port_enable` and `mmal_vc_port_send`. -/
theorem underway_send (hs : Underway handles s) {op : VcOp π η}
    (hop : (∃ p n, op = .enable p n) ∨ (∃ x, op = .bounce x) ∨ (∃ x, op = .alloc x) ∨
      ∃ x status, op = .queue x status)
    (hexpected : op.expected s = true) (h : vcStep handles s op = some s') :
    Underway handles s' := by
  obtain ⟨p, n, rfl⟩ | ⟨x, rfl⟩ | ⟨x, rfl⟩ | ⟨x, status, rfl⟩ := hop
  · simp only [vcStep] at h
    split at h
    · rename_i hnone
      cases h
      refine ⟨hs.order, hs.accepted, fun q => ?_, hs.attended⟩
      by_cases hq : q = p
      · subst hq
        have hcounted := hs.counted q
        simp only [Contexts, hnone] at hcounted
        simp [Contexts, hcounted.1, hcounted.2]
      · exact (hs.counted q).same (by simp [Function.update_of_ne hq]) rfl
    · cases h
  · cases h
    refine ⟨hs.order, ?_, hs.counted, hs.attended⟩
    rw [← List.append_assoc]
    exact (hs.accepted.cons x).trans (List.perm_append_singleton x _).symm
  · simp only [vcStep] at h
    split at h
    · cases h
    · cases h
    · rename_i free hpool
      have hself := hs.counted x.1
      simp only [Contexts, hpool] at hself
      split at h
      · rename_i hgood
        cases h
        refine ⟨hs.order, hs.accepted, fun p => ?_, hs.attended⟩
        by_cases hp : p = x.1
        · subst hp
          simp only [Contexts, Function.update_self, ofPort_cons, if_true]
          exact ⟨by omega, hself.2⟩
        · refine (hs.counted p).same ⟨Function.update_of_ne hp _ _, rfl, rfl⟩ ?_
          simp only [ofPort_cons, if_neg (Ne.symm hp), Nat.add_zero]
      · rename_i hbad
        cases h
        refine ⟨hs.order, hs.accepted, fun p => ?_, hs.attended⟩
        by_cases hp : p = x.1
        · subst hp
          simp only [Contexts, Function.update_self]
          exact ⟨by omega, fun hgood => absurd hgood hbad⟩
        · exact (hs.counted p).same
            ⟨Function.update_of_ne hp _ _, rfl, Function.update_of_ne hp _ _⟩ rfl
  · simp only [vcStep] at h
    split at h
    · rename_i hx
      have hsending := ofPort_erase hx
      cases status with
      | sent =>
          cases h
          refine ⟨hs.order, hs.accepted.cons x, fun p => ?_, hs.attended⟩
          have herase := hsending p
          refine (hs.counted p).same ⟨rfl, rfl, rfl⟩ ?_
          simp only [ofPort_cons]
          omega
      | refused =>
          cases h
          refine ⟨hs.order, hs.accepted, fun p => ?_, hs.attended⟩
          have herase := hsending p
          refine (hs.counted p).freed (x := x) ⟨rfl, rfl, rfl⟩ ?_
          simp only [VcComponent.freeContext]
          omega
      | torn => simp [VcOp.expected] at hexpected
    · cases h

/-- VideoCore gives something back. -/
theorem underway_return (hs : Underway handles s) {op : VcOp π η}
    (hop : (∃ x, op = .giveBack x) ∨ ∃ x, op = .raise x)
    (h : vcStep handles s op = some s') : Underway handles s' := by
  have hidle : ∀ hne : s.queue ≠ [], s.vchiq = .idle → s.event = true ∨ s.awake = true ∨
      ∃ c, s.holder = some (c, .checking) ∨ s.holder = some (c, .popping) ∨
        ∃ x, s.holder = some (c, .delivering x) := fun hne hidle => by
    rcases hs.attended hne with hevent | hvchiq | hrest
    · exact Or.inl hevent
    · rw [hidle] at hvchiq
      cases hvchiq
    · exact Or.inr hrest
  have horder := hs.order
  obtain ⟨x, rfl⟩ | ⟨x, rfl⟩ := hop
  · simp only [vcStep] at h
    split at h
    · rename_i hcond
      obtain ⟨hvchiq, hx⟩ := hcond
      simp only [VcComponent.onItsWay, hvchiq, List.append_nil] at horder
      cases h
      refine ⟨?_, ?_, fun p => ?_, fun hne => ?_⟩
      · rw [horder]
        rfl
      · refine hs.accepted.trans ?_
        simp only [List.filterMap_append, List.filterMap_cons, Parcel.header, List.filterMap_nil,
          ← List.append_assoc]
        refine List.Perm.append_right _ ?_
        refine ((List.perm_cons_erase hx).append_right _).trans ?_
        exact (List.perm_append_singleton x _).symm
      · have herase := ofPort_erase hx p
        refine (hs.counted p).freed (x := x) ⟨rfl, rfl, rfl⟩ ?_
        simp only [VcComponent.freeContext]
        omega
      · rcases hidle hne hvchiq with hevent | hrest
        · exact Or.inl hevent
        · exact Or.inr (Or.inr hrest)
    · cases h
  · simp only [vcStep] at h
    split at h
    · rename_i hvchiq
      simp only [VcComponent.onItsWay, hvchiq, List.append_nil] at horder
      cases h
      refine ⟨?_, ?_, hs.counted, fun hne => ?_⟩
      · rw [horder]
        rfl
      · simp only [List.filterMap_append, List.filterMap_cons, Parcel.header, List.filterMap_nil,
          List.append_nil]
        exact hs.accepted
      · rcases hidle hne hvchiq with hevent | hrest
        · exact Or.inl hevent
        · exact Or.inr (Or.inr hrest)
    · cases h

omit [DecidableEq π] [DecidableEq η] in
/-- A thread that is about to look at the queue. -/
theorem attended_of_holder {c : Courier} {t : Turn π η} (h : s.holder = some (c, t))
    (ht : t = .checking ∨ t = .popping ∨ ∃ x, t = .delivering x) : s.attended := by
  refine Or.inr (Or.inr (Or.inr ⟨c, ?_⟩))
  rcases ht with rfl | rfl | ⟨x, rfl⟩
  · exact Or.inl h
  · exact Or.inr (Or.inl h)
  · exact Or.inr (Or.inr ⟨x, h⟩)

omit [DecidableEq π] [DecidableEq η] in
/-- Whoever attends to the queue is not a thread that is not about to look. -/
theorem attended_away (h : s.attended) (hu : u.event = s.event ∧ u.vchiq = s.vchiq ∧
      u.awake = s.awake)
    (hholder : ∀ c t, s.holder = some (c, t) → t = .unlocking ∨ ∃ d, t = .holding d) :
    u.attended := by
  rcases h with hevent | hvchiq | hawake | ⟨c, hc | hc | ⟨x, hc⟩⟩
  · exact Or.inl (hu.1.trans hevent)
  · exact Or.inr (Or.inl (hu.2.1.trans hvchiq))
  · exact Or.inr (Or.inr (Or.inl (hu.2.2.trans hawake)))
  · simpa using hholder c _ hc
  · simpa using hholder c _ hc
  · simpa using hholder c _ hc

/-- Another thread takes the mutex. -/
theorem underway_hold (hs : Underway handles s) {d : Option π}
    (h : vcStep handles s (.hold d) = some s') : Underway handles s' := by
  have horder := hs.order
  simp only [vcStep] at h
  split at h
  · rename_i hfree
    simp only [VcComponent.inHand, hfree] at horder
    cases h
    refine ⟨horder, hs.accepted, hs.counted, fun hne => ?_⟩
    exact attended_away (hs.attended hne) ⟨rfl, rfl, rfl⟩ (by simp [hfree])
  · cases h

omit [DecidableEq η] in
/-- The threads by themselves. -/
theorem underway_own (hs : Underway handles s) {op : VcOp π η} (hexpected : op.expected s = true)
    (h : OwnMove s op s') : Underway handles s' := by
  have horder := hs.order
  cases h with
  | put x hvchiq =>
      simp only [VcComponent.onItsWay, hvchiq] at horder
      refine ⟨?_, hs.accepted, hs.counted, fun _ => Or.inr (Or.inl rfl)⟩
      rw [horder]
      simp [VcComponent.inHand, VcComponent.onItsWay]
  | trigger hvchiq =>
      simp only [VcComponent.onItsWay, hvchiq] at horder
      exact ⟨horder, hs.accepted, hs.counted, fun _ => Or.inl rfl⟩
  | wake hevent hawake =>
      exact ⟨horder, hs.accepted, hs.counted, fun _ => Or.inr (Or.inr (Or.inl rfl))⟩
  | lock hawake hfree =>
      simp only [VcComponent.inHand, hfree] at horder
      exact ⟨horder, hs.accepted, hs.counted, fun _ => attended_of_holder rfl (Or.inl rfl)⟩
  | disabled c p hholder =>
      simp only [VcOp.expected, VcComponent.allBack, hholder, decide_eq_true_eq] at hexpected
      simp only [VcComponent.inHand, hholder] at horder
      refine ⟨horder, hs.accepted, fun q => ?_, fun _ => attended_of_holder rfl (Or.inl rfl)⟩
      by_cases hq : q = p
      · subst hq
        simpa [Contexts] using hexpected
      · exact (hs.counted q).same (by simp [Function.update_of_ne hq]) rfl
  | flushed c hholder =>
      simp only [VcComponent.inHand, hholder] at horder
      refine ⟨horder, hs.accepted, hs.counted, fun hne => ?_⟩
      refine attended_away (hs.attended hne) ⟨rfl, rfl, rfl⟩ fun c' t ht => Or.inr ⟨none, ?_⟩
      rw [hholder] at ht
      cases ht
      rfl
  | empty c hholder hq =>
      simp only [VcComponent.inHand, hholder] at horder
      exact ⟨horder, hs.accepted, hs.counted, fun hne => absurd hq hne⟩
  | found c hholder hq =>
      simp only [VcComponent.inHand, hholder] at horder
      exact ⟨horder, hs.accepted, hs.counted,
        fun _ => attended_of_holder rfl (Or.inr (Or.inl rfl))⟩
  | missed c hholder hq =>
      simp only [VcComponent.inHand, hholder] at horder
      exact ⟨horder, hs.accepted, hs.counted, fun _ => attended_of_holder rfl (Or.inl rfl)⟩
  | popped c x queue hholder hq =>
      simp only [VcComponent.inHand, hholder, hq] at horder
      refine ⟨?_, hs.accepted, hs.counted,
        fun _ => attended_of_holder rfl (Or.inr (Or.inr ⟨x, rfl⟩))⟩
      simpa [VcComponent.inHand, VcComponent.onItsWay] using horder
  | deliver c x hholder =>
      simp only [VcComponent.inHand, hholder] at horder
      refine ⟨?_, hs.accepted, hs.counted, fun _ => attended_of_holder rfl (Or.inl rfl)⟩
      simpa [VcComponent.inHand, VcComponent.onItsWay] using horder
  | unlock c hholder =>
      simp only [VcComponent.inHand, hholder] at horder
      refine ⟨horder, hs.accepted, hs.counted, fun hne => ?_⟩
      refine attended_away (hs.attended hne) ⟨rfl, rfl, rfl⟩ fun c' t ht => Or.inl ?_
      rw [hholder] at ht
      cases ht
      rfl

/-- Every step leaves everything in one place, and the queue attended. -/
theorem underway_step (s : VcComponent π η) (op : VcOp π η) (s' : VcComponent π η)
    (hs : Underway handles s) (hexpected : op.expected s = true)
    (h : vcStep handles s op = some s') : Underway handles s' := by
  cases op with
  | enable p n => exact underway_send hs (by simp) hexpected h
  | bounce x => exact underway_send hs (by simp) hexpected h
  | alloc x => exact underway_send hs (by simp) hexpected h
  | queue x status => exact underway_send hs (by simp) hexpected h
  | giveBack x => exact underway_return hs (by simp) h
  | raise x => exact underway_return hs (by simp) h
  | hold d => exact underway_hold hs h
  | put | trigger | wake | lock | held | check | pop | deliver | unlock =>
      exact underway_own hs hexpected (own_move rfl h)

theorem underway_run {ops : List (VcOp π η)}
    (hexpected : Along (vcStep handles) (fun s op => op.expected s = true) .init ops)
    (h : run (vcStep handles) .init ops = some s) : Underway handles s :=
  run_invariant_along underway_step underway_init hexpected h

/-- Whatever the threads and VideoCore do: the headers that the ports have
    accepted are with VideoCore, were given back by it, or went back at once,
    and what VideoCore has given back was delivered, each once and in this order,
    but for the last ones. -/
theorem delivered_in_order {ops : List (VcOp π η)}
    (hexpected : Along (vcStep handles) (fun s op => op.expected s = true) .init ops)
    (h : run (vcStep handles) .init ops = some s) :
    s.accepted.Perm (s.sent ++ s.returned.filterMap Parcel.header ++ s.bounced) ∧
      s.delivered <+: s.returned := by
  have hs := underway_run hexpected h
  refine ⟨hs.accepted, ?_⟩
  rw [hs.order, List.append_assoc, List.append_assoc]
  exact List.prefix_append _ _

/-- A port with a header that comes back after an event, another one that
    VideoCore keeps, and an event that is sent. -/
def eventsBetween : List (VcOp Nat Nat) :=
  [.enable 0 2, .alloc (0, 7), .queue (0, 7) .sent, .alloc (0, 8), .bounce (0, 5), .raise (0, 3),
    .put, .queue (0, 8) .sent, .trigger, .giveBack (0, 8), .wake, .lock, .put, .check, .pop,
    .deliver, .check, .pop, .trigger, .deliver]

theorem delivered_in_order_two : ∃ s : VcComponent Nat Nat,
    run (vcStep fun _ => true) .init eventsBetween = some s ∧
      s.delivered = [.event (0, 3), .buffer (0, 8)] ∧ s.sent = [(0, 7)] ∧ s.bounced = [(0, 5)] ∧
      s.accepted.Perm (s.sent ++ s.returned.filterMap Parcel.header ++ s.bounced) ∧
      s.delivered <+: s.returned := by
  refine ⟨_, rfl, rfl, rfl, rfl, ?_⟩
  exact delivered_in_order (by decide)
    (show run (vcStep fun _ => true) .init eventsBetween = some _ from rfl)

/-- A port has a context for one more header exactly if it is enabled, and fewer
    headers of it are with VideoCore, or about to be sent, or were lost to a bad
    handle, than it was enabled with. With good handles none is lost. -/
theorem contexts_counted {ops : List (VcOp π η)}
    (hexpected : Along (vcStep handles) (fun s op => op.expected s = true) .init ops)
    (h : run (vcStep handles) .init ops = some s) (x : π × η) :
    ((∃ s', vcStep handles s (.alloc x) = some s') ↔ s.pool x.1 ≠ none ∧
      ofPort x.1 s.sending + ofPort x.1 s.sent + s.lost x.1 < s.bufferNum x.1) ∧
      (s.pool x.1 ≠ none → handles x.1 = true → s.lost x.1 = 0) := by
  have hcounted := (underway_run hexpected h).counted x.1
  unfold Contexts at hcounted
  cases hpool : s.pool x.1 with
  | none => simp [vcStep, hpool]
  | some free =>
      rw [hpool] at hcounted
      obtain ⟨hcount, hgood⟩ := hcounted
      refine ⟨?_, fun _ => hgood⟩
      cases free with
      | zero =>
          simp only [vcStep, hpool, reduceCtorEq, exists_false, false_iff, not_and]
          omega
      | succ free =>
          have hstep : ∃ s', vcStep handles s (.alloc x) = some s' := by
            simp only [vcStep, hpool]
            split <;> exact ⟨_, rfl⟩
          refine ⟨fun _ => ⟨by simp, by omega⟩, fun _ => hstep⟩

/-- A port with two contexts and a header with VideoCore, and one with a bad
    handle. -/
def lostContext : List (VcOp Nat Nat) :=
  [.enable 0 2, .enable 9 1, .alloc (0, 7), .queue (0, 7) .sent, .alloc (9, 7)]

/-- The pool that a port is enabled with has a block exactly if there is a
    context, as long as its blocks in use are the contexts in use. -/
theorem context_of_pool {ops : List (VcOp π η)}
    (hexpected : Along (vcStep handles) (fun s op => op.expected s = true) .init ops)
    (h : run (vcStep handles) .init ops = some s) (x : π × η) (henabled : s.pool x.1 ≠ none)
    {blockSize align mem : Nat} {p : Vcos.Blockpool}
    (hp : Vcos.Created (s.bufferNum x.1) blockSize align mem p)
    {poolOps : List Vcos.PoolOp} (hops : ∀ op ∈ poolOps, op.isExtend = false) {t : Vcos.PoolRun}
    (hrun : run Vcos.poolStep (.init p) poolOps = some t)
    (hused : t.used.length = ofPort x.1 s.sending + ofPort x.1 s.sent + s.lost x.1) :
    (∃ s', vcStep handles s (.alloc x) = some s') ↔
      ∃ b q, Vcos.blockpoolAlloc t.pool (fun _ => none) = some (some b, q) := by
  rw [(contexts_counted hexpected h x).1, (Vcos.single_alloc_iff hp hops hrun).2, hused]
  exact and_iff_right henabled

/-- Nothing is signalled and nobody is on the way to the queue or back. -/
def VcComponent.atRest (s : VcComponent π η) : Prop :=
  s.event = false ∧ s.awake = false ∧ s.vchiq = .idle ∧ s.holder = none

/-- No wake-up is lost: when the threads are at rest, everything that VideoCore
    has given back has been delivered. -/
theorem nothing_left {ops : List (VcOp π η)}
    (hexpected : Along (vcStep handles) (fun s op => op.expected s = true) .init ops)
    (h : run (vcStep handles) .init ops = some s) (hrest : s.atRest) :
    s.queue = [] ∧ s.delivered = s.returned := by
  have hs := underway_run hexpected h
  obtain ⟨hevent, hawake, hidle, hholder⟩ := hrest
  have hqueue : s.queue = [] := by
    by_contra hne
    rcases hs.attended hne with hc | hc | hc | ⟨c, hc | hc | ⟨x, hc⟩⟩
    · simp [hevent] at hc
    · simp [hidle] at hc
    · simp [hawake] at hc
    · simp [hholder] at hc
    · simp [hholder] at hc
    · simp [hholder] at hc
  have horder := hs.order
  simp [VcComponent.inHand, VcComponent.onItsWay, hholder, hidle, hqueue] at horder
  exact ⟨hqueue, horder.symm⟩

/-- A header comes back while another thread disables the port, and that thread
    is faster than the action, which finds nothing. -/
def disabledBefore : List (VcOp Nat Nat) :=
  [.enable 0 1, .alloc (0, 7), .queue (0, 7) .sent, .hold (some 0), .giveBack (0, 7), .put, .held,
    .trigger, .wake, .check, .pop, .deliver, .check, .unlock, .lock, .check, .unlock]

theorem nothing_left_one : ∃ s : VcComponent Nat Nat,
    run (vcStep fun _ => true) .init disabledBefore = some s ∧ s.pool 0 = none ∧
      s.returned = [.buffer (0, 7)] ∧ s.queue = [] ∧ s.delivered = s.returned := by
  refine ⟨_, rfl, rfl, rfl, ?_⟩
  exact nothing_left (by decide)
    (show run (vcStep fun _ => true) .init disabledBefore = some _ from rfl) ⟨rfl, rfl, rfl, rfl⟩

/-- Until the threads are at rest there is a step of their own. -/
theorem own_step (handles : π → Bool) (hbusy : ¬ s.atRest) :
    ∃ op, op.isOwn = true ∧ ∃ s', vcStep handles s op = some s' := by
  cases hvchiq : s.vchiq with
  | returning x => exact ⟨.put, rfl, by simp [vcStep, hvchiq]⟩
  | triggering => exact ⟨.trigger, rfl, by simp [vcStep, hvchiq]⟩
  | idle =>
      cases hholder : s.holder with
      | some pair =>
          obtain ⟨c, t⟩ := pair
          cases t with
          | holding disables =>
              cases disables with
              | none => exact ⟨.held, rfl, by simp [vcStep, hholder]⟩
              | some p => exact ⟨.held, rfl, by simp [vcStep, hholder]⟩
          | checking => exact ⟨.check, rfl, by simp [vcStep, hholder]⟩
          | popping =>
              refine ⟨.pop, rfl, ?_⟩
              cases hq : s.queue with
              | nil => simp [vcStep, hholder, hq]
              | cons x queue => simp [vcStep, hholder, hq]
          | delivering x => exact ⟨.deliver, rfl, by simp [vcStep, hholder]⟩
          | unlocking => exact ⟨.unlock, rfl, by simp [vcStep, hholder]⟩
      | none =>
          -- The mutex is free, so it is the action that is to run.
          cases hawake : s.awake with
          | true => exact ⟨.lock, rfl, by simp [vcStep, hawake, hholder]⟩
          | false =>
              cases hevent : s.event with
              | true => exact ⟨.wake, rfl, by simp [vcStep, hawake, hholder, hevent]⟩
              | false => exact absurd ⟨hevent, hawake, hvchiq, hholder⟩ hbusy

/-- How far a thread in the loop has to go. Everything in the queue is checked
    for, taken and delivered. -/
def Turn.rest (queued : Nat) : Turn π η → Nat
  | .holding _ => 3 + 3 * queued
  | .checking => 2 + 3 * queued
  -- An empty queue is checked again.
  | .popping => if queued = 0 then 3 else 1 + 3 * queued
  | .delivering _ => 3 + 3 * queued
  | .unlocking => 1 + 3 * queued

/-- How far the thread of VCHIQ has to go. It leaves a header and an event. -/
def Vchiq.rest : Vchiq π η → Nat
  | .idle => 0
  | .triggering => 5
  | .returning _ => 9

/-- How many steps of their own the threads can take at most. -/
def VcComponent.rest (s : VcComponent π η) : Nat :=
  s.vchiq.rest + (if s.event then 4 else 0) + (if s.awake then 3 else 0) +
    match s.holder with
    | some (_, t) => t.rest s.queue.length
    | none => 3 * s.queue.length

omit [DecidableEq π] [DecidableEq η] in
/-- A thread waits for the loop at most as long as it takes with one more
    header. -/
theorem rest_put (t : Turn π η) (queued : Nat) : t.rest (queued + 1) ≤ t.rest queued + 3 := by
  cases t with
  | popping =>
      simp only [Turn.rest]
      split
      · omega
      · split <;> omega
  | _ =>
      simp only [Turn.rest]
      omega

/-- A step of their own brings the threads closer to their rest. -/
theorem rest_step (s : VcComponent π η) (op : VcOp π η) (s' : VcComponent π η)
    (hop : op.isOwn = true) (h : vcStep handles s op = some s') : s'.rest < s.rest := by
  cases own_move hop h with
  | put x hvchiq =>
      simp only [VcComponent.rest, hvchiq, Vchiq.rest, List.length_append, List.length_singleton]
      cases s.holder with
      | none => simp only; omega
      | some pair =>
          have hput := rest_put pair.2 s.queue.length
          simp only
          omega
  | trigger hvchiq =>
      simp only [VcComponent.rest, hvchiq, Vchiq.rest, if_true]
      split <;> omega
  | wake hevent hawake => simp [VcComponent.rest, hevent, hawake]
  | lock hawake hfree =>
      simp [VcComponent.rest, hawake, hfree, Turn.rest]
      omega
  | disabled c p hholder => simp [VcComponent.rest, hholder, Turn.rest]
  | flushed c hholder => simp [VcComponent.rest, hholder, Turn.rest]
  | empty c hholder hq => simp [VcComponent.rest, hholder, Turn.rest, hq]
  | found c hholder hq => simp [VcComponent.rest, hholder, Turn.rest, hq]
  | missed c hholder hq => simp [VcComponent.rest, hholder, hq, Turn.rest]
  | popped c x queue hholder hq =>
      simp [VcComponent.rest, hholder, hq, Turn.rest]
      omega
  | deliver c x hholder => simp [VcComponent.rest, hholder, Turn.rest]
  | unlock c hholder => simp [VcComponent.rest, hholder, Turn.rest]

/-- VideoCore gives nothing back by a step of their own. -/
theorem returned_own (s : VcComponent π η) (op : VcOp π η) (s' : VcComponent π η)
    (hop : op.isOwn = true) (h : vcStep handles s op = some s') : s'.returned = s.returned := by
  cases own_move hop h <;> rfl

theorem returned_run {own : List (VcOp π η)} (hown : ∀ op ∈ own, op.isOwn = true)
    (hrun : run (vcStep handles) s own = some s') : s'.returned = s.returned := by
  induction own generalizing s with
  | nil =>
      rw [run_nil, Option.some.injEq] at hrun
      rw [hrun]
  | cons op own ih =>
      obtain ⟨t, ht, hrest⟩ := run_cons_some hrun
      rw [ih (fun op' hop' => hown op' (List.mem_cons_of_mem op hop')) hrest]
      exact returned_own s op t (hown op List.mem_cons_self) ht

/-- Delivery comes to an end. Once VideoCore gives nothing more back and the
    client does nothing more, the threads can only take so many steps, whatever
    turns they take, and when none of them has a step left, everything that was
    given back has been delivered. -/
theorem delivery_ends {ops own : List (VcOp π η)} {s' : VcComponent π η}
    (hexpected : Along (vcStep handles) (fun s op => op.expected s = true) .init (ops ++ own))
    (h : run (vcStep handles) .init ops = some s) (hown : ∀ op ∈ own, op.isOwn = true)
    (hrun : run (vcStep handles) s own = some s') :
    own.length ≤ s.rest ∧
      ((∀ op, op.isOwn = true → vcStep handles s' op = none) → s'.delivered = s.returned) := by
  refine ⟨?_, fun hstuck => ?_⟩
  · have hlength := run_length_le (m := VcComponent.rest) rest_step hown hrun
    omega
  · have hrest : s'.atRest := by
      by_contra hbusy
      obtain ⟨op, hop, t, ht⟩ := own_step handles hbusy
      rw [hstuck op hop] at ht
      cases ht
    have hwhole : run (vcStep handles) .init (ops ++ own) = some s' := by
      rw [run_append, h]
      exact hrun
    rw [← returned_run hown hrun]
    exact (nothing_left hexpected hwhole hrest).2

/-- A header and an event come back while the action is in the loop. -/
def backInTheLoop : List (VcOp Nat Nat) :=
  [.enable 0 2, .alloc (0, 7), .queue (0, 7) .sent, .alloc (0, 8), .queue (0, 8) .sent,
    .giveBack (0, 8), .put, .trigger, .wake, .lock, .check, .pop, .giveBack (0, 7), .put, .trigger,
    .raise (0, 3)]

/-- What the threads do then. -/
def toTheEnd : List (VcOp Nat Nat) :=
  [.deliver, .put, .check, .pop, .trigger, .deliver, .check, .pop, .deliver, .check, .unlock,
    .wake, .lock, .check, .unlock]

theorem delivery_ends_two : ∃ s s' : VcComponent Nat Nat,
    run (vcStep fun _ => true) .init backInTheLoop = some s ∧
      run (vcStep fun _ => true) s toTheEnd = some s' ∧ toTheEnd.length ≤ s.rest ∧
      s'.delivered = s.returned := by
  refine ⟨_, _, rfl, rfl, ?_⟩
  have hends := delivery_ends (by decide)
    (show run (vcStep fun _ => true) .init backInTheLoop = some _ from rfl) (by decide)
    (show run (vcStep fun _ => true) _ toTheEnd = some _ from rfl)
  refine ⟨hends.1, hends.2 fun op hop => ?_⟩
  cases op <;> first | rfl | cases hop

end Framework

end RaspiCam
