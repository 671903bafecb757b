import Mathlib.Algebra.Order.BigOperators.Group.Finset
import Mathlib.Data.Fintype.BigOperators
import RaspiCam.Lib.Machine
import RaspiCam.Lib.Run
import RaspiCam.Lib.Threads

/-!
# Calls to VideoCore

`mmal_vc_client.c`: how a call that configures a component or a port gets to
VideoCore and its reply comes back. Any number of threads share one client, one
connection and `MAX_WAITERS` waiters. A call takes a waiter from the pool, puts
it into the header of its message and waits on the semaphore of the waiter;
`mmal_vc_vchiq_callback` finds the waiter in the reply, copies the reply to
where the waiter says, and wakes the thread.

The semaphore of the pool counts the waiters that are free. `get_waiter` holds a
lock while it looks at one waiter after the other, but `release_waiter` takes no
lock, so a waiter can become free behind the back of the search. Still the
search never fails, `waiter_found`: one that is free when it begins stays free.

VideoCore answers the messages in any order, whenever it likes. What it answers
is a parameter. The functions of VCHIQ may fail. Besides the calls, whoever has a
component uses the service as long as it has it, `mmal_vc_use` and
`mmal_vc_release`.

## Main definitions

* `Waiter`, `Call`: `MMAL_WAITER_T`, and a call of `mmal_vc_sendwait_message`.
* `ClientPlace`: How far a thread is.
* `Client`: The client, its messages and its threads.
* `clientStep`: The steps, in any order.
* `Pooled`: The invariant of the pool.

## Theorems

* `exists_free`: A thread that may search has something to find.
* `pooled_step`: Every step keeps the invariant.
* `waiter_found`: The search for a waiter succeeds.
-/

namespace RaspiCam

namespace Framework

open Machine Threads Transition

/-- `MAX_WAITERS`. -/
def maxWaiters : Nat := 16

/-- `MMAL_WAITER_T`. -/
structure Waiter where
  sem : Nat
  inuse : Bool
  dest : Nat
  destlen : Nat

/-- A call of `mmal_vc_sendwait_message`. Its number stands for the message and
    for the memory that the reply is written to. -/
structure Call where
  id : Nat
  destlen : Nat
  sendDummyBulk : Bool
deriving DecidableEq

/-- A message that VideoCore has not answered yet, with the waiter in its
    header. -/
structure Message where
  call : Nat
  waiter : Fin maxWaiters
deriving DecidableEq

/-- How far a thread is. -/
inductive ClientPlace
  -- `mmal_vc_sendwait_message` with a bulk transfer waits for `bulk_lock`
  | locking (id destlen : Nat)
  -- `get_waiter`: before the semaphore of the pool
  | entering (c : Call)
  -- before the lock
  | counted (c : Call)
  -- about to look at a waiter
  | scanning (c : Call) (i : Nat)
  -- all waiters have been in use, and the pointer is null
  | null (c : Call)
  -- a waiter has been found
  | holding (c : Call) (w : Fin maxWaiters)
  -- the destination is entered
  | ready (c : Call) (w : Fin maxWaiters)
  -- `mmal_vc_use_internal` is through
  | inService (c : Call) (w : Fin maxWaiters)
  -- the message is queued, and a bulk transfer has to follow
  | transmitting (c : Call) (w : Fin maxWaiters)
  -- waits for the reply
  | waiting (c : Call) (w : Fin maxWaiters)
  -- before `mmal_vc_release_internal`, with or without a reply
  | leaving (c : Call) (w : Fin maxWaiters) (replied : Bool)
  -- before the length of the reply is read
  | reading (c : Call) (w : Fin maxWaiters) (replied : Bool)
  -- `release_waiter`
  | clearing (c : Call) (w : Fin maxWaiters)
  -- the waiter is free, and the pool does not count it yet
  | posting (c : Call)
  -- `mmal_vc_send_message` waits for `bulk_lock`
  | sendLocking (n : Nat)
  -- before its message is queued
  | sending (n : Nat) (bulk : Bool)
  -- before its bulk transfer
  | sendTransmitting (n : Nat)
deriving DecidableEq

/-- The client and its threads. `messages` are with VideoCore, `callback` is set
    while `mmal_vc_vchiq_callback` has copied a reply and not posted the
    semaphore of its waiter yet, and `inUse` is what VCHIQ was told last.
    `users` is how often `mmal_vc_use` was called and not `mmal_vc_release`.
    `announced` are the messages that were queued and have a bulk transfer,
    `bulks` the transfers. `returned` is what the calls returned, nothing after a
    failure. -/
structure Client (β : Type*) where
  waiters : Fin maxWaiters → Waiter
  poolSem : Nat
  lock : Bool
  bulkLock : Bool
  usecount : Int
  inUse : Bool
  users : Nat
  messages : List Message
  callback : Option (Fin maxWaiters)
  memory : Nat → List β
  announced : List Nat
  bulks : List Nat
  calls : Nat
  places : List ClientPlace
  returned : List (Call × Option (List β))

variable {β : Type*}

/-- The client at the end of `mmal_vc_init`. The service is in use since it was
    opened, and `mmal_vc_init` has still to call `mmal_vc_release`. -/
def Client.init : Client β where
  waiters := fun _ => ⟨0, false, 0, 0⟩
  poolSem := maxWaiters
  lock := false
  bulkLock := false
  usecount := 1
  inUse := true
  users := 1
  messages := []
  callback := none
  memory := fun _ => []
  announced := []
  bulks := []
  calls := 0
  places := []
  returned := []

/-- The steps: a call begins, the service is used or released, a thread goes on,
    each told whether a function of VCHIQ succeeds, or the callback takes a reply
    and posts. -/
inductive ClientOp
  | call (destlen : Nat) (sendDummyBulk : Bool)
  | send (bulk : Bool)
  | use (ok : Bool)
  | release (ok : Bool)
  | go (t : ClientPlace) (ok : Bool)
  | receive (m : Message)
  | post
deriving DecidableEq

/-- A thread moves on. -/
def Client.move (s : Client β) (t : ClientPlace) (next : Option ClientPlace) :
    Option (Client β) :=
  (advance s.places t next).map fun places => { s with places := places }

/-- Something about a waiter changes. -/
def Client.setWaiter (s : Client β) (w : Fin maxWaiters) (f : Waiter → Waiter) : Client β :=
  { s with waiters := Function.update s.waiters w (f (s.waiters w)) }

/-- `mmal_vc_use_internal`. -/
def Client.useInternal (s : Client β) (ok : Bool) : Client β :=
  if s.usecount = 0 then
    if ok then { s with usecount := 1, inUse := true } else s
  else { s with usecount := i32 (s.usecount + 1) }

/-- `mmal_vc_release_internal`. -/
def Client.releaseInternal (s : Client β) (ok : Bool) : Client β :=
  if i32 (s.usecount - 1) = 0 then
    if ok then { s with usecount := 0, inUse := false } else s
  else { s with usecount := i32 (s.usecount - 1) }

/-- `mmal_vc_use`. Whoever is refused does not have the service. -/
def Client.use (s : Client β) (ok : Bool) : Client β :=
  { s.useInternal ok with users := if s.usecount = 0 ∧ ok = false then s.users else s.users + 1 }

/-- `mmal_vc_release`. -/
def Client.release (s : Client β) (ok : Bool) : Client β :=
  { s.releaseInternal ok with users := s.users - 1 }

/-- One waiter after the other is looked at, until one is not in use. -/
def Client.look (s : Client β) (c : Call) (i : Nat) : Option (Client β) :=
  if h : i < maxWaiters then
    if (s.waiters ⟨i, h⟩).inuse then s.move (.scanning c i) (some (.scanning c (i + 1)))
    else
      { s.setWaiter ⟨i, h⟩ fun v => { v with inuse := true } with lock := false }.move
        (.scanning c i) (some (.holding c ⟨i, h⟩))
  else { s with lock := false }.move (.scanning c i) (some (.null c))

/-- `vchiq_queue_message` in `mmal_vc_sendwait_message`. -/
def Client.queueMessage (s : Client β) (c : Call) (w : Fin maxWaiters) (ok : Bool) :
    Option (Client β) :=
  if ok then
    { s with
      messages := ⟨c.id, w⟩ :: s.messages
      announced := if c.sendDummyBulk then s.announced ++ [c.id] else s.announced }.move
      (.inService c w) (some (if c.sendDummyBulk then .transmitting c w else .waiting c w))
  else
    { s with bulkLock := if c.sendDummyBulk then false else s.bulkLock }.move (.inService c w)
      (some (.leaving c w false))

/-- `vchiq_queue_message` in `mmal_vc_send_message`. -/
def Client.queueOnly (s : Client β) (n : Nat) (bulk ok : Bool) : Option (Client β) :=
  if ok then
    { s with announced := if bulk then s.announced ++ [n] else s.announced }.move
      (.sending n bulk) (if bulk then some (.sendTransmitting n) else none)
  else
    { s with bulkLock := if bulk then false else s.bulkLock }.move (.sending n bulk) none

/-- The next step of a thread. It is not possible while a lock it needs is taken
    or a semaphore it takes is at zero. -/
def callStep (s : Client β) (t : ClientPlace) (ok : Bool) : Option (Client β) :=
  match t with
  | .locking id destlen =>
    if s.bulkLock then none
    else { s with bulkLock := true }.move t (some (.entering ⟨id, destlen, true⟩))
  | .entering c =>
    if s.poolSem = 0 then none
    else { s with poolSem := s.poolSem - 1 }.move t (some (.counted c))
  | .counted c => if s.lock then none else { s with lock := true }.move t (some (.scanning c 0))
  | .scanning c i => s.look c i
  -- The null pointer is dereferenced, and that is the end.
  | .null _ => none
  | .holding c w =>
    (s.setWaiter w fun v => { v with dest := c.id, destlen := c.destlen }).move t
      (some (.ready c w))
  | .ready c w => if s.lock then none else (s.useInternal ok).move t (some (.inService c w))
  | .inService c w => s.queueMessage c w ok
  | .transmitting c w =>
    if ok then
      { s with bulks := s.bulks ++ [c.id], bulkLock := false }.move t (some (.waiting c w))
    else { s with bulkLock := false }.move t (some (.leaving c w false))
  | .waiting c w =>
    if (s.waiters w).sem = 0 then none
    else
      (s.setWaiter w fun v => { v with sem := v.sem - 1 }).move t (some (.leaving c w true))
  | .leaving c w replied =>
    if s.lock then none else (s.releaseInternal ok).move t (some (.reading c w replied))
  | .reading c w replied =>
    { s with
      returned := s.returned ++
        [(c, if replied then some ((s.memory c.id).take (s.waiters w).destlen) else none)] }.move t
      (some (.clearing c w))
  | .clearing c w => (s.setWaiter w fun v => { v with inuse := false }).move t (some (.posting c))
  | .posting _ => { s with poolSem := s.poolSem + 1 }.move t none
  | .sendLocking n =>
    if s.bulkLock then none else { s with bulkLock := true }.move t (some (.sending n true))
  | .sending n bulk => s.queueOnly n bulk ok
  | .sendTransmitting n =>
    { s with bulks := if ok then s.bulks ++ [n] else s.bulks, bulkLock := false }.move t none

/-- The steps of the client. `reply` is what VideoCore answers to a message. The
    service is only released by who has used it. -/
def clientStep (reply : Nat → List β) (s : Client β) : ClientOp → Option (Client β)
  | .call destlen sendDummyBulk =>
    some { s with
      calls := s.calls + 1
      places := (if sendDummyBulk then .locking s.calls destlen
        else .entering ⟨s.calls, destlen, false⟩) :: s.places }
  | .send bulk =>
    some { s with
      calls := s.calls + 1
      places := (if bulk then .sendLocking s.calls else .sending s.calls false) :: s.places }
  | .use ok => if s.lock then none else some (s.use ok)
  | .release ok => if s.lock ∨ s.users = 0 then none else some (s.release ok)
  | .go t ok => callStep s t ok
  -- `mmal_vc_vchiq_callback` copies the reply, and then it posts.
  | .receive m =>
    if s.callback = none ∧ m ∈ s.messages then
      let v := s.waiters m.waiter
      let len := min v.destlen (reply m.call).length
      some { s.setWaiter m.waiter fun v => { v with destlen := len } with
        memory := Function.update s.memory v.dest
          ((reply m.call).take len ++ (s.memory v.dest).drop len)
        messages := s.messages.erase m
        callback := some m.waiter }
    else none
  | .post =>
    match s.callback with
    | none => none
    | some w => some { s.setWaiter w fun v => { v with sem := v.sem + 1 } with callback := none }

/-- The thread has taken the semaphore of the pool and not posted it. -/
@[simp]
def ClientPlace.tokens : ClientPlace → Nat
  | .counted _ | .scanning _ _ | .null _ | .holding _ _ | .ready _ _ | .inService _ _
  | .transmitting _ _ | .waiting _ _ | .leaving _ _ _ | .reading _ _ _ | .clearing _ _
  | .posting _ => 1
  | .locking _ _ | .entering _ | .sendLocking _ | .sending _ _ | .sendTransmitting _ => 0

/-- The waiter of a thread. -/
@[simp]
def ClientPlace.waiter : ClientPlace → Option (Fin maxWaiters)
  | .holding _ w | .ready _ w | .inService _ w | .transmitting _ w | .waiting _ w | .leaving _ w _
  | .reading _ w _ | .clearing _ w => some w
  | _ => none

/-- Whether a waiter belongs to a thread. -/
def ClientPlace.owns (w : Fin maxWaiters) (t : ClientPlace) : Nat :=
  if t.waiter = some w then 1 else 0

/-- The thread has the lock, in its search for a waiter. -/
@[simp]
def ClientPlace.scans : ClientPlace → Nat
  | .scanning _ _ => 1
  | _ => 0

/-- A search is not in vain: a waiter that is free has not been looked at yet. -/
def Hopeful (s : Client β) : ClientPlace → Prop
  | .scanning _ i => ∃ j : Fin maxWaiters, i ≤ j ∧ (s.waiters j).inuse = false
  | .null _ => False
  | _ => True

/-- The semaphore of the pool counts what is free, and what is in use belongs to
    one thread. -/
structure Pooled (s : Client β) : Prop where
  tokens : s.poolSem + total ClientPlace.tokens s.places = maxWaiters
  inuse : ∀ w, (s.waiters w).inuse.toNat = total (ClientPlace.owns w) s.places
  lock : s.lock.toNat = total ClientPlace.scans s.places
  hopeful : ∀ t ∈ s.places, Hopeful s t

variable {s s' u : Client β} {t : ClientPlace} {next : Option ClientPlace}
  {places : List ClientPlace}

theorem clientMove_some (h : u.move t next = some s') :
    ∃ places, advance u.places t next = some places ∧ s' = { u with places := places } := by
  simp only [Client.move, Option.map_eq_some_iff] at h
  obtain ⟨places, hp, rfl⟩ := h
  exact ⟨places, hp, rfl⟩

/-- A change that leaves it open who uses a waiter. -/
theorem setWaiter_inuse {f : Waiter → Waiter} (w : Fin maxWaiters)
    (hf : (f (s.waiters w)).inuse = (s.waiters w).inuse) (v : Fin maxWaiters) :
    ((s.setWaiter w f).waiters v).inuse = (s.waiters v).inuse := by
  by_cases hv : v = w
  · subst hv
    simpa [Client.setWaiter] using hf
  · simp [Client.setWaiter, Function.update_of_ne hv]

theorem pooled_init : Pooled (Client.init : Client β) := by
  constructor <;> simp [Client.init]

/-- A thread has at most one waiter. -/
theorem sum_owns (t : ClientPlace) :
    ∑ w, ClientPlace.owns w t = if t.waiter = none then 0 else 1 := by
  cases ht : t.waiter with
  | none => simp [ClientPlace.owns, ht, -ClientPlace.waiter]
  | some v => simp [ClientPlace.owns, ht, -ClientPlace.waiter]

theorem sum_owns_total (ts : List ClientPlace) :
    ∑ w, total (ClientPlace.owns w) ts =
      total (fun t => if t.waiter = none then 0 else 1) ts := by
  induction ts with
  | nil => simp
  | cons t ts ih =>
      simp only [total_cons, Finset.sum_add_distrib, sum_owns, ih]

/-- Whoever owns a waiter has a token, and so has the thread that begins its
    search. With only as many tokens as waiters one of them is free. -/
theorem exists_free (hs : Pooled s) (ht : t ∈ s.places) (htoken : t.tokens = 1)
    (hnone : t.waiter = none) : ∃ j, (s.waiters j).inuse = false := by
  by_contra hall
  have hfull : ∀ w, 1 ≤ total (ClientPlace.owns w) s.places := by
    intro w
    rw [← hs.inuse w]
    cases hw : (s.waiters w).inuse with
    | true => simp
    | false => exact absurd ⟨w, hw⟩ hall
  have hsum : maxWaiters ≤ ∑ w, total (ClientPlace.owns w) s.places := by
    have hone := Finset.sum_le_sum fun w (_ : w ∈ Finset.univ) => hfull w
    simpa using hone
  rw [sum_owns_total] at hsum
  obtain ⟨us, hus⟩ := advance_of_mem none ht
  have htokens := total_advance ClientPlace.tokens hus
  have howns := total_advance (fun t => if t.waiter = none then 0 else 1) hus
  have hle : total (fun t => if t.waiter = none then 0 else 1) us ≤
      total ClientPlace.tokens us := by
    refine total_mono fun v _ => ?_
    cases v <;> simp
  have hall := hs.tokens
  simp only [htoken, hnone, if_true, Option.toList_none, total_nil] at htokens howns
  omega

/-- A step that leaves the waiters in use where they are keeps a search
    hopeful. -/
theorem Hopeful.mono (h : Hopeful s t)
    (hw : ∀ w, (s.waiters w).inuse = false → (u.waiters w).inuse = false) : Hopeful u t := by
  cases t with
  | scanning c i =>
      obtain ⟨j, hj, hfree⟩ := h
      exact ⟨j, hj, hw j hfree⟩
  | null c => exact h
  | _ => trivial

/-- Only a thread with the lock is in a search. -/
theorem Hopeful.outside (h : Hopeful s t) (ht : t.scans = 0) : Hopeful u t := by
  cases t with
  | scanning c i => simp at ht
  | null c => exact h
  | _ => trivial

/-- A thread moves on. If a waiter is taken, then by the thread that searches. -/
theorem pooled_move (hs : Pooled s) (h : u.move t next = some s') (hplaces : u.places = s.places)
    (htokens : u.poolSem + total ClientPlace.tokens next.toList = s.poolSem + t.tokens)
    (hinuse : ∀ w, (u.waiters w).inuse.toNat + t.owns w =
      (s.waiters w).inuse.toNat + total (ClientPlace.owns w) next.toList)
    (hfree : (∀ w, (s.waiters w).inuse = false → (u.waiters w).inuse = false) ∨ t.scans = 1)
    (hlock : u.lock.toNat + t.scans = s.lock.toNat + total ClientPlace.scans next.toList)
    (hnext : ∀ n, next = some n → Hopeful u n) : Pooled s' := by
  obtain ⟨places, hp, rfl⟩ := clientMove_some h
  rw [hplaces] at hp
  have htotal := total_advance ClientPlace.tokens hp
  have hscans := total_advance ClientPlace.scans hp
  have hpool := hs.tokens
  have hlocked := hs.lock
  refine ⟨by simp only; omega, fun w => ?_, by simp only; omega, fun v hv => ?_⟩
  · have howns := total_advance (ClientPlace.owns w) hp
    have hused := hs.inuse w
    have hchange := hinuse w
    simp only
    omega
  · rcases hfree with hfree | hscan
    · rcases mem_advance hp hv with hn | hold
      · exact (hnext v hn).mono fun w hw => hw
      · exact (hs.hopeful v hold).mono hfree
    · have hone := Bool.toNat_le s.lock
      rcases advance_alone (w := ClientPlace.scans) hp (by omega) hv with hn | ⟨hold, hout⟩
      · exact (hnext v hn).mono fun w hw => hw
      · exact (hs.hopeful v hold).outside hout

/-- The search for a waiter. -/
theorem pooled_look (hs : Pooled s) {c : Call} {i : Nat} (h : s.look c i = some s') :
    Pooled s' := by
  have hmem : .scanning c i ∈ s.places := by
    simp only [Client.look] at h
    split at h
    · split at h
      · obtain ⟨places, hp, -⟩ := clientMove_some h
        exact mem_of_advance hp
      · obtain ⟨places, hp, -⟩ := clientMove_some h
        exact mem_of_advance hp
    · obtain ⟨places, hp, -⟩ := clientMove_some h
      exact mem_of_advance hp
  have hlock := hs.lock
  have hle := le_total ClientPlace.scans hmem
  have hone := Bool.toNat_le s.lock
  obtain ⟨j, hj, hfree⟩ := hs.hopeful _ hmem
  simp only [Client.look] at h
  split at h
  · rename_i hi
    split at h
    · rename_i hused
      refine pooled_move hs h rfl rfl (fun w => rfl) (Or.inl fun w hw => hw) rfl ?_
      rintro n ⟨⟩
      -- The waiter that is free is not the one that was looked at.
      have hne : i ≠ j := by
        rintro rfl
        rw [hfree] at hused
        exact absurd hused (by simp)
      exact ⟨j, by omega, hfree⟩
    · rename_i hused
      refine pooled_move hs h rfl rfl (fun w => ?_) (Or.inr rfl) ?_ (by rintro n ⟨⟩; trivial)
      · by_cases hw : w = ⟨i, hi⟩
        · subst hw
          simp [Client.setWaiter, ClientPlace.owns, hused]
        · have hne : (⟨i, hi⟩ : Fin maxWaiters) ≠ w := fun heq => hw heq.symm
          simp [Client.setWaiter, ClientPlace.owns, Function.update_of_ne hw, hne]
      · simp only [ClientPlace.scans] at hle ⊢
        simp
        omega
  · omega

/-- What does not touch the waiters' users and the pool. -/
theorem pooled_same (hs : Pooled s) (h : u.move t next = some s') (hu : u.places = s.places)
    (hwaiters : ∀ w, (u.waiters w).inuse = (s.waiters w).inuse)
    (hrest : u.poolSem = s.poolSem ∧ u.lock = s.lock)
    (hnext : next.toList.map ClientPlace.tokens = [t.tokens] ∨ next = none ∧ t.tokens = 0)
    (howner : next.bind ClientPlace.waiter = t.waiter)
    (hscans : t.scans = 0 ∧ ∀ n, next = some n → n.scans = 0 ∧ Hopeful u n) : Pooled s' := by
  refine pooled_move hs h hu ?_ (fun w => ?_) (Or.inl fun w hw => (hwaiters w).trans hw) ?_
    fun n hn => (hscans.2 n hn).2
  · rw [hrest.1]
    rcases hnext with hnext | ⟨rfl, hzero⟩
    · cases next with
      | none => simp at hnext
      | some n => simpa [-ClientPlace.tokens] using hnext
    · simp [hzero, -ClientPlace.tokens]
  · rw [hwaiters w]
    cases next with
    | none =>
        have hnone : t.waiter = none := howner.symm
        simp [ClientPlace.owns, hnone, -ClientPlace.waiter]
    | some n =>
        have hsome : n.waiter = t.waiter := howner
        simp [ClientPlace.owns, hsome, -ClientPlace.waiter]
  · rw [hrest.2, hscans.1]
    cases next with
    | none => simp
    | some n => simp [(hscans.2 n rfl).1, -ClientPlace.scans]

/-- Using the service changes nothing but what is known about its use. -/
theorem use_frame (ok : Bool) :
    ∃ n b k, s.use ok = { s with usecount := n, inUse := b, users := k } := by
  unfold Client.use Client.useInternal
  split
  · split <;> exact ⟨_, _, _, rfl⟩
  · exact ⟨_, _, _, rfl⟩

theorem release_frame (ok : Bool) :
    ∃ n b k, s.release ok = { s with usecount := n, inUse := b, users := k } := by
  unfold Client.release Client.releaseInternal
  split
  · split <;> exact ⟨_, _, _, rfl⟩
  · exact ⟨_, _, _, rfl⟩

/-- So it is with releasing it: who may do either has the lock of the client to
    itself. -/
theorem service_frame {op : ClientOp} {reply : Nat → List β} {ok : Bool}
    (hop : op = .use ok ∨ op = .release ok) (h : clientStep reply s op = some s') :
    ∃ n b k, s' = { s with usecount := n, inUse := b, users := k } := by
  rcases hop with rfl | rfl
  · simp only [clientStep] at h
    split at h
    · cases h
    · cases h
      exact use_frame ok
  · simp only [clientStep] at h
    split at h
    · cases h
    · cases h
      exact release_frame ok

@[simp]
theorem useInternal_eq (ok : Bool) : (s.useInternal ok).places = s.places ∧
    (s.useInternal ok).waiters = s.waiters ∧ (s.useInternal ok).poolSem = s.poolSem ∧
    (s.useInternal ok).lock = s.lock := by
  unfold Client.useInternal
  split
  · split <;> simp
  · simp

@[simp]
theorem releaseInternal_eq (ok : Bool) : (s.releaseInternal ok).places = s.places ∧
    (s.releaseInternal ok).waiters = s.waiters ∧ (s.releaseInternal ok).poolSem = s.poolSem ∧
    (s.releaseInternal ok).lock = s.lock := by
  unfold Client.releaseInternal
  split
  · split <;> simp
  · simp

theorem pooled_go (hs : Pooled s) {ok : Bool} (h : callStep s t ok = some s') : Pooled s' := by
  cases t with
  | locking id destlen =>
      simp only [callStep] at h
      split at h
      · cases h
      · exact pooled_same hs h rfl (fun w => rfl) ⟨rfl, rfl⟩ (by simp) rfl (by simp [Hopeful])
  | entering c =>
      simp only [callStep] at h
      split at h
      · cases h
      · refine pooled_move hs h rfl ?_ (fun w => rfl) (Or.inl fun w hw => hw) rfl
          (by simp [Hopeful])
        simp
        omega
  | counted c =>
      simp only [callStep] at h
      split at h
      · cases h
      · rename_i hlock
        obtain ⟨places, hp, -⟩ := clientMove_some h
        obtain ⟨j, hj⟩ := exists_free hs (mem_of_advance hp) rfl rfl
        refine pooled_move hs h rfl rfl (fun w => rfl) (Or.inl fun w hw => hw) (by simp [hlock]) ?_
        rintro n ⟨⟩
        exact ⟨j, Nat.zero_le j, hj⟩
  | scanning c i => exact pooled_look hs h
  | null c => cases h
  | holding c w =>
      exact pooled_same hs h rfl (setWaiter_inuse w rfl) ⟨rfl, rfl⟩ (by simp) rfl
        (by simp [Hopeful])
  | ready c w =>
      simp only [callStep] at h
      split at h
      · cases h
      · exact pooled_same hs h (by simp) (by simp) (by simp) (by simp) rfl (by simp [Hopeful])
  | inService c w =>
      simp only [callStep, Client.queueMessage] at h
      split at h
      · exact pooled_same hs h rfl (fun w => rfl) ⟨rfl, rfl⟩ (by cases c.sendDummyBulk <;> simp)
          (by cases c.sendDummyBulk <;> rfl) (by cases c.sendDummyBulk <;> simp [Hopeful])
      · exact pooled_same hs h rfl (fun w => rfl) ⟨rfl, rfl⟩ (by simp) rfl (by simp [Hopeful])
  | transmitting c w =>
      simp only [callStep] at h
      split at h
      · exact pooled_same hs h rfl (fun w => rfl) ⟨rfl, rfl⟩ (by simp) rfl (by simp [Hopeful])
      · exact pooled_same hs h rfl (fun w => rfl) ⟨rfl, rfl⟩ (by simp) rfl (by simp [Hopeful])
  | waiting c w =>
      simp only [callStep] at h
      split at h
      · cases h
      · exact pooled_same hs h rfl (setWaiter_inuse w rfl) ⟨rfl, rfl⟩ (by simp) rfl
          (by simp [Hopeful])
  | leaving c w replied =>
      simp only [callStep] at h
      split at h
      · cases h
      · exact pooled_same hs h (by simp) (by simp) (by simp) (by simp) rfl (by simp [Hopeful])
  | reading c w replied =>
      exact pooled_same hs h rfl (fun w => rfl) ⟨rfl, rfl⟩ (by simp) rfl (by simp [Hopeful])
  | clearing c w =>
      obtain ⟨places, hp, -⟩ := clientMove_some h
      have hmem : .clearing c w ∈ s.places := mem_of_advance hp
      have hle := le_total (ClientPlace.owns w) hmem
      have hused := hs.inuse w
      refine pooled_move hs h rfl rfl (fun v => ?_) (Or.inl fun v hv => ?_) rfl (by simp [Hopeful])
      · by_cases hv : v = w
        · subst hv
          simp [ClientPlace.owns] at hle
          have hone := Bool.toNat_le (s.waiters v).inuse
          simp [Client.setWaiter, ClientPlace.owns]
          omega
        · have hne : w ≠ v := fun heq => hv heq.symm
          simp [Client.setWaiter, ClientPlace.owns, Function.update_of_ne hv, hne]
      · by_cases hw : v = w
        · subst hw
          simp [Client.setWaiter]
        · simpa [Client.setWaiter, Function.update_of_ne hw] using hv
  | posting c =>
      exact pooled_move hs h rfl (by simp) (fun w => rfl) (Or.inl fun w hw => hw) rfl (by simp)
  | sendLocking n =>
      simp only [callStep] at h
      split at h
      · cases h
      · exact pooled_same hs h rfl (fun w => rfl) ⟨rfl, rfl⟩ (by simp) rfl (by simp [Hopeful])
  | sending n bulk =>
      simp only [callStep, Client.queueOnly] at h
      split at h
      · exact pooled_same hs h rfl (fun w => rfl) ⟨rfl, rfl⟩ (by cases bulk <;> simp)
          (by cases bulk <;> rfl) (by cases bulk <;> simp [Hopeful])
      · exact pooled_same hs h rfl (fun w => rfl) ⟨rfl, rfl⟩ (by simp) rfl (by simp)
  | sendTransmitting n =>
      exact pooled_same hs h rfl (fun w => rfl) ⟨rfl, rfl⟩ (by simp) rfl (by simp)

/-- What the callback does. -/
theorem pooled_frame (hs : Pooled s) {v : Waiter} (w : Fin maxWaiters)
    (hv : v.inuse = (s.waiters w).inuse)
    (hset : u.waiters = Function.update s.waiters w v) (hplaces : u.places = s.places)
    (hrest : u.poolSem = s.poolSem ∧ u.lock = s.lock) : Pooled u := by
  have hwaiters : ∀ x, (u.waiters x).inuse = (s.waiters x).inuse := by
    intro x
    rw [hset]
    by_cases hx : x = w
    · subst hx
      simpa using hv
    · simp [Function.update_of_ne hx]
  refine ⟨?_, fun w => ?_, ?_, fun t ht => ?_⟩
  · rw [hplaces, hrest.1, hs.tokens]
  · rw [hplaces, hwaiters w, hs.inuse w]
  · rw [hplaces, hrest.2, hs.lock]
  · rw [hplaces] at ht
    exact (hs.hopeful t ht).mono fun w hw => (hwaiters w).trans hw

theorem pooled_step (reply : Nat → List β) (s : Client β) (op : ClientOp) (s' : Client β)
    (hs : Pooled s) (h : clientStep reply s op = some s') : Pooled s' := by
  cases op with
  | call destlen sendDummyBulk =>
      cases h
      refine ⟨?_, fun w => ?_, ?_, ?_⟩
      · cases sendDummyBulk <;> simp [hs.tokens]
      · rw [total_cons, ← hs.inuse w]
        cases sendDummyBulk <;> simp [ClientPlace.owns]
      · cases sendDummyBulk <;> simp [hs.lock]
      · intro t ht
        rcases List.mem_cons.mp ht with rfl | hold
        · cases sendDummyBulk <;> trivial
        · exact (hs.hopeful t hold).mono fun w hw => hw
  | send bulk =>
      cases h
      refine ⟨?_, fun w => ?_, ?_, ?_⟩
      · cases bulk <;> simp [hs.tokens]
      · rw [total_cons, ← hs.inuse w]
        cases bulk <;> simp [ClientPlace.owns]
      · cases bulk <;> simp [hs.lock]
      · intro t ht
        rcases List.mem_cons.mp ht with rfl | hold
        · cases bulk <;> trivial
        · exact (hs.hopeful t hold).mono fun w hw => hw
  | use ok =>
      obtain ⟨n, b, k, rfl⟩ := service_frame (Or.inl rfl) h
      exact ⟨hs.tokens, hs.inuse, hs.lock, hs.hopeful⟩
  | release ok =>
      obtain ⟨n, b, k, rfl⟩ := service_frame (Or.inr rfl) h
      exact ⟨hs.tokens, hs.inuse, hs.lock, hs.hopeful⟩
  | go t ok => exact pooled_go hs h
  | receive m =>
      simp only [clientStep] at h
      split at h
      · cases h
        exact pooled_frame hs m.waiter (by simp) rfl rfl ⟨rfl, rfl⟩
      · cases h
  | post =>
      simp only [clientStep] at h
      split at h
      · cases h
      · rename_i w _
        cases h
        exact pooled_frame hs w (by simp) rfl rfl ⟨rfl, rfl⟩

theorem pooled_run {reply : Nat → List β} {ops : List ClientOp}
    (h : run (clientStep reply) .init ops = some s) : Pooled s :=
  run_invariant (pooled_step reply) pooled_init h

/-- In every run the search in `get_waiter` ends with a waiter, however many
    calls there are: no call ever has a null pointer. And no two calls have the
    same waiter. -/
theorem waiter_found {reply : Nat → List β} {ops : List ClientOp}
    (h : run (clientStep reply) .init ops = some s) :
    (∀ c, .null c ∉ s.places) ∧ ∀ w, total (ClientPlace.owns w) s.places ≤ 1 := by
  have hpooled := pooled_run h
  refine ⟨fun c hc => hpooled.hopeful _ hc, fun w => ?_⟩
  rw [← hpooled.inuse w]
  exact Bool.toNat_le _

/-- The first two calls. -/
def firstCall : Call := ⟨0, 2, false⟩

def secondCall : Call := ⟨1, 3, false⟩

/-- A call that is made when the second one has returned. -/
def thirdCall : Call := ⟨2, 4, false⟩

/-- The first two waiters. -/
def firstWaiter : Fin maxWaiters := ⟨0, by decide⟩

def secondWaiter : Fin maxWaiters := ⟨1, by decide⟩

/-- A thread sends its message, once it has found a waiter. -/
def sends (c : Call) (w : Fin maxWaiters) : List ClientOp :=
  [.go (.holding c w) true, .go (.ready c w) true, .go (.inService c w) true]

/-- VideoCore answers, and the thread returns. -/
def isAnswered (c : Call) (w : Fin maxWaiters) : List ClientOp :=
  [.receive ⟨c.id, w⟩, .post, .go (.waiting c w) true, .go (.leaving c w true) true,
    .go (.reading c w true) true, .go (.clearing c w) true, .go (.posting c) true]

/-- Two calls at a time, the second of which is answered first. Its waiter is
    used again by a third one while the first call still waits. -/
def threeCalls : List ClientOp :=
  [.call 2 false, .call 3 false, .go (.entering firstCall) true, .go (.entering secondCall) true,
    .go (.counted firstCall) true, .go (.scanning firstCall 0) true,
    .go (.counted secondCall) true, .go (.scanning secondCall 0) true,
    .go (.scanning secondCall 1) true] ++
  sends firstCall firstWaiter ++ sends secondCall secondWaiter ++
  isAnswered secondCall secondWaiter ++
  [.call 4 false, .go (.entering thirdCall) true, .go (.counted thirdCall) true,
    .go (.scanning thirdCall 0) true, .go (.scanning thirdCall 1) true]

theorem waiter_found_again :
    ∃ s : Client Nat, run (clientStep fun k => [k, k, k]) .init threeCalls = some s ∧
      s.places = [.holding thirdCall secondWaiter, .waiting firstCall firstWaiter] ∧
      (∀ c, .null c ∉ s.places) ∧ ∀ w, total (ClientPlace.owns w) s.places ≤ 1 := by
  refine ⟨_, rfl, rfl, ?_⟩
  exact waiter_found
    (show run (clientStep fun k => [k, k, k]) .init threeCalls = some _ from rfl)

end Framework

end RaspiCam
