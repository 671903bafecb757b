import RaspiCam.Framework.Client

/-!
# Replies from VideoCore

A waiter belongs to one call from the search to the end of the call. So what the
callback finds in the waiter of a reply is the destination of the call that sent
the message, and the thread it wakes is the one that waits for this reply,
`reply_returned`.

This needs that a bulk transfer never fails once its message is queued. If it
does, the call gives its waiter back while VideoCore still has the message; a
comment there says that things will go wrong.

## Main definitions

* `Client.pending`: What is on its way to a waiter.
* `Kept`: What a thread relies on.
* `Addressed`: The invariant.

## Theorems

* `sender_waits`: Who waits for the reply to a message.
* `addressed_step`: Every step keeps the invariant.
* `reply_returned`: A call returns the reply to its own message.
-/

namespace RaspiCam

namespace Framework

open Threads Transition

variable {β : Type*} {s s' u : Client β} {t : ClientPlace} {next : Option ClientPlace}
  {places : List ClientPlace} {reply : Nat → List β}

/-- The number of the call that a thread is in. -/
@[simp]
def ClientPlace.number : ClientPlace → Nat
  | .locking id _ => id
  | .entering c | .counted c | .scanning c _ | .null c | .holding c _ | .ready c _
  | .inService c _ | .transmitting c _ | .waiting c _ | .leaving c _ _ | .reading c _ _
  | .clearing c _ | .posting c => c.id
  | .sendLocking n | .sending n _ | .sendTransmitting n => n

/-- Whether a thread is in the call with this number. -/
def ClientPlace.numbered (k : Nat) (t : ClientPlace) : Nat := if t.number = k then 1 else 0

/-- The thread has queued its message and not seen the reply. -/
@[simp]
def ClientPlace.isOut : ClientPlace → Bool
  | .transmitting _ _ | .waiting _ _ => true
  | _ => false

/-- Whether a thread waits with this waiter. -/
def ClientPlace.awaits (w : Fin maxWaiters) (t : ClientPlace) : Nat :=
  if t.isOut = true ∧ t.waiter = some w then 1 else 0

/-- The messages, replies and tokens that are on their way to a waiter. -/
def Client.pending (s : Client β) (w : Fin maxWaiters) : Nat :=
  (s.waiters w).sem + s.callback.toList.count w +
    s.messages.countP fun m => m.waiter = w

/-- The reply is where the call wants it, as much of it as fits. -/
def Arrived (reply : Nat → List β) (s : Client β) (c : Call) (w : Fin maxWaiters) : Prop :=
  (s.memory c.id).take (s.waiters w).destlen = (reply c.id).take c.destlen

/-- What a thread relies on while it has a waiter. -/
def Kept (reply : Nat → List β) (s : Client β) : ClientPlace → Prop
  | .ready c w | .inService c w =>
    (s.waiters w).dest = c.id ∧ (s.waiters w).destlen = c.destlen
  | .transmitting c w | .waiting c w =>
    (s.waiters w).dest = c.id ∧ (s.waiters w).destlen = c.destlen ∧ ⟨c.id, w⟩ ∈ s.messages ∨
      (∀ m ∈ s.messages, m.waiter ≠ w) ∧ Arrived reply s c w
  | .leaving c w true | .reading c w true => Arrived reply s c w
  | _ => True

/-- A call has its own waiter and its own number, and what was returned is the
    reply. -/
structure Addressed (reply : Nat → List β) (s : Client β) : Prop where
  pending : ∀ w, s.pending w = total (ClientPlace.awaits w) s.places
  once : ∀ k, total (ClientPlace.numbered k) s.places ≤ 1
  fresh : ∀ k, s.calls ≤ k → total (ClientPlace.numbered k) s.places = 0
  kept : ∀ t ∈ s.places, Kept reply s t
  returned : ∀ c bs, (c, some bs) ∈ s.returned → bs = (reply c.id).take c.destlen

theorem addressed_init : Addressed reply (Client.init : Client β) := by
  constructor <;> simp [Client.init, Client.pending]

/-- What a thread relies on stays as it is while nobody touches its waiter and
    its destination. -/
theorem Kept.frame (h : Kept reply s t) (hmemory : u.memory t.number = s.memory t.number)
    (hwaiters : ∀ w, t.waiter = some w →
      (u.waiters w).dest = (s.waiters w).dest ∧ (u.waiters w).destlen = (s.waiters w).destlen)
    (hmessages : ∀ w, t.waiter = some w → ∀ k, ⟨k, w⟩ ∈ u.messages ↔ ⟨k, w⟩ ∈ s.messages) :
    Kept reply u t := by
  have harrived : ∀ c w, t.waiter = some w → t.number = c.id → Arrived reply s c w →
      Arrived reply u c w := by
    intro c w hw hc harr
    unfold Arrived at harr ⊢
    rw [(hwaiters w hw).2, ← hc, hmemory, hc]
    exact harr
  have hnone : ∀ w, t.waiter = some w → (∀ m ∈ s.messages, m.waiter ≠ w) →
      ∀ m ∈ u.messages, m.waiter ≠ w := by
    rintro w hw hall m hm rfl
    exact hall m ((hmessages m.waiter hw m.call).mp hm) rfl
  cases t with
  | ready c w | inService c w =>
      obtain ⟨hdest, hlen⟩ := hwaiters w rfl
      exact ⟨hdest.trans h.1, hlen.trans h.2⟩
  | transmitting c w | waiting c w =>
      obtain ⟨hdest, hlen⟩ := hwaiters w rfl
      rcases h with ⟨hd, hl, hm⟩ | ⟨hall, harr⟩
      · exact Or.inl ⟨hdest.trans hd, hlen.trans hl, (hmessages w rfl c.id).mpr hm⟩
      · exact Or.inr ⟨hnone w rfl hall, harrived c w rfl rfl harr⟩
  | leaving c w replied | reading c w replied =>
      cases replied with
      | true => exact harrived c w rfl rfl h
      | false => trivial
  | _ => trivial

/-- A thread moves on. It may touch its own waiter and send a message that
    carries it. -/
theorem addressed_move (hs : Addressed reply s) (hpool : Pooled s)
    (h : u.move t next = some s') (hplaces : u.places = s.places)
    (hsame : u.memory = s.memory ∧ u.calls = s.calls ∧ u.returned = s.returned)
    (hwaiters : ∀ w, t.waiter ≠ some w →
      (u.waiters w).dest = (s.waiters w).dest ∧ (u.waiters w).destlen = (s.waiters w).destlen)
    (hmessages : ∀ w, t.waiter ≠ some w → ∀ k, ⟨k, w⟩ ∈ u.messages ↔ ⟨k, w⟩ ∈ s.messages)
    (hpending : ∀ w, u.pending w + t.awaits w =
      s.pending w + total (ClientPlace.awaits w) next.toList)
    (hnumber : ∀ n, next = some n → n.number = t.number)
    (hnext : ∀ n, next = some n → Kept reply u n) : Addressed reply s' := by
  obtain ⟨places, hp, rfl⟩ := clientMove_some h
  rw [hplaces] at hp
  obtain ⟨hmemory, hcalls, hreturned⟩ := hsame
  have hnumbers : ∀ k, total (ClientPlace.numbered k) places ≤
      total (ClientPlace.numbered k) s.places := by
    intro k
    have htotal := total_advance (ClientPlace.numbered k) hp
    cases next with
    | none =>
        simp only [Option.toList_none, total_nil] at htotal
        omega
    | some n =>
        have heq : n.numbered k = t.numbered k := by
          simp only [ClientPlace.numbered, hnumber n rfl]
        simp only [Option.toList_some, total_cons, total_nil, heq] at htotal
        omega
  refine ⟨fun w => ?_, fun k => ?_, fun k hk => ?_, fun v hv => ?_, ?_⟩
  · have hawaits := total_advance (ClientPlace.awaits w) hp
    have hbefore := hs.pending w
    have hchange := hpending w
    change u.pending w = total (ClientPlace.awaits w) places
    omega
  · exact (hnumbers k).trans (hs.once k)
  · have hzero := hs.fresh k (hcalls ▸ hk)
    have hle := hnumbers k
    simp only
    omega
  · rcases mem_advance hp hv with hn | hold
    · exact (hnext v hn : Kept reply u v)
    · -- The waiter of another thread is another waiter.
      by_cases hv' : ∃ w, t.waiter = some w ∧ v.waiter = some w ∧ next ≠ some v
      · obtain ⟨w, htw, hvw, hnv⟩ := hv'
        have hone : total (ClientPlace.owns w) s.places ≤ t.owns w := by
          rw [← hpool.inuse w]
          simpa [ClientPlace.owns, htw, -ClientPlace.waiter] using Bool.toNat_le _
        rcases advance_alone hp hone hv with hn | ⟨-, hzero⟩
        · exact absurd hn hnv
        · simp [ClientPlace.owns, hvw, -ClientPlace.waiter] at hzero
      · by_cases hnv : next = some v
        · exact (hnext v hnv : Kept reply u v)
        · have hne : ∀ w, v.waiter = some w → t.waiter ≠ some w :=
            fun w hw htw => hv' ⟨w, htw, hw, hnv⟩
          exact ((hs.kept v hold).frame (u := u) (by rw [hmemory])
            (fun w hw => hwaiters w (hne w hw)) (fun w hw => hmessages w (hne w hw)))
  · intro c bs hc
    exact hs.returned c bs (hreturned ▸ hc)

/-- A thread moves on, and only a lock, a semaphore or a list of bulk transfers
    changes. -/
theorem addressed_quiet (hs : Addressed reply s) (hpool : Pooled s)
    (h : u.move t next = some s') (hplaces : u.places = s.places)
    (hsame : u.memory = s.memory ∧ u.calls = s.calls ∧ u.returned = s.returned)
    (hrest : u.waiters = s.waiters ∧ u.messages = s.messages ∧ u.callback = s.callback)
    (hout : ∀ w, t.awaits w = total (ClientPlace.awaits w) next.toList)
    (hnext : ∀ n, next = some n → n.number = t.number ∧ Kept reply u n) :
    Addressed reply s' := by
  obtain ⟨hwaiters, hmessages, hcallback⟩ := hrest
  refine addressed_move hs hpool h hplaces hsame (fun w _ => by simp [hwaiters])
    (fun w _ k => by rw [hmessages]) (fun w => ?_) (fun n hn => (hnext n hn).1)
    fun n hn => (hnext n hn).2
  simp only [Client.pending, hwaiters, hmessages, hcallback, hout w]

/-- What is on its way to a waiter does not depend on what is in it. -/
theorem pending_update {w : Fin maxWaiters} {v : Waiter}
    (hset : u.waiters = Function.update s.waiters w v) (hv : v.sem = (s.waiters w).sem)
    (hrest : u.messages = s.messages ∧ u.callback = s.callback) {x : Fin maxWaiters} {m n : Nat}
    (hmn : m = n) : u.pending x + m = s.pending x + n := by
  simp only [Client.pending, hset, hrest.1, hrest.2, hmn]
  by_cases hx : x = w
  · subst hx
    simp [hv]
  · simp [Function.update_of_ne hx]

/-- While a thread waits, one thing is on its way to its waiter. -/
theorem pending_le_one (hs : Addressed reply s) (hpool : Pooled s) (w : Fin maxWaiters) :
    s.pending w ≤ 1 := by
  rw [hs.pending w]
  refine le_trans (total_mono fun t _ => ?_) ((hpool.inuse w).symm.le.trans (Bool.toNat_le _))
  rw [ClientPlace.awaits, ClientPlace.owns]
  by_cases hw : t.waiter = some w
  · rw [if_pos hw]
    split <;> omega
  · rw [if_neg hw, if_neg fun h => hw h.2]

/-- No bulk transfer fails after its message has been queued. -/
def ClientOp.bulkSent : ClientOp → Bool
  | .go (.transmitting _ _) ok => ok
  | .go (.sendTransmitting _) ok => ok
  | _ => true

@[simp]
theorem useInternal_rest (ok : Bool) : (s.useInternal ok).memory = s.memory ∧
    (s.useInternal ok).calls = s.calls ∧ (s.useInternal ok).returned = s.returned ∧
    (s.useInternal ok).messages = s.messages ∧ (s.useInternal ok).callback = s.callback := by
  unfold Client.useInternal
  split
  · split <;> simp
  · simp

@[simp]
theorem releaseInternal_rest (ok : Bool) : (s.releaseInternal ok).memory = s.memory ∧
    (s.releaseInternal ok).calls = s.calls ∧ (s.releaseInternal ok).returned = s.returned ∧
    (s.releaseInternal ok).messages = s.messages ∧
    (s.releaseInternal ok).callback = s.callback := by
  unfold Client.releaseInternal
  split
  · split <;> simp
  · simp

/-- The places of a thread without a waiter, and of one whose waiter is not in a
    message. -/
theorem awaits_zero (h : t.isOut = false) (w : Fin maxWaiters) : t.awaits w = 0 := by
  simp [ClientPlace.awaits, h, -ClientPlace.isOut]

theorem addressed_look (hs : Addressed reply s) (hpool : Pooled s) {c : Call} {i : Nat}
    (h : s.look c i = some s') : Addressed reply s' := by
  simp only [Client.look] at h
  split at h
  · rename_i hi
    split at h
    · exact addressed_quiet hs hpool h rfl ⟨rfl, rfl, rfl⟩ ⟨rfl, rfl, rfl⟩ (fun w => rfl)
        (by rintro n ⟨⟩; exact ⟨rfl, trivial⟩)
    · refine addressed_move hs hpool h rfl ⟨rfl, rfl, rfl⟩ (fun w _ => ?_) (fun w _ k => Iff.rfl)
        (fun w => ?_) (by rintro n ⟨⟩; rfl) (by rintro n ⟨⟩; trivial)
      · by_cases hw : w = ⟨i, hi⟩
        · subst hw
          simp [Client.setWaiter]
        · simp [Client.setWaiter, Function.update_of_ne hw]
      · exact pending_update (by rfl) (by rfl) (by exact ⟨rfl, rfl⟩) rfl
  · exact addressed_quiet hs hpool h rfl ⟨rfl, rfl, rfl⟩ ⟨rfl, rfl, rfl⟩ (fun w => rfl)
      (by rintro n ⟨⟩; exact ⟨rfl, trivial⟩)

/-- The message goes out with the waiter in it. -/
theorem addressed_queue (hs : Addressed reply s) (hpool : Pooled s) {c : Call}
    {w : Fin maxWaiters} {ok : Bool} (h : s.queueMessage c w ok = some s') :
    Addressed reply s' := by
  simp only [Client.queueMessage] at h
  cases ok with
  | false =>
      simp only [Bool.false_eq_true, if_false] at h
      exact addressed_quiet hs hpool h rfl ⟨rfl, rfl, rfl⟩ ⟨rfl, rfl, rfl⟩ (fun w => rfl)
        (by rintro n ⟨⟩; exact ⟨rfl, trivial⟩)
  | true =>
      simp only [if_true] at h
      obtain ⟨places, hp, -⟩ := clientMove_some h
      have hkept : Kept reply s (.inService c w) := hs.kept _ (mem_of_advance hp)
      have hnext : ∀ bulk : Bool, ∀ n : ClientPlace,
          (if bulk then ClientPlace.transmitting c w else .waiting c w) = n →
          n.number = c.id ∧ n.isOut = true ∧ n.waiter = some w := by
        rintro bulk n rfl
        cases bulk <;> exact ⟨rfl, rfl, rfl⟩
      refine addressed_move hs hpool h rfl ⟨rfl, rfl, rfl⟩ (fun v _ => ⟨rfl, rfl⟩)
        (fun v hv k => ?_) (fun v => ?_) ?_ ?_
      · have hne : w ≠ v := fun heq => hv (congrArg some heq)
        simp [hne.symm]
      · obtain ⟨-, hout, hwaiter⟩ := hnext c.sendDummyBulk _ rfl
        by_cases hv : w = v
        · subst hv
          simp [Client.pending, ClientPlace.awaits, hout, hwaiter, -ClientPlace.waiter,
            -ClientPlace.isOut]
          simp
          omega
        · simp [Client.pending, ClientPlace.awaits, hwaiter, hv, -ClientPlace.waiter,
            -ClientPlace.isOut]
          simp
      · rintro n ⟨⟩
        exact (hnext _ _ rfl).1
      · rintro n ⟨⟩
        cases c.sendDummyBulk <;> exact Or.inl ⟨hkept.1, hkept.2, List.mem_cons_self⟩

/-- The call has its result. -/
theorem addressed_read (hs : Addressed reply s) (hpool : Pooled s) {c : Call}
    {w : Fin maxWaiters} {replied ok : Bool}
    (h : callStep s (.reading c w replied) ok = some s') : Addressed reply s' := by
  simp only [callStep] at h
  obtain ⟨places, hp, rfl⟩ := clientMove_some h
  have hkept : Kept reply s (.reading c w replied) := hs.kept _ (mem_of_advance hp)
  -- Apart from what is returned this is a quiet step.
  have hmove : s.move (.reading c w replied) (some (.clearing c w)) =
      some { s with places := places } := by
    simp only [Client.move, hp, Option.map_some]
  have hquiet := addressed_quiet hs hpool hmove rfl ⟨rfl, rfl, rfl⟩ ⟨rfl, rfl, rfl⟩ (fun w => rfl)
    (by rintro n ⟨⟩; exact ⟨rfl, trivial⟩)
  refine ⟨hquiet.pending, hquiet.once, hquiet.fresh, ?_, fun d bs hd => ?_⟩
  · intro v hv
    exact (hquiet.kept v hv).frame rfl (fun w _ => ⟨rfl, rfl⟩) fun w _ k => Iff.rfl
  · rcases List.mem_append.mp hd with hold | hnew
    · exact hs.returned d bs hold
    · cases replied with
      | true =>
          simp only [if_true, List.mem_singleton, Prod.mk.injEq, Option.some.injEq] at hnew
          obtain ⟨rfl, rfl⟩ := hnew
          exact hkept
      | false => simp at hnew

theorem addressed_go (hs : Addressed reply s) (hpool : Pooled s) {ok : Bool}
    (hbulk : ClientOp.bulkSent (.go t ok) = true) (h : callStep s t ok = some s') :
    Addressed reply s' := by
  cases t with
  | locking id destlen | entering c | counted c =>
      simp only [callStep] at h
      split at h
      · cases h
      · exact addressed_quiet hs hpool h rfl ⟨rfl, rfl, rfl⟩ ⟨rfl, rfl, rfl⟩ (fun w => rfl)
          (by rintro n ⟨⟩; exact ⟨rfl, trivial⟩)
  | scanning c i => exact addressed_look hs hpool h
  | null c => cases h
  | holding c w =>
      refine addressed_move hs hpool h rfl ⟨rfl, rfl, rfl⟩ (fun v hv => ?_) (fun v _ k => Iff.rfl)
        (fun v => ?_) (by rintro n ⟨⟩; rfl) ?_
      · have hne : v ≠ w := fun heq => hv (congrArg some heq.symm)
        simp [Client.setWaiter, Function.update_of_ne hne]
      · exact pending_update (by rfl) (by rfl) (by exact ⟨rfl, rfl⟩) rfl
      · rintro n ⟨⟩
        simp [Kept, Client.setWaiter]
  | ready c w =>
      simp only [callStep] at h
      split at h
      · cases h
      · obtain ⟨places, hp, -⟩ := clientMove_some h
        have hmem : .ready c w ∈ s.places := by simpa using mem_of_advance hp
        have hkept : Kept reply s (.ready c w) := hs.kept _ hmem
        refine addressed_quiet hs hpool h (by simp) (by simp) (by simp) (fun w => rfl) ?_
        rintro n ⟨⟩
        refine ⟨rfl, ?_⟩
        simpa [Kept] using hkept
  | inService c w => exact addressed_queue hs hpool h
  | transmitting c w =>
      have hok : ok = true := hbulk
      subst hok
      simp only [callStep, if_true] at h
      obtain ⟨places, hp, -⟩ := clientMove_some h
      have hkept : Kept reply s (.transmitting c w) := hs.kept _ (mem_of_advance hp)
      refine addressed_quiet hs hpool h rfl ⟨rfl, rfl, rfl⟩ ⟨rfl, rfl, rfl⟩ (fun w => rfl) ?_
      rintro n ⟨⟩
      exact ⟨rfl, hkept⟩
  | waiting c w =>
      simp only [callStep] at h
      split at h
      · cases h
      · rename_i hsem
        obtain ⟨places, hp, -⟩ := clientMove_some h
        have hkept : Kept reply s (.waiting c w) := hs.kept _ (mem_of_advance hp)
        have hone := pending_le_one hs hpool w
        -- The token is the one thing on its way, so the reply has been copied.
        have hcount : s.messages.countP (fun m => m.waiter = w) = 0 := by
          simp only [Client.pending] at hone
          omega
        have harr : Arrived reply s c w := by
          rcases hkept with ⟨-, -, hm⟩ | ⟨-, harr⟩
          · have hno := List.countP_eq_zero.mp hcount _ hm
            simp at hno
          · exact harr
        refine addressed_move hs hpool h rfl ⟨rfl, rfl, rfl⟩ (fun v hv => ?_)
          (fun v _ k => Iff.rfl) (fun v => ?_) (by rintro n ⟨⟩; rfl) ?_
        · have hne : v ≠ w := fun heq => hv (congrArg some heq.symm)
          simp [Client.setWaiter, Function.update_of_ne hne]
        · by_cases hv : v = w
          · subst hv
            simp [Client.pending, Client.setWaiter, ClientPlace.awaits]
            omega
          · have hne : w ≠ v := fun heq => hv heq.symm
            simp [Client.pending, Client.setWaiter, Function.update_of_ne hv, ClientPlace.awaits,
              hne]
        · rintro n ⟨⟩
          simpa [Kept, Arrived, Client.setWaiter] using harr
  | leaving c w replied =>
      simp only [callStep] at h
      split at h
      · cases h
      · obtain ⟨places, hp, -⟩ := clientMove_some h
        have hmem : .leaving c w replied ∈ s.places := by simpa using mem_of_advance hp
        have hkept : Kept reply s (.leaving c w replied) := hs.kept _ hmem
        refine addressed_quiet hs hpool h (by simp) (by simp) (by simp) (fun w => rfl) ?_
        rintro n ⟨⟩
        refine ⟨rfl, ?_⟩
        cases replied with
        | true => simpa [Kept, Arrived] using hkept
        | false => trivial
  | reading c w replied =>
      exact addressed_read hs hpool h
  | clearing c w =>
      refine addressed_move hs hpool h rfl ⟨rfl, rfl, rfl⟩ (fun v hv => ?_) (fun v _ k => Iff.rfl)
        (fun v => ?_) (by rintro n ⟨⟩; rfl) (by rintro n ⟨⟩; trivial)
      · have hne : v ≠ w := fun heq => hv (congrArg some heq.symm)
        simp [Client.setWaiter, Function.update_of_ne hne]
      · exact pending_update (by rfl) (by rfl) (by exact ⟨rfl, rfl⟩) rfl
  | posting c =>
      exact addressed_quiet hs hpool h rfl ⟨rfl, rfl, rfl⟩ ⟨rfl, rfl, rfl⟩ (fun w => rfl) (by simp)
  | sendLocking n =>
      simp only [callStep] at h
      split at h
      · cases h
      · exact addressed_quiet hs hpool h rfl ⟨rfl, rfl, rfl⟩ ⟨rfl, rfl, rfl⟩ (fun w => rfl)
          (by rintro n ⟨⟩; exact ⟨rfl, trivial⟩)
  | sending n bulk =>
      simp only [callStep, Client.queueOnly] at h
      split at h
      · refine addressed_quiet hs hpool h rfl ⟨rfl, rfl, rfl⟩ ⟨rfl, rfl, rfl⟩
          (fun w => by cases bulk <;> rfl) ?_
        cases bulk with
        | true =>
            rintro n ⟨⟩
            exact ⟨rfl, trivial⟩
        | false => simp
      · exact addressed_quiet hs hpool h rfl ⟨rfl, rfl, rfl⟩ ⟨rfl, rfl, rfl⟩ (fun w => rfl)
          (by simp)
  | sendTransmitting n =>
      exact addressed_quiet hs hpool h rfl ⟨rfl, rfl, rfl⟩ ⟨rfl, rfl, rfl⟩ (fun w => rfl) (by simp)

/-- A new call has a new number. -/
theorem addressed_begin (hs : Addressed reply s) (ht : t.number = s.calls)
    (hout : t.isOut = false) (hkept : Kept reply s t) :
    Addressed reply { s with calls := s.calls + 1, places := t :: s.places } := by
  have hself : t.numbered s.calls = 1 := by
    simp [ClientPlace.numbered, ht, -ClientPlace.number]
  have hother : ∀ k, k ≠ s.calls → t.numbered k = 0 := by
    intro k hk
    have hne : t.number ≠ k := fun heq => hk (heq.symm.trans ht)
    simp [ClientPlace.numbered, hne, -ClientPlace.number]
  refine ⟨fun w => ?_, fun k => ?_, fun k hk => ?_, fun v hv => ?_, hs.returned⟩
  · rw [total_cons, awaits_zero hout w, Nat.zero_add]
    exact hs.pending w
  · rw [total_cons]
    by_cases hk : k = s.calls
    · subst hk
      rw [hself, hs.fresh _ (Nat.le_refl _)]
    · rw [hother k hk, Nat.zero_add]
      exact hs.once k
  · rw [total_cons, hother k (by simp only at hk; omega), hs.fresh k (by simp only at hk; omega)]
  · rcases List.mem_cons.mp hv with rfl | hold
    · exact hkept.frame rfl (fun w _ => ⟨rfl, rfl⟩) fun w _ k => Iff.rfl
    · exact (hs.kept v hold).frame rfl (fun w _ => ⟨rfl, rfl⟩) fun w _ k => Iff.rfl

/-- A message that VideoCore has not answered is that of a call that waits for
    the reply. -/
theorem sender_waits (hs : Addressed reply s) (hpool : Pooled s) {m : Message}
    (hm : m ∈ s.messages) : ∃ c, m.call = c.id ∧
      (.transmitting c m.waiter ∈ s.places ∨ .waiting c m.waiter ∈ s.places) ∧
      (s.waiters m.waiter).dest = c.id ∧ (s.waiters m.waiter).destlen = c.destlen := by
  have hpos : 0 < s.messages.countP fun n => n.waiter = m.waiter :=
    List.countP_pos_iff.mpr ⟨m, hm, by simp⟩
  have hone := pending_le_one hs hpool m.waiter
  have hall := hs.pending m.waiter
  simp only [Client.pending] at hone hall
  have hsome : 0 < total (ClientPlace.awaits m.waiter) s.places := by omega
  obtain ⟨t, ht, hawaits⟩ := exists_of_total_pos hsome
  have htw : t.isOut = true ∧ t.waiter = some m.waiter := by
    by_contra hc
    simp [ClientPlace.awaits, hc, -ClientPlace.isOut, -ClientPlace.waiter] at hawaits
  -- There is one message with this waiter.
  have hunique : ∀ c : Call, ⟨c.id, m.waiter⟩ ∈ s.messages → m.call = c.id := by
    intro c hc
    by_contra hne
    have hm' : m ∈ s.messages.erase ⟨c.id, m.waiter⟩ := by
      exact (List.mem_erase_of_ne fun heq => hne (congrArg Message.call heq)).mpr hm
    have hperm := (List.perm_cons_erase hc).countP_eq fun n => n.waiter = m.waiter
    have hrest : 0 < (s.messages.erase ⟨c.id, m.waiter⟩).countP fun n => n.waiter = m.waiter :=
      List.countP_pos_iff.mpr ⟨m, hm', by simp⟩
    simp only [List.countP_cons, decide_true, if_true] at hperm
    omega
  have hkept := hs.kept t ht
  cases t with
  | transmitting c w | waiting c w =>
      obtain rfl : w = m.waiter := Option.some.inj htw.2
      rcases hkept with ⟨hdest, hlen, hc⟩ | ⟨hnone, -⟩
      · exact ⟨c, hunique c hc, by simp [ht], hdest, hlen⟩
      · exact absurd rfl (hnone m hm)
  | _ => simp at htw

/-- The reply is copied to where the call wants it. -/
theorem copied {old bs : List β} {destlen : Nat} :
    (bs.take (min destlen bs.length) ++ old.drop (min destlen bs.length)).take
      (min destlen bs.length) = bs.take destlen := by
  have hlen : (bs.take (min destlen bs.length)).length = min destlen bs.length := by
    simp
  rw [List.take_append_of_le_length (by omega), List.take_take]
  simp

/-- A reply that is taken stays on its way to the waiter of its message. -/
theorem pending_receive {m : Message} (h : clientStep reply s (.receive m) = some s')
    (w : Fin maxWaiters) : s'.pending w = s.pending w := by
  simp only [clientStep] at h
  split at h
  · rename_i hcond
    obtain ⟨hcallback, hm⟩ := hcond
    cases h
    simp only [Client.pending, Client.setWaiter, (List.perm_cons_erase hm).countP_eq,
      List.countP_cons, hcallback]
    by_cases hw : m.waiter = w
    · subst hw
      simp
      omega
    · have hne : w ≠ m.waiter := fun heq => hw heq.symm
      simp [Function.update_of_ne hne, hw]
  · cases h

/-- So does one whose semaphore is posted. -/
theorem pending_post (h : clientStep reply s .post = some s') (w : Fin maxWaiters) :
    s'.pending w = s.pending w := by
  simp only [clientStep] at h
  split at h
  · cases h
  · rename_i v hcallback
    cases h
    simp only [Client.pending, Client.setWaiter, hcallback]
    by_cases hw : w = v
    · subst hw
      simp
    · have hne : v ≠ w := fun heq => hw heq.symm
      simp [Function.update_of_ne hw, hne]

theorem addressed_receive (hs : Addressed reply s) (hpool : Pooled s) {m : Message}
    (h : clientStep reply s (.receive m) = some s') : Addressed reply s' := by
  have hsame := pending_receive h
  simp only [clientStep] at h
  split at h
  · rename_i hcond
    obtain ⟨hcallback, hm⟩ := hcond
    obtain ⟨c, hcall, hplace, hdest, hlen⟩ := sender_waits hs hpool hm
    have hperm := List.perm_cons_erase hm
    have hone := pending_le_one hs hpool m.waiter
    simp only [Client.pending, hperm.countP_eq, List.countP_cons, decide_true, if_true] at hone
    have hnone : ∀ n ∈ s.messages.erase m, n.waiter ≠ m.waiter := by
      intro n hn
      have hzero : (s.messages.erase m).countP (fun n => n.waiter = m.waiter) = 0 := by omega
      simpa using List.countP_eq_zero.mp hzero n hn
    -- Everybody else has another waiter and another number.
    have hothers : ∀ v ∈ s.places, v ≠ .transmitting c m.waiter → v ≠ .waiting c m.waiter →
        v.waiter ≠ some m.waiter ∧ v.number ≠ c.id := by
      intro v hv hnt hnw
      obtain ⟨t, ht, htw, htn⟩ : ∃ t ∈ s.places, t.waiter = some m.waiter ∧ t.number = c.id ∧
          t ≠ v := by
        rcases hplace with ht | ht
        · exact ⟨_, ht, rfl, rfl, fun heq => hnt heq.symm⟩
        · exact ⟨_, ht, rfl, rfl, fun heq => hnw heq.symm⟩
      constructor
      · intro hvw
        have htwo := add_le_total (ClientPlace.owns m.waiter) ht hv htn.2
        have hle := Bool.toNat_le (s.waiters m.waiter).inuse
        rw [hpool.inuse] at hle
        simp only [ClientPlace.owns, htw, hvw, if_true] at htwo
        omega
      · intro hvn
        have htwo := add_le_total (ClientPlace.numbered c.id) ht hv htn.2
        have hle := hs.once c.id
        simp only [ClientPlace.numbered, htn.1, hvn, if_true] at htwo
        omega
    cases h
    refine ⟨fun w => ?_, hs.once, hs.fresh, fun v hv => ?_, hs.returned⟩
    · exact (hsame w).trans (hs.pending w)
    · have harr : ∀ u : Client β, (u.waiters m.waiter).destlen =
          min c.destlen (reply c.id).length → (u.memory c.id =
          (reply c.id).take (min c.destlen (reply c.id).length) ++
            (s.memory c.id).drop (min c.destlen (reply c.id).length)) →
          Arrived reply u c m.waiter := by
        intro u hulen humem
        unfold Arrived
        rw [hulen, humem]
        exact copied
      by_cases hnt : v = .transmitting c m.waiter
      · subst hnt
        refine Or.inr ⟨hnone, harr _ ?_ ?_⟩
        · simp [Client.setWaiter, hlen, hcall]
        · simp [hdest, hlen, hcall]
      · by_cases hnw : v = .waiting c m.waiter
        · subst hnw
          refine Or.inr ⟨hnone, harr _ ?_ ?_⟩
          · simp [Client.setWaiter, hlen, hcall]
          · simp [hdest, hlen, hcall]
        · obtain ⟨hwaiter, hnumber⟩ := hothers v hv hnt hnw
          refine (hs.kept v hv).frame ?_ (fun w hw => ?_) fun w hw k => ?_
          · simp only [hdest]
            exact Function.update_of_ne hnumber _ _
          · have hne : w ≠ m.waiter := fun heq => hwaiter (heq ▸ hw)
            simp [Client.setWaiter, Function.update_of_ne hne]
          · have hne : (⟨k, w⟩ : Message) ≠ m := by
              rintro rfl
              exact hwaiter hw
            exact List.mem_erase_of_ne hne
  · cases h

theorem addressed_step (s : Client β) (op : ClientOp) (s' : Client β)
    (hs : Pooled s ∧ Addressed reply s) (hbulk : op.bulkSent = true)
    (h : clientStep reply s op = some s') : Pooled s' ∧ Addressed reply s' := by
  obtain ⟨hpool, hs⟩ := hs
  refine ⟨pooled_step reply s op s' hpool h, ?_⟩
  cases op with
  | call destlen sendDummyBulk =>
      cases h
      cases sendDummyBulk with
      | true => exact addressed_begin hs rfl rfl trivial
      | false => exact addressed_begin hs rfl rfl trivial
  | send bulk =>
      cases h
      cases bulk with
      | true => exact addressed_begin hs rfl rfl trivial
      | false => exact addressed_begin hs rfl rfl trivial
  | use ok =>
      obtain ⟨n, b, k, rfl⟩ := service_frame (Or.inl rfl) h
      exact ⟨hs.pending, hs.once, hs.fresh, hs.kept, hs.returned⟩
  | release ok =>
      obtain ⟨n, b, k, rfl⟩ := service_frame (Or.inr rfl) h
      exact ⟨hs.pending, hs.once, hs.fresh, hs.kept, hs.returned⟩
  | go t ok => exact addressed_go hs hpool hbulk h
  | receive m => exact addressed_receive hs hpool h
  | post =>
      have hsame := pending_post h
      simp only [clientStep] at h
      split at h
      · cases h
      · rename_i w hcallback
        cases h
        refine ⟨fun v => (hsame v).trans (hs.pending v), hs.once, hs.fresh, fun v hv => ?_,
          hs.returned⟩
        · refine (hs.kept v hv).frame rfl (fun x _ => ?_) fun x _ k => Iff.rfl
          by_cases hx : x = w
          · subst hx
            simp [Client.setWaiter]
          · simp [Client.setWaiter, Function.update_of_ne hx]

/-- While no bulk transfer fails, whatever a call of `mmal_vc_sendwait_message`
    returns is VideoCore's reply to its own message, as much of it as the caller
    has room for, in every order of calls and replies. -/
theorem reply_returned {ops : List ClientOp} (hbulk : ∀ op ∈ ops, op.bulkSent = true)
    (h : run (clientStep reply) .init ops = some s) :
    ∀ c bs, (c, some bs) ∈ s.returned → bs = (reply c.id).take c.destlen := by
  have hinv := run_invariant_along (P := fun _ op => op.bulkSent = true) (s := Client.init)
    addressed_step ⟨pooled_init, addressed_init⟩ (along_of_forall fun op hop _ => hbulk op hop) h
  exact hinv.2.returned

/-- The first call gets its own reply, although the second one was answered
    before it and the third one has the waiter of the second. -/
theorem reply_returned_again :
    ∃ s : Client Nat, run (clientStep fun k => [k, k, k]) .init
        (threeCalls ++ sends thirdCall secondWaiter ++ isAnswered firstCall firstWaiter ++
          isAnswered thirdCall secondWaiter) = some s ∧
      s.returned = [(secondCall, some [1, 1, 1]), (firstCall, some [0, 0]),
        (thirdCall, some [2, 2, 2])] ∧
      ∀ c bs, (c, some bs) ∈ s.returned → bs = [c.id, c.id, c.id].take c.destlen := by
  refine ⟨_, rfl, rfl, ?_⟩
  exact reply_returned (by decide) (show run (clientStep fun k => [k, k, k]) .init
    (threeCalls ++ sends thirdCall secondWaiter ++ isAnswered firstCall firstWaiter ++
      isAnswered thirdCall secondWaiter) = some _ from rfl)

end Framework

end RaspiCam
