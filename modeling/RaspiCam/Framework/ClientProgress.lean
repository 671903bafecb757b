import RaspiCam.Framework.ClientReply

/-!
# Bulk Transfers, Locks and the Service

More about the client of `mmal_vc_client.c`. A message that announces a bulk
transfer is followed by it before the next such message, since both are sent
under `bulk_lock`; VideoCore relies on it, because nothing in a transfer says
which message it belongs to, `bulk_in_order`.

A call holds `bulk_lock` while it waits for a waiter, and a waiter while it
waits for the lock of the client and for VideoCore. The calls never block each
other for good, `client_progress`. A bulk transfer that fails does no harm here:
its call gives the lock back and does not wait, and what VideoCore still answers
can only wake a thread too early.

Each call uses the service while it waits, so that VideoCore is not suspended,
and so does whoever has called `mmal_vc_use`. The client counts them and tells
VCHIQ when the first one begins and the last one ends, `service_in_use`.

## Main definitions

* `Live`: Who waits has something to wait for.
* `Ordered`: The invariant of the bulk transfers.
* `Used`: The invariant of the count.

## Theorems

* `bulk_in_order`: The bulk transfers are in the order of their messages.
* `client_progress`: As long as there is a call, something goes on.
* `service_in_use`: When the service is in use.
-/

namespace RaspiCam

namespace Framework

open Threads Transition

variable {β : Type*} {s s' u : Client β} {t : ClientPlace} {next : Option ClientPlace}
  {places : List ClientPlace} {reply : Nat → List β}

/-- The thread has `bulk_lock`. -/
@[simp]
def ClientPlace.holdsBulk : ClientPlace → Nat
  | .entering c | .counted c | .scanning c _ | .null c | .holding c _ | .ready c _
  | .inService c _ => c.sendDummyBulk.toNat
  | .transmitting _ _ | .sendTransmitting _ => 1
  | .sending _ bulk => bulk.toNat
  | .locking _ _ | .waiting _ _ | .leaving _ _ _ | .reading _ _ _ | .clearing _ _ | .posting _
  | .sendLocking _ => 0

/-- The message that a thread has to send a bulk transfer for. -/
@[simp]
def ClientPlace.announces : ClientPlace → Option Nat
  | .transmitting c _ => some c.id
  | .sendTransmitting n => some n
  | _ => none

/-- Something is on its way to each waiter that a thread waits with, and
    `bulk_lock` is taken by one thread or by none. -/
structure Live (s : Client β) : Prop where
  awaited : ∀ w, total (ClientPlace.awaits w) s.places ≤ s.pending w
  bulkLock : s.bulkLock.toNat = total ClientPlace.holdsBulk s.places

theorem live_init : Live (Client.init : Client β) := by
  constructor <;> simp [Client.init]

/-- A thread moves on. What it no longer waits for may be lost. -/
theorem live_move (hs : Live s) (h : u.move t next = some s') (hplaces : u.places = s.places)
    (hpending : ∀ w, s.pending w + total (ClientPlace.awaits w) next.toList ≤
      u.pending w + t.awaits w)
    (hlock : u.bulkLock.toNat + t.holdsBulk =
      s.bulkLock.toNat + total ClientPlace.holdsBulk next.toList) : Live s' := by
  obtain ⟨places, hp, rfl⟩ := clientMove_some h
  rw [hplaces] at hp
  have hbulk := total_advance ClientPlace.holdsBulk hp
  have hbefore := hs.bulkLock
  refine ⟨fun w => ?_, by simp only; omega⟩
  have hawaits := total_advance (ClientPlace.awaits w) hp
  have hawaited := hs.awaited w
  have hchange := hpending w
  change total (ClientPlace.awaits w) places ≤ u.pending w
  omega

/-- A thread moves on, and nothing is sent or posted. -/
theorem live_quiet (hs : Live s) (h : u.move t next = some s')
    (hsame : u.places = s.places ∧ ∀ w, u.pending w = s.pending w)
    (hout : ∀ w, total (ClientPlace.awaits w) next.toList ≤ t.awaits w)
    (hlock : u.bulkLock.toNat + t.holdsBulk =
      s.bulkLock.toNat + total ClientPlace.holdsBulk next.toList) : Live s' := by
  refine live_move hs h hsame.1 (fun w => ?_) hlock
  have hle := hout w
  rw [hsame.2 w]
  omega

/-- Whoever has to give `bulk_lock` back has it. -/
theorem bulkLock_of_holds (hs : Live s) (ht : t ∈ s.places) (hholds : t.holdsBulk = 1) :
    s.bulkLock = true := by
  have hle := le_total ClientPlace.holdsBulk ht
  have hbulk := hs.bulkLock
  cases hlock : s.bulkLock with
  | true => rfl
  | false =>
      rw [hlock, Bool.toNat_false] at hbulk
      omega

/-- A thread that has `bulk_lock`, if it has to, gives it back. -/
theorem live_unlock (hs : Live s) (bulk : Bool) (h : u.move t next = some s')
    (hu : u.places = s.places ∧ (∀ w, u.pending w = s.pending w) ∧
      u.bulkLock = if bulk then false else s.bulkLock)
    (ht : t.holdsBulk = bulk.toNat)
    (hout : ∀ w, total (ClientPlace.awaits w) next.toList ≤ t.awaits w)
    (hnext : total ClientPlace.holdsBulk next.toList = 0) : Live s' := by
  obtain ⟨hplaces, hpending, hlock⟩ := hu
  refine live_quiet hs h ⟨hplaces, hpending⟩ hout ?_
  rw [hlock, ht, hnext]
  cases bulk with
  | true =>
      obtain ⟨places, hp, -⟩ := clientMove_some h
      rw [bulkLock_of_holds hs (hplaces ▸ mem_of_advance hp) ht]
      rfl
  | false => rfl

@[simp]
theorem useInternal_bulk (ok : Bool) : (s.useInternal ok).announced = s.announced ∧
    (s.useInternal ok).bulks = s.bulks ∧ (s.useInternal ok).bulkLock = s.bulkLock := by
  unfold Client.useInternal
  split
  · split <;> simp
  · simp

@[simp]
theorem releaseInternal_bulk (ok : Bool) : (s.releaseInternal ok).announced = s.announced ∧
    (s.releaseInternal ok).bulks = s.bulks ∧ (s.releaseInternal ok).bulkLock = s.bulkLock := by
  unfold Client.releaseInternal
  split
  · split <;> simp
  · simp

theorem live_go (hs : Live s) {ok : Bool} (h : callStep s t ok = some s') : Live s' := by
  cases t with
  | locking id destlen | sendLocking n =>
      simp only [callStep] at h
      split at h
      · cases h
      · rename_i hlock
        have hfree : s.bulkLock = false := by simpa using hlock
        exact live_quiet hs h ⟨rfl, fun w => rfl⟩ (fun w => le_rfl) (by simp [hfree])
  | entering c | counted c =>
      simp only [callStep] at h
      split at h
      · cases h
      · exact live_quiet hs h ⟨rfl, fun w => rfl⟩ (fun w => le_rfl) rfl
  | scanning c i =>
      simp only [callStep, Client.look] at h
      split at h
      · split at h
        · exact live_quiet hs h ⟨rfl, fun w => rfl⟩ (fun w => le_rfl) rfl
        · exact live_quiet hs h ⟨rfl, fun w => pending_update (by rfl) (by rfl)
            (by exact ⟨rfl, rfl⟩) (rfl : 0 = 0)⟩ (fun w => le_rfl) rfl
      · exact live_quiet hs h ⟨rfl, fun w => rfl⟩ (fun w => le_rfl) rfl
  | null c => cases h
  | holding c w | clearing c w =>
      exact live_quiet hs h ⟨rfl, fun v => pending_update (by rfl) (by rfl) (by exact ⟨rfl, rfl⟩)
        (rfl : 0 = 0)⟩ (fun v => le_rfl) rfl
  | ready c w =>
      simp only [callStep] at h
      split at h
      · cases h
      · exact live_quiet hs h ⟨by simp, fun v => by simp [Client.pending]⟩ (fun v => le_rfl)
          (by rw [(useInternal_bulk ok).2.2]; rfl)
  | leaving c w replied =>
      simp only [callStep] at h
      split at h
      · cases h
      · exact live_quiet hs h ⟨by simp, fun v => by simp [Client.pending]⟩ (fun v => le_rfl)
          (by rw [(releaseInternal_bulk ok).2.2]; rfl)
  | inService c w =>
      simp only [callStep, Client.queueMessage] at h
      split at h
      · -- The message is on its way to the waiter of the thread.
        refine live_move hs h rfl (fun v => ?_) (by cases hb : c.sendDummyBulk <;> simp [hb])
        have hout : total (ClientPlace.awaits v) (some (if c.sendDummyBulk then
            ClientPlace.transmitting c w else .waiting c w)).toList = if w = v then 1 else 0 := by
          cases c.sendDummyBulk <;> simp [ClientPlace.awaits]
        rw [hout]
        simp only [Client.pending, List.countP_cons, decide_eq_true_eq]
        omega
      · exact live_unlock hs _ h ⟨rfl, fun v => rfl, rfl⟩ rfl (fun v => le_rfl) rfl
  | transmitting c w =>
      simp only [callStep] at h
      split at h
      · exact live_unlock hs true h ⟨rfl, fun v => rfl, rfl⟩ rfl (fun v => le_rfl) rfl
      · exact live_unlock hs true h ⟨rfl, fun v => rfl, rfl⟩ rfl
          (fun v => Nat.zero_le _) rfl
  | waiting c w =>
      simp only [callStep] at h
      split at h
      · cases h
      · refine live_move hs h rfl (fun v => ?_) rfl
        by_cases hv : v = w
        · subst hv
          simp [Client.pending, Client.setWaiter, ClientPlace.awaits]
          omega
        · simp [Client.pending, Client.setWaiter, Function.update_of_ne hv, ClientPlace.awaits]
  | reading c w replied | posting c =>
      exact live_quiet hs h ⟨rfl, fun v => rfl⟩ (fun v => le_rfl) rfl
  | sending n bulk =>
      simp only [callStep, Client.queueOnly] at h
      split at h
      · exact live_quiet hs h ⟨rfl, fun v => rfl⟩ (fun v => by cases bulk <;> exact le_rfl)
          (by cases bulk <;> rfl)
      · exact live_unlock hs _ h ⟨rfl, fun v => rfl, rfl⟩ rfl (fun v => le_rfl) rfl
  | sendTransmitting n =>
      exact live_unlock hs true h ⟨rfl, fun v => rfl, rfl⟩ rfl (fun v => le_rfl) rfl

/-- A call that begins has no lock yet and waits for no reply. -/
theorem live_begin (hs : Live s) (ht : t.holdsBulk = 0 ∧ t.isOut = false) :
    Live { s with calls := s.calls + 1, places := t :: s.places } := by
  refine ⟨fun w => ?_, ?_⟩
  · rw [total_cons, awaits_zero ht.2 w, Nat.zero_add]
    exact hs.awaited w
  · rw [total_cons, ht.1, Nat.zero_add]
    exact hs.bulkLock

theorem live_step (reply : Nat → List β) (s : Client β) (op : ClientOp) (s' : Client β)
    (hs : Live s) (h : clientStep reply s op = some s') : Live s' := by
  cases op with
  | call destlen bulk | send bulk =>
      cases h
      cases bulk with
      | true => exact live_begin hs ⟨rfl, rfl⟩
      | false => exact live_begin hs ⟨rfl, rfl⟩
  | use ok =>
      obtain ⟨n, b, k, rfl⟩ := service_frame (Or.inl rfl) h
      exact ⟨hs.awaited, hs.bulkLock⟩
  | release ok =>
      obtain ⟨n, b, k, rfl⟩ := service_frame (Or.inr rfl) h
      exact ⟨hs.awaited, hs.bulkLock⟩
  | go t ok => exact live_go hs h
  | receive m =>
      have hsame := pending_receive h
      simp only [clientStep] at h
      split at h
      · cases h
        exact ⟨fun w => (hs.awaited w).trans (hsame w).ge, hs.bulkLock⟩
      · cases h
  | post =>
      have hsame := pending_post h
      simp only [clientStep] at h
      split at h
      · cases h
      · cases h
        exact ⟨fun w => (hs.awaited w).trans (hsame w).ge, hs.bulkLock⟩

/-- Every message with a bulk transfer has got it, but for the one of a thread
    that has the lock. -/
structure Ordered (s : Client β) : Prop where
  sent : (∀ t ∈ s.places, t.announces = none) → s.announced = s.bulks
  last : ∀ t ∈ s.places, ∀ n, t.announces = some n → s.announced = s.bulks ++ [n]

theorem holds_of_announces {n : Nat} (h : t.announces = some n) : t.holdsBulk = 1 := by
  cases t <;> simp at h ⊢

/-- A thread moves on without a message or a transfer. -/
theorem ordered_quiet (hs : Ordered s) (h : u.move t next = some s') (hplaces : u.places = s.places)
    (hsame : u.announced = s.announced ∧ u.bulks = s.bulks)
    (ht : t.announces = none) (hnext : ∀ n, next = some n → n.announces = none) :
    Ordered s' := by
  obtain ⟨places, hp, rfl⟩ := clientMove_some h
  rw [hplaces] at hp
  refine ⟨fun hall => ?_, fun v hv n hn => ?_⟩
  · rw [hsame.1, hsame.2]
    refine hs.sent fun v hv => ?_
    by_cases hvt : v = t
    · rw [hvt, ht]
    · exact hall v (mem_advance_of_ne hp hv hvt)
  · rcases mem_advance hp hv with heq | hold
    · rw [hnext v heq] at hn
      cases hn
    · rw [hsame.1, hsame.2]
      exact hs.last v hold n hn

/-- With the lock taken by one thread no other thread has a transfer to send. -/
theorem others_silent (hlive : Live s) (hp : advance s.places t next = some places)
    (ht : t.holdsBulk = 1) {v : ClientPlace} (hv : v ∈ places) :
    next = some v ∨ v.announces = none := by
  have hle := Bool.toNat_le s.bulkLock
  rw [hlive.bulkLock] at hle
  rcases advance_alone (w := ClientPlace.holdsBulk) hp (by omega) hv with hn | ⟨-, hzero⟩
  · exact Or.inl hn
  · cases hann : v.announces with
    | none => exact Or.inr rfl
    | some n =>
        rw [holds_of_announces hann] at hzero
        omega

/-- A message is queued that has a bulk transfer. -/
theorem ordered_announce (hs : Ordered s) (hlive : Live s) (h : u.move t next = some s')
    (hplaces : u.places = s.places) {n : Nat}
    (hsame : u.announced = s.announced ++ [n] ∧ u.bulks = s.bulks)
    (ht : t.holdsBulk = 1 ∧ t.announces = none)
    (hnext : ∃ m, next = some m ∧ m.announces = some n) : Ordered s' := by
  obtain ⟨places, hp, rfl⟩ := clientMove_some h
  rw [hplaces] at hp
  obtain ⟨m, rfl, hann⟩ := hnext
  obtain ⟨hannounced, hbulks⟩ := hsame
  have hothers : ∀ v ∈ s.places, v.announces = none := by
    intro v hv
    by_cases hvt : v = t
    · rw [hvt, ht.2]
    · rcases others_silent hlive hp ht.1 (mem_advance_of_ne hp hv hvt) with heq | hnone
      · cases heq
        have hm := holds_of_announces hann
        have htwo := add_le_total ClientPlace.holdsBulk hv (mem_of_advance hp) hvt
        have hle := Bool.toNat_le s.bulkLock
        have hbulk := hlive.bulkLock
        omega
      · exact hnone
  have hsent := hs.sent hothers
  refine ⟨fun hall => ?_, fun v hv k hk => ?_⟩
  · have hmem : m ∈ places := by
      rw [advance_eq hp]
      simp
    rw [hall m hmem] at hann
    cases hann
  · rcases others_silent hlive hp ht.1 hv with heq | hnone
    · cases heq
      rw [hann, Option.some.injEq] at hk
      rw [hannounced, hbulks, hsent, hk]
    · rw [hnone] at hk
      cases hk

/-- The bulk transfer of a message is sent. -/
theorem ordered_transmit (hs : Ordered s) (hlive : Live s) (h : u.move t next = some s')
    (hplaces : u.places = s.places) {n : Nat}
    (hsame : u.announced = s.announced ∧ u.bulks = s.bulks ++ [n])
    (ht : t.announces = some n) (hnext : ∀ m, next = some m → m.announces = none) :
    Ordered s' := by
  obtain ⟨places, hp, rfl⟩ := clientMove_some h
  rw [hplaces] at hp
  obtain ⟨hannounced, hbulks⟩ := hsame
  have hnone : ∀ v ∈ places, v.announces = none := by
    intro v hv
    rcases others_silent hlive hp (holds_of_announces ht) hv with heq | hnone
    · exact hnext v heq
    · exact hnone
  refine ⟨fun _ => ?_, fun v hv k hk => ?_⟩
  · rw [hannounced, hbulks]
    exact hs.last t (mem_of_advance hp) n ht
  · rw [hnone v hv] at hk
    cases hk

theorem ordered_go (hs : Ordered s) (hlive : Live s) {ok : Bool}
    (hbulk : ClientOp.bulkSent (.go t ok) = true) (h : callStep s t ok = some s') :
    Ordered s' := by
  cases t with
  | locking id destlen | entering c | counted c | waiting c w | sendLocking n =>
      simp only [callStep] at h
      split at h
      · cases h
      · exact ordered_quiet hs h rfl ⟨rfl, rfl⟩ rfl (by rintro n ⟨⟩; rfl)
  | scanning c i =>
      simp only [callStep, Client.look] at h
      split at h
      · split at h
        · exact ordered_quiet hs h rfl ⟨rfl, rfl⟩ rfl (by rintro n ⟨⟩; rfl)
        · exact ordered_quiet hs h rfl ⟨rfl, rfl⟩ rfl (by rintro n ⟨⟩; rfl)
      · exact ordered_quiet hs h rfl ⟨rfl, rfl⟩ rfl (by rintro n ⟨⟩; rfl)
  | null c => cases h
  | holding c w | reading c w replied | clearing c w =>
      exact ordered_quiet hs h rfl ⟨rfl, rfl⟩ rfl (by rintro n ⟨⟩; rfl)
  | ready c w | leaving c w replied =>
      simp only [callStep] at h
      split at h
      · cases h
      · exact ordered_quiet hs h (by simp) (by simp) rfl (by rintro n ⟨⟩; rfl)
  | inService c w =>
      simp only [callStep, Client.queueMessage] at h
      split at h
      · cases hb : c.sendDummyBulk with
        | true =>
            simp only [hb, if_true] at h
            exact ordered_announce hs hlive h rfl ⟨rfl, rfl⟩ ⟨by simp [hb], rfl⟩ ⟨_, rfl, rfl⟩
        | false =>
            simp only [hb, Bool.false_eq_true, if_false] at h
            exact ordered_quiet hs h rfl ⟨rfl, rfl⟩ rfl (by rintro n ⟨⟩; rfl)
      · exact ordered_quiet hs h rfl ⟨rfl, rfl⟩ rfl (by rintro n ⟨⟩; rfl)
  | transmitting c w =>
      have hok : ok = true := hbulk
      subst hok
      simp only [callStep, if_true] at h
      exact ordered_transmit hs hlive h rfl ⟨rfl, rfl⟩ rfl (by rintro n ⟨⟩; rfl)
  | posting c => exact ordered_quiet hs h rfl ⟨rfl, rfl⟩ rfl (by simp)
  | sending n bulk =>
      simp only [callStep, Client.queueOnly] at h
      split at h
      · cases bulk with
        | true =>
            simp only [if_true] at h
            exact ordered_announce hs hlive h rfl ⟨rfl, rfl⟩ ⟨rfl, rfl⟩ ⟨_, rfl, rfl⟩
        | false =>
            simp only [Bool.false_eq_true, if_false] at h
            exact ordered_quiet hs h rfl ⟨rfl, rfl⟩ rfl (by simp)
      · exact ordered_quiet hs h rfl ⟨rfl, rfl⟩ rfl (by simp)
  | sendTransmitting n =>
      have hok : ok = true := hbulk
      subst hok
      simp only [callStep, if_true] at h
      exact ordered_transmit hs hlive h rfl ⟨rfl, rfl⟩ rfl (by simp)

theorem ordered_init : Ordered (Client.init : Client β) := by
  constructor <;> simp [Client.init]

/-- A call that begins has nothing to send yet. -/
theorem ordered_begin (hs : Ordered s) (ht : t.announces = none) :
    Ordered { s with calls := s.calls + 1, places := t :: s.places } := by
  refine ⟨fun hall => ?_, fun v hv n hn => ?_⟩
  · exact hs.sent fun v hv => hall v (List.mem_cons_of_mem t hv)
  · rcases List.mem_cons.mp hv with rfl | hold
    · rw [ht] at hn
      cases hn
    · exact hs.last v hold n hn

theorem ordered_step (s : Client β) (op : ClientOp) (s' : Client β) (hs : Live s ∧ Ordered s)
    (hbulk : op.bulkSent = true) (h : clientStep reply s op = some s') : Live s' ∧ Ordered s' := by
  obtain ⟨hlive, hs⟩ := hs
  refine ⟨live_step reply s op s' hlive h, ?_⟩
  cases op with
  | call destlen bulk | send bulk =>
      cases h
      cases bulk with
      | true => exact ordered_begin hs rfl
      | false => exact ordered_begin hs rfl
  | use ok =>
      obtain ⟨n, b, k, rfl⟩ := service_frame (Or.inl rfl) h
      exact ⟨hs.sent, hs.last⟩
  | release ok =>
      obtain ⟨n, b, k, rfl⟩ := service_frame (Or.inr rfl) h
      exact ⟨hs.sent, hs.last⟩
  | go t ok => exact ordered_go hs hlive hbulk h
  | receive m =>
      simp only [clientStep] at h
      split at h
      · cases h
        exact ⟨hs.sent, hs.last⟩
      · cases h
  | post =>
      simp only [clientStep] at h
      split at h
      · cases h
      · cases h
        exact ⟨hs.sent, hs.last⟩

/-- While no bulk transfer fails, the transfers are sent in the order of the
    messages that announce them, and at most the last one is still to come, so
    that VideoCore can tell which transfer belongs to which message. -/
theorem bulk_in_order {ops : List ClientOp} (hbulk : ∀ op ∈ ops, op.bulkSent = true)
    (h : run (clientStep reply) .init ops = some s) :
    s.announced = s.bulks ∨ ∃ n, s.announced = s.bulks ++ [n] := by
  have hordered := run_invariant_along (P := fun _ op => op.bulkSent = true) (s := Client.init)
    ordered_step ⟨live_init, ordered_init⟩ (along_of_forall fun op hop _ => hbulk op hop) h
  obtain ⟨-, hordered⟩ := hordered
  by_cases hall : ∀ t ∈ s.places, t.announces = none
  · exact Or.inl (hordered.sent hall)
  · simp only [not_forall] at hall
    obtain ⟨t, ht, hann⟩ := hall
    obtain ⟨n, hn⟩ := Option.ne_none_iff_exists'.mp hann
    exact Or.inr ⟨n, hordered.last t ht n hn⟩

/-- The second of two messages has to wait until the transfer of the first one
    is sent. -/
theorem bulk_in_order_two :
    ∃ s : Client Nat, run (clientStep fun _ => []) .init [.send true, .send true,
        .go (.sendLocking 1) true, .go (.sending 1 true) true, .go (.sendTransmitting 1) true,
        .go (.sendLocking 0) true, .go (.sending 0 true) true] = some s ∧
      s.announced = [1, 0] ∧ (s.announced = s.bulks ∨ ∃ n, s.announced = s.bulks ++ [n]) := by
  refine ⟨_, rfl, rfl, ?_⟩
  exact bulk_in_order (by decide) (show run (clientStep fun _ => []) .init [.send true, .send true,
    .go (.sendLocking 1) true, .go (.sending 1 true) true, .go (.sendTransmitting 1) true,
    .go (.sendLocking 0) true, .go (.sending 0 true) true] = some _ from rfl)

/-- The step goes on with what has begun. -/
def ClientOp.goesOn : ClientOp → Bool
  | .call _ _ | .send _ | .use _ | .release _ => false
  | _ => true

/-- Some thread or the callback can go on. -/
def CanGoOn (reply : Nat → List β) (s : Client β) : Prop :=
  ∃ op, ClientOp.goesOn op = true ∧ ∃ s', clientStep reply s op = some s'

theorem canGoOn_of_call (ok : Bool) (h : ∃ s', callStep s t ok = some s') : CanGoOn reply s :=
  ⟨.go t ok, rfl, h⟩

theorem move_goes (hu : u.places = s.places) (ht : t ∈ s.places) :
    ∃ s', u.move t next = some s' := by
  obtain ⟨places, hp⟩ := advance_of_mem next (hu ▸ ht)
  exact ⟨{ u with places := places }, by simp only [Client.move, hp, Option.map_some]⟩

/-- A thread in its search can go on, so the lock stops nobody. -/
theorem canGoOn_of_lock (hpool : Pooled s) (hlock : s.lock = true) : CanGoOn reply s := by
  have htotal := hpool.lock
  rw [hlock, Bool.toNat_true] at htotal
  have hsome : 0 < total ClientPlace.scans s.places := by omega
  obtain ⟨t, ht, hscans⟩ := exists_of_total_pos hsome
  cases t with
  | scanning c i =>
      refine canGoOn_of_call (t := .scanning c i) true ?_
      simp only [callStep, Client.look]
      split
      · split
        · exact move_goes rfl ht
        · exact move_goes rfl ht
      · exact move_goes rfl ht
  | _ => simp at hscans

/-- A thread that waits for a reply will find one, or the callback is about to
    post, or VideoCore has the message. -/
theorem canGoOn_of_waiting (hs : Live s) {c : Call} {w : Fin maxWaiters}
    (ht : .waiting c w ∈ s.places) : CanGoOn reply s := by
  have hle := le_total (ClientPlace.awaits w) ht
  have hpending := hs.awaited w
  simp only [ClientPlace.awaits, ClientPlace.isOut, ClientPlace.waiter, and_self, if_true] at hle
  cases hcallback : s.callback with
  | some v => exact ⟨.post, rfl, by simp [clientStep, hcallback]⟩
  | none =>
      simp only [Client.pending, hcallback, Option.toList_none, List.count_nil] at hpending
      by_cases hsem : (s.waiters w).sem = 0
      · have hpos : 0 < s.messages.countP fun m => m.waiter = w := by omega
        obtain ⟨m, hm, -⟩ := List.countP_pos_iff.mp hpos
        exact ⟨.receive m, rfl, by simp [clientStep, hcallback, hm]⟩
      · refine canGoOn_of_call (t := .waiting c w) true ?_
        simp only [callStep, hsem, if_false]
        exact move_goes rfl ht

/-- A thread that needs no semaphore and no lock but the one that is free. -/
theorem call_goes (hlock : s.lock = false) (ht : t ∈ s.places)
    (hfree : t.tokens = 1 ∨ ∃ n b, t = .sending n b ∨ t = .sendTransmitting n)
    (hscan : t.scans = 0) (hnull : ∀ c, t ≠ .null c) (hout : ∀ c w, t ≠ .waiting c w) :
    ∃ s', callStep s t true = some s' := by
  cases t with
  | locking id destlen | entering c | sendLocking n => simp at hfree
  | scanning c i => simp at hscan
  | null c => exact absurd rfl (hnull c)
  | waiting c w => exact absurd rfl (hout c w)
  | counted c =>
      simp only [callStep, hlock, Bool.false_eq_true, if_false]
      exact move_goes rfl ht
  | ready c w | leaving c w replied =>
      simp only [callStep, hlock, Bool.false_eq_true, if_false]
      exact move_goes (by simp) ht
  | inService c w =>
      simp only [callStep, Client.queueMessage, if_true]
      exact move_goes rfl ht
  | transmitting c w =>
      simp only [callStep, if_true]
      exact move_goes rfl ht
  | sending n bulk =>
      simp only [callStep, Client.queueOnly, if_true]
      exact move_goes rfl ht
  | holding c w | reading c w replied | clearing c w | posting c | sendTransmitting n =>
      exact move_goes rfl ht

/-- A call that has a token does not stop. -/
theorem canGoOn_of_token (hpool : Pooled s) (hs : Live s) (ht : t ∈ s.places)
    (hfree : t.tokens = 1 ∨ ∃ n b, t = .sending n b ∨ t = .sendTransmitting n) :
    CanGoOn reply s := by
  cases hlock : s.lock with
  | true => exact canGoOn_of_lock hpool hlock
  | false =>
      have htotal := hpool.lock
      have hle := le_total ClientPlace.scans ht
      rw [hlock, Bool.toNat_false] at htotal
      by_cases hout : ∃ c w, t = .waiting c w
      · obtain ⟨c, w, rfl⟩ := hout
        exact canGoOn_of_waiting hs ht
      · refine canGoOn_of_call true (call_goes hlock ht hfree (by omega) ?_ ?_)
        · rintro c rfl
          exact hpool.hopeful _ ht
        · rintro c w rfl
          exact hout ⟨c, w, rfl⟩

/-- A thread that waits for the pool can go on, or some call has a token. -/
theorem canGoOn_of_entering (hpool : Pooled s) (hs : Live s) {c : Call}
    (ht : .entering c ∈ s.places) : CanGoOn reply s := by
  by_cases hsem : s.poolSem = 0
  · have htokens := hpool.tokens
    rw [hsem, Nat.zero_add] at htokens
    have hsome : 0 < total ClientPlace.tokens s.places := by
      rw [htokens]
      decide
    obtain ⟨t, ht, htoken⟩ := exists_of_total_pos hsome
    refine canGoOn_of_token hpool hs ht (Or.inl ?_)
    cases t <;> simp at htoken ⊢
  · refine canGoOn_of_call (t := .entering c) true ?_
    simp only [callStep, hsem, if_false]
    exact move_goes rfl ht

/-- A thread that waits for `bulk_lock` can go on, or who has it can. -/
theorem canGoOn_of_bulk (hpool : Pooled s) (hs : Live s) (hlock : s.bulkLock = true) :
    CanGoOn reply s := by
  have hbulk := hs.bulkLock
  rw [hlock, Bool.toNat_true] at hbulk
  have hsome : 0 < total ClientPlace.holdsBulk s.places := by omega
  obtain ⟨t, ht, hholds⟩ := exists_of_total_pos hsome
  by_cases henter : ∃ c, t = .entering c
  · obtain ⟨c, rfl⟩ := henter
    exact canGoOn_of_entering hpool hs ht
  · refine canGoOn_of_token hpool hs ht ?_
    cases t with
    | entering c => exact absurd ⟨c, rfl⟩ henter
    | sending n bulk => exact Or.inr ⟨n, bulk, Or.inl rfl⟩
    | sendTransmitting n => exact Or.inr ⟨n, true, Or.inr rfl⟩
    | _ => simp at hholds ⊢

/-- As long as a call is on its way, some thread can go on or VideoCore can
    answer: the two locks, the semaphore of the pool and the semaphores of the
    waiters never block each other, with any number of calls and 16 waiters. -/
theorem client_progress {ops : List ClientOp} (h : run (clientStep reply) .init ops = some s)
    (hbusy : s.places ≠ []) :
    ∃ op, ClientOp.goesOn op = true ∧ ∃ s', clientStep reply s op = some s' := by
  have hpool := pooled_run h
  have hs : Live s := run_invariant (live_step reply) live_init h
  obtain ⟨t, ht⟩ := List.exists_mem_of_ne_nil _ hbusy
  cases t with
  | locking id destlen =>
      cases hlock : s.bulkLock with
      | true => exact canGoOn_of_bulk hpool hs hlock
      | false =>
          refine canGoOn_of_call (t := .locking id destlen) true ?_
          simp only [callStep, hlock, Bool.false_eq_true, if_false]
          exact move_goes rfl ht
  | sendLocking n =>
      cases hlock : s.bulkLock with
      | true => exact canGoOn_of_bulk hpool hs hlock
      | false =>
          refine canGoOn_of_call (t := .sendLocking n) true ?_
          simp only [callStep, hlock, Bool.false_eq_true, if_false]
          exact move_goes rfl ht
  | entering c => exact canGoOn_of_entering hpool hs ht
  | sending n bulk => exact canGoOn_of_token hpool hs ht (Or.inr ⟨n, bulk, Or.inl rfl⟩)
  | sendTransmitting n => exact canGoOn_of_token hpool hs ht (Or.inr ⟨n, true, Or.inr rfl⟩)
  | _ => exact canGoOn_of_token hpool hs ht (Or.inl rfl)

/-- The bulk transfer of the first of two calls fails, and its message stays with
    VideoCore. The other call, which waited for `bulk_lock`, has the next
    waiter. -/
def failedTransfer : List ClientOp :=
  let c : Call := ⟨0, 2, true⟩
  let d : Call := ⟨1, 3, true⟩
  [.call 2 true, .call 3 true, .go (.locking 0 2) true, .go (.entering c) true,
    .go (.counted c) true, .go (.scanning c 0) true] ++ sends c firstWaiter ++
  [.go (.transmitting c firstWaiter) false, .go (.locking 1 3) true, .go (.entering d) true,
    .go (.counted d) true, .go (.scanning d 0) true, .go (.scanning d 1) true] ++
  sends d secondWaiter ++ [.go (.transmitting d secondWaiter) true]

/-- The second call waits, and the first one has given up. -/
theorem client_progress_failed :
    ∃ s : Client Nat, run (clientStep fun _ => []) .init failedTransfer = some s ∧
      s.places = [.waiting ⟨1, 3, true⟩ secondWaiter, .leaving ⟨0, 2, true⟩ firstWaiter false] ∧
      ∃ op, ClientOp.goesOn op = true ∧ ∃ s', clientStep (fun _ => []) s op = some s' := by
  refine ⟨_, rfl, rfl, ?_⟩
  exact client_progress
    (show run (clientStep fun _ => []) .init failedTransfer = some _ from rfl)
    (List.cons_ne_nil _ _)

/-- The thread is between `mmal_vc_use_internal` and
    `mmal_vc_release_internal`. -/
@[simp]
def ClientPlace.uses : ClientPlace → Nat
  | .inService _ _ | .transmitting _ _ | .waiting _ _ | .leaving _ _ _ => 1
  | _ => 0

/-- VCHIQ refuses no call the use of the service, and nobody its release. Whoever
    is refused by `mmal_vc_use` goes without. -/
def ClientOp.serviceObeys : ClientOp → Bool
  | .go (.ready _ _) ok => ok
  | .go (.leaving _ _ _) ok => ok
  | .release ok => ok
  | _ => true

/-- The step counts one more user. -/
def ClientOp.counts : ClientOp → Bool
  | .use _ | .go (.ready _ _) _ => true
  | _ => false

/-- One more user fits into the count. -/
def ClientOp.Fits (s : Client β) (op : ClientOp) : Prop :=
  op.counts = true → s.usecount < 2147483647

instance ClientOp.decidableFits (s : Client β) (op : ClientOp) : Decidable (op.Fits s) :=
  inferInstanceAs (Decidable (_ → _))

/-- The count is right, and VCHIQ knows whether it is zero. -/
structure Used (s : Client β) : Prop where
  count : s.usecount = s.users + total ClientPlace.uses s.places
  range : s.usecount < 2147483648
  inUse : s.inUse = true ↔ 0 < s.usecount

theorem used_init : Used (Client.init : Client β) := by
  constructor <;> simp [Client.init]

/-- Using the service when VCHIQ obeys. -/
theorem useInternal_true (hnonneg : 0 ≤ s.usecount) (hfits : s.usecount < 2147483647) :
    (s.useInternal true).usecount = s.usecount + 1 ∧
      ((s.useInternal true).inUse = true ↔ s.usecount = 0 ∨ s.inUse = true) := by
  by_cases hzero : s.usecount = 0
  · simp [Client.useInternal, hzero]
  · have hone : Machine.i32 (s.usecount + 1) = s.usecount + 1 :=
      Machine.i32_of_range (by omega) (by omega)
    simp [Client.useInternal, hzero, hone]

/-- Releasing it. -/
theorem releaseInternal_true (hpos : 0 < s.usecount) (hrange : s.usecount < 2147483648) :
    (s.releaseInternal true).usecount = s.usecount - 1 ∧
      ((s.releaseInternal true).inUse = true ↔ s.usecount ≠ 1 ∧ s.inUse = true) := by
  have hone : Machine.i32 (s.usecount - 1) = s.usecount - 1 :=
    Machine.i32_of_range (by omega) (by omega)
  by_cases hlast : s.usecount = 1
  · have hzero : Machine.i32 0 = 0 := by decide
    simp [Client.releaseInternal, hlast, hzero]
  · have hmore : s.usecount - 1 ≠ 0 := by omega
    simp [Client.releaseInternal, hone, hmore, hlast]

/-- A thread moves on. -/
theorem used_move (hs : Used s) (h : u.move t next = some s')
    (hsame : u.places = s.places ∧ u.users = s.users)
    (hcount : u.usecount + t.uses = s.usecount + total ClientPlace.uses next.toList)
    (hrange : u.usecount < 2147483648) (hinUse : u.inUse = true ↔ 0 < u.usecount) : Used s' := by
  obtain ⟨places, hp, rfl⟩ := clientMove_some h
  rw [hsame.1] at hp
  have htotal := total_advance ClientPlace.uses hp
  have hbefore := hs.count
  refine ⟨?_, hrange, hinUse⟩
  simp only [hsame.2]
  omega

/-- A thread moves on, and the service is not concerned. -/
theorem used_quiet (hs : Used s) (h : u.move t next = some s')
    (hu : u.places = s.places ∧ u.users = s.users ∧ u.usecount = s.usecount ∧ u.inUse = s.inUse)
    (huses : total ClientPlace.uses next.toList = t.uses) : Used s' := by
  obtain ⟨hplaces, husers, hcount, hinUse⟩ := hu
  refine used_move hs h ⟨hplaces, husers⟩ (by rw [hcount, huses]) (hcount ▸ hs.range) ?_
  rw [hcount, hinUse]
  exact hs.inUse

@[simp]
theorem useInternal_users (ok : Bool) : (s.useInternal ok).users = s.users := by
  unfold Client.useInternal
  split
  · split <;> rfl
  · rfl

@[simp]
theorem releaseInternal_users (ok : Bool) : (s.releaseInternal ok).users = s.users := by
  unfold Client.releaseInternal
  split
  · split <;> rfl
  · rfl

theorem used_go (hs : Used s) {ok : Bool} (hok : ClientOp.serviceObeys (.go t ok) = true)
    (hfits : ClientOp.Fits s (.go t ok)) (h : callStep s t ok = some s') : Used s' := by
  have hcount := hs.count
  have hrange := hs.range
  have hinUse := hs.inUse
  cases t with
  | locking id destlen | entering c | counted c | waiting c w | sendLocking n =>
      simp only [callStep] at h
      split at h
      · cases h
      · exact used_quiet hs h ⟨rfl, rfl, rfl, rfl⟩ rfl
  | scanning c i =>
      simp only [callStep, Client.look] at h
      split at h
      · split at h
        · exact used_quiet hs h ⟨rfl, rfl, rfl, rfl⟩ rfl
        · exact used_quiet hs h ⟨rfl, rfl, rfl, rfl⟩ rfl
      · exact used_quiet hs h ⟨rfl, rfl, rfl, rfl⟩ rfl
  | null c => cases h
  | ready c w =>
      have htrue : ok = true := hok
      subst htrue
      have hlt : s.usecount < 2147483647 := hfits rfl
      simp only [callStep] at h
      split at h
      · cases h
      · obtain ⟨hone, huse⟩ := useInternal_true (s := s) (by omega) hlt
        refine used_move hs h (by simp) ?_ (by omega) ?_
        · rw [hone]
          simp
        · rw [huse, hone, hinUse]
          omega
  | inService c w =>
      simp only [callStep, Client.queueMessage] at h
      split at h
      · exact used_quiet hs h ⟨rfl, rfl, rfl, rfl⟩ (by cases c.sendDummyBulk <;> rfl)
      · exact used_quiet hs h ⟨rfl, rfl, rfl, rfl⟩ rfl
  | transmitting c w =>
      simp only [callStep] at h
      split at h
      · exact used_quiet hs h ⟨rfl, rfl, rfl, rfl⟩ rfl
      · exact used_quiet hs h ⟨rfl, rfl, rfl, rfl⟩ rfl
  | leaving c w replied =>
      have htrue : ok = true := hok
      subst htrue
      simp only [callStep] at h
      split at h
      · cases h
      · obtain ⟨places, hp, -⟩ := clientMove_some h
        have hmem : .leaving c w replied ∈ s.places := by simpa using mem_of_advance hp
        have hle := le_total ClientPlace.uses hmem
        simp only [ClientPlace.uses] at hle
        obtain ⟨hone, huse⟩ := releaseInternal_true (s := s) (by omega) hrange
        refine used_move hs h (by simp) ?_ (by omega) ?_
        · rw [hone]
          simp
        · rw [huse, hone, hinUse]
          omega
  | holding c w | reading c w replied | clearing c w | posting c | sendTransmitting n =>
      exact used_quiet hs h ⟨rfl, rfl, rfl, rfl⟩ rfl
  | sending n bulk =>
      simp only [callStep, Client.queueOnly] at h
      split at h
      · exact used_quiet hs h ⟨rfl, rfl, rfl, rfl⟩ (by cases bulk <;> rfl)
      · exact used_quiet hs h ⟨rfl, rfl, rfl, rfl⟩ rfl

/-- `mmal_vc_use`, with any answer of VCHIQ. -/
theorem used_use (hs : Used s) {ok : Bool} (hfits : s.usecount < 2147483647) :
    Used (s.use ok) := by
  have hcount := hs.count
  by_cases hrefused : s.usecount = 0 ∧ ok = false
  · have hsame : s.use ok = s := by
      unfold Client.use Client.useInternal
      rw [if_pos hrefused.1, if_pos hrefused, hrefused.2]
      rfl
    rw [hsame]
    exact hs
  · -- The answer only matters to the first user, who is not refused.
    have heq : s.use ok = { s.useInternal true with users := s.users + 1 } := by
      unfold Client.use Client.useInternal
      by_cases hzero : s.usecount = 0
      · cases ok with
        | true => simp [hzero]
        | false => exact absurd ⟨hzero, rfl⟩ hrefused
      · simp [hzero]
    obtain ⟨hone, huse⟩ := useInternal_true (s := s) (by omega) hfits
    have hplaces := (useInternal_eq (s := s) true).1
    have hinUse := hs.inUse
    rw [heq]
    refine ⟨?_, ?_, ?_⟩
    · simp only [hone, hplaces]
      push_cast
      omega
    · simp only [hone]
      omega
    · simp only [hone, huse, hinUse]
      omega

/-- `mmal_vc_release`. -/
theorem used_release (hs : Used s) (husers : s.users ≠ 0) : Used (s.release true) := by
  have hcount := hs.count
  have hrange := hs.range
  have hinUse := hs.inUse
  obtain ⟨hone, huse⟩ := releaseInternal_true (s := s) (by omega) hrange
  have hplaces := (releaseInternal_eq (s := s) true).1
  refine ⟨?_, ?_, ?_⟩
  · simp only [Client.release, hone, hplaces]
    omega
  · simp only [Client.release, hone]
    omega
  · simp only [Client.release, hone, huse, hinUse]
    omega

theorem used_step (s : Client β) (op : ClientOp) (s' : Client β) (hs : Used s)
    (hok : op.serviceObeys = true ∧ op.Fits s) (h : clientStep reply s op = some s') :
    Used s' := by
  cases op with
  | call destlen bulk | send bulk =>
      cases h
      exact ⟨by cases bulk <;> simpa using hs.count, hs.range, hs.inUse⟩
  | use ok =>
      simp only [clientStep] at h
      split at h
      · cases h
      · cases h
        exact used_use hs (hok.2 rfl)
  | release ok =>
      have htrue : ok = true := hok.1
      subst htrue
      simp only [clientStep] at h
      split at h
      · cases h
      · rename_i hcond
        cases h
        exact used_release hs fun hzero => hcond (Or.inr hzero)
  | go t ok => exact used_go hs hok.1 hok.2 h
  | receive m =>
      simp only [clientStep] at h
      split at h
      · cases h
        exact ⟨hs.count, hs.range, hs.inUse⟩
      · cases h
  | post =>
      simp only [clientStep] at h
      split at h
      · cases h
      · cases h
        exact ⟨hs.count, hs.range, hs.inUse⟩

/-- While VCHIQ neither refuses to use the service for a call nor to release it,
    and while the count does not overflow, the service is in use exactly as long
    as somebody has used it or some call is between the two. One refusal is
    enough to break this: the call does not look at it and releases what it does
    not have, and the count is one less for ever. -/
theorem service_in_use {ops : List ClientOp}
    (hok : Along (clientStep reply) (fun s op => op.serviceObeys = true ∧ op.Fits s) .init ops)
    (h : run (clientStep reply) .init ops = some s) :
    s.inUse = true ↔ 0 < s.users ∨ ∃ t ∈ s.places, t.uses = 1 := by
  have hused := run_invariant_along (s := Client.init) used_step used_init hok h
  have hcount := hused.count
  rw [hused.inUse, hcount]
  constructor
  · intro hpos
    by_cases husers : 0 < s.users
    · exact Or.inl husers
    · have hsome : 0 < total ClientPlace.uses s.places := by omega
      obtain ⟨t, ht, huses⟩ := exists_of_total_pos hsome
      refine Or.inr ⟨t, ht, ?_⟩
      cases t <;> simp at huses ⊢
  · rintro (husers | ⟨t, ht, huses⟩)
    · omega
    · have hle := le_total ClientPlace.uses ht
      omega

/-- A component is created, and its user is the only one when the calls have
    returned. When it is destroyed, the service is not in use any more. -/
def usedAgain : List ClientOp :=
  [.release true, .use true] ++ threeCalls ++ sends thirdCall secondWaiter ++
    isAnswered firstCall firstWaiter ++ isAnswered thirdCall secondWaiter

theorem service_in_use_again :
    (∃ s : Client Nat, run (clientStep fun k => [k, k, k]) .init usedAgain = some s ∧
      s.inUse = true ∧ s.places = [] ∧
      (s.inUse = true ↔ 0 < s.users ∨ ∃ t ∈ s.places, t.uses = 1)) ∧
    ∃ s : Client Nat, run (clientStep fun k => [k, k, k]) .init (usedAgain ++ [.release true]) =
        some s ∧ s.inUse = false ∧
      (s.inUse = true ↔ 0 < s.users ∨ ∃ t ∈ s.places, t.uses = 1) := by
  refine ⟨⟨_, rfl, rfl, rfl, ?_⟩, _, rfl, rfl, ?_⟩
  · exact service_in_use (by decide)
      (show run (clientStep fun k => [k, k, k]) .init usedAgain = some _ from rfl)
  · exact service_in_use (by decide)
      (show run (clientStep fun k => [k, k, k]) .init (usedAgain ++ [.release true]) = some _
        from rfl)

end Framework

end RaspiCam
