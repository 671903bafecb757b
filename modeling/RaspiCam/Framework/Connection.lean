import Mathlib.Data.List.Nodup
import Mathlib.Logic.Function.Basic
import Mathlib.Logic.Relation
import RaspiCam.Lib.Run

/-!
# Connected Ports

Two ports can be connected, `mmal_port_connect`, and then one call enables or
disables both. If the ports do not manage the connection on their own, as those
of VideoCore do, the core does, with a pool that is created when the ports are
enabled and destroyed when they are disabled.

Every function holds the connection locks of both ports from its first look to
its end, so it is one step here. What the components answer is part of the step.
That two threads may wait for each other's second lock is not followed.

A connection is mutual in every run, `connection_mutual`. What the ports do
together takes more: that a component can always be disabled, and that the ports
are an output and an input, or none of both, which `mmal_port_connect` does not
check. Otherwise `mmal_port_disconnect` may disable one port twice, and a port that
is left alone is enabled again with a second pool. With both, the ports are enabled
and disabled together, `connection_together`, and no pool is lost,
`connection_pools`.

What `mmal_port_enable` does for the pool before it fails is undone as if both ports
had been enabled. So every function is a few of the `Moves`, and the invariant is
kept by each of them.

## Main definitions

* `Ports`: What the core knows of the ports.
* `portConnect`, `portDisconnect`, `portEnable`, `portDisable`: The functions.
* `ConnectionOp.Sound`: What the core takes for granted.
* `Moves`: What can happen to the ports then.
* `Paired`: The invariant.

## Theorems

* `connection_mutual`: Both ports of a connection know it.
* `paired_moves`, `moves_step`: The invariant is kept.
* `connection_together`: The ports are enabled and disabled together.
* `connection_pools`: Every pool is in use or destroyed.
-/

namespace RaspiCam

namespace Framework

open Transition

/-- `MMAL_PORT_TYPE_T`. -/
inductive PortType
  | unknown
  | control
  | input
  | output
  | clock
deriving DecidableEq

/-- `MMAL_STATUS_T`, as far as it is the core that says it. -/
inductive CoreStatus
  | success
  | enomem
  | einval
  | eisconn
  | enotconn
  -- what a component has answered
  | failed
deriving DecidableEq

variable {π : Type*}

/-- What the core knows of the ports, from `MMAL_PORT_T` and
    `MMAL_PORT_PRIVATE_CORE_T`, one function a field. Pools are numbered: there is
    the number of those that were created, and those that were destroyed. -/
structure Ports (π : Type*) where
  isEnabled : π → Bool
  connectedPort : π → Option π
  coreOwnsConnection : π → Bool
  poolForConnection : π → Option Nat
  created : Nat
  destroyed : List Nat

/-- What does not change: the type of a port, and whether it wants to allocate
    the payloads, `MMAL_PORT_CAPABILITY_ALLOCATION`. -/
structure PortKinds (π : Type*) where
  type : π → PortType
  allocates : π → Bool

/-- What the components answer in a step: `pf_connect` with another port and
    without, `pf_enable` and `pf_disable`, whether there is a pool, and whether
    its headers can be sent. -/
structure Answers (π : Type*) where
  connect : Bool
  disconnect : Bool
  enable : π → Bool
  disable : π → Bool
  pool : Bool
  populate : Bool

variable [DecidableEq π]

def Ports.setEnabled (s : Ports π) (p : π) (b : Bool) : Ports π :=
  { s with isEnabled := Function.update s.isEnabled p b }

def Ports.setPool (s : Ports π) (p : π) (n : Option Nat) : Ports π :=
  { s with poolForConnection := Function.update s.poolForConnection p n }

/-- Both ports point to something else. -/
def Ports.setConnected (s : Ports π) (p q : π) (other : Option π × Option π) : Ports π :=
  { s with connectedPort := Function.update (Function.update s.connectedPort p other.1) q other.2 }

def Ports.setOwns (s : Ports π) (p q : π) (b : Bool) : Ports π :=
  { s with
    coreOwnsConnection := Function.update (Function.update s.coreOwnsConnection p b) q b }

/-- `mmal_port_enable_internal`. The buffer requirements count as an answer of
    the component. -/
def enableInternal (s : Ports π) (p : π) (ok : Bool) : Bool × Ports π :=
  if s.isEnabled p then (true, s)
  else if ok then (true, s.setEnabled p true)
  else (false, s)

/-- `mmal_port_disable_internal`. -/
def disableInternal (s : Ports π) (p : π) (ok : Bool) : Bool × Ports π :=
  if s.isEnabled p then
    if ok then (true, s.setEnabled p false) else (false, s)
  else (true, s)

/-- `mmal_port_connection_enable`. -/
def connectionEnable (k : PortKinds π) (s : Ports π) (p q : π) (ok : Bool) : Bool × Ports π :=
  let output := if k.type p = .output then p else q
  let input := if k.type q = .input then q else p
  let poolPort := if k.allocates output then output else input
  if s.coreOwnsConnection p = false then (true, s)
  else if ok then
    (true, { s.setPool poolPort (some s.created) with created := s.created + 1 })
  else (false, s)

/-- `mmal_port_connection_disable`. -/
def connectionDisable (s : Ports π) (p q : π) : Ports π :=
  let pool := (s.poolForConnection p).or (s.poolForConnection q)
  { (s.setPool p none).setPool q none with destroyed := pool.toList ++ s.destroyed }

/-- `mmal_port_connect`. A port that is connected to itself waits forever for its
    own lock. -/
def portConnect (k : PortKinds π) (a : Answers π) (s : Ports π) (p q : π) :
    Option (CoreStatus × Ports π) :=
  if k.type p = .clock ∧ k.type p ≠ k.type q then some (.einval, s)
  else if (s.connectedPort p).isSome then some (.eisconn, s)
  else if s.isEnabled p then some (.einval, s)
  else if p = q then none
  else if (s.connectedPort q).isSome then some (.eisconn, s)
  else if s.isEnabled q then some (.einval, s)
  else some (.success, (s.setConnected p q (some q, some p)).setOwns p q (!a.connect))

/-- `mmal_port_disconnect`. -/
def portDisconnect (k : PortKinds π) (a : Answers π) (s : Ports π) (p : π) :
    CoreStatus × Ports π :=
  match s.connectedPort p with
  | none => (.enotconn, s)
  | some q =>
    let output := if k.type p = .output then p else q
    let input := if k.type q = .input then q else p
    let (ok, s) :=
      if s.isEnabled p then
        match disableInternal s output (a.disable output) with
        | (false, s) => (false, s)
        | (true, s) =>
          match disableInternal s input (a.disable input) with
          | (false, s) => (false, s)
          | (true, s) => (true, connectionDisable s p q)
      else (true, s)
    if ok = false then (.failed, s)
    else if s.coreOwnsConnection p = false ∧ a.disconnect = false then (.failed, s)
    else (.success, s.setConnected p q (none, none))

/-- The end of `mmal_port_enable` after an error. -/
def enableError (a : Answers π) (s : Ports π) (p q : π) : CoreStatus × Ports π :=
  let s := (disableInternal s q (a.disable q)).2
  let s := (disableInternal s p (a.disable p)).2
  (.failed, connectionDisable s p q)

/-- `mmal_port_enable`. The input port is enabled first. -/
def portEnable (k : PortKinds π) (a : Answers π) (s : Ports π) (p : π) (cb : Bool) :
    CoreStatus × Ports π :=
  if s.isEnabled p then (.einval, s)
  else
    match s.connectedPort p with
    | none =>
      match enableInternal s p (a.enable p) with
      | (true, s) => (.success, s)
      | (false, s) => (.failed, s)
    | some q =>
      if cb then (.einval, s)
      else
        match connectionEnable k s p q a.pool with
        | (false, s) => (.enomem, s)
        | (true, s) =>
          let first := if k.type q = .input then q else p
          let second := if k.type q = .input then p else q
          match enableInternal s first (a.enable first) with
          | (false, s) => enableError a s p q
          | (true, s) =>
            match enableInternal s second (a.enable second) with
            | (false, s) => enableError a s p q
            | (true, s) =>
              if s.coreOwnsConnection p = true ∧ a.populate = false then enableError a s p q
              else (.success, s)

/-- `mmal_port_disable`. The input port is disabled last. -/
def portDisable (k : PortKinds π) (a : Answers π) (s : Ports π) (p : π) : CoreStatus × Ports π :=
  if s.isEnabled p = false then (.einval, s)
  else
    match s.connectedPort p with
    | none =>
      match disableInternal s p (a.disable p) with
      | (true, s) => (.success, s)
      | (false, s) => (.failed, s)
    | some q =>
      let first := if k.type q = .input then p else q
      let second := if k.type q = .input then q else p
      match disableInternal s first (a.disable first) with
      | (false, s) => (.failed, s)
      | (true, s) =>
        match disableInternal s second (a.disable second) with
        | (false, s) => (.failed, s)
        | (true, s) => (.success, connectionDisable s p q)

/-- The steps. -/
inductive ConnectionOp (π : Type*)
  | connect (p q : π) (a : Answers π)
  | disconnect (p : π) (a : Answers π)
  | enable (p : π) (cb : Bool) (a : Answers π)
  | disable (p : π) (a : Answers π)

def connectionStep (k : PortKinds π) (s : Ports π) : ConnectionOp π → Option (Ports π)
  | .connect p q a => (portConnect k a s p q).map Prod.snd
  | .disconnect p a => some (portDisconnect k a s p).2
  | .enable p cb a => some (portEnable k a s p cb).2
  | .disable p a => some (portDisable k a s p).2

omit [DecidableEq π] in
/-- The ports as they are created. -/
def Ports.init : Ports π := ⟨fun _ => false, fun _ => none, fun _ => false, fun _ => none, 0, []⟩

variable {k : PortKinds π} {a : Answers π} {s s' t : Ports π} {p q r : π}

omit [DecidableEq π] in
/-- A connection is known to both ports, and to no third one. -/
def Mutual (s : Ports π) : Prop :=
  ∀ p q, s.connectedPort p = some q →
    s.connectedPort q = some p ∧ p ≠ q ∧ s.coreOwnsConnection p = s.coreOwnsConnection q

omit [DecidableEq π] in
/-- The connections are the same as before. -/
def SameLinks (s s' : Ports π) : Prop :=
  s'.connectedPort = s.connectedPort ∧ s'.coreOwnsConnection = s.coreOwnsConnection

omit [DecidableEq π] in
theorem SameLinks.refl (s : Ports π) : SameLinks s s := ⟨rfl, rfl⟩

omit [DecidableEq π] in
theorem SameLinks.trans (h : SameLinks s s') (g : SameLinks s' t) : SameLinks s t :=
  ⟨g.1.trans h.1, g.2.trans h.2⟩

omit [DecidableEq π] in
theorem SameLinks.mutual (h : SameLinks s s') (hs : Mutual s) : Mutual s' := by
  intro p q hpq
  rw [h.1] at hpq ⊢
  rw [h.2]
  exact hs p q hpq

theorem sameLinks_enableInternal (s : Ports π) (p : π) (ok : Bool) :
    SameLinks s (enableInternal s p ok).2 := by
  rw [enableInternal]
  split
  · exact SameLinks.refl s
  · split <;> exact ⟨rfl, rfl⟩

theorem sameLinks_disableInternal (s : Ports π) (p : π) (ok : Bool) :
    SameLinks s (disableInternal s p ok).2 := by
  rw [disableInternal]
  split
  · split <;> exact ⟨rfl, rfl⟩
  · exact SameLinks.refl s

theorem sameLinks_connectionEnable (k : PortKinds π) (s : Ports π) (p q : π) (ok : Bool) :
    SameLinks s (connectionEnable k s p q ok).2 := by
  simp only [connectionEnable]
  split
  · exact SameLinks.refl s
  · split <;> exact ⟨rfl, rfl⟩

theorem sameLinks_connectionDisable (s : Ports π) (p q : π) :
    SameLinks s (connectionDisable s p q) := ⟨rfl, rfl⟩

theorem sameLinks_enableError (a : Answers π) (s : Ports π) (p q : π) :
    SameLinks s (enableError a s p q).2 :=
  ((sameLinks_disableInternal s q _).trans (sameLinks_disableInternal _ p _)).trans
    (sameLinks_connectionDisable _ p q)

theorem sameLinks_portEnable (k : PortKinds π) (a : Answers π) (s : Ports π) (p : π) (cb : Bool) :
    SameLinks s (portEnable k a s p cb).2 := by
  simp only [portEnable]
  split
  · exact SameLinks.refl s
  · split
    · have henable := sameLinks_enableInternal s p (a.enable p)
      split <;> (rename_i heq; rw [heq] at henable; exact henable)
    · rename_i q hq
      split
      · exact SameLinks.refl s
      · have hconnection := sameLinks_connectionEnable k s p q a.pool
        split
        · rename_i heq
          rw [heq] at hconnection
          exact hconnection
        · rename_i t heq
          rw [heq] at hconnection
          have hfirst := sameLinks_enableInternal t (if k.type q = .input then q else p)
            (a.enable (if k.type q = .input then q else p))
          split
          · rename_i heq
            rw [heq] at hfirst
            exact (hconnection.trans hfirst).trans (sameLinks_enableError a _ p q)
          · rename_i u heq
            rw [heq] at hfirst
            have hsecond := sameLinks_enableInternal u (if k.type q = .input then p else q)
              (a.enable (if k.type q = .input then p else q))
            split
            · rename_i heq
              rw [heq] at hsecond
              exact ((hconnection.trans hfirst).trans hsecond).trans (sameLinks_enableError a _ p q)
            · rename_i heq
              rw [heq] at hsecond
              split
              · exact ((hconnection.trans hfirst).trans hsecond).trans
                  (sameLinks_enableError a _ p q)
              · exact (hconnection.trans hfirst).trans hsecond

/-- Two ports are disabled one after the other, and then the connection. -/
theorem sameLinks_disableBoth (s : Ports π) (a : Answers π) (first second p q : π) :
    let t := disableInternal s first (a.disable first)
    let u := disableInternal t.2 second (a.disable second)
    SameLinks s t.2 ∧ SameLinks s u.2 ∧ SameLinks s (connectionDisable u.2 p q) := by
  have hfirst := sameLinks_disableInternal s first (a.disable first)
  have hsecond := hfirst.trans (sameLinks_disableInternal _ second (a.disable second))
  exact ⟨hfirst, hsecond, hsecond.trans (sameLinks_connectionDisable _ p q)⟩

theorem sameLinks_portDisable (k : PortKinds π) (a : Answers π) (s : Ports π) (p : π) :
    SameLinks s (portDisable k a s p).2 := by
  simp only [portDisable]
  split
  · exact SameLinks.refl s
  · split
    · have hdisable := sameLinks_disableInternal s p (a.disable p)
      split <;> (rename_i heq; rw [heq] at hdisable; exact hdisable)
    · rename_i q hq
      obtain ⟨hfirst, hsecond, hall⟩ := sameLinks_disableBoth s a
        (if k.type q = .input then p else q) (if k.type q = .input then q else p) p q
      split
      · rename_i heq
        rw [heq] at hfirst
        exact hfirst
      · rename_i t heq
        rw [heq] at hsecond hall
        split
        · rename_i heq
          rw [heq] at hsecond
          exact hsecond
        · rename_i heq
          rw [heq] at hall
          exact hall

@[simp] theorem connectedPort_setConnected (s : Ports π) (p q : π) (other : Option π × Option π)
    (r : π) : (s.setConnected p q other).connectedPort r =
      if r = q then other.2 else if r = p then other.1 else s.connectedPort r := by
  simp [Ports.setConnected, Function.update_apply]

@[simp] theorem coreOwnsConnection_setOwns (s : Ports π) (p q : π) (b : Bool) (r : π) :
    (s.setOwns p q b).coreOwnsConnection r =
      if r = q then b else if r = p then b else s.coreOwnsConnection r := by
  simp [Ports.setOwns, Function.update_apply]

@[simp] theorem connectedPort_setOwns (s : Ports π) (p q : π) (b : Bool) :
    (s.setOwns p q b).connectedPort = s.connectedPort := rfl

@[simp] theorem coreOwnsConnection_setConnected (s : Ports π) (p q : π)
    (other : Option π × Option π) :
    (s.setConnected p q other).coreOwnsConnection = s.coreOwnsConnection := rfl

theorem mutual_link (hs : Mutual s) (hp : s.connectedPort p = none)
    (hq : s.connectedPort q = none) (hne : p ≠ q) (b : Bool) :
    Mutual ((s.setConnected p q (some q, some p)).setOwns p q b) := by
  intro r u hru
  rw [connectedPort_setOwns, connectedPort_setConnected] at hru
  by_cases hrq : r = q
  · rw [if_pos hrq] at hru
    cases hru
    simp [hrq, hne, Ne.symm hne]
  · rw [if_neg hrq] at hru
    by_cases hrp : r = p
    · rw [if_pos hrp] at hru
      cases hru
      simp [hrp, hne]
    · -- Nobody else is connected to one of the two.
      rw [if_neg hrp] at hru
      obtain ⟨hback, hne', howns⟩ := hs r u hru
      have hup : u ≠ p := by
        rintro rfl
        rw [hp] at hback
        cases hback
      have huq : u ≠ q := by
        rintro rfl
        rw [hq] at hback
        cases hback
      simp [hup, huq, hrp, hrq, hback, hne', howns]

theorem mutual_connect {status : CoreStatus} (hs : Mutual s)
    (h : portConnect k a s p q = some (status, t)) : Mutual t := by
  simp only [portConnect] at h
  split at h
  · cases h
    exact hs
  split at h
  · cases h
    exact hs
  rename_i hp
  split at h
  · cases h
    exact hs
  split at h
  · cases h
  rename_i hne
  split at h
  · cases h
    exact hs
  rename_i hq
  split at h
  · cases h
    exact hs
  · cases h
    simp only [Bool.not_eq_true, Option.isSome_eq_false_iff, Option.isNone_iff_eq_none] at hp hq
    exact mutual_link hs hp hq hne _
/-- Both ports forget the connection. -/
theorem mutual_unlink (hs : Mutual s) (hpq : s.connectedPort p = some q) :
    Mutual (s.setConnected p q (none, none)) := by
  obtain ⟨hqp, hne, -⟩ := hs p q hpq
  intro r u hru
  rw [connectedPort_setConnected] at hru
  by_cases hrq : r = q
  · rw [if_pos hrq] at hru
    cases hru
  · rw [if_neg hrq] at hru
    by_cases hrp : r = p
    · rw [if_pos hrp] at hru
      cases hru
    · rw [if_neg hrp] at hru
      obtain ⟨hback, hne', howns⟩ := hs r u hru
      have hup : u ≠ p := by
        rintro rfl
        rw [hpq] at hback
        exact hrq (Option.some.inj hback).symm
      have huq : u ≠ q := by
        rintro rfl
        rw [hqp] at hback
        exact hrp (Option.some.inj hback).symm
      simp [hup, huq, hback, hne', howns]

theorem mutual_disconnect (hs : Mutual s) : Mutual (portDisconnect k a s p).2 := by
  simp only [portDisconnect]
  split
  · exact hs
  · rename_i q hq
    generalize hout : (if k.type p = .output then p else q) = output
    generalize hin : (if k.type q = .input then q else p) = input
    obtain ⟨hfirst, hsecond, hall⟩ := sameLinks_disableBoth s a output input p q
    -- The connection is the same before it is cleared.
    have hrest : ∀ t : Bool × Ports π, SameLinks s t.2 → Mutual (if t.1 = false then
        (CoreStatus.failed, t.2) else if t.2.coreOwnsConnection p = false ∧
          a.disconnect = false then (CoreStatus.failed, t.2)
        else (CoreStatus.success, t.2.setConnected p q (none, none))).2 := by
      intro t ht
      have hmutual := ht.mutual hs
      split
      · exact hmutual
      · split
        · exact hmutual
        · exact mutual_unlink hmutual (by rw [ht.1]; exact hq)
    refine hrest _ ?_
    split
    · split
      · rename_i heq
        rw [heq] at hfirst
        exact hfirst
      · rename_i t heq
        rw [heq] at hsecond hall
        split
        · rename_i heq
          rw [heq] at hsecond
          exact hsecond
        · rename_i heq
          rw [heq] at hall
          exact hall
    · exact SameLinks.refl s

theorem mutual_step (s : Ports π) (op : ConnectionOp π) (s' : Ports π) (hs : Mutual s)
    (h : connectionStep k s op = some s') : Mutual s' := by
  cases op with
  | connect p q a =>
      obtain ⟨⟨status, t⟩, ht, rfl⟩ := Option.map_eq_some_iff.mp h
      exact mutual_connect hs ht
  | disconnect p a =>
      cases h
      exact mutual_disconnect hs
  | enable p cb a =>
      cases h
      exact (sameLinks_portEnable k a s p cb).mutual hs
  | disable p a =>
      cases h
      exact (sameLinks_portDisable k a s p).mutual hs

/-- Whatever the components answer, a connection is mutual, and the two ports
    agree who owns it. -/
theorem connection_mutual {ops : List (ConnectionOp π)}
    (h : run (connectionStep k) .init ops = some s) (p q : π)
    (hpq : s.connectedPort p = some q) :
    s.connectedPort q = some p ∧ p ≠ q ∧ s.coreOwnsConnection p = s.coreOwnsConnection q := by
  have hinit : Mutual (Ports.init : Ports π) := fun p q hpq => by cases hpq
  exact run_invariant mutual_step hinit h p q hpq

/-- An output, `false`, and an input, `true`. -/
def twoPorts : PortKinds Bool := ⟨fun p => if p then .input else .output, fun _ => false⟩

/-- The components leave the connection to the core, and nothing fails. -/
def willing : Answers Bool := ⟨false, true, fun _ => true, fun _ => true, true, true⟩

/-- An output has been connected to an input. -/
theorem connection_mutual_two :
    ∃ s, run (connectionStep twoPorts) .init [.connect false true willing] = some s ∧
      s.connectedPort true = some false ∧ false ≠ true ∧
      s.coreOwnsConnection false = s.coreOwnsConnection true := by
  refine ⟨_, rfl, ?_⟩
  exact connection_mutual (show run (connectionStep twoPorts) .init
    [.connect false true willing] = some _ from rfl) false true rfl

/-- The ports are an output and an input, in one order or the other, or neither is
    one that the core tells apart. -/
def Fits (k : PortKinds π) (p q : π) : Prop :=
  (k.type p = .output ↔ k.type q = .input) ∧ (k.type q = .output ↔ k.type p = .input)

/-- What the core takes for granted: ports that are connected fit, and a component
    can be disabled. -/
def ConnectionOp.Sound (k : PortKinds π) (s : Ports π) : ConnectionOp π → Prop
  | .connect p q a => (portConnect k a s p q).map Prod.fst = some .success → Fits k p q
  | .disconnect _ a | .enable _ _ a | .disable _ a => ∀ r, a.disable r = true

/-- Both ports of a connection are disabled, and the connection. -/
def Ports.down (s : Ports π) (p q : π) : Ports π :=
  connectionDisable ((s.setEnabled q false).setEnabled p false) p q

/-- The connection is enabled, and both its ports. -/
def Ports.up (k : PortKinds π) (s : Ports π) (p q : π) : Ports π :=
  ((connectionEnable k s p q true).2.setEnabled p true).setEnabled q true

/-- What can happen to the ports if the core is right. A function does some of it
    one after the other. -/
inductive Moves (k : PortKinds π) (s : Ports π) : Ports π → Prop
  | alone (p : π) (b : Bool) (hp : s.connectedPort p = none) : Moves k s (s.setEnabled p b)
  | link (p q : π) (b : Bool) (hp : s.connectedPort p = none) (hq : s.connectedPort q = none)
      (hpdown : s.isEnabled p = false) (hqdown : s.isEnabled q = false) (hne : p ≠ q)
      (hfits : Fits k p q) : Moves k s ((s.setConnected p q (some q, some p)).setOwns p q b)
  | unlink (p q : π) (hpq : s.connectedPort p = some q) (hdown : s.isEnabled p = false) :
      Moves k s (s.setConnected p q (none, none))
  | up (p q : π) (hpq : s.connectedPort p = some q) (hdown : s.isEnabled p = false) :
      Moves k s (s.up k p q)
  | down (p q : π) (hpq : s.connectedPort p = some q) : Moves k s (s.down p q)

/-- The invariant. -/
structure Paired (k : PortKinds π) (s : Ports π) : Prop where
  links : Mutual s
  fits : ∀ p q, s.connectedPort p = some q → Fits k p q
  together : ∀ p q, s.connectedPort p = some q → s.isEnabled p = s.isEnabled q
  -- a pool belongs to an enabled connection, and only one of the ports has it
  held : ∀ p n, s.poolForConnection p = some n → n < s.created ∧ n ∉ s.destroyed ∧
    s.isEnabled p = true ∧ ∃ q, s.connectedPort p = some q ∧ s.poolForConnection q = none
  once : ∀ p q n, s.poolForConnection p = some n → s.poolForConnection q = some n → p = q
  provided : ∀ p q, s.connectedPort p = some q → s.coreOwnsConnection p = true →
    s.isEnabled p = true → (s.poolForConnection p).isSome ∨ (s.poolForConnection q).isSome
  accounted : ∀ n, n < s.created → n ∉ s.destroyed → ∃ p, s.poolForConnection p = some n
  nodup : s.destroyed.Nodup
  known : ∀ n ∈ s.destroyed, n < s.created

omit [DecidableEq π] in
theorem paired_init : Paired k (Ports.init : Ports π) where
  links := fun p q hpq => by cases hpq
  fits := fun p q hpq => by cases hpq
  together := fun p q hpq => by cases hpq
  held := fun p n hn => by cases hn
  once := fun p q n hn => by cases hn
  provided := fun p q hpq => by cases hpq
  accounted := fun n hn => absurd hn (Nat.not_lt_zero n)
  nodup := List.nodup_nil
  known := fun n hn => absurd hn List.not_mem_nil

omit [DecidableEq π] in
/-- Ports without an enabled connection have no pool. -/
theorem Paired.no_pool (hs : Paired k s) (h : s.isEnabled p = false ∨ s.connectedPort p = none) :
    s.poolForConnection p = none := by
  cases hn : s.poolForConnection p with
  | none => rfl
  | some n =>
      obtain ⟨-, -, hup, q, hpq, -⟩ := hs.held p n hn
      rcases h with h | h
      · rw [h] at hup
        cases hup
      · rw [h] at hpq
        cases hpq

@[simp] theorem isEnabled_setEnabled (s : Ports π) (p : π) (b : Bool) (r : π) :
    (s.setEnabled p b).isEnabled r = if r = p then b else s.isEnabled r := by
  simp [Ports.setEnabled, Function.update_apply]

/-- A port that is not connected is nobody's business. -/
theorem paired_alone (hs : Paired k s) (hp : s.connectedPort p = none) (b : Bool) :
    Paired k (s.setEnabled p b) := by
  have hother : ∀ {r u}, s.connectedPort r = some u → r ≠ p ∧ u ≠ p := by
    intro r u hru
    refine ⟨?_, ?_⟩
    · rintro rfl
      rw [hp] at hru
      cases hru
    · rintro rfl
      rw [(hs.links r u hru).1] at hp
      cases hp
  refine ⟨hs.links, hs.fits, ?_, ?_, hs.once, ?_, hs.accounted, hs.nodup, hs.known⟩
  · intro r u hru
    obtain ⟨hr, hu⟩ := hother hru
    simpa [hr, hu] using hs.together r u hru
  · intro r n hn
    obtain ⟨hlt, hnot, hup, u, hru, hu⟩ := hs.held r n hn
    refine ⟨hlt, hnot, ?_, u, hru, hu⟩
    simpa [(hother hru).1] using hup
  · intro r u hru howns hup
    rw [isEnabled_setEnabled, if_neg (hother hru).1] at hup
    exact hs.provided r u hru howns hup

theorem paired_link (hs : Paired k s) (hp : s.connectedPort p = none)
    (hq : s.connectedPort q = none) (hpdown : s.isEnabled p = false)
    (hqdown : s.isEnabled q = false) (hne : p ≠ q) (hfits : Fits k p q) (b : Bool) :
    Paired k ((s.setConnected p q (some q, some p)).setOwns p q b) := by
  have hlinks := mutual_link hs.links hp hq hne b
  have hpair : ∀ r u, ((s.setConnected p q (some q, some p)).setOwns p q b).connectedPort r =
      some u → (r = p ∧ u = q) ∨ (r = q ∧ u = p) ∨
        (r ≠ p ∧ r ≠ q ∧ s.connectedPort r = some u) := by
    intro r u hru
    rw [connectedPort_setOwns, connectedPort_setConnected] at hru
    split at hru
    · exact Or.inr (Or.inl ⟨‹_›, (Option.some.inj hru).symm⟩)
    · split at hru
      · exact Or.inl ⟨‹_›, (Option.some.inj hru).symm⟩
      · exact Or.inr (Or.inr ⟨‹_›, ‹_›, hru⟩)
  refine ⟨hlinks, ?_, ?_, ?_, hs.once, ?_, hs.accounted, hs.nodup, hs.known⟩
  · intro r u hru
    rcases hpair r u hru with ⟨rfl, rfl⟩ | ⟨rfl, rfl⟩ | ⟨-, -, hru⟩
    · exact hfits
    · exact ⟨hfits.2, hfits.1⟩
    · exact hs.fits r u hru
  · intro r u hru
    rcases hpair r u hru with ⟨rfl, rfl⟩ | ⟨rfl, rfl⟩ | ⟨-, -, hru⟩
    · exact hpdown.trans hqdown.symm
    · exact hqdown.trans hpdown.symm
    · exact hs.together r u hru
  · intro r n hn
    obtain ⟨hlt, hnot, hup, u, hru, hu⟩ := hs.held r n hn
    -- The two ports were disabled and had no pool.
    have hrp : r ≠ p := fun h => by simp [h, hpdown] at hup
    have hrq : r ≠ q := fun h => by simp [h, hqdown] at hup
    refine ⟨hlt, hnot, hup, u, ?_, hu⟩
    rw [connectedPort_setOwns, connectedPort_setConnected, if_neg hrq, if_neg hrp]
    exact hru
  · intro r u hru howns hup
    rcases hpair r u hru with ⟨rfl, rfl⟩ | ⟨rfl, rfl⟩ | ⟨hrp, hrq, hru⟩
    · exact absurd hup (by simp [Ports.setOwns, Ports.setConnected, hpdown])
    · exact absurd hup (by simp [Ports.setOwns, Ports.setConnected, hqdown])
    · rw [coreOwnsConnection_setOwns, if_neg hrq, if_neg hrp] at howns
      exact hs.provided r u hru howns hup

theorem paired_unlink (hs : Paired k s) (hpq : s.connectedPort p = some q)
    (hdown : s.isEnabled p = false) : Paired k (s.setConnected p q (none, none)) := by
  have hold : ∀ r u, (s.setConnected p q (none, none)).connectedPort r = some u →
      s.connectedPort r = some u := by
    intro r u hru
    rw [connectedPort_setConnected] at hru
    split at hru
    · cases hru
    · split at hru
      · cases hru
      · exact hru
  refine ⟨mutual_unlink hs.links hpq, fun r u hru => hs.fits r u (hold r u hru),
    fun r u hru => hs.together r u (hold r u hru), ?_, hs.once,
    fun r u hru => hs.provided r u (hold r u hru), hs.accounted, hs.nodup, hs.known⟩
  intro r n hn
  obtain ⟨hlt, hnot, hup, u, hru, hu⟩ := hs.held r n hn
  have hqdown : s.isEnabled q = false := (hs.together p q hpq).symm.trans hdown
  have hrp : r ≠ p := fun h => by simp [h, hdown] at hup
  have hrq : r ≠ q := fun h => by simp [h, hqdown] at hup
  refine ⟨hlt, hnot, hup, u, ?_, hu⟩
  rw [connectedPort_setConnected, if_neg hrq, if_neg hrp]
  exact hru

@[simp] theorem poolForConnection_setPool (s : Ports π) (p : π) (n : Option Nat) (r : π) :
    (s.setPool p n).poolForConnection r = if r = p then n else s.poolForConnection r := by
  simp [Ports.setPool, Function.update_apply]

omit [DecidableEq π] in
/-- The connection is `q`'s as much as `p`'s. -/
theorem Paired.partner (hs : Paired k s) (hpq : s.connectedPort p = some q)
    (hrp : s.connectedPort r = some p) : r = q := by
  rw [(hs.links r p hrp).1] at hpq
  exact Option.some.inj hpq

omit [DecidableEq π] in
/-- Another connection has no port in common with this one. -/
theorem Paired.pair_iff {u : π} (hs : Paired k s) (hpq : s.connectedPort p = some q)
    (hru : s.connectedPort r = some u) : (r = p ∨ r = q) ↔ (u = p ∨ u = q) := by
  have hqp := (hs.links p q hpq).1
  constructor
  · rintro (rfl | rfl)
    · exact Or.inr (Option.some.inj (hru.symm.trans hpq))
    · exact Or.inl (Option.some.inj (hru.symm.trans hqp))
  · rintro (rfl | rfl)
    · exact Or.inr (hs.partner hpq hru)
    · exact Or.inl (hs.partner hqp hru)

theorem down_isEnabled (s : Ports π) (p q r : π) :
    (s.down p q).isEnabled r = if r = p ∨ r = q then false else s.isEnabled r := by
  by_cases hrp : r = p <;> by_cases hrq : r = q <;>
    simp [Ports.down, connectionDisable, Ports.setPool, Ports.setEnabled, hrp, hrq,
      Function.update_apply]

theorem down_poolForConnection (s : Ports π) (p q r : π) :
    (s.down p q).poolForConnection r = if r = p ∨ r = q then none else s.poolForConnection r := by
  by_cases hrp : r = p <;> by_cases hrq : r = q <;>
    simp [Ports.down, connectionDisable, Ports.setPool, Ports.setEnabled, hrp, hrq,
      Function.update_apply]

theorem paired_down (hs : Paired k s) (hpq : s.connectedPort p = some q) :
    Paired k (s.down p q) := by
  obtain ⟨hqp, hne, -⟩ := hs.links p q hpq
  have hdestroyed : (s.down p q).destroyed =
      ((s.poolForConnection p).or (s.poolForConnection q)).toList ++ s.destroyed := rfl
  have hpool : ∀ n, n ∈ ((s.poolForConnection p).or (s.poolForConnection q)).toList →
      ∃ r, (r = p ∨ r = q) ∧ s.poolForConnection r = some n := by
    intro n hn
    rw [Option.mem_toList, Option.or_eq_some_iff] at hn
    rcases hn with hn | ⟨-, hn⟩
    · exact ⟨p, Or.inl rfl, hn⟩
    · exact ⟨q, Or.inr rfl, hn⟩
  refine ⟨hs.links, hs.fits, ?_, ?_, ?_, ?_, ?_, ?_, ?_⟩
  · intro r u hru
    rw [down_isEnabled, down_isEnabled]
    simp only [hs.pair_iff hpq hru, hs.together r u hru]
  · intro r n hn
    rw [down_poolForConnection] at hn
    split at hn
    · cases hn
    · rename_i hr
      obtain ⟨hlt, hnot, hup, u, hru, hu⟩ := hs.held r n hn
      refine ⟨hlt, ?_, ?_, u, hru, ?_⟩
      · rw [hdestroyed, List.mem_append]
        rintro (h | h)
        · obtain ⟨v, hv, hvn⟩ := hpool n h
          exact hr (hs.once v r n hvn hn ▸ hv)
        · exact hnot h
      · rw [down_isEnabled, if_neg hr]
        exact hup
      · rw [down_poolForConnection, if_neg (mt (hs.pair_iff hpq hru).mpr hr)]
        exact hu
  · intro r u n hr hu
    rw [down_poolForConnection] at hr hu
    split at hr
    · cases hr
    · split at hu
      · cases hu
      · exact hs.once r u n hr hu
  · intro r u hru howns hup
    rw [down_isEnabled] at hup
    split at hup
    · cases hup
    · rename_i hr
      rw [down_poolForConnection, down_poolForConnection, if_neg hr,
        if_neg (mt (hs.pair_iff hpq hru).mpr hr)]
      exact hs.provided r u hru howns hup
  · intro n hlt hnot
    rw [hdestroyed, List.mem_append, not_or] at hnot
    obtain ⟨r, hr⟩ := hs.accounted n hlt hnot.2
    refine ⟨r, ?_⟩
    rw [down_poolForConnection, if_neg ?_]
    · exact hr
    -- Otherwise the pool would just have been destroyed.
    rintro (rfl | rfl)
    · exact hnot.1 (by simp [hr])
    · obtain ⟨-, -, -, u, hu, hnone⟩ := hs.held _ n hr
      rw [hqp] at hu
      cases hu
      exact hnot.1 (by simp [hr, hnone])
  · rw [hdestroyed]
    refine List.Nodup.append (by cases (s.poolForConnection p).or _ <;> simp) hs.nodup ?_
    intro n hn hold
    obtain ⟨r, -, hr⟩ := hpool n hn
    exact (hs.held r n hr).2.1 hold
  · intro n hn
    rw [hdestroyed, List.mem_append] at hn
    rcases hn with hn | hn
    · obtain ⟨r, -, hr⟩ := hpool n hn
      exact (hs.held r n hr).1
    · exact hs.known n hn

theorem up_isEnabled (k : PortKinds π) (s : Ports π) (p q r : π) :
    (s.up k p q).isEnabled r = if r = p ∨ r = q then true else s.isEnabled r := by
  have hsame : (connectionEnable k s p q true).2.isEnabled = s.isEnabled := by
    simp only [connectionEnable]
    split <;> simp [Ports.setPool]
  by_cases hrp : r = p <;> by_cases hrq : r = q <;> simp [Ports.up, hsame, hrp, hrq]

/-- A pool comes with a connection of the core, for one of the two ports. -/
theorem up_pool (k : PortKinds π) (s : Ports π) (p q : π) :
    (s.coreOwnsConnection p = false ∧ (s.up k p q).poolForConnection = s.poolForConnection ∧
      (s.up k p q).created = s.created) ∨
    (s.coreOwnsConnection p = true ∧ (s.up k p q).created = s.created + 1 ∧
      ∃ r, (r = p ∨ r = q) ∧ ∀ u, (s.up k p q).poolForConnection u =
        if u = r then some s.created else s.poolForConnection u) := by
  cases howns : s.coreOwnsConnection p with
  | false =>
      refine Or.inl ⟨rfl, ?_, ?_⟩ <;> simp [Ports.up, connectionEnable, howns, Ports.setEnabled]
  | true =>
      refine Or.inr ⟨rfl, by simp [Ports.up, connectionEnable, howns, Ports.setEnabled], ?_⟩
      generalize hout : (if k.type p = .output then p else q) = output
      generalize hin : (if k.type q = .input then q else p) = input
      refine ⟨if k.allocates output then output else input, ?_, ?_⟩
      · subst hout hin
        split_ifs <;> simp
      · intro u
        simp only [Ports.up, connectionEnable, howns, hout, hin]
        simp [Ports.setEnabled, Ports.setPool, Function.update_apply]

theorem up_same (k : PortKinds π) (s : Ports π) (p q : π) :
    SameLinks s (s.up k p q) ∧ (s.up k p q).destroyed = s.destroyed := by
  refine ⟨sameLinks_connectionEnable k s p q true, ?_⟩
  simp only [Ports.up, connectionEnable]
  split <;> rfl

theorem up_isEnabled_of (k : PortKinds π) (p q : π) (hr : s.isEnabled r = true) :
    (s.up k p q).isEnabled r = true := by
  rw [up_isEnabled, hr, ite_self]

theorem up_links (hs : Paired k s) (hpq : s.connectedPort p = some q) :
    Mutual (s.up k p q) ∧ ∀ r u, (s.up k p q).connectedPort r = some u →
      Fits k r u ∧ (s.up k p q).isEnabled r = (s.up k p q).isEnabled u := by
  have hsame := (up_same k s p q).1
  refine ⟨hsame.mutual hs.links, ?_⟩
  intro r u hru
  rw [hsame.1] at hru
  refine ⟨hs.fits r u hru, ?_⟩
  simp only [up_isEnabled, hs.pair_iff hpq hru, hs.together r u hru]

/-- The ports manage the connection on their own. -/
theorem paired_up_ports (hs : Paired k s) (hpq : s.connectedPort p = some q)
    (hports : s.coreOwnsConnection p = false)
    (hpool : (s.up k p q).poolForConnection = s.poolForConnection)
    (hcreated : (s.up k p q).created = s.created) : Paired k (s.up k p q) := by
  have howner := (hs.links p q hpq).2.2
  obtain ⟨⟨hlinks, howns⟩, hdestroyed⟩ := up_same k s p q
  obtain ⟨hmutual, hpair⟩ := up_links hs hpq
  refine ⟨hmutual, fun r u hru => (hpair r u hru).1, fun r u hru => (hpair r u hru).2,
    ?_, ?_, ?_, ?_, ?_, ?_⟩
  · intro r n hn
    rw [hpool] at hn
    obtain ⟨hlt, hnot, hr, u, hru, hu⟩ := hs.held r n hn
    rw [hcreated, hdestroyed, hlinks, hpool]
    exact ⟨hlt, hnot, up_isEnabled_of k p q hr, u, hru, hu⟩
  · rw [hpool]
    exact hs.once
  · intro r u hru hrowns hr
    rw [hlinks] at hru
    rw [howns] at hrowns
    rw [hpool]
    rw [up_isEnabled] at hr
    split at hr
    · rename_i h
      rcases h with rfl | rfl
      · rw [hports] at hrowns
        cases hrowns
      · rw [← howner, hports] at hrowns
        cases hrowns
    · exact hs.provided r u hru hrowns hr
  · rw [hcreated, hdestroyed, hpool]
    exact hs.accounted
  · rw [hdestroyed]
    exact hs.nodup
  · rw [hcreated, hdestroyed]
    exact hs.known

/-- The core manages the connection, and one of the ports gets the pool. -/
theorem paired_up_core {v : π} (hs : Paired k s) (hpq : s.connectedPort p = some q)
    (hdown : s.isEnabled p = false) (hv : v = p ∨ v = q)
    (hpool : ∀ u, (s.up k p q).poolForConnection u =
      if u = v then some s.created else s.poolForConnection u)
    (hcreated : (s.up k p q).created = s.created + 1) : Paired k (s.up k p q) := by
  obtain ⟨hqp, hne, -⟩ := hs.links p q hpq
  obtain ⟨⟨hlinks, howns⟩, hdestroyed⟩ := up_same k s p q
  obtain ⟨hmutual, hpair⟩ := up_links hs hpq
  have hnone : ∀ u, u = p ∨ u = q → s.poolForConnection u = none := by
    rintro u (rfl | rfl)
    · exact hs.no_pool (Or.inl hdown)
    · exact hs.no_pool (Or.inl ((hs.together p u hpq).symm.trans hdown))
  refine ⟨hmutual, fun r u hru => (hpair r u hru).1, fun r u hru => (hpair r u hru).2,
    ?_, ?_, ?_, ?_, ?_, ?_⟩
  · intro r n hn
    rw [hpool] at hn
    rw [hcreated, hdestroyed, hlinks]
    split at hn
    · rename_i hrv
      subst hrv
      cases hn
      refine ⟨Nat.lt_succ_self _, fun h => absurd (hs.known _ h) (Nat.lt_irrefl _), ?_, ?_⟩
      · rw [up_isEnabled, if_pos hv]
      · rcases hv with rfl | rfl
        · exact ⟨q, hpq, by rw [hpool, if_neg (Ne.symm hne), hnone q (Or.inr rfl)]⟩
        · exact ⟨p, hqp, by rw [hpool, if_neg hne, hnone p (Or.inl rfl)]⟩
    · obtain ⟨hlt, hnot, hr, u, hru, hu⟩ := hs.held r n hn
      refine ⟨by omega, hnot, up_isEnabled_of k p q hr, u, hru, ?_⟩
      have huv : u ≠ v := by
        rintro rfl
        rw [hnone r ((hs.pair_iff hpq hru).mpr hv)] at hn
        cases hn
      rw [hpool, if_neg huv, hu]
  · intro r u n hr hu
    rw [hpool] at hr hu
    split at hr
    · split at hu
      · exact ‹r = v›.trans ‹u = v›.symm
      · cases hr
        exact absurd (hs.held u _ hu).1 (Nat.lt_irrefl _)
    · split at hu
      · cases hu
        exact absurd (hs.held r _ hr).1 (Nat.lt_irrefl _)
      · exact hs.once r u n hr hu
  · intro r u hru hrowns hr
    rw [hlinks] at hru
    rw [howns] at hrowns
    rw [hpool, hpool]
    by_cases hrv : r = v
    · simp [hrv]
    by_cases huv : u = v
    · simp [huv]
    rw [if_neg hrv, if_neg huv]
    rw [up_isEnabled] at hr
    split at hr
    · -- One of the two would be the port that has the pool.
      rename_i h
      have hu := (hs.pair_iff hpq hru).mp h
      have hru' := (hs.links r u hru).2.1
      rcases h with rfl | rfl <;> rcases hu with rfl | rfl <;> rcases hv with rfl | rfl <;>
        first | exact absurd rfl hrv | exact absurd rfl huv | exact absurd rfl hru'
    · exact hs.provided r u hru hrowns hr
  · intro n hlt hnot
    rw [hcreated] at hlt
    rw [hdestroyed] at hnot
    by_cases hn : n = s.created
    · exact ⟨v, by rw [hpool, if_pos rfl, hn]⟩
    · obtain ⟨r, hr⟩ := hs.accounted n (by omega) hnot
      refine ⟨r, ?_⟩
      rw [hpool, if_neg ?_]
      · exact hr
      rintro rfl
      rw [hnone r hv] at hr
      cases hr
  · rw [hdestroyed]
    exact hs.nodup
  · intro n hn
    rw [hdestroyed] at hn
    rw [hcreated]
    exact Nat.lt_succ_of_lt (hs.known n hn)

theorem paired_up (hs : Paired k s) (hpq : s.connectedPort p = some q)
    (hdown : s.isEnabled p = false) : Paired k (s.up k p q) := by
  rcases up_pool k s p q with ⟨hports, hpool, hcreated⟩ | ⟨-, hcreated, v, hv, hpool⟩
  · exact paired_up_ports hs hpq hports hpool hcreated
  · exact paired_up_core hs hpq hdown hv hpool hcreated

theorem paired_moves (hs : Paired k s) (h : Moves k s t) : Paired k t := by
  cases h with
  | alone p b hp => exact paired_alone hs hp b
  | link p q b hp hq hpdown hqdown hne hfits =>
      exact paired_link hs hp hq hpdown hqdown hne hfits b
  | unlink p q hpq hdown => exact paired_unlink hs hpq hdown
  | up p q hpq hdown => exact paired_up hs hpq hdown
  | down p q hpq => exact paired_down hs hpq

open Relation in
theorem paired_moves_all (hs : Paired k s) (h : ReflTransGen (Moves k) s t) : Paired k t := by
  induction h with
  | refl => exact hs
  | tail _ hmove ih => exact paired_moves ih hmove

theorem setEnabled_same (h : s.isEnabled p = b) : s.setEnabled p b = s := by
  rw [Ports.setEnabled, ← h, Function.update_eq_self]

theorem setEnabled_comm (hne : p ≠ q) (b c : Bool) :
    (s.setEnabled p b).setEnabled q c = (s.setEnabled q c).setEnabled p b := by
  simp only [Ports.setEnabled, Function.update_comm hne]

/-- Disabling a port that is disabled changes nothing. -/
theorem disableInternal_true (s : Ports π) (p : π) :
    disableInternal s p true = (true, s.setEnabled p false) := by
  rw [disableInternal]
  cases h : s.isEnabled p with
  | false => rw [setEnabled_same h]; simp
  | true => simp

theorem enableInternal_false (h : s.isEnabled p = false) (ok : Bool) :
    enableInternal s p ok = if ok then (true, s.setEnabled p true) else (false, s) := by
  simp [enableInternal, h]

theorem connectionEnable_eq (k : PortKinds π) (s : Ports π) (p q : π) (ok : Bool) :
    connectionEnable k s p q ok = (false, s) ∨
      connectionEnable k s p q ok = (true, (connectionEnable k s p q true).2) := by
  simp only [connectionEnable]
  split
  · exact Or.inr rfl
  · cases ok with
    | false => exact Or.inl rfl
    | true => exact Or.inr rfl

theorem enableError_eq (ha : ∀ r, a.disable r = true) (s : Ports π) (p q : π) :
    enableError a s p q = (.failed, s.down p q) := by
  simp only [enableError, ha, disableInternal_true, Ports.down]

/-- What was enabled of the two ports makes no difference then. -/
theorem down_setEnabled (s : Ports π) (b : Bool) (hr : r = p ∨ r = q) :
    (s.setEnabled r b).down p q = s.down p q := by
  have hsame : ((s.setEnabled r b).setEnabled q false).setEnabled p false =
      (s.setEnabled q false).setEnabled p false := by
    simp only [Ports.setEnabled, Ports.mk.injEq, and_self, and_true]
    funext u
    by_cases hup : u = p
    · simp [hup]
    by_cases huq : u = q
    · simp [huq, Function.update_apply]
    have hur : u ≠ r := by
      rintro rfl
      rcases hr with h | h
      · exact hup h
      · exact huq h
    simp [hup, huq, hur]
  rw [Ports.down, hsame, Ports.down]

open Relation in
theorem moves_enable (hs : Paired k s) (ha : ∀ r, a.disable r = true) (p : π) (cb : Bool) :
    ReflTransGen (Moves k) s (portEnable k a s p cb).2 := by
  simp only [portEnable]
  split
  · exact .refl
  rename_i hdown
  rw [Bool.not_eq_true] at hdown
  split
  · rename_i hp
    rw [enableInternal_false hdown]
    split <;> (rename_i heq; split at heq <;> cases heq)
    · exact .single (.alone p true hp)
    · exact .refl
  rename_i q hpq
  have hqdown : s.isEnabled q = false := (hs.together p q hpq).symm.trans hdown
  have hne := (hs.links p q hpq).2.1
  split
  · exact .refl
  -- Whatever goes wrong later, it is as if both had been enabled and disabled again.
  have hback : ReflTransGen (Moves k) s ((s.up k p q).down p q) :=
    (ReflTransGen.single (.up p q hpq hdown)).tail (.down p q ((up_same k s p q).1.1 ▸ hpq))
  rw [Ports.up, down_setEnabled _ _ (Or.inr rfl), down_setEnabled _ _ (Or.inl rfl)] at hback
  rcases connectionEnable_eq k s p q a.pool with heq | heq
  · simp only [heq, ReflTransGen.refl]
  rw [heq]
  have hsame : (connectionEnable k s p q true).2.isEnabled = s.isEnabled := by
    simp only [connectionEnable]
    split <;> rfl
  have hup := ReflTransGen.single (Moves.up (k := k) p q hpq hdown)
  rw [Ports.up] at hup
  generalize (connectionEnable k s p q true).2 = t at hback hsame hup ⊢
  rw [← hsame] at hdown hqdown
  generalize hfirst : (if k.type q = .input then q else p) = first
  generalize hsecond : (if k.type q = .input then p else q) = second
  have hpair : first = p ∧ second = q ∨ first = q ∧ second = p := by
    subst hfirst hsecond
    split
    · exact Or.inr ⟨rfl, rfl⟩
    · exact Or.inl ⟨rfl, rfl⟩
  have hfirstdown : t.isEnabled first = false := by
    rcases hpair with ⟨rfl, -⟩ | ⟨rfl, -⟩ <;> assumption
  have hseconddown : (t.setEnabled first true).isEnabled second = false := by
    rw [isEnabled_setEnabled]
    rcases hpair with ⟨rfl, rfl⟩ | ⟨rfl, rfl⟩
    · rw [if_neg (Ne.symm hne)]
      exact hqdown
    · rw [if_neg hne]
      exact hdown
  have hfirstin : first = p ∨ first = q := by
    rcases hpair with ⟨h, -⟩ | ⟨h, -⟩
    · exact Or.inl h
    · exact Or.inr h
  have hsecondin : second = p ∨ second = q := by
    rcases hpair with ⟨-, h⟩ | ⟨-, h⟩
    · exact Or.inr h
    · exact Or.inl h
  have hboth : (t.setEnabled first true).setEnabled second true =
      (t.setEnabled p true).setEnabled q true := by
    rcases hpair with ⟨rfl, rfl⟩ | ⟨rfl, rfl⟩
    · rfl
    · exact setEnabled_comm (Ne.symm hne) true true
  simp only [enableInternal_false hfirstdown]
  cases a.enable first with
  | false =>
      rw [if_neg Bool.false_ne_true]
      simpa only [enableError_eq ha] using hback
  | true =>
      simp only [if_true, enableInternal_false hseconddown]
      cases a.enable second with
      | false =>
          rw [if_neg Bool.false_ne_true]
          simpa only [enableError_eq ha, down_setEnabled t true hfirstin] using hback
      | true =>
          simp only [if_true, enableError_eq ha]
          split
          · rw [down_setEnabled _ true hsecondin, down_setEnabled t true hfirstin]
            exact hback
          · rw [hboth]
            exact hup

open Relation in
theorem moves_disable (hs : Paired k s) (ha : ∀ r, a.disable r = true) (p : π) :
    ReflTransGen (Moves k) s (portDisable k a s p).2 := by
  simp only [portDisable, ha, disableInternal_true]
  split
  · exact .refl
  split
  · exact .single (.alone p false ‹_›)
  rename_i q hpq
  have hdown : (s.setEnabled (if k.type q = .input then p else q) false).setEnabled
      (if k.type q = .input then q else p) false = (s.setEnabled q false).setEnabled p false := by
    split
    · exact setEnabled_comm (hs.links p q hpq).2.1 false false
    · rfl
  rw [hdown]
  exact .single (.down p q hpq)

open Relation in
theorem moves_disconnect (hs : Paired k s) (ha : ∀ r, a.disable r = true) (p : π) :
    ReflTransGen (Moves k) s (portDisconnect k a s p).2 := by
  simp only [portDisconnect, ha, disableInternal_true]
  split
  · exact .refl
  rename_i q hpq
  have hne := (hs.links p q hpq).2.1
  obtain ⟨hpout, hqout⟩ := hs.fits p q hpq
  -- The output and the input are the two ports because they fit.
  have hdown : (s.setEnabled (if k.type p = .output then p else q) false).setEnabled
      (if k.type q = .input then q else p) false = (s.setEnabled q false).setEnabled p false := by
    by_cases hp : k.type p = .output
    · rw [if_pos hp, if_pos (hpout.mp hp)]
      exact setEnabled_comm hne false false
    · rw [if_neg hp, if_neg (mt hpout.mpr hp)]
  rw [hdown]
  have hlast : ∀ t : Ports π, ReflTransGen (Moves k) s t → t.connectedPort p = some q →
      t.isEnabled p = false → ReflTransGen (Moves k) s (if t.coreOwnsConnection p = false ∧
        a.disconnect = false then (CoreStatus.failed, t)
        else (CoreStatus.success, t.setConnected p q (none, none))).2 := by
    intro t ht htpq htdown
    split
    · exact ht
    · exact ht.tail (.unlink p q htpq htdown)
  cases hup : s.isEnabled p with
  | false => exact hlast s .refl hpq hup
  | true =>
      refine hlast (s.down p q) (.single (.down p q hpq)) hpq ?_
      rw [down_isEnabled, if_pos (Or.inl rfl)]

open Relation in
theorem moves_connect {status : CoreStatus}
    (hfits : (portConnect k a s p q).map Prod.fst = some .success → Fits k p q)
    (h : portConnect k a s p q = some (status, t)) : ReflTransGen (Moves k) s t := by
  rw [h, Option.map_some, Option.some.injEq] at hfits
  simp only [portConnect, Option.isSome_iff_ne_none] at h
  split_ifs at h with h1 h2 h3 h4 h5 h6 <;> cases h
  any_goals exact .refl
  rw [ne_eq, not_not] at h2 h5
  rw [Bool.not_eq_true] at h3 h6
  exact .single (.link p q _ h2 h5 h3 h6 h4 (hfits rfl))

open Relation in
/-- If the core is right, every function does what can happen. -/
theorem moves_step {op : ConnectionOp π} (hs : Paired k s) (hop : op.Sound k s)
    (h : connectionStep k s op = some s') : ReflTransGen (Moves k) s s' := by
  cases op with
  | connect p q a =>
      obtain ⟨⟨status, t⟩, ht, rfl⟩ := Option.map_eq_some_iff.mp h
      exact moves_connect hop ht
  | disconnect p a =>
      cases h
      exact moves_disconnect hs hop p
  | enable p cb a =>
      cases h
      exact moves_enable hs hop p cb
  | disable p a =>
      cases h
      exact moves_disable hs hop p

theorem paired_step {op : ConnectionOp π} (hs : Paired k s) (hop : op.Sound k s)
    (h : connectionStep k s op = some s') : Paired k s' :=
  paired_moves_all hs (moves_step hs hop h)

theorem paired_run {ops : List (ConnectionOp π)}
    (hops : Along (connectionStep k) (fun s op => op.Sound k s) .init ops)
    (h : run (connectionStep k) .init ops = some s) : Paired k s :=
  run_invariant_along (fun _ _ _ hs hop h => paired_step hs hop h) paired_init hops h

/-- If a component can always be disabled and only ports that fit are connected,
    the ports of a connection are both enabled or both disabled, and if the core
    owns an enabled connection exactly one of them has its pool. -/
theorem connection_together {ops : List (ConnectionOp π)}
    (hops : Along (connectionStep k) (fun s op => op.Sound k s) .init ops)
    (h : run (connectionStep k) .init ops = some s) (hpq : s.connectedPort p = some q) :
    s.isEnabled p = s.isEnabled q ∧
      (s.isEnabled p = true → s.coreOwnsConnection p = true →
        ((s.poolForConnection p).isSome ↔ s.poolForConnection q = none)) := by
  have hs := paired_run hops h
  have hqp := (hs.links p q hpq).1
  refine ⟨hs.together p q hpq, ?_⟩
  intro hup howns
  constructor
  · intro hp
    obtain ⟨n, hn⟩ := Option.isSome_iff_exists.mp hp
    obtain ⟨-, -, -, u, hu, hnone⟩ := hs.held p n hn
    rw [hpq] at hu
    cases hu
    exact hnone
  · intro hq
    rcases hs.provided p q hpq howns hup with hp | hq'
    · exact hp
    · rw [hq] at hq'
      cases hq'

/-- A port is not connected to itself, since it is connected already. The first
    attempt to enable the connection has failed, the second has not. -/
def enabledTwo : List (ConnectionOp Bool) :=
  [.connect false true willing, .connect false false willing,
    .enable false false { willing with populate := false }, .enable true false willing]

theorem enabledTwo_sound :
    Along (connectionStep twoPorts) (fun s op => op.Sound twoPorts s) .init enabledTwo := by
  have hdisable : ∀ r, willing.disable r = true := fun _ => rfl
  refine fun s hs => ⟨fun _ => by simp [Fits, twoPorts], fun t ht => ⟨fun hc => ?_, ?_⟩⟩
  · cases hs
    exact absurd hc (by decide)
  · exact fun _ _ => ⟨hdisable, fun _ _ => ⟨hdisable, trivial⟩⟩

theorem connection_together_two :
    ∃ s, run (connectionStep twoPorts) .init enabledTwo = some s ∧
      s.isEnabled false = s.isEnabled true ∧ (s.isEnabled false = true →
        s.coreOwnsConnection false = true →
          ((s.poolForConnection false).isSome ↔ s.poolForConnection true = none)) := by
  refine ⟨_, rfl, ?_⟩
  exact connection_together enabledTwo_sound
    (show run (connectionStep twoPorts) .init enabledTwo = some _ from rfl) rfl

/-- Then no pool is lost, and none is destroyed twice or while it is in use: of the
    pools that were created, those that were not destroyed are each with one port
    of an enabled connection. -/
theorem connection_pools {ops : List (ConnectionOp π)}
    (hops : Along (connectionStep k) (fun s op => op.Sound k s) .init ops)
    (h : run (connectionStep k) .init ops = some s) :
    s.destroyed.Nodup ∧
      (∀ n, n < s.created ↔ n ∈ s.destroyed ∨ ∃ p, s.poolForConnection p = some n) ∧
      ∀ p n, s.poolForConnection p = some n → n ∉ s.destroyed ∧ s.isEnabled p = true ∧
        (∃ q, s.connectedPort p = some q) ∧ ∀ q, s.poolForConnection q = some n → q = p := by
  have hs := paired_run hops h
  refine ⟨hs.nodup, ?_, ?_⟩
  · intro n
    constructor
    · intro hlt
      by_cases hn : n ∈ s.destroyed
      · exact Or.inl hn
      · exact Or.inr (hs.accounted n hlt hn)
    · rintro (hn | ⟨p, hp⟩)
      · exact hs.known n hn
      · exact (hs.held p n hp).1
  · intro p n hn
    obtain ⟨-, hnot, hup, q, hpq, -⟩ := hs.held p n hn
    exact ⟨hnot, hup, ⟨q, hpq⟩, fun r hr => hs.once r p n hr hn⟩

theorem connection_pools_two :
    ∃ s, run (connectionStep twoPorts) .init enabledTwo = some s ∧ s.created = 2 ∧
      s.destroyed = [0] ∧ s.destroyed.Nodup ∧
      (∀ n, n < s.created ↔ n ∈ s.destroyed ∨ ∃ p, s.poolForConnection p = some n) ∧
      ∀ p n, s.poolForConnection p = some n → n ∉ s.destroyed ∧ s.isEnabled p = true ∧
        (∃ q, s.connectedPort p = some q) ∧ ∀ q, s.poolForConnection q = some n → q = p := by
  refine ⟨_, rfl, rfl, rfl, ?_⟩
  exact connection_pools enabledTwo_sound
    (show run (connectionStep twoPorts) .init enabledTwo = some _ from rfl)

end Framework

end RaspiCam
