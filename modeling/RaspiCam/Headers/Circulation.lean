import Mathlib.Data.List.Count
import Mathlib.Data.List.FinRange
import RaspiCam.Lib.Run

/-!
# The Circulation of Buffer Headers

A pool owns a fixed number of buffer headers. They start out in its queue,
`startCapture` sends them to the port one by one, and the port hands each one
back through the callback, which releases it into the queue and, while the
port is enabled, sends the next one in the queue to the port.

Both classes circulate their headers this way, the video class between
`video_pool` and the video port and the still class between `encoder_pool` and
the output port of the encoder. They differ in how `startCapture` begins:
`Private_Impl` asks the camera to capture first and releases everything when
that fails, `Private_Impl_Still` refuses while the port is enabled and enables
it otherwise.

The callbacks run on a thread of MMAL, so between any two accesses to the
queue or the port anything else can happen. In particular the port can be
disabled after the callback has found it enabled and before it sends the next
header. A send fails then, and neither class does anything about the header
it still holds: `placed_iff` says that the headers missing once everything has
come to rest are exactly those whose send failed.

What becomes of the data in the buffers is not followed here.

## Main definitions

* `Activity`: A callback or a `startCapture` on its way.
* `Circulation`: The queue, the port, and what is on its way.
* `CircOp`, `circStep`: The steps, in any order.
* `dropped`: The headers whose send failed.

## Theorems

* `circStep_places`: A step moves headers, and a failed send drops one.
* `circulation_run`: Every header is somewhere or was dropped.
* `placed_iff`: The headers that are in place when nothing is on its way.
* `conserved_iff`: When all of them are.
* `disabled_before_send`: A header that is lost.
-/

namespace RaspiCam

open Transition

namespace Headers

/-- The two classes. -/
inductive Role
  | video
  | still
deriving DecidableEq

/-- Whether the port is enabled. While it is being disabled, `is_enabled` is
    already clear, but the port still hands its headers back. -/
inductive PortState
  | disabled
  | enabled
  | disabling
deriving DecidableEq

variable {η : Type*}

/-- A callback, by what it has still to do, or a `startCapture`, by the turns
    its loop has left. -/
inductive Activity (η : Type*)
  | callback (h : η)
  | recycling
  | taking
  | resending (h : η)
  | starting (left : Nat)
  | startSending (left : Nat) (h : η)
deriving DecidableEq

/-- The header an activity holds. -/
def Activity.holds : Activity η → List η
  | .callback h => [h]
  | .recycling => []
  | .taking => []
  | .resending h => [h]
  | .starting _ => []
  | .startSending _ h => [h]

/-- A running callback, as opposed to a running `startCapture`. -/
def Activity.isCallback : Activity η → Bool
  | .starting _ => false
  | .startSending _ _ => false
  | _ => true

/-- Where the headers of a pool are. -/
structure Circulation (η : Type*) where
  queue : List η
  port : List η
  portState : PortState
  active : List (Activity η)

/-- A new pool: all its headers are in the queue. -/
def Circulation.init (hs : List η) : Circulation η where
  queue := hs
  port := []
  portState := .disabled
  active := []

/-- The steps: `enable` is the call in `create_camera_component`, `startCapture`
    is told whether MMAL accepts the one call it makes before its loop, and a
    send is told whether it succeeds. -/
inductive CircOp (η : Type*)
  | enable
  | startCapture (accepted : Bool)
  | getInitial (left : Nat)
  | sendInitial (left : Nat) (h : η) (sent : Bool)
  | started
  | deliver (h : η)
  | release (h : η)
  | test
  | get
  | send (h : η) (sent : Bool)
  | disable
  | disabled (ok : Bool)
deriving DecidableEq

/-- The loop of `startCapture` begins, with one turn for each header that is
    in the queue at this moment. -/
def Circulation.beginLoop (s : Circulation η) : Circulation η :=
  { s with active := .starting s.queue.length :: s.active }

/-- `Private_Impl::release` and `Private_Impl_Still::stopCapture`: the port is
    disabled if it is enabled. -/
def Circulation.stop (s : Circulation η) : Circulation η :=
  if s.portState = .enabled then { s with portState := .disabling } else s

/-- `Private_Impl::startCapture` up to its loop, told whether the camera takes
    the CAPTURE parameter. -/
def videoStartCapture (captured : Bool) (s : Circulation η) : Circulation η :=
  if captured then s.beginLoop else s.stop

/-- `Private_Impl_Still::startCapture` up to its loop, told whether the port
    can be enabled. The port cannot be enabled before it is disabled. -/
def stillStartCapture (enabled : Bool) (s : Circulation η) : Option (Circulation η) :=
  match s.portState with
  | .enabled => some s
  | .disabling => none
  | .disabled => some (if enabled then { s with portState := .enabled }.beginLoop else s)

variable [DecidableEq η]

/-- An activity goes on. -/
def Circulation.advance (s : Circulation η) (a : Activity η) (next : Option (Activity η)) :
    Option (Circulation η) :=
  if a ∈ s.active then some { s with active := next.toList ++ s.active.erase a } else none

/-- `mmal_port_send_buffer`, on the way to what follows. It only succeeds while
    the port is enabled; if it fails, nobody keeps the header. -/
def Circulation.sendBuffer (s : Circulation η) (a : Activity η) (next : Option (Activity η))
    (h : η) (sent : Bool) : Option (Circulation η) :=
  if sent then
    if s.portState = .enabled then { s with port := s.port ++ [h] }.advance a next else none
  else s.advance a next

/-- The circulation of the headers of one pool. -/
def circStep (role : Role) (s : Circulation η) : CircOp η → Option (Circulation η)
  | .enable =>
    if role = .video ∧ s.portState = .disabled then some { s with portState := .enabled } else none
  | .startCapture accepted =>
    match role with
    | .video => some (videoStartCapture accepted s)
    | .still => stillStartCapture accepted s
  -- With an empty queue the loop would send a null pointer, and that is the end.
  | .getInitial left =>
    match s.queue with
    | [] => none
    | h :: queue =>
      { s with queue := queue }.advance (.starting (left + 1)) (some (.startSending left h))
  | .sendInitial left h sent =>
    s.sendBuffer (.startSending left h) (some (.starting left)) h sent
  | .started => s.advance (.starting 0) none
  | .deliver h =>
    if h ∈ s.port ∧ s.portState ≠ .disabled then
      some { s with port := s.port.erase h, active := .callback h :: s.active }
    else none
  -- The callbacks from the release of the header on.
  | .release h => { s with queue := s.queue ++ [h] }.advance (.callback h) (some .recycling)
  | .test => s.advance .recycling (if s.portState = .enabled then some .taking else none)
  | .get =>
    match s.queue with
    | [] => s.advance .taking none
    | h :: queue => { s with queue := queue }.advance .taking (some (.resending h))
  | .send h sent => s.sendBuffer (.resending h) none h sent
  | .disable => some s.stop
  -- Disabling succeeds when every header has come back and been dealt with.
  | .disabled ok =>
    if s.portState = .disabling then
      if ok then
        if s.port = [] ∧ ∀ a ∈ s.active, a.isCallback = false then
          some { s with portState := .disabled }
        else none
      else some { s with portState := .enabled }
    else none

/-- The header of a send that failed. -/
def CircOp.failedSend : CircOp η → Option η
  | .sendInitial _ h false => some h
  | .send h false => some h
  | _ => none

/-- The headers whose send failed. -/
def dropped (ls : List (CircOp η)) : List η := ls.filterMap CircOp.failedSend

/-- The headers that activities hold. -/
def held (as : List (Activity η)) : List η := as.flatMap Activity.holds

/-- How often a header is in the queue, at the port or held. -/
def Circulation.places (s : Circulation η) (x : η) : Nat :=
  s.queue.count x + s.port.count x + (held s.active).count x

theorem held_cons (a : Activity η) (as : List (Activity η)) (x : η) :
    (held (a :: as)).count x = a.holds.count x + (held as).count x := by
  rw [held, List.flatMap_cons, List.count_append, held]

/-- An activity that goes on gives up what it held and holds something else. -/
theorem held_advance {as : List (Activity η)} {a : Activity η} (ha : a ∈ as)
    (next : Option (Activity η)) (x : η) :
    (held (next.toList ++ as.erase a)).count x + a.holds.count x
      = (held as).count x + (held next.toList).count x := by
  have hperm := ((List.perm_cons_erase ha).flatMap_right Activity.holds).count_eq x
  rw [held, List.flatMap_append, List.count_append, held, held, hperm, List.flatMap_cons,
    List.count_append]
  omega

theorem advance_some {s s' : Circulation η} {a : Activity η} {next : Option (Activity η)}
    (h : s.advance a next = some s') :
    a ∈ s.active ∧ s' = { s with active := next.toList ++ s.active.erase a } := by
  unfold Circulation.advance at h
  by_cases ha : a ∈ s.active
  · rw [if_pos ha, Option.some.injEq] at h
    exact ⟨ha, h.symm⟩
  · rw [if_neg ha] at h
    exact absurd h.symm (Option.some_ne_none s')

/-- An activity that goes on moves headers to its own hand or out of it. -/
theorem advance_places {s s' : Circulation η} {a : Activity η} {next : Option (Activity η)}
    (h : s.advance a next = some s') (x : η) :
    s'.places x + a.holds.count x = s.places x + (held next.toList).count x := by
  rcases advance_some h with ⟨ha, rfl⟩
  have hheld := held_advance ha next x
  simp only [Circulation.places]
  omega

/-- A send takes the header out of the hand; a failed one puts it nowhere. -/
theorem sendBuffer_places {s s' : Circulation η} {a : Activity η} {next : Option (Activity η)}
    {h : η} {sent : Bool} (hs : s.sendBuffer a next h sent = some s') (ha : a.holds = [h])
    (hnext : held next.toList = []) (x : η) :
    s'.places x + (if sent then [] else [h]).count x = s.places x := by
  unfold Circulation.sendBuffer at hs
  cases sent with
  | true =>
      simp only [if_true] at hs ⊢
      by_cases hen : s.portState = .enabled
      · rw [if_pos hen] at hs
        have hp := advance_places hs x
        rw [ha, hnext] at hp
        simp only [Circulation.places, List.count_append, List.count_nil] at hp ⊢
        omega
      · rw [if_neg hen] at hs
        exact absurd hs.symm (Option.some_ne_none s')
  | false =>
      simp only [Bool.false_eq_true, if_false] at hs ⊢
      have hp := advance_places hs x
      rw [ha, hnext, List.count_nil] at hp
      omega

omit [DecidableEq η] in
theorem stop_eq (s : Circulation η) : s.stop.queue = s.queue ∧ s.stop.port = s.port ∧
    s.stop.active = s.active := by
  unfold Circulation.stop
  by_cases h : s.portState = .enabled
  · rw [if_pos h]
    exact ⟨rfl, rfl, rfl⟩
  · rw [if_neg h]
    exact ⟨rfl, rfl, rfl⟩

theorem stop_places (s : Circulation η) (x : η) : s.stop.places x = s.places x := by
  rcases stop_eq s with ⟨hq, hp, ha⟩
  rw [Circulation.places, hq, hp, ha, Circulation.places]

theorem beginLoop_places (s : Circulation η) (x : η) : s.beginLoop.places x = s.places x := by
  simp only [Circulation.places, Circulation.beginLoop, held_cons, Activity.holds, List.count_nil,
    Nat.zero_add]

theorem startCapture_places {role : Role} {s s' : Circulation η} {accepted : Bool}
    (h : circStep role s (.startCapture accepted) = some s') (x : η) :
    s'.places x = s.places x := by
  cases role with
  | video =>
      rw [← Option.some.inj h]
      cases accepted with
      | true => exact beginLoop_places s x
      | false => exact stop_places s x
  -- The still class looks whether the port is enabled before it changes anything.
  | still =>
      simp only [circStep, stillStartCapture] at h
      split at h
      · rw [← Option.some.inj h]
      · exact absurd h.symm (Option.some_ne_none s')
      · rw [← Option.some.inj h]
        cases accepted with
        | true => exact beginLoop_places _ x
        | false => rfl

/-- Taking the first header out of the queue. -/
theorem queue_places {s : Circulation η} {h : η} {queue : List η} (hq : s.queue = h :: queue)
    (x : η) : s.places x = { s with queue := queue }.places x + [h].count x := by
  have hsplit : s.queue.count x = queue.count x + [h].count x := by
    rw [hq, ← List.singleton_append, List.count_append, Nat.add_comm]
  simp only [Circulation.places]
  omega

/-- A step moves headers from one place to another; a failed send takes one
    out of all places. -/
theorem circStep_places {role : Role} {s s' : Circulation η} {l : CircOp η}
    (h : circStep role s l = some s') (x : η) :
    s'.places x + (l.failedSend.toList).count x = s.places x := by
  cases l with
  | enable =>
      simp only [circStep] at h
      split at h
      · rw [← Option.some.inj h]
        rfl
      · exact absurd h.symm (Option.some_ne_none s')
  | startCapture accepted => exact startCapture_places h x
  | getInitial left =>
      simp only [circStep] at h
      split at h
      · exact absurd h.symm (Option.some_ne_none s')
      · next hd queue hq =>
          rw [queue_places hq x]
          exact advance_places h x
  | sendInitial left hd sent =>
      have hp := sendBuffer_places h rfl rfl x
      cases sent with
      | true => exact hp
      | false => exact hp
  | started => exact advance_places h x
  | deliver hd =>
      simp only [circStep] at h
      split at h
      · next hin =>
          -- The header leaves the port for the hand of the callback.
          have hperm := (List.perm_cons_erase hin.1).count_eq x
          rw [← List.singleton_append, List.count_append] at hperm
          rw [← Option.some.inj h]
          simp only [Circulation.places, held_cons, Activity.holds, CircOp.failedSend,
            Option.toList_none, List.count_nil]
          omega
      · exact absurd h.symm (Option.some_ne_none s')
  | release hd =>
      have hp := advance_places h x
      simp only [Circulation.places, List.count_append, Activity.holds, Option.toList_some, held,
        List.flatMap_cons, List.flatMap_nil, List.append_nil, List.count_nil, CircOp.failedSend,
        Option.toList_none] at hp ⊢
      omega
  | test =>
      have hp := advance_places h x
      -- A port that is not enabled gets no header back.
      by_cases hen : s.portState = .enabled
      · rw [if_pos hen] at hp
        exact hp
      · rw [if_neg hen] at hp
        exact hp
  | get =>
      simp only [circStep] at h
      split at h
      · exact advance_places h x
      · next hd queue hq =>
          rw [queue_places hq x]
          exact advance_places h x
  | send hd sent =>
      have hp := sendBuffer_places h rfl rfl x
      cases sent with
      | true => exact hp
      | false => exact hp
  | disable =>
      rw [← Option.some.inj h]
      exact stop_places s x
  | disabled ok =>
      simp only [circStep] at h
      split at h
      · split at h
        · split at h
          · rw [← Option.some.inj h]
            rfl
          · exact absurd h.symm (Option.some_ne_none s')
        · rw [← Option.some.inj h]
          rfl
      · exact absurd h.symm (Option.some_ne_none s')

/-- Every header of the pool is in the queue, at the port, held, or was
    dropped. -/
theorem circulation_run {role : Role} {hs : List η} {s : Circulation η} {ls : List (CircOp η)}
    (h : run (circStep role) (.init hs) ls = some s) (x : η) :
    s.places x + (dropped ls).count x = hs.count x := by
  refine run_history (I := fun ls s => s.places x + (dropped ls).count x = hs.count x) ?_ ?_ h
  · intro ls s l s' ih hstep
    have hp := circStep_places hstep x
    have hlast : dropped (ls ++ [l]) = dropped ls ++ l.failedSend.toList := by
      simp only [dropped, List.filterMap_append, List.filterMap_cons, List.filterMap_nil]
      cases l.failedSend with
      | none => rfl
      | some d => rfl
    rw [hlast, List.count_append]
    omega
  · simp only [Circulation.places, Circulation.init, dropped, held, List.count_nil,
      List.flatMap_nil, List.filterMap_nil, Nat.add_zero]

/-- When no callback and no `startCapture` is on its way, the headers in place
    are those whose sends all succeeded: they are in the queue or at the port,
    once, and the others are nowhere. -/
theorem placed_iff {N : Nat} {role : Role} {s : Circulation (Fin N)} {ls : List (CircOp (Fin N))}
    (hrun : run (circStep role) (.init (List.finRange N)) ls = some s) (hquiet : s.active = [])
    (x : Fin N) : (s.queue ++ s.port).count x = 1 ↔ x ∉ dropped ls := by
  have hall := circulation_run hrun x
  rw [List.count_eq_one_of_mem (List.nodup_finRange N) (List.mem_finRange x)] at hall
  rw [← List.count_eq_zero, List.count_append]
  simp only [Circulation.places, hquiet, held, List.flatMap_nil, List.count_nil] at hall
  omega

/-- All headers of a pool of any size are in exactly one place, in either
    class, exactly when no send of the run failed. -/
theorem conserved_iff {N : Nat} {role : Role} {s : Circulation (Fin N)}
    {ls : List (CircOp (Fin N))}
    (hrun : run (circStep role) (.init (List.finRange N)) ls = some s) (hquiet : s.active = []) :
    (∀ x, (s.queue ++ s.port).count x = 1) ↔ ∀ l ∈ ls, l.failedSend = none := by
  rw [← List.filterMap_eq_nil_iff]
  constructor
  · intro h
    refine List.eq_nil_iff_forall_not_mem.mpr (fun x => ?_)
    exact (placed_iff hrun hquiet x).mp (h x)
  · intro h x
    refine (placed_iff hrun hquiet x).mpr ?_
    rw [dropped, h]
    exact List.not_mem_nil

/-- The one header of a pool is sent, comes back and is sent again, and comes
    back for good when the port is disabled. -/
theorem conserved_once :
    let capture : List (CircOp (Fin 1)) := [.startCapture true, .getInitial 0,
      .sendInitial 0 0 true, .started, .deliver 0, .release 0, .test, .get, .send 0 true,
      .disable, .deliver 0, .release 0, .test, .disabled true]
    let s := (run (circStep .still) (.init (List.finRange 1)) capture).get (by decide)
    (∀ x, (s.queue ++ s.port).count x = 1) ↔ ∀ l ∈ capture, l.failedSend = none := by
  intro capture s
  exact conserved_iff (Option.some_get _).symm (by decide)

/-- The port is disabled after the callback has found it enabled and before it
    sends the header on. Once everything has come to rest the header is in no
    place any more, in either class. -/
theorem disabled_before_send :
    let race : List (CircOp (Fin 1)) := [.startCapture true, .getInitial 0, .sendInitial 0 0 true,
      .started, .deliver 0, .release 0, .test, .get, .disable, .send 0 false, .disabled true]
    (∃ s, run (circStep .still) (.init (List.finRange 1)) race = some s ∧ s.active = [] ∧
        (s.queue ++ s.port).count 0 = 0) ∧
      ∃ s, run (circStep .video) (.init (List.finRange 1)) (.enable :: race) = some s ∧
        s.active = [] ∧ (s.queue ++ s.port).count 0 = 0 :=
  ⟨⟨_, rfl, rfl, rfl⟩, ⟨_, rfl, rfl, rfl⟩⟩

end Headers

end RaspiCam
