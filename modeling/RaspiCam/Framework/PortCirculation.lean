import RaspiCam.Framework.Port
import RaspiCam.Lib.Simulation

/-!
# The Port Circulates Headers

`Headers.Circulation` follows the headers of a pool through a port of which it
knows little: a send can only succeed while the port is enabled, a header comes
back whenever the port likes, and disabling succeeds once everything is back.
`Framework.Port` is the port as it is written, with its locks, its count and
its own queue.

Here the first is shown to be what the second looks like from outside. Every
run of the port shows as a run of the circulation, step by step,
`port_circulates`, so what is known about the circulation holds for the classes
on the real port. A header is never doubled, `port_keeps_headers`, and once the
port is disabled one is missing exactly if `mmal_port_send_buffer` has failed
with it, `pool_complete`.

## Main definitions

* `PortPlace.activity`: What a thread does, seen from outside.
* `Abstracts`: A circulation that a port looks like.
* `shows`: What a step shows as.
* `lost`: The headers whose send failed.

## Theorems

* `shows_step`: A step shows as a step, or not at all.
* `port_circulates`: A run shows as a run.
* `port_keeps_headers`: A header is in one place, or it was lost.
* `pool_complete`: The headers that are back once the port is disabled.
-/

namespace RaspiCam

namespace Framework

open RaspiCam.Headers Threads Transition

variable {η : Type*}

/-- What a thread does, as far as it can be seen from outside. -/
@[simp]
def PortPlace.activity : PortPlace η → Option (Activity η)
  | .client a => some a
  | .locked a | .counting a | .counted a | .refused a => some a.activity
  | .returning | .resuming | .flushing _ | .disabling | .shutting | .reopening | .draining
  | .awaiting | .reposting => none

/-- The headers that a thread has flushed out of the queue of the port. -/
@[simp]
def PortPlace.flushes : PortPlace η → List η
  | .flushing hs => hs
  | _ => []

/-- Whether the port is enabled, or on its way to be disabled. -/
def Port.portState (s : Port η) : PortState :=
  if s.isEnabled then .enabled
  else if total PortPlace.closes s.places = 0 then .disabled
  else .disabling

/-- How often a thread has flushed a header. -/
def PortPlace.flushed (x : η) [DecidableEq η] (t : PortPlace η) : Nat := t.flushes.count x

/-- Whether a thread does something. -/
def PortPlace.does [DecidableEq η] (x : Activity η) (t : PortPlace η) : Nat :=
  if t.activity = some x then 1 else 0

/-- A circulation that looks like the port. Nothing depends on the order of the
    headers in the port or of the threads. -/
structure Abstracts [DecidableEq η] (s : Port η) (a : Circulation η) : Prop where
  queue : a.queue = s.queue
  port : ∀ x, a.port.count x =
    s.component.count x + s.waiting.count x + total (PortPlace.flushed x) s.places
  active : ∀ x, a.active.count x = total (PortPlace.does x) s.places
  portState : a.portState = s.portState

/-- The end of a send, seen from outside. -/
def Sending.ends (a : Sending η) (sent : Bool) : CircOp η :=
  match a with
  | .again h => .send h sent
  | .initial left h => .sendInitial left h sent

/-- What a step of the port shows as. -/
def shows (role : Role) (s : Port η) : PortOp η → List (CircOp η)
  | .enable ok => if ok then [.enable] else []
  | .startCapture accepted =>
    if role = .still ∨ accepted = true then [.startCapture accepted] else []
  | .getInitial left => [.getInitial left]
  | .started => [.started]
  | .release h => [.release h]
  | .test => [.test]
  | .get => [.get]
  | .lock a => if s.isEnabled then [] else [a.ends false]
  | .pass a ok => if s.isPaused = true ∨ ok = true then [a.ends true] else []
  | .refuse a => [a.ends false]
  | .deliver h => [.deliver h]
  | .flushNext hs => hs.head?.toList.map .deliver
  | .drain => s.waiting.head?.toList.map .deliver
  | .shut => [.disable]
  | .reopen => [.disabled false]
  | .await => [.disabled true]
  | .count _ | .claim _ | .finish | .pause | .resume | .resumeSend _ | .flush _ | .disable
  | .shutDown _ | .repost => []

variable [DecidableEq η] {s s' u : Port η} {a b : Circulation η} {t : PortPlace η}
  {next : Option (PortPlace η)} {places : List (PortPlace η)}

theorem abstracts_init (hs : List η) : Abstracts (Port.init hs) (Circulation.init hs) :=
  ⟨rfl, by simp [Port.init, Circulation.init], by simp [Port.init, Circulation.init], rfl⟩

/-- What a thread did before it moves on is what it does afterwards. -/
theorem does_same (hp : advance s.places t next = some places)
    (hsame : next.bind PortPlace.activity = t.activity) (x : Activity η) :
    total (PortPlace.does x) places = total (PortPlace.does x) s.places := by
  have hdoes := total_advance (PortPlace.does x) hp
  have hnext : total (PortPlace.does x) next.toList = t.does x := by
    cases next with
    | none =>
        have hnone : t.activity = none := hsame.symm
        simp [PortPlace.does, hnone, -PortPlace.activity]
    | some n =>
        have hsome : n.activity = t.activity := hsame
        simp [PortPlace.does, hsome, -PortPlace.activity]
  omega

/-- A step between places that hold no flushed headers. -/
theorem flushed_same (hp : advance s.places t next = some places) (ht : t.flushes = [])
    (hn : ∀ n, next = some n → n.flushes = []) (x : η) :
    total (PortPlace.flushed x) places = total (PortPlace.flushed x) s.places := by
  have hflushed := total_advance (PortPlace.flushed x) hp
  cases next with
  | none =>
      simp only [PortPlace.flushed, ht, List.count_nil, Option.toList_none, total_nil] at hflushed ⊢
      omega
  | some n =>
      simp only [PortPlace.flushed, ht, hn n rfl, List.count_nil, Option.toList_some, total_cons,
        total_nil] at hflushed ⊢
      omega

/-- A step between places where the port is not being disabled, or where it is
    in both. -/
theorem closes_same (hp : advance s.places t next = some places)
    (hn : total PortPlace.closes next.toList = t.closes) :
    total PortPlace.closes places = total PortPlace.closes s.places := by
  have hcloses := total_advance PortPlace.closes hp
  omega

omit [DecidableEq η] in
/-- Whether the port is being disabled depends on one number. -/
theorem portState_same (hen : u.isEnabled = s.isEnabled)
    (hcloses : total PortPlace.closes u.places = total PortPlace.closes s.places) :
    u.portState = s.portState := by
  simp only [Port.portState, hen, hcloses]

/-- A thread moves on, and what it does stays the same. -/
theorem Abstracts.stays (hR : Abstracts s a) (h : u.move t next = some s')
    (hplaces : u.places = s.places) (hsame : next.bind PortPlace.activity = t.activity)
    (hactive : b.active = a.active) (hqueue : b.queue = u.queue)
    (hport : ∀ x, b.port.count x =
      s'.component.count x + s'.waiting.count x + total (PortPlace.flushed x) s'.places)
    (hstate : b.portState = s'.portState) : Abstracts s' b := by
  obtain ⟨places, hp, rfl⟩ := portMove_some h
  rw [hplaces] at hp
  refine ⟨hqueue, hport, fun x => ?_, hstate⟩
  rw [hactive]
  exact (hR.active x).trans (does_same hp hsame x).symm

/-- A thread moves on, and what it does changes. -/
theorem Abstracts.moves (hR : Abstracts s a) (h : u.move t next = some s')
    (hplaces : u.places = s.places) {x : Activity η} (hx : t.activity = some x)
    (hactive : b.active = a.active) (hqueue : b.queue = u.queue)
    (hport : ∀ y, b.port.count y =
      s'.component.count y + s'.waiting.count y + total (PortPlace.flushed y) s'.places)
    (hstate : b.portState = s'.portState) :
    ∃ b', b.advance x (next.bind PortPlace.activity) = some b' ∧ Abstracts s' b' := by
  obtain ⟨places, hp, rfl⟩ := portMove_some h
  rw [hplaces] at hp
  have hmem : x ∈ b.active := by
    rw [hactive, ← List.count_pos_iff, hR.active x]
    have hle := le_total (PortPlace.does x) (mem_of_advance hp)
    simp only [PortPlace.does, hx, if_true] at hle
    omega
  refine ⟨_, if_pos hmem, hqueue, hport, fun y => ?_, hstate⟩
  have hdoes := total_advance (PortPlace.does y) hp
  have hcount := hR.active y
  rw [hactive] at hmem ⊢
  have hpos : x = y → 0 < a.active.count y := by
    rintro rfl
    exact List.count_pos_iff.mpr hmem
  have hnext : total (PortPlace.does y) next.toList =
      (next.bind PortPlace.activity).toList.count y := by
    cases next with
    | none => rfl
    | some n =>
        cases hn : n.activity with
        | none => simp [PortPlace.does, hn, -PortPlace.activity]
        | some z => by_cases hz : z = y <;> simp [PortPlace.does, hn, hz, -PortPlace.activity]
  simp only [List.count_append, List.count_erase]
  by_cases hxy : x = y
  · subst hxy
    have hone := hpos rfl
    simp only [PortPlace.does, hx, if_true] at hdoes hcount hnext ⊢
    simp
    omega
  · have hzero : t.does y = 0 := by simp [PortPlace.does, hx, hxy, -PortPlace.activity]
    have hne : (x == y) = false := by simpa using hxy
    simp only [hne, Bool.false_eq_true, if_false]
    omega

/-- A thread moves on, and of the port nothing changes but the queue of the
    pool. -/
theorem Abstracts.plain (hR : Abstracts s a) (h : u.move t next = some s')
    (hu : u.places = s.places ∧ u.component = s.component ∧ u.waiting = s.waiting ∧
      u.isEnabled = s.isEnabled)
    (hb : b.queue = u.queue ∧ b.port = a.port ∧ b.portState = a.portState ∧ b.active = a.active)
    {x : Activity η} (hx : t.activity = some x) (ht : t.flushes = [] ∧ t.closes = 0)
    (hnext : ∀ m, next = some m → m.flushes = [] ∧ m.closes = 0) :
    ∃ b', b.advance x (next.bind PortPlace.activity) = some b' ∧ Abstracts s' b' := by
  obtain ⟨hplaces, hcomponent, hwaiting, hen⟩ := hu
  obtain ⟨hqueue, hport, hstate, hactive⟩ := hb
  have hmove := portMove_some h
  refine hR.moves h hplaces hx hactive hqueue (fun y => ?_) ?_
  · obtain ⟨places, hp, rfl⟩ := hmove
    rw [hplaces] at hp
    rw [flushed_same hp ht.1 (fun m hm => (hnext m hm).1) y, hcomponent, hwaiting, hport]
    exact hR.port y
  · obtain ⟨places, hp, rfl⟩ := hmove
    rw [hplaces] at hp
    rw [hstate, hR.portState]
    have hcloses : total PortPlace.closes next.toList = t.closes := by
      cases next with
      | none => simp [ht.2, -PortPlace.closes]
      | some n => simp [ht.2, (hnext n rfl).2, -PortPlace.closes]
    exact (portState_same (u := { u with places := places }) hen (closes_same hp hcloses)).symm

/-- A thread moves on, and no header moves. -/
theorem Abstracts.rests (hR : Abstracts s a) (h : u.move t next = some s')
    (hu : u.places = s.places ∧ u.component = s.component ∧ u.waiting = s.waiting ∧
      u.queue = s.queue)
    (hb : b.queue = a.queue ∧ b.port = a.port ∧ b.active = a.active)
    (hsame : next.bind PortPlace.activity = t.activity) (ht : t.flushes = [])
    (hnext : ∀ m, next = some m → m.flushes = []) (hstate : b.portState = s'.portState) :
    Abstracts s' b := by
  obtain ⟨hplaces, hcomponent, hwaiting, hqueue⟩ := hu
  obtain ⟨hbqueue, hbport, hbactive⟩ := hb
  have hmove := portMove_some h
  refine hR.stays h hplaces hsame hbactive (hbqueue.trans (hR.queue.trans hqueue.symm))
    (fun x => ?_) hstate
  obtain ⟨places, hp, rfl⟩ := hmove
  rw [hplaces] at hp
  rw [flushed_same hp ht hnext x, hcomponent, hwaiting, hbport]
  exact hR.port x

/-- A thread moves on, and nothing shows. -/
theorem Abstracts.silent (hR : Abstracts s a) (h : u.move t next = some s')
    (hu : u.places = s.places ∧ u.component = s.component ∧ u.waiting = s.waiting ∧
      u.queue = s.queue ∧ u.isEnabled = s.isEnabled)
    (hsame : next.bind PortPlace.activity = t.activity) (ht : t.flushes = [])
    (hnext : ∀ m, next = some m → m.flushes = [])
    (hcloses : total PortPlace.closes next.toList = t.closes) : Abstracts s' a := by
  obtain ⟨hplaces, hcomponent, hwaiting, hqueue, hen⟩ := hu
  have hmove := portMove_some h
  refine hR.rests h ⟨hplaces, hcomponent, hwaiting, hqueue⟩ ⟨rfl, rfl, rfl⟩ hsame ht hnext ?_
  obtain ⟨places, hp, rfl⟩ := hmove
  rw [hplaces] at hp
  rw [hR.portState]
  exact (portState_same (u := { u with places := places }) hen (closes_same hp hcloses)).symm

theorem run_one {role : Role} {op : CircOp η} (h : circStep role a op = some b) :
    run (circStep role) a [op] = some b := by
  simp [run, h]

/-- The calls that only the class makes. -/
theorem shows_client (hR : Abstracts s a) {role : Role} {op : PortOp η}
    (hop : (∃ left, op = .getInitial left) ∨ op = .started ∨ (∃ b, op = .release b) ∨ op = .test ∨
      op = .get)
    (h : portStep role s op = some s') :
    ∃ a', run (circStep role) a (shows role s op) = some a' ∧ Abstracts s' a' := by
  have hqueue := hR.queue
  obtain ⟨left, rfl⟩ | rfl | ⟨b, rfl⟩ | rfl | rfl := hop
  · cases hq : s.queue with
    | nil => simp [portStep, hq] at h
    | cons x queue =>
        simp only [portStep, hq] at h
        obtain ⟨a', ha', hR'⟩ := hR.plain (b := { a with queue := queue }) h ⟨rfl, rfl, rfl, rfl⟩
          ⟨rfl, rfl, rfl, rfl⟩ rfl ⟨rfl, rfl⟩ (by simp)
        exact ⟨a', run_one (by simpa [circStep, hqueue, hq] using ha'), hR'⟩
  · simp only [portStep] at h
    obtain ⟨a', ha', hR'⟩ := hR.plain (b := a) h ⟨rfl, rfl, rfl, rfl⟩ ⟨hqueue, rfl, rfl, rfl⟩ rfl
      ⟨rfl, rfl⟩ (by simp)
    exact ⟨a', run_one (by simpa [circStep] using ha'), hR'⟩
  · simp only [portStep] at h
    obtain ⟨a', ha', hR'⟩ := hR.plain (b := { a with queue := s.queue ++ [b] }) h
      ⟨rfl, rfl, rfl, rfl⟩ ⟨rfl, rfl, rfl, rfl⟩ rfl ⟨rfl, rfl⟩ (by simp)
    exact ⟨a', run_one (by simpa [circStep, hqueue] using ha'), hR'⟩
  · have hstate := hR.portState
    cases hen : s.isEnabled with
    | true =>
        simp only [portStep, hen, if_true] at h
        simp only [Port.portState, hen, if_true] at hstate
        obtain ⟨a', ha', hR'⟩ := hR.plain (b := a) h ⟨rfl, rfl, rfl, rfl⟩ ⟨hqueue, rfl, rfl, rfl⟩
          rfl ⟨rfl, rfl⟩ (by simp)
        exact ⟨a', run_one (by simpa [circStep, hstate] using ha'), hR'⟩
    | false =>
        simp only [portStep, hen, Bool.false_eq_true, if_false] at h
        have hne : a.portState ≠ .enabled := by
          rw [hstate]
          simp only [Port.portState, hen, Bool.false_eq_true, if_false]
          split <;> simp
        obtain ⟨a', ha', hR'⟩ := hR.plain (b := a) h ⟨rfl, rfl, rfl, rfl⟩ ⟨hqueue, rfl, rfl, rfl⟩
          rfl ⟨rfl, rfl⟩ (by simp)
        exact ⟨a', run_one (by simpa [circStep, hne] using ha'), hR'⟩
  · cases hq : s.queue with
    | nil =>
        simp only [portStep, hq] at h
        obtain ⟨a', ha', hR'⟩ := hR.plain (b := a) h ⟨rfl, rfl, rfl, rfl⟩ ⟨hqueue, rfl, rfl, rfl⟩
          rfl ⟨rfl, rfl⟩ (by simp)
        exact ⟨a', run_one (by simpa [circStep, hqueue, hq] using ha'), hR'⟩
    | cons x queue =>
        simp only [portStep, hq] at h
        obtain ⟨a', ha', hR'⟩ := hR.plain (b := { a with queue := queue }) h ⟨rfl, rfl, rfl, rfl⟩
          ⟨rfl, rfl, rfl, rfl⟩ rfl ⟨rfl, rfl⟩ (by simp)
        exact ⟨a', run_one (by simpa [circStep, hqueue, hq] using ha'), hR'⟩

theorem circStep_ends {role : Role} (c : Sending η) (sent : Bool) :
    circStep role a (c.ends sent) = a.sendBuffer c.activity c.after.activity c.header sent := by
  cases c <;> rfl

omit [DecidableEq η] in
theorem after_plain (c : Sending η) (m : PortPlace η) (h : some c.after = some m) :
    m.flushes = [] ∧ m.closes = 0 := by
  cases h
  cases c <;> simp [Sending.after]

/-- Who has the send lock finds the port enabled. -/
theorem enabled_of_sends (hs : Counted s) (hR : Abstracts s a) (ht : t ∈ s.places)
    (hsends : t.sends = 1) : a.portState = .enabled := by
  have hle := le_total PortPlace.sends ht
  have hsending := hs.sending
  have hen := Bool.toNat_le s.isEnabled
  have hone : s.isEnabled = true := by
    rw [← Bool.toNat_eq_one]
    omega
  rw [hR.portState, Port.portState, if_pos hone]

/-- A send that fails. -/
theorem Abstracts.fails (hR : Abstracts s a) {role : Role} {c : Sending η}
    (h : u.move t (some c.after) = some s')
    (hu : u.places = s.places ∧ u.component = s.component ∧ u.waiting = s.waiting ∧
      u.isEnabled = s.isEnabled ∧ u.queue = s.queue)
    (ht : t.activity = some c.activity ∧ t.flushes = [] ∧ t.closes = 0) :
    ∃ a', run (circStep role) a [c.ends false] = some a' ∧ Abstracts s' a' := by
  obtain ⟨hplaces, hcomponent, hwaiting, hen, hqueue⟩ := hu
  obtain ⟨a', ha', hR'⟩ := hR.plain (b := a) h ⟨hplaces, hcomponent, hwaiting, hen⟩
    ⟨hR.queue.trans hqueue.symm, rfl, rfl, rfl⟩ ht.1 ht.2 (after_plain c)
  refine ⟨a', run_one ?_, hR'⟩
  rw [circStep_ends]
  simpa [Circulation.sendBuffer] using ha'

/-- A send that succeeds: the header is with the component or waits for it. -/
theorem Abstracts.passes (hR : Abstracts s a) {role : Role} {c : Sending η}
    (h : u.move (.counted c) (some c.after) = some s') (hstate : a.portState = .enabled)
    (hu : u.places = s.places ∧ u.isEnabled = s.isEnabled ∧ u.queue = s.queue)
    (hport : ∀ x, u.component.count x + u.waiting.count x =
      s.component.count x + s.waiting.count x + [c.header].count x) :
    ∃ a', run (circStep role) a [c.ends true] = some a' ∧ Abstracts s' a' := by
  obtain ⟨hplaces, hen, hqueue⟩ := hu
  have hmove := portMove_some h
  have hshown : ∃ a', { a with port := a.port ++ [c.header] }.advance c.activity
      ((some c.after).bind PortPlace.activity) = some a' ∧ Abstracts s' a' := by
    refine hR.moves (b := { a with port := a.port ++ [c.header] }) h hplaces rfl rfl
      (hR.queue.trans hqueue.symm) (fun x => ?_) ?_
    · obtain ⟨places, hp, rfl⟩ := hmove
      rw [hplaces] at hp
      have hbefore := hR.port x
      have hsent := hport x
      simp only [List.count_append]
      rw [flushed_same hp rfl (fun m hm => (after_plain c m hm).1) x]
      omega
    · obtain ⟨places, hp, rfl⟩ := hmove
      rw [hplaces] at hp
      have hcloses : total PortPlace.closes (some c.after).toList =
          (PortPlace.counted c).closes := by
        simp [(after_plain c _ rfl).2, -PortPlace.closes]
        rfl
      exact hR.portState.trans
        (portState_same (u := { u with places := places }) hen (closes_same hp hcloses)).symm
  obtain ⟨a', ha', hR'⟩ := hshown
  refine ⟨a', run_one ?_, hR'⟩
  rw [circStep_ends]
  simpa [Circulation.sendBuffer, hstate] using ha'

/-- `mmal_port_send_buffer`. -/
theorem shows_send (hs : Counted s) (hR : Abstracts s a) {role : Role} {op : PortOp η}
    (hop : ∃ c ok, op = .lock c ∨ op = .count c ∨ op = .claim c ∨ op = .pass c ok ∨ op = .refuse c)
    (h : portStep role s op = some s') :
    ∃ a', run (circStep role) a (shows role s op) = some a' ∧ Abstracts s' a' := by
  obtain ⟨c, ok, rfl | rfl | rfl | rfl | rfl⟩ := hop
  · simp only [portStep] at h
    split at h
    · cases h
    · cases hen : s.isEnabled with
      | true =>
          simp only [hen, if_true] at h
          simp only [shows, hen, if_true]
          exact ⟨a, rfl, hR.silent h ⟨rfl, rfl, rfl, rfl, hen.symm⟩ rfl rfl (by simp) (by simp)⟩
      | false =>
          simp only [hen, Bool.false_eq_true, if_false] at h
          simp only [shows, hen, Bool.false_eq_true, if_false]
          exact hR.fails h ⟨rfl, rfl, rfl, rfl, rfl⟩ ⟨rfl, rfl, rfl⟩
  · simp only [portStep] at h
    split at h
    · cases h
    · split at h
      · exact ⟨a, rfl, hR.silent h ⟨rfl, rfl, rfl, rfl, rfl⟩ rfl rfl (by simp) (by simp)⟩
      · exact ⟨a, rfl, hR.silent h ⟨rfl, rfl, rfl, rfl, rfl⟩ rfl rfl (by simp) (by simp)⟩
  · simp only [portStep] at h
    split at h
    · cases h
    · exact ⟨a, rfl, hR.silent h ⟨rfl, rfl, rfl, rfl, rfl⟩ rfl rfl (by simp) (by simp)⟩
  · simp only [portStep] at h
    split at h
    · rename_i hpaused
      simp only [shows, hpaused, true_or, if_true]
      obtain ⟨places, hp, -⟩ := portMove_some h
      exact hR.passes h (enabled_of_sends hs hR (mem_of_advance hp) rfl) ⟨rfl, rfl, rfl⟩
        (fun x => by simp only [List.count_append]; omega)
    · rename_i hpaused
      split at h
      · rename_i hok
        simp only [shows, hok, or_true, if_true]
        obtain ⟨places, hp, -⟩ := portMove_some h
        exact hR.passes h (enabled_of_sends hs hR (mem_of_advance hp) rfl) ⟨rfl, rfl, rfl⟩
          (fun x => by simp only [List.count_append]; omega)
      · rename_i hok
        simp only [shows, hpaused, hok, Bool.false_eq_true, or_self, if_false]
        exact ⟨a, rfl, hR.silent h ⟨rfl, rfl, rfl, rfl, rfl⟩ rfl rfl (by simp) (by simp)⟩
  · simp only [portStep] at h
    split at h
    · cases h
    · exact hR.fails h ⟨rfl, rfl, rfl, rfl, rfl⟩ ⟨rfl, rfl, rfl⟩

/-- A port with something in transit is not disabled. -/
theorem open_of_transit (hs : Counted s) (hR : Abstracts s a) (h : s.transit ≠ 0) :
    a.portState ≠ .disabled := by
  have hclosed := hs.closed
  rw [hR.portState]
  cases hen : s.isEnabled with
  | true => simp [Port.portState, hen]
  | false =>
      rw [hen, Bool.toNat_false, Nat.zero_add] at hclosed
      have hne : total PortPlace.closes s.places ≠ 0 := fun hzero => h (hclosed hzero)
      simp [Port.portState, hen, hne]

/-- A header leaves the port for the callback. -/
theorem Abstracts.delivers (hR : Abstracts s a) {role : Role} {x : η}
    (hopen : a.portState ≠ .disabled) (hqueue : s'.queue = s.queue)
    (hport : ∀ y, s'.component.count y + s'.waiting.count y +
        total (PortPlace.flushed y) s'.places + [x].count y =
      s.component.count y + s.waiting.count y + total (PortPlace.flushed y) s.places)
    (hactive : ∀ y, total (PortPlace.does y) s'.places =
      [Activity.callback x].count y + total (PortPlace.does y) s.places)
    (hstate : s'.portState = s.portState) :
    ∃ a', run (circStep role) a [.deliver x] = some a' ∧ Abstracts s' a' := by
  have hmem : x ∈ a.port := by
    have hcount := hR.port x
    have hmoved := hport x
    rw [← List.count_pos_iff]
    simp only [List.count_cons_self, List.count_nil] at hmoved
    omega
  refine ⟨_, run_one (if_pos ⟨hmem, hopen⟩), hR.queue.trans hqueue.symm, fun y => ?_, fun y => ?_,
    hR.portState.trans hstate.symm⟩
  · have hperm := (List.perm_cons_erase hmem).count_eq y
    have hbefore := hR.port y
    have hmoved := hport y
    rw [← List.singleton_append, List.count_append] at hperm
    simp only
    omega
  · rw [hactive y, ← hR.active y, ← List.singleton_append, List.count_append]

/-- The thread that calls the callback, and one that goes on. -/
theorem callback_moves {x : η} (h : u.move t next = some s')
    (hu : u.places = .client (.callback x) :: s.places)
    (ht : t.activity = none) (hn : next.bind PortPlace.activity = none) (y : Activity η) :
    total (PortPlace.does y) s'.places =
      [Activity.callback x].count y + total (PortPlace.does y) s.places := by
  obtain ⟨places, hp, rfl⟩ := portMove_some h
  have hsame := does_same hp (hn.trans ht.symm) y
  rw [hu, total_cons] at hsame
  by_cases hy : Activity.callback x = y <;> simp [hsame, PortPlace.does, hy]

/-- The callback, `mmal_port_pause` and `mmal_port_flush`. -/
theorem shows_return (hs : Counted s) (hR : Abstracts s a) {role : Role} {op : PortOp η}
    (hop : (∃ x, op = .deliver x) ∨ op = .finish ∨ op = .pause ∨ op = .resume ∨
      (∃ ok, op = .resumeSend ok) ∨ (∃ ok, op = .flush ok) ∨ ∃ xs, op = .flushNext xs)
    (h : portStep role s op = some s') :
    ∃ a', run (circStep role) a (shows role s op) = some a' ∧ Abstracts s' a' := by
  have htransit := hs.transit
  obtain ⟨x, rfl⟩ | rfl | rfl | rfl | ⟨ok, rfl⟩ | ⟨ok, rfl⟩ | ⟨xs, rfl⟩ := hop
  · simp only [portStep] at h
    split at h
    · rename_i hx
      have hpos := List.length_pos_of_mem hx
      cases h
      refine hR.delivers (open_of_transit hs hR (by omega)) rfl (fun y => ?_) (fun y => ?_) ?_
      · have hperm := (List.perm_cons_erase hx).count_eq y
        rw [← List.singleton_append, List.count_append] at hperm
        simp only [total_cons, PortPlace.flushed, PortPlace.flushes, List.count_nil]
        omega
      · by_cases hy : Activity.callback x = y <;> simp [PortPlace.does, hy]
      · exact portState_same rfl (by simp)
    · cases h
  · simp only [portStep] at h
    split at h
    · cases h
    · exact ⟨a, rfl, hR.silent h ⟨rfl, rfl, rfl, rfl, rfl⟩ rfl rfl (by simp) (by simp)⟩
  · simp only [portStep] at h
    split at h
    · cases h
    · cases h
      exact ⟨a, rfl, hR.queue, hR.port, hR.active, hR.portState⟩
  · simp only [portStep] at h
    split at h
    · cases h
    · split at h
      · cases h
        refine ⟨a, rfl, hR.queue, fun y => ?_, fun y => ?_, ?_⟩
        · simpa [PortPlace.flushed] using hR.port y
        · simpa [PortPlace.does] using hR.active y
        · exact hR.portState.trans (by simp [Port.portState])
      · cases h
        exact ⟨a, rfl, hR.queue, hR.port, hR.active, hR.portState⟩
  · cases hw : s.waiting with
    | nil =>
        simp only [portStep, hw] at h
        exact ⟨a, rfl, hR.silent h ⟨rfl, rfl, hw.symm, rfl, rfl⟩ rfl rfl (by simp) (by simp)⟩
    | cons x waiting =>
        simp only [portStep, hw] at h
        split at h
        · obtain ⟨places, hp, rfl⟩ := portMove_some h
          change advance s.places .resuming (some .resuming) = some places at hp
          refine ⟨a, rfl, hR.stays h rfl rfl rfl hR.queue (fun y => ?_) ?_⟩
          · have hbefore := hR.port y
            rw [hw, ← List.singleton_append, List.count_append] at hbefore
            simp only [List.count_append]
            rw [flushed_same hp rfl (by simp) y]
            omega
          · have hcloses := closes_same hp (by simp)
            rw [hR.portState]
            simp only [Port.portState, hcloses]
        · exact ⟨a, rfl, hR.silent h ⟨rfl, rfl, hw.symm, rfl, rfl⟩ rfl rfl (by simp) (by simp)⟩
  · simp only [portStep] at h
    split at h
    · cases h
    · split at h
      · cases h
        refine ⟨a, rfl, hR.queue, fun y => ?_, fun y => ?_, ?_⟩
        · have hbefore := hR.port y
          simp only [total_cons, PortPlace.flushed, PortPlace.flushes, List.count_nil]
          omega
        · simpa [PortPlace.does] using hR.active y
        · exact hR.portState.trans (by simp [Port.portState])
      · cases h
        exact ⟨a, rfl, hR⟩
  · cases xs with
    | nil =>
        simp only [portStep] at h
        exact ⟨a, rfl, hR.silent h ⟨rfl, rfl, rfl, rfl, rfl⟩ rfl rfl (by simp) (by simp)⟩
    | cons x rest =>
        simp only [portStep] at h
        obtain ⟨places, hp, rfl⟩ := portMove_some h
        have hmem : PortPlace.flushing (x :: rest) ∈ s.places := by simpa using mem_of_advance hp
        have hin := le_total PortPlace.inTransit hmem
        simp at hin
        refine hR.delivers (open_of_transit hs hR (by omega)) rfl (fun y => ?_)
          (callback_moves h rfl rfl rfl) ?_
        · have hflushed := total_advance (PortPlace.flushed y) hp
          simp only [total_cons, PortPlace.flushed, PortPlace.flushes, List.count_nil,
            Option.toList_some, total_nil] at hflushed ⊢
          rw [← List.singleton_append, List.count_append] at hflushed
          omega
        · refine portState_same rfl ?_
          have hcloses := total_advance PortPlace.closes hp
          simpa using hcloses

theorem shows_beginDisable (hR : Abstracts s a) (h : s.beginDisable = some s') :
    Abstracts s' a := by
  simp only [Port.beginDisable] at h
  split at h
  · split at h
    · cases h
    · cases h
      refine ⟨hR.queue, fun y => ?_, fun y => ?_, ?_⟩
      · simpa [PortPlace.flushed] using hR.port y
      · simpa [PortPlace.does] using hR.active y
      · exact hR.portState.trans (by simp [Port.portState])
  · cases h
    exact hR

omit [DecidableEq η] in
/-- While the port is not enabled, the token is only there if nothing is in
    transit: no sender has the transit lock then. -/
theorem transit_of_token (hs : Counted s) (hen : s.isEnabled = false) (hsema : s.transitSema ≠ 0) :
    s.transit = 0 := by
  by_contra hne
  have htaken := hs.taken hne
  have hle := counts_le_sends s.places
  have hsending := hs.sending
  rw [hen, Bool.toNat_false] at hsending
  omega

/-- With nothing in transit the port is empty, also seen from outside. -/
theorem nothing_in_transit (hs : Counted s) (hR : Abstracts s a) (h : s.transit = 0) :
    a.port = [] ∧ ∀ x ∈ a.active, x.isCallback = false := by
  have htransit := hs.transit
  have hcomponent : s.component = [] := List.length_eq_zero_iff.mp (by omega)
  have hwaiting : s.waiting = [] := List.length_eq_zero_iff.mp (by omega)
  have hidle : total PortPlace.inTransit s.places = 0 := by omega
  constructor
  · refine List.eq_nil_iff_forall_not_mem.mpr fun x hx => ?_
    have hcount := hR.port x
    rw [hcomponent, hwaiting, List.count_nil] at hcount
    have hpos := List.count_pos_iff.mpr hx
    have hsome : 0 < total (PortPlace.flushed x) s.places := by omega
    obtain ⟨t, ht, hflushed⟩ := exists_of_total_pos hsome
    have hin := total_eq_zero_iff.mp hidle t ht
    cases t <;> simp [PortPlace.flushed] at hflushed hin
    simp [hin] at hflushed
  · intro x hx
    have hpos := List.count_pos_iff.mpr hx
    rw [hR.active x] at hpos
    obtain ⟨t, ht, hdoes⟩ := exists_of_total_pos hpos
    have hin := total_eq_zero_iff.mp hidle t ht
    have hact : t.activity = some x := by
      by_contra hne
      simp [PortPlace.does, hne, -PortPlace.activity] at hdoes
    cases t <;> simp [Sending.inCallback] at hact hin
    all_goals rw [← hact]; exact hin

/-- `mmal_port_disable`. -/
theorem shows_disable (hs : Counted s) (hR : Abstracts s a) {role : Role} {op : PortOp η}
    (hop : ∃ ok, op = .disable ∨ op = .shut ∨ op = .shutDown ok ∨ op = .reopen ∨ op = .drain ∨
      op = .await ∨ op = .repost)
    (h : portStep role s op = some s') :
    ∃ a', run (circStep role) a (shows role s op) = some a' ∧ Abstracts s' a' := by
  have hstate := hR.portState
  have hen := Bool.toNat_le s.isEnabled
  have hclosing := hs.closing
  obtain ⟨ok, rfl | rfl | rfl | rfl | rfl | rfl | rfl⟩ := hop
  · exact ⟨a, rfl, shows_beginDisable hR h⟩
  · simp only [portStep] at h
    split at h
    · cases h
    · have hmove := portMove_some h
      obtain ⟨places, hp, rfl⟩ := hmove
      have hone := le_total PortPlace.opens (mem_of_advance hp)
      have hopening := hs.opening
      have hcloses := total_advance PortPlace.closes hp
      simp only [PortPlace.opens] at hone
      simp at hcloses
      have htrue : s.isEnabled = true := by
        rw [← Bool.toNat_eq_one]
        omega
      simp only [Port.portState, htrue, if_true] at hstate
      refine ⟨{ a with portState := .disabling }, run_one ?_, hR.rests h ⟨rfl, rfl, rfl, rfl⟩
        ⟨rfl, rfl, rfl⟩ rfl rfl (by simp) ?_⟩
      · simp [circStep, Circulation.stop, hstate]
      · simp [Port.portState, hcloses]
  · exact ⟨a, rfl, hR.silent h ⟨rfl, rfl, rfl, rfl, rfl⟩ (by cases ok <;> rfl) rfl
      (by cases ok <;> simp) (by cases ok <;> simp)⟩
  · simp only [portStep] at h
    split at h
    · cases h
    · have hmove := portMove_some h
      obtain ⟨places, hp, rfl⟩ := hmove
      have hone := le_total PortPlace.closes (mem_of_advance hp)
      simp only [PortPlace.closes] at hone
      have hfalse : s.isEnabled = false := by
        rw [← Bool.toNat_eq_zero]
        omega
      have hne : total PortPlace.closes s.places ≠ 0 := by
        change 1 ≤ total PortPlace.closes s.places at hone
        omega
      simp only [Port.portState, hfalse, Bool.false_eq_true, if_false, hne] at hstate
      refine ⟨{ a with portState := .enabled }, run_one ?_, hR.rests h ⟨rfl, rfl, rfl, rfl⟩
        ⟨rfl, rfl, rfl⟩ rfl rfl (by simp) ?_⟩
      · simp [circStep, hstate]
      · simp [Port.portState]
  · cases hw : s.waiting with
    | nil =>
        simp only [portStep, hw] at h
        simp only [shows, hw]
        exact ⟨a, rfl, hR.silent h ⟨rfl, rfl, rfl, rfl, rfl⟩ rfl rfl (by simp) (by simp)⟩
    | cons x waiting =>
        have htransit := hs.transit
        simp only [portStep, hw] at h
        rw [hw, List.length_cons] at htransit
        simp only [shows, hw]
        obtain ⟨places, hp, rfl⟩ := portMove_some h
        refine hR.delivers (open_of_transit hs hR (by omega)) rfl (fun y => ?_)
          (callback_moves h rfl rfl rfl) ?_
        · have hflushed := total_advance (PortPlace.flushed y) hp
          simp only [total_cons, PortPlace.flushed, PortPlace.flushes, List.count_nil,
            Option.toList_some, total_nil] at hflushed ⊢
          have hhead : s.waiting.count y = [x].count y + waiting.count y := by
            rw [hw, ← List.count_append, List.singleton_append]
          omega
        · refine portState_same rfl ?_
          have hcloses := total_advance PortPlace.closes hp
          simpa using hcloses
  · simp only [portStep] at h
    split at h
    · cases h
    · rename_i hsema
      have hmove := portMove_some h
      obtain ⟨places, hp, rfl⟩ := hmove
      have hone := le_total PortPlace.closes (mem_of_advance hp)
      change 1 ≤ total PortPlace.closes s.places at hone
      have hcloses := total_advance PortPlace.closes hp
      simp at hcloses
      have hfalse : s.isEnabled = false := by
        rw [← Bool.toNat_eq_zero]
        omega
      have hempty := transit_of_token hs hfalse hsema
      have hne : total PortPlace.closes s.places ≠ 0 := by omega
      simp only [Port.portState, hfalse, Bool.false_eq_true, if_false, hne] at hstate
      refine ⟨{ a with portState := .disabled }, run_one ?_, hR.rests h ⟨rfl, rfl, rfl, rfl⟩
        ⟨rfl, rfl, rfl⟩ rfl rfl (by simp) ?_⟩
      · simp only [circStep, hstate, if_true]
        exact if_pos (nothing_in_transit hs hR hempty)
      · have hzero : total PortPlace.closes places = 0 := by omega
        simp [Port.portState, hfalse, hzero]
  · exact ⟨a, rfl, hR.silent h ⟨rfl, rfl, rfl, rfl, rfl⟩ rfl rfl (by simp) (by simp)⟩

/-- A loop of `startCapture` begins. -/
theorem Abstracts.loops (hR : Abstracts s a) : Abstracts s.beginLoop a.beginLoop := by
  refine ⟨hR.queue, fun y => ?_, fun y => ?_, ?_⟩
  · simpa [Port.beginLoop, Circulation.beginLoop, PortPlace.flushed] using hR.port y
  · have hactive := hR.active y
    simp only [Port.beginLoop, Circulation.beginLoop, total_cons, hR.queue]
    by_cases hy : Activity.starting s.queue.length = y
    · simp [PortPlace.does, hy, hactive, Nat.add_comm]
    · simp [PortPlace.does, hy, hactive]
  · exact hR.portState.trans (by simp [Port.portState, Port.beginLoop])

omit [DecidableEq η] in
/-- A port that is not enabled and whose lock is free is not being disabled. -/
theorem portState_of_unlocked (hs : Counted s) (hen : s.isEnabled = false)
    (hlock : s.portLock = false) :
    s.portState = .disabled ∧ total PortPlace.closes s.places = 0 := by
  have hport := hs.portLock
  rw [hlock, Bool.toNat_false] at hport
  have hzero : total PortPlace.closes s.places = 0 := by omega
  exact ⟨by simp [Port.portState, hen, hzero], hzero⟩

/-- The port is enabled, or it could not be. -/
theorem Abstracts.enables (hR : Abstracts s a) (ok : Bool)
    (hzero : total PortPlace.closes s.places = 0) :
    Abstracts (s.enableInternal ok)
      { a with portState := if ok then .enabled else .disabled } := by
  refine ⟨hR.queue, hR.port, hR.active, ?_⟩
  simp [Port.portState, Port.enableInternal, hzero]

/-- The call in `create_camera_component`. -/
theorem shows_enable (hs : Counted s) (hR : Abstracts s a) {role : Role} {ok : Bool}
    (h : portStep role s (.enable ok) = some s') :
    ∃ a', run (circStep role) a (shows role s (.enable ok)) = some a' ∧ Abstracts s' a' := by
  simp only [portStep] at h
  split at h
  · rename_i hcond
    obtain ⟨hrole, hlock, hen⟩ := hcond
    obtain ⟨hdisabled, hzero⟩ := portState_of_unlocked hs hen hlock
    have hstate := hR.portState
    rw [hdisabled] at hstate
    have hR' := hR.enables ok hzero
    cases h
    cases ok with
    | true => exact ⟨_, run_one (by simp [circStep, hrole, hstate]), hR'⟩
    | false =>
        refine ⟨a, rfl, hR'.queue, hR'.port, hR'.active, ?_⟩
        exact hstate.trans hR'.portState
  · cases h

/-- The calls that enable the port. -/
theorem shows_start (hs : Counted s) (hR : Abstracts s a) {role : Role} {accepted : Bool}
    (h : portStep role s (.startCapture accepted) = some s') :
    ∃ a', run (circStep role) a (shows role s (.startCapture accepted)) = some a' ∧
      Abstracts s' a' := by
  have hstate := hR.portState
  cases role with
  | video =>
      cases accepted with
      | true =>
          cases h
          exact ⟨a.beginLoop, rfl, hR.loops⟩
      | false => exact ⟨a, rfl, shows_beginDisable hR h⟩
  | still =>
      simp only [portStep] at h
      cases hen : s.isEnabled with
      | true =>
          simp only [hen, if_true, Option.some.injEq] at h
          simp only [Port.portState, hen, if_true] at hstate
          exact ⟨a, run_one (by simp [circStep, stillStartCapture, hstate]), h ▸ hR⟩
      | false =>
          simp only [hen, Bool.false_eq_true, if_false] at h
          split at h
          · cases h
          · rename_i hlock
            obtain ⟨hdisabled, hzero⟩ := portState_of_unlocked hs hen (by simpa using hlock)
            rw [hdisabled] at hstate
            have hR' := hR.enables accepted hzero
            cases h
            cases accepted with
            | true =>
                refine ⟨_, run_one ?_, hR'.loops⟩
                simp [circStep, stillStartCapture, hstate]
            | false =>
                refine ⟨a, run_one ?_, hR'.queue, hR'.port, hR'.active, ?_⟩
                · simp [circStep, stillStartCapture, hstate]
                · exact hstate.trans hR'.portState

/-- Every step of the port is a step of the circulation, or it does not show. -/
theorem shows_step (role : Role) (s : Port η) (op : PortOp η) (s' : Port η) (a : Circulation η)
    (hs : Counted s) (hR : Abstracts s a) (h : portStep role s op = some s') :
    ∃ a', run (circStep role) a (shows role s op) = some a' ∧ Abstracts s' a' := by
  cases op with
  | enable ok => exact shows_enable hs hR h
  | startCapture accepted => exact shows_start hs hR h
  | getInitial left => exact shows_client hR (by simp) h
  | started => exact shows_client hR (by simp) h
  | release x => exact shows_client hR (by simp) h
  | test => exact shows_client hR (by simp) h
  | get => exact shows_client hR (by simp) h
  | lock c => exact shows_send hs hR ⟨c, true, by simp⟩ h
  | count c => exact shows_send hs hR ⟨c, true, by simp⟩ h
  | claim c => exact shows_send hs hR ⟨c, true, by simp⟩ h
  | pass c ok => exact shows_send hs hR ⟨c, ok, by simp⟩ h
  | refuse c => exact shows_send hs hR ⟨c, true, by simp⟩ h
  | deliver x => exact shows_return hs hR (by simp) h
  | finish => exact shows_return hs hR (by simp) h
  | pause => exact shows_return hs hR (by simp) h
  | resume => exact shows_return hs hR (by simp) h
  | resumeSend ok => exact shows_return hs hR (by simp) h
  | flush ok => exact shows_return hs hR (by simp) h
  | flushNext xs => exact shows_return hs hR (by simp) h
  | disable => exact shows_disable hs hR ⟨true, by simp⟩ h
  | shut => exact shows_disable hs hR ⟨true, by simp⟩ h
  | shutDown ok => exact shows_disable hs hR ⟨ok, by simp⟩ h
  | reopen => exact shows_disable hs hR ⟨true, by simp⟩ h
  | drain => exact shows_disable hs hR ⟨true, by simp⟩ h
  | await => exact shows_disable hs hR ⟨true, by simp⟩ h
  | repost => exact shows_disable hs hR ⟨true, by simp⟩ h

/-- Every run of either class against the port as it is written shows as a run
    of the circulation that ends in the same state. -/
theorem port_circulates {role : Role} {hs : List η} {ops : List (PortOp η)}
    (h : run (portStep role) (.init hs) ops = some s) :
    ∃ a, run (circStep role) (.init hs) (shown (portStep role) (shows role) (.init hs) ops) =
        some a ∧ Abstracts s a :=
  run_shown (counted_step role) (shows_step role) (counted_init hs) (abstracts_init hs) h

/-- A header is sent and waits in the queue of a paused port. Three of the seven
    steps show. -/
theorem port_circulates_once :
    ∃ s : Port Nat, run (portStep .still) (.init [7]) [.startCapture true, .pause, .getInitial 0,
        .lock (.initial 0 7), .count (.initial 0 7), .claim (.initial 0 7),
        .pass (.initial 0 7) true] = some s ∧
      ∃ a, run (circStep .still) (.init [7]) [.startCapture true, .getInitial 0,
        .sendInitial 0 7 true] = some a ∧ Abstracts s a := by
  refine ⟨_, rfl, ?_⟩
  exact port_circulates (show run (portStep .still) (.init [7]) [.startCapture true, .pause,
    .getInitial 0, .lock (.initial 0 7), .count (.initial 0 7), .claim (.initial 0 7),
    .pass (.initial 0 7) true] = some _ from rfl)

/-- The header that a step loses: `mmal_port_send_buffer` fails, because the
    port is not enabled or because the component refuses the header. -/
def loses (s : Port η) : PortOp η → List η
  | .lock c => if s.isEnabled then [] else [c.header]
  | .refuse c => [c.header]
  | _ => []

/-- The headers that a run loses. -/
def lost (role : Role) (hs : List η) (ops : List (PortOp η)) : List η :=
  shown (portStep role) loses (.init hs) ops

omit [DecidableEq η] in
/-- What a step loses is what it drops, seen from outside. -/
theorem dropped_shows (role : Role) (s : Port η) (op : PortOp η) :
    (shows role s op).filterMap CircOp.failedSend = loses s op := by
  cases op with
  | lock c => cases hen : s.isEnabled <;> cases c <;> simp [shows, loses, hen, Sending.ends,
      Sending.header, CircOp.failedSend]
  | refuse c => cases c <;> rfl
  | pass c ok =>
      simp only [shows, loses]
      split
      · cases c <;> rfl
      · rfl
  | enable ok => cases ok <;> rfl
  | startCapture accepted =>
      simp only [shows, loses]
      split <;> rfl
  | flushNext xs => cases xs <;> rfl
  | drain => cases hw : s.waiting <;> simp [shows, loses, hw, CircOp.failedSend]
  | _ => rfl

theorem dropped_shown (role : Role) (hs : List η) (ops : List (PortOp η)) :
    dropped (shown (portStep role) (shows role) (.init hs) ops) = lost role hs ops := by
  rw [dropped, filterMap_shown, lost]
  simp only [dropped_shows]

/-- What the threads do, and what is on its way seen from outside. -/
theorem active_perm (hR : Abstracts s a) :
    a.active.Perm (s.places.filterMap PortPlace.activity) := by
  rw [List.perm_iff_count]
  intro x
  rw [hR.active x]
  induction s.places with
  | nil => rfl
  | cons t ts ih =>
      rw [total_cons, ih]
      cases ht : t.activity with
      | none => simp [PortPlace.does, ht, -PortPlace.activity]
      | some y =>
          by_cases hy : y = x
          · simp [PortPlace.does, ht, hy, -PortPlace.activity, Nat.add_comm]
          · simp [PortPlace.does, ht, hy, -PortPlace.activity]

/-- How often a header is in the queue of the pool, with the component, in the
    queue of the port, or in the hands of a thread. -/
def Port.headers (s : Port η) (x : η) : Nat :=
  s.queue.count x + s.component.count x + s.waiting.count x +
    total (PortPlace.flushed x) s.places +
    (held (s.places.filterMap PortPlace.activity)).count x

theorem headers_eq (hR : Abstracts s a) (x : η) : s.headers x = a.places x := by
  have hport := hR.port x
  have hheld := ((active_perm hR).flatMap_right Activity.holds).count_eq x
  simp only [Port.headers, Circulation.places, hR.queue, held]
  omega

/-- Every header of the pool is in one of these places, once, or it was lost
    when a send failed: the port neither loses a header nor doubles one. -/
theorem port_keeps_headers {role : Role} {hs : List η} {ops : List (PortOp η)}
    (h : run (portStep role) (.init hs) ops = some s) (x : η) :
    s.headers x + (lost role hs ops).count x = hs.count x := by
  obtain ⟨a, ha, hR⟩ := port_circulates h
  have hall := circulation_run ha x
  rw [dropped_shown, ← headers_eq hR] at hall
  exact hall

/-- The port is disabled after the callback has found it enabled and before it
    sends the header on. -/
def disabledBeforeLock (x : η) : List (PortOp η) :=
  [.startCapture true, .getInitial 0, .lock (.initial 0 x), .count (.initial 0 x),
    .claim (.initial 0 x), .pass (.initial 0 x) true, .started, .deliver x, .release x, .test, .get,
    .disable, .shut, .lock (.again x), .finish, .shutDown true, .drain, .await, .repost]

theorem port_keeps_headers_once :
    ∃ s : Port Nat, run (portStep .still) (.init [7]) (disabledBeforeLock 7) = some s ∧
      s.headers 7 = 0 ∧ s.headers 7 + (lost .still [7] (disabledBeforeLock 7)).count 7 = 1 := by
  refine ⟨_, rfl, rfl, ?_⟩
  exact port_keeps_headers
    (show run (portStep .still) (.init [7]) (disabledBeforeLock 7) = some _ from rfl) 7

/-- Once the port is disabled and nobody is in the code of the class any more,
    a header is back in the queue of the pool unless a send with it has
    failed. -/
theorem pool_complete {N : Nat} {role : Role} {s : Port (Fin N)} {ops : List (PortOp (Fin N))}
    (h : run (portStep role) (.init (List.finRange N)) ops = some s) (hen : s.isEnabled = false)
    (hport : s.portLock = false) (hquiet : ∀ t ∈ s.places, t.activity = none) (x : Fin N) :
    s.queue.count x = 1 ↔ x ∉ lost role (List.finRange N) ops := by
  obtain ⟨a, ha, hR⟩ := port_circulates h
  have hcounted := counted_run h
  obtain ⟨hdisabled, hzero⟩ := portState_of_unlocked hcounted hen hport
  have htransit := hcounted.closed (by rw [hen, hzero]; rfl)
  have hempty := (nothing_in_transit hcounted hR htransit).1
  have hactive : a.active = [] := by
    have hperm := active_perm hR
    rw [List.filterMap_eq_nil_iff.mpr hquiet] at hperm
    exact hperm.eq_nil
  have hplaced := placed_iff ha hactive x
  rw [hempty, List.append_nil, hR.queue, dropped_shown] at hplaced
  exact hplaced

/-- The header of `disabledBeforeLock` is not back in the queue of the pool. -/
theorem pool_complete_once :
    ∃ s : Port (Fin 1), run (portStep .still) (.init (List.finRange 1)) (disabledBeforeLock 0) =
        some s ∧
      (s.queue.count 0 = 1 ↔ 0 ∉ lost .still (List.finRange 1) (disabledBeforeLock 0)) := by
  refine ⟨_, rfl, ?_⟩
  exact pool_complete (show run (portStep .still) (.init (List.finRange 1)) (disabledBeforeLock 0) =
    some _ from rfl) rfl rfl (by decide) 0

end Framework

end RaspiCam
