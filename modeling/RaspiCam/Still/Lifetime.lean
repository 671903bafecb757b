import RaspiCam.Lib.Ledger
import RaspiCam.Lib.Run

/-!
# The User Data of a Picture

`takePicture` allocates the user data of a picture and a semaphore on its
stack, leaves a pointer to the user data in the encoder's output port, and
waits. Meanwhile the port calls `buffer_callback`, which follows the pointer:
it stores the bytes of a buffer, posts the semaphore when the image ends, and
then sends another header to the port. `takePicture` destroys the semaphore,
disables the port and deletes the user data.

Here every call and every callback is taken apart, with any result of the MMAL
calls. The port calls the callback whenever it holds a header, from the moment
it is enabled until it was disabled; while it is being disabled it returns the
headers it holds, and disabling does not succeed before they are back. Which
flags a buffer carries is up to the encoder. A callback whose capture has let
go does less with the user data than one that stores a buffer without a flag,
and is not told from it. Releasing a header and sending another one are one
step.

Three exits do not keep the books. A capture that cannot be started deletes
the user data without destroying the semaphore, and may leave the port enabled
with a pointer to the user data. A port that cannot be disabled has its user
data deleted by `stopCapture` and then again by `takePicture`. And the
semaphore is destroyed before the port is disabled, so that a buffer that ends
the image once more posts a semaphore that is no more. `lifetime_iff` says
that nothing else goes wrong.

## Main definitions

* `Caller`, `Callback`: Where `takePicture` and the callback stand.
* `Capturing`, `CaptureOp`, `captureStep`: The system.
* `Sound`: What was deleted and destroyed, and that nothing is used after.
* `CaptureOp.Careful`: A step after which the books are in order.
* `CaptureOp.Does`: What a step finds and what it leaves.
* `Standing`, `Orderly`: Where the headers are, and where the pointers point.

## Theorems

* `captureStep_some`: What a step needs and does.
* `standing_step`, `sound_step`: What a step keeps, and when.
* `lifetime_iff`: The runs in which the books are in order.
* `deleted_data_used`: A run in which they are not.
-/

namespace RaspiCam

open Ledgers Transition

namespace Still

/-- Where `takePicture` stands: it is not called, has set up the user data,
    has headers left to send, could not start the capture, waits, was woken,
    has destroyed the semaphore, is disabling the port, or has nothing left to
    do but to delete the user data. -/
inductive Caller
  | idle
  | starting
  | sending (left : Nat)
  | failed
  | waiting
  | woken
  | stopping
  | disabling
  | done
deriving DecidableEq

/-- Where the callback stands, and what it took for its user data: it does not
    run, stores a buffer that ends the image or does not, is about to post the
    semaphore, or is about to release the header. -/
inductive Callback
  | idle
  | storing (u : Nat) (ends : Bool)
  | posting (u : Nat)
  | releasing (u : Option Nat)
deriving DecidableEq

/-- `takePicture`, the callback and what they share. User data and semaphores
    are numbered by the calls they belong to, and the ledgers tell how often
    each was deleted and destroyed. A header is in the queue of the pool, held
    by the port, in the hands of the callback, or lost. -/
structure Capturing where
  queued : Nat
  held : Nat
  lost : Nat
  enabled : Bool
  userdata : Option Nat
  deletions : List Nat
  destructions : List Nat
  posts : Nat
  caller : Caller
  callback : Callback
  misused : Bool

/-- The steps. -/
inductive CaptureOp
  | call
  | enable (ok : Bool)
  | send (ok : Bool)
  | capture (ok : Bool)
  | giveUp
  | wake
  | destroySemaphore
  | disable
  | disabled (ok : Bool)
  | finish
  | begin (ends : Bool)
  | store
  | post
  | recycle (ok : Bool)

namespace Capturing

/-- An initialized camera with `n` headers in its pool. -/
def init (n : Nat) : Capturing where
  queued := n
  held := 0
  lost := 0
  enabled := false
  userdata := none
  deletions := []
  destructions := []
  posts := 0
  caller := .idle
  callback := .idle
  misused := false

/-- The number of the last call. -/
def current (s : Capturing) : Nat := s.deletions.length - 1

/-- Follow a pointer to user data. -/
def use (s : Capturing) (u : Nat) : Capturing :=
  { s with misused := s.misused || s.deletions[u]? != some 0 }

/-- A semaphore is there until it is destroyed or its call returns. -/
def semaphoreThere (s : Capturing) (u : Nat) : Bool :=
  s.caller != .idle && u == s.current && s.destructions[u]? == some 0

end Capturing

/-- The system. -/
def captureStep (s : Capturing) : CaptureOp → Option Capturing
  -- `takePicture`, up to the call of `startCapture`.
  | .call =>
    if s.caller = .idle then
      some { s with
        userdata := some s.deletions.length
        deletions := create s.deletions
        destructions := create s.destructions
        posts := 0
        caller := .starting }
    else none
  -- `startCapture`, which refuses when the port is enabled already.
  | .enable ok =>
    if s.caller = .starting then
      some (if s.enabled = true ∨ ok = false then { s with caller := .failed }
        else { s with enabled := true, caller := .sending s.queued })
    else none
  -- A header is taken from the queue and sent. An empty queue gives a null
  -- pointer, which is followed.
  | .send ok =>
    match s.caller with
    | .sending (left + 1) =>
      some (if s.queued = 0 then { s with misused := true, caller := .sending left }
        else if ok then { s with
          queued := s.queued - 1, held := s.held + 1, caller := .sending left }
        else { s with queued := s.queued - 1, lost := s.lost + 1, caller := .sending left })
    | _ => none
  | .capture ok =>
    if s.caller = .sending 0 then some { s with caller := if ok then .waiting else .failed }
    else none
  -- The exit of `takePicture` when the capture could not be started.
  | .giveUp =>
    if s.caller = .failed then
      some { s with deletions := destroy s.deletions s.current, caller := .idle }
    else none
  -- `sem_wait`.
  | .wake =>
    if s.caller = .waiting ∧ 0 < s.posts then
      some { s with posts := s.posts - 1, caller := .woken }
    else none
  | .destroySemaphore =>
    if s.caller = .woken then
      some { s with destructions := destroy s.destructions s.current, caller := .stopping }
    else none
  -- `stopCapture`, and the end of `mmal_port_disable`.
  | .disable =>
    if s.caller = .stopping then
      some (if s.enabled then { s with enabled := false, caller := .disabling }
        else { s with caller := .done })
    else none
  | .disabled ok =>
    if s.caller = .disabling then
      if ok then
        if s.held = 0 ∧ s.callback = .idle then some { s with caller := .done } else none
      else some { s with
        enabled := true
        deletions := match s.userdata with
          | none => s.deletions
          | some u => destroy s.deletions u
        caller := .done }
    else none
  -- The end of `takePicture`.
  | .finish =>
    if s.caller = .done then
      some { s with deletions := destroy s.deletions s.current, caller := .idle }
    else none
  -- `buffer_callback`, which looks at its user data before anything else.
  | .begin ends =>
    if s.callback = .idle ∧ 0 < s.held ∧ (s.enabled = true ∨ s.caller = .disabling) then
      some (match s.userdata with
        | none => { s with held := s.held - 1, callback := .releasing none }
        | some u => { s.use u with held := s.held - 1, callback := .storing u ends })
    else none
  | .store =>
    match s.callback with
    | .storing u ends =>
      some { s.use u with callback := if ends then .posting u else .releasing (some u) }
    | _ => none
  | .post =>
    match s.callback with
    | .posting u =>
      some { s.use u with
        misused := (s.use u).misused || !s.semaphoreThere u
        posts := s.posts + 1
        callback := .releasing (some u) }
    | _ => none
  -- The header goes back to the pool, and another one to the port.
  | .recycle ok =>
    match s.callback with
    | .releasing u =>
      some (if s.enabled then { s with
          misused := s.misused || match u with
            | none => true
            | some u => s.deletions[u]? != some 0
          held := if ok then s.held + 1 else s.held
          lost := if ok then s.lost else s.lost + 1
          callback := .idle }
        else { s with queued := s.queued + 1, callback := .idle })
    | _ => none

/-- The semaphore of the call was not destroyed yet. -/
def Caller.holdsSemaphore : Caller → Bool
  | .starting => true
  | .sending _ => true
  | .failed => true
  | .waiting => true
  | .woken => true
  | _ => false

/-- The port is not in use. -/
def Caller.quiet : Caller → Bool
  | .idle => true
  | .starting => true
  | .done => true
  | _ => false

/-- The port is enabled. -/
def Caller.busy : Caller → Bool
  | .sending _ => true
  | .waiting => true
  | .woken => true
  | .stopping => true
  | _ => false

/-- Every user data and every semaphore was deleted or destroyed exactly once,
    but those of a call that has not come to it, and nothing was used after. -/
structure Sound (s : Capturing) : Prop where
  misused : s.misused = false
  finished : s.caller = .idle → AllOnce s.deletions
  running : s.caller ≠ .idle → OnlyLast s.deletions s.current
  semaphores : if s.caller.holdsSemaphore then OnlyLast s.destructions s.current
    else AllOnce s.destructions

/-- A step after which the books are in order: no capture fails to start, no
    port fails to be disabled, and no semaphore is posted that was destroyed. -/
def CaptureOp.Careful (s : Capturing) : CaptureOp → Prop
  | .giveUp => False
  | .disabled ok => ok = true
  | .post => s.caller.holdsSemaphore = true
  | _ => True

instance (s : Capturing) (l : CaptureOp) : Decidable (l.Careful s) := by
  cases l <;> simp only [CaptureOp.Careful] <;> infer_instance

/-- What the callback took for its user data. -/
def Callback.user : Callback → Option (Option Nat)
  | .idle => none
  | .storing u _ => some (some u)
  | .posting u => some (some u)
  | .releasing u => some u

/-- The header the callback runs for. -/
def Callback.headers : Callback → Nat
  | .idle => 0
  | _ => 1

/-- Where the headers and the user data of the port are, whatever the steps
    do. -/
structure Standing (n : Nat) (s : Capturing) : Prop where
  lengths : s.destructions.length = s.deletions.length
  busy : s.caller.busy = true → s.enabled = true
  disabling : s.caller = .disabling → s.enabled = false
  called : s.caller ≠ .idle → s.deletions ≠ []
  userdata : s.deletions ≠ [] → s.userdata = some s.current
  left : ∀ k, s.caller = .sending k → k ≤ s.queued
  back : s.enabled = false → s.caller ≠ .disabling → s.held = 0 ∧ s.callback = .idle
  count : s.queued + s.held + s.lost + s.callback.headers = n

/-- The port is enabled only while it is in use, and the callback runs for the
    call that waits. -/
structure Orderly (s : Capturing) : Prop where
  quiet : s.caller.quiet = true → s.enabled = false
  callback : ∀ u, s.callback.user = some u → u = some s.current

/-- What a step finds and what it leaves. -/
def CaptureOp.Does (s s' : Capturing) : CaptureOp → Prop
  | .call => s.caller = .idle ∧ s' = { s with
      userdata := some s.deletions.length
      deletions := create s.deletions
      destructions := create s.destructions
      posts := 0
      caller := .starting }
  | .enable ok => s.caller = .starting ∧
      ((s.enabled = true ∨ ok = false) ∧ s' = { s with caller := .failed } ∨
        (s.enabled = false ∧ ok = true) ∧
          s' = { s with enabled := true, caller := .sending s.queued })
  | .send ok => ∃ left, s.caller = .sending (left + 1) ∧
      (s.queued = 0 ∧ s' = { s with misused := true, caller := .sending left } ∨
        0 < s.queued ∧ s' = { s with
          queued := s.queued - 1
          held := if ok then s.held + 1 else s.held
          lost := if ok then s.lost else s.lost + 1
          caller := .sending left })
  | .capture ok => s.caller = .sending 0 ∧
      s' = { s with caller := if ok then .waiting else .failed }
  | .giveUp => s.caller = .failed ∧
      s' = { s with deletions := destroy s.deletions s.current, caller := .idle }
  | .wake => (s.caller = .waiting ∧ 0 < s.posts) ∧
      s' = { s with posts := s.posts - 1, caller := .woken }
  | .destroySemaphore => s.caller = .woken ∧
      s' = { s with destructions := destroy s.destructions s.current, caller := .stopping }
  | .disable => s.caller = .stopping ∧
      (s.enabled = true ∧ s' = { s with enabled := false, caller := .disabling } ∨
        s.enabled = false ∧ s' = { s with caller := .done })
  | .disabled ok => s.caller = .disabling ∧
      (ok = true ∧ (s.held = 0 ∧ s.callback = .idle) ∧ s' = { s with caller := .done } ∨
        ok = false ∧ s' = { s with
          enabled := true
          deletions := match s.userdata with
            | none => s.deletions
            | some u => destroy s.deletions u
          caller := .done })
  | .finish => s.caller = .done ∧
      s' = { s with deletions := destroy s.deletions s.current, caller := .idle }
  | .begin ends =>
      (s.callback = .idle ∧ 0 < s.held ∧ (s.enabled = true ∨ s.caller = .disabling)) ∧
        s' = match s.userdata with
          | none => { s with held := s.held - 1, callback := .releasing none }
          | some u => { s.use u with held := s.held - 1, callback := .storing u ends }
  | .store => ∃ u ends, s.callback = .storing u ends ∧
      s' = { s.use u with callback := if ends then .posting u else .releasing (some u) }
  | .post => ∃ u, s.callback = .posting u ∧ s' = { s.use u with
      misused := (s.use u).misused || !s.semaphoreThere u
      posts := s.posts + 1
      callback := .releasing (some u) }
  | .recycle ok => ∃ u, s.callback = .releasing u ∧
      (s.enabled = true ∧ s' = { s with
          misused := s.misused || match u with
            | none => true
            | some u => s.deletions[u]? != some 0
          held := if ok then s.held + 1 else s.held
          lost := if ok then s.lost else s.lost + 1
          callback := .idle } ∨
        s.enabled = false ∧ s' = { s with queued := s.queued + 1, callback := .idle })

/-- What a step needs and does, when it comes up. -/
theorem captureStep_some {s s' : Capturing} {l : CaptureOp} (h : captureStep s l = some s') :
    l.Does s s' := by
  cases l with
  | send ok =>
      simp only [captureStep] at h
      split at h
      · rename_i left hleft
        refine ⟨left, hleft, ?_⟩
        rw [Option.some.injEq] at h
        by_cases hq : s.queued = 0
        · rw [if_pos hq] at h
          exact Or.inl ⟨hq, h.symm⟩
        · rw [if_neg hq] at h
          refine Or.inr ⟨Nat.pos_of_ne_zero hq, ?_⟩
          cases ok with
          | true => exact h.symm
          | false => exact h.symm
      · exact nomatch h
  | store =>
      simp only [captureStep] at h
      split at h
      · exact ⟨_, _, ‹_›, (Option.some.inj h).symm⟩
      · exact nomatch h
  | post =>
      simp only [captureStep] at h
      split at h
      · exact ⟨_, ‹_›, (Option.some.inj h).symm⟩
      · exact nomatch h
  | recycle ok =>
      simp only [captureStep] at h
      split at h
      · refine ⟨_, ‹_›, ?_⟩
        rw [Option.some.injEq] at h
        by_cases he : s.enabled = true
        · rw [if_pos he] at h
          exact Or.inl ⟨he, h.symm⟩
        · rw [if_neg he] at h
          exact Or.inr ⟨Bool.not_eq_true _ ▸ he, h.symm⟩
      · exact nomatch h
  | enable ok =>
      rcases Option.ite_none_right_eq_some.mp h with ⟨hcaller, h⟩
      refine ⟨hcaller, ?_⟩
      rw [Option.some.injEq] at h
      by_cases hok : s.enabled = true ∨ ok = false
      · rw [if_pos hok] at h
        exact Or.inl ⟨hok, h.symm⟩
      · rw [if_neg hok] at h
        rw [not_or, Bool.not_eq_true, Bool.not_eq_false] at hok
        exact Or.inr ⟨hok, h.symm⟩
  | disable =>
      rcases Option.ite_none_right_eq_some.mp h with ⟨hcaller, h⟩
      refine ⟨hcaller, ?_⟩
      rw [Option.some.injEq] at h
      by_cases he : s.enabled = true
      · rw [if_pos he] at h
        exact Or.inl ⟨he, h.symm⟩
      · rw [if_neg he] at h
        exact Or.inr ⟨Bool.not_eq_true _ ▸ he, h.symm⟩
  | disabled ok =>
      rcases Option.ite_none_right_eq_some.mp h with ⟨hcaller, h⟩
      refine ⟨hcaller, ?_⟩
      cases ok with
      | true =>
          rcases Option.ite_none_right_eq_some.mp h with ⟨hback, h⟩
          exact Or.inl ⟨rfl, hback, (Option.some.inj h).symm⟩
      | false => exact Or.inr ⟨rfl, (Option.some.inj h).symm⟩
  | call =>
      rcases Option.ite_none_right_eq_some.mp h with ⟨hcaller, h⟩
      exact ⟨hcaller, (Option.some.inj h).symm⟩
  | capture ok =>
      rcases Option.ite_none_right_eq_some.mp h with ⟨hcaller, h⟩
      exact ⟨hcaller, (Option.some.inj h).symm⟩
  | giveUp =>
      rcases Option.ite_none_right_eq_some.mp h with ⟨hcaller, h⟩
      exact ⟨hcaller, (Option.some.inj h).symm⟩
  | wake =>
      rcases Option.ite_none_right_eq_some.mp h with ⟨hcaller, h⟩
      exact ⟨hcaller, (Option.some.inj h).symm⟩
  | destroySemaphore =>
      rcases Option.ite_none_right_eq_some.mp h with ⟨hcaller, h⟩
      exact ⟨hcaller, (Option.some.inj h).symm⟩
  | finish =>
      rcases Option.ite_none_right_eq_some.mp h with ⟨hcaller, h⟩
      exact ⟨hcaller, (Option.some.inj h).symm⟩
  | begin ends =>
      rcases Option.ite_none_right_eq_some.mp h with ⟨hcallback, h⟩
      exact ⟨hcallback, (Option.some.inj h).symm⟩

theorem standing_init (n : Nat) : Standing n (.init n) where
  lengths := rfl
  busy := nofun
  disabling := nofun
  called h := absurd rfl h
  userdata h := absurd rfl h
  left := nofun
  back _ _ := ⟨rfl, rfl⟩
  count := rfl

/-- A header that is sent leaves the queue, and is held by the port or lost. -/
theorem Standing.sends {n : Nat} {s : Capturing} (hs : Standing n s) {left : Nat}
    (hcaller : s.caller = .sending (left + 1)) (hq : 0 < s.queued) (ok : Bool) :
    Standing n { s with
      queued := s.queued - 1
      held := if ok then s.held + 1 else s.held
      lost := if ok then s.lost else s.lost + 1
      caller := .sending left } := by
  have hleft := hs.left (left + 1) hcaller
  have henabled : s.enabled = true := hs.busy (by rw [hcaller]; rfl)
  exact { hs with
    busy := fun _ => henabled
    disabling := nofun
    called := fun _ => hs.called (fun hd => nomatch hcaller.symm.trans hd)
    left := fun k hk => by
      have hk : left = k := Caller.sending.inj hk
      change k ≤ s.queued - 1
      omega
    back := fun he => absurd (he.symm.trans henabled) Bool.false_ne_true
    count := by
      have hcount := hs.count
      cases ok with
      | true =>
          change s.queued - 1 + (s.held + 1) + s.lost + s.callback.headers = n
          omega
      | false =>
          change s.queued - 1 + s.held + (s.lost + 1) + s.callback.headers = n
          omega }

/-- A header that the port gives to the callback is in its hands. -/
theorem Standing.begins {n : Nat} {s : Capturing} (hs : Standing n s)
    (hidle : s.callback = .idle) (hheld : 0 < s.held)
    (hport : s.enabled = true ∨ s.caller = .disabling) (ends : Bool) :
    Standing n (match s.userdata with
      | none => { s with held := s.held - 1, callback := .releasing none }
      | some u => { s.use u with held := s.held - 1, callback := .storing u ends }) := by
  have hcount := hs.count
  rw [hidle] at hcount
  -- So the clause `back` says nothing about the state after this step.
  have hback : ¬ (s.enabled = false ∧ s.caller ≠ .disabling) := by
    rintro ⟨he, hd⟩
    rcases hport with ht | ht
    · exact absurd (he.symm.trans ht) Bool.false_ne_true
    · exact hd ht
  have hmoved : s.queued + (s.held - 1) + s.lost + 1 = n := by
    change s.queued + s.held + s.lost + 0 = n at hcount
    omega
  cases hu : s.userdata with
  | none =>
      exact { hs with
        userdata := fun hd => hu.symm.trans (hs.userdata hd)
        back := fun he hd => absurd ⟨he, hd⟩ hback
        count := hmoved }
  | some u =>
      exact { hs with
        back := fun he hd => absurd ⟨he, hd⟩ hback
        count := hmoved }

/-- The callback's header takes the place of the one it sends: either the port
    holds it now, or it is lost. -/
theorem Standing.resends {n : Nat} {s : Capturing} (hs : Standing n s) {u : Option Nat}
    (hreleasing : s.callback = .releasing u) (he : s.enabled = true) (misused ok : Bool) :
    Standing n { s with
      misused := misused
      held := if ok then s.held + 1 else s.held
      lost := if ok then s.lost else s.lost + 1
      callback := .idle } := by
  have hcount := hs.count
  rw [hreleasing] at hcount
  change s.queued + s.held + s.lost + 1 = n at hcount
  exact { hs with
    back := fun hf => absurd (hf.symm.trans he) Bool.false_ne_true
    count := by
      cases ok with
      | true =>
          change s.queued + (s.held + 1) + s.lost + 0 = n
          omega
      | false =>
          change s.queued + s.held + (s.lost + 1) + 0 = n
          omega }

/-- The callback's header goes back to the pool. -/
theorem Standing.returns {n : Nat} {s : Capturing} (hs : Standing n s) {u : Option Nat}
    (hreleasing : s.callback = .releasing u) :
    Standing n { s with queued := s.queued + 1, callback := .idle } := by
  have hcount := hs.count
  rw [hreleasing] at hcount
  change s.queued + s.held + s.lost + 1 = n at hcount
  exact { hs with
    left := fun k hk => Nat.le_succ_of_le (hs.left k hk)
    back := fun hf hd => nomatch hreleasing.symm.trans (hs.back hf hd).2
    count := by
      change s.queued + 1 + s.held + s.lost + 0 = n
      omega }

/-- A call that ends deletes its user data. -/
theorem Standing.ends {n : Nat} {s : Capturing} (hs : Standing n s)
    (hcaller : s.caller ≠ .disabling) :
    Standing n { s with deletions := destroy s.deletions s.current, caller := .idle } :=
  { hs with
    lengths := hs.lengths.trans (length_destroy _ _).symm
    busy := nofun
    disabling := nofun
    called := fun hd => absurd rfl hd
    userdata := fun hd => (hs.userdata (fun hn => hd (destroy_eq_nil.mpr hn))).trans
      (congrArg (fun k => some (k - 1)) (length_destroy _ _).symm)
    left := nofun
    back := fun he _ => hs.back he hcaller }

/-- No step changes where the headers and the user data of the port are in
    another way than `Standing` says. -/
theorem standing_step {n : Nat} {s s' : Capturing} {l : CaptureOp} (hs : Standing n s)
    (h : captureStep s l = some s') : Standing n s' := by
  have hdoes := captureStep_some h
  -- Each case names the clauses its step touches. A step of `takePicture`
  -- moves the caller, and with it `busy`, `disabling`, `called`, `left` and
  -- `back`; a step of the callback moves only `back` and `count`.
  cases l with
  | call =>
      rcases hdoes with ⟨hcaller, rfl⟩
      exact {
        lengths := by
          change (create s.destructions).length = (create s.deletions).length
          rw [length_create, length_create, hs.lengths]
        busy := nofun
        disabling := nofun
        called := fun _ => List.append_ne_nil_of_right_ne_nil _ (List.cons_ne_nil _ _)
        userdata := fun _ => by
          change some s.deletions.length = some ((create s.deletions).length - 1)
          rw [length_create, Nat.add_sub_cancel]
        left := nofun
        back := fun he _ => hs.back he (fun hd => nomatch hcaller.symm.trans hd)
        count := hs.count }
  | enable ok =>
      rcases hdoes with ⟨hcaller, ⟨hok, rfl⟩ | ⟨hok, rfl⟩⟩
      · exact { hs with
          busy := nofun
          disabling := nofun
          called := fun _ => hs.called (fun hd => nomatch hcaller.symm.trans hd)
          left := nofun
          back := fun he _ => hs.back he (fun hd => nomatch hcaller.symm.trans hd) }
      · exact { hs with
          busy := fun _ => rfl
          disabling := nofun
          called := fun _ => hs.called (fun hd => nomatch hcaller.symm.trans hd)
          left := fun k hk => Nat.le_of_eq (Caller.sending.inj hk).symm
          back := nofun }
  | send ok =>
      rcases hdoes with ⟨left, hcaller, ⟨hq, rfl⟩ | ⟨hq, rfl⟩⟩
      · -- The queue is never empty here: only the loop shortens it, and it was
        -- as long as the loop when the loop began.
        have hleft := hs.left (left + 1) hcaller
        omega
      · exact hs.sends hcaller hq ok
  | capture ok =>
      rcases hdoes with ⟨hcaller, rfl⟩
      have henabled : s.enabled = true := hs.busy (by rw [hcaller]; rfl)
      exact { hs with
        busy := fun _ => henabled
        disabling := fun hd => by cases ok <;> exact nomatch hd
        called := fun _ => hs.called (fun hd => nomatch hcaller.symm.trans hd)
        left := fun k hk => by cases ok <;> exact nomatch hk
        back := fun he => absurd (he.symm.trans henabled) Bool.false_ne_true }
  | giveUp =>
      rcases hdoes with ⟨hcaller, rfl⟩
      exact hs.ends (fun hd => nomatch hcaller.symm.trans hd)
  | wake =>
      rcases hdoes with ⟨⟨hcaller, hposts⟩, rfl⟩
      have henabled : s.enabled = true := hs.busy (by rw [hcaller]; rfl)
      exact { hs with
        busy := fun _ => henabled
        disabling := nofun
        called := fun _ => hs.called (fun hd => nomatch hcaller.symm.trans hd)
        left := nofun
        back := fun he => absurd (he.symm.trans henabled) Bool.false_ne_true }
  | destroySemaphore =>
      rcases hdoes with ⟨hcaller, rfl⟩
      have henabled : s.enabled = true := hs.busy (by rw [hcaller]; rfl)
      exact { hs with
        lengths := (length_destroy _ _).trans hs.lengths
        busy := fun _ => henabled
        disabling := nofun
        called := fun _ => hs.called (fun hd => nomatch hcaller.symm.trans hd)
        left := nofun
        back := fun he => absurd (he.symm.trans henabled) Bool.false_ne_true }
  | disable =>
      rcases hdoes with ⟨hcaller, ⟨he, rfl⟩ | ⟨he, rfl⟩⟩
      · exact { hs with
          busy := nofun
          disabling := fun _ => rfl
          called := fun _ => hs.called (fun hd => nomatch hcaller.symm.trans hd)
          left := nofun
          back := fun _ hd => absurd rfl hd }
      · exact absurd (he.symm.trans (hs.busy (by rw [hcaller]; rfl))) Bool.false_ne_true
  | disabled ok =>
      rcases hdoes with ⟨hcaller, ⟨rfl, hback, rfl⟩ | ⟨rfl, rfl⟩⟩
      · exact { hs with
          busy := nofun
          disabling := nofun
          called := fun _ => hs.called (fun hd => nomatch hcaller.symm.trans hd)
          left := nofun
          back := fun _ _ => hback }
      · -- The port is enabled again, and `stopCapture` has deleted what its
        -- pointer leads to.
        have hcalled := hs.called (fun hd => nomatch hcaller.symm.trans hd)
        rw [hs.userdata hcalled]
        exact { hs with
          lengths := hs.lengths.trans (length_destroy _ _).symm
          busy := nofun
          disabling := nofun
          called := fun _ hd => hcalled (destroy_eq_nil.mp hd)
          userdata := fun _ => congrArg (fun k => some (k - 1)) (length_destroy _ _).symm
          left := nofun
          back := nofun }
  | finish =>
      rcases hdoes with ⟨hcaller, rfl⟩
      exact hs.ends (fun hd => nomatch hcaller.symm.trans hd)
  | begin ends =>
      rcases hdoes with ⟨⟨hidle, hheld, hport⟩, rfl⟩
      exact hs.begins hidle hheld hport ends
  | store =>
      rcases hdoes with ⟨u, ends, hstoring, rfl⟩
      have hcount := hs.count
      rw [hstoring] at hcount
      exact { hs with
        back := fun he hd => nomatch hstoring.symm.trans (hs.back he hd).2
        count := by cases ends <;> exact hcount }
  | post =>
      rcases hdoes with ⟨u, hposting, rfl⟩
      have hcount := hs.count
      rw [hposting] at hcount
      exact { hs with
        back := fun he hd => nomatch hposting.symm.trans (hs.back he hd).2
        count := hcount }
  | recycle ok =>
      rcases hdoes with ⟨u, hreleasing, ⟨he, rfl⟩ | ⟨he, rfl⟩⟩
      · exact hs.resends hreleasing he _ ok
      · exact hs.returns hreleasing

theorem orderly_init (n : Nat) : Orderly (.init n) where
  quiet _ := rfl
  callback := nofun

theorem sound_init (n : Nat) : Sound (.init n) where
  misused := rfl
  finished _ := allOnce_nil
  running h := absurd rfl h
  semaphores := allOnce_nil

/-- A callback runs only during a call. -/
theorem Orderly.running {n : Nat} {s : Capturing} (ho : Orderly s) (hst : Standing n s)
    (h : s.callback ≠ .idle) : s.caller ≠ .idle := by
  intro hidle
  have hquiet : s.enabled = false := ho.quiet (by rw [hidle]; rfl)
  exact h (hst.back hquiet (fun hd => nomatch hidle.symm.trans hd)).2

/-- What the callback follows is there. -/
theorem Sound.use {s : Capturing} (hs : Sound s) (h : s.caller ≠ .idle) :
    s.use s.current = s := by
  have hthere : s.deletions[s.current]? = some 0 := onlyLast_getElem (hs.running h)
  unfold Capturing.use
  rw [hthere, bne_self_eq_false, Bool.or_false]

/-- A semaphore is there exactly before its call destroys it. -/
theorem Sound.semaphoreThere {s : Capturing} (hs : Sound s) :
    s.semaphoreThere s.current = s.caller.holdsSemaphore := by
  have hsem := hs.semaphores
  unfold Capturing.semaphoreThere
  cases hhold : s.caller.holdsSemaphore with
  | true =>
      rw [hhold] at hsem
      have hcaller : s.caller ≠ .idle := fun hd => by rw [hd] at hhold; exact nomatch hhold
      rw [onlyLast_getElem hsem, bne_iff_ne.mpr hcaller, beq_self_eq_true, beq_self_eq_true]
      rfl
  | false =>
      rw [hhold] at hsem
      have hgone : s.destructions[s.current]? ≠ some 0 := fun hz =>
        absurd (hsem 0 (List.mem_of_getElem? hz)) (by decide)
      rw [beq_eq_false_iff_ne.mpr hgone, Bool.and_false]

/-- A step that destroys nothing and does not lead past the destruction of
    anything keeps the books in order. -/
theorem Sound.step {s s' : Capturing} (hs : Sound s) (hrunning : s.caller ≠ .idle)
    (hrunning' : s'.caller ≠ .idle) (hmisused : s'.misused = false)
    (hdeletions : s'.deletions = s.deletions) (hdestructions : s'.destructions = s.destructions)
    (hholds : s'.caller.holdsSemaphore = s.caller.holdsSemaphore) : Sound s' where
  misused := hmisused
  finished h := absurd h hrunning'
  running _ := by
    unfold Capturing.current
    rw [hdeletions]
    exact hs.running hrunning
  semaphores := by
    unfold Capturing.current
    rw [hdeletions, hdestructions, hholds]
    exact hs.semaphores

/-- A step after which the books are in order was careful. -/
theorem careful_of_sound {n : Nat} {s s' : Capturing} {l : CaptureOp} (hst : Standing n s)
    (ho : Orderly s) (hs : Sound s) (h : captureStep s l = some s') (hs' : Sound s') :
    l.Careful s := by
  have hdoes := captureStep_some h
  -- Only three steps can go wrong, and each leaves another mark.
  cases l with
  | giveUp =>
      -- The semaphore of the call is still there, but nobody waits for it.
      rcases hdoes with ⟨hcaller, rfl⟩
      have hsem := hs.semaphores
      rw [hcaller] at hsem
      rcases hsem with ⟨front, hfront, -, -⟩
      have hgone : AllOnce s.destructions := hs'.semaphores
      rw [hfront] at hgone
      exact not_allOnce_create front hgone
  | disabled ok =>
      rcases hdoes with ⟨hcaller, ⟨hok, -, -⟩ | ⟨hok, rfl⟩⟩
      · exact hok
      · -- The user data is gone while its call has yet to delete it.
        have hrunning : s.caller ≠ .idle := fun hd => nomatch hcaller.symm.trans hd
        have honly := hs'.running (fun hd => nomatch hd)
        rw [hst.userdata (hst.called hrunning)] at honly
        rcases honly with ⟨front, hfront, -, -⟩
        have hgone : AllOnce (destroy s.deletions s.current) :=
          allOnce_destroy (hs.running hrunning)
        exact absurd (hfront ▸ hgone) (not_allOnce_create front)
  | post =>
      rcases hdoes with ⟨u, hposting, rfl⟩
      have hu : some u = some s.current := ho.callback (some u) (by rw [hposting]; rfl)
      rw [Option.some.injEq] at hu
      subst hu
      -- A post of a semaphore that is no more is recorded as a misuse.
      have hposted := hs'.misused
      change ((s.use s.current).misused || !s.semaphoreThere s.current) = false at hposted
      rw [hs.semaphoreThere, Bool.or_eq_false_iff, Bool.not_eq_false'] at hposted
      exact hposted.2
  | _ => trivial

/-- A careful step keeps the books in order. -/
theorem sound_of_careful {n : Nat} {s s' : Capturing} {l : CaptureOp} (hst : Standing n s)
    (ho : Orderly s) (hs : Sound s) (h : captureStep s l = some s') (hc : l.Careful s) :
    Orderly s' ∧ Sound s' := by
  have hdoes := captureStep_some h
  cases l with
  | call =>
      rcases hdoes with ⟨hcaller, rfl⟩
      have hquiet : s.enabled = false := ho.quiet (by rw [hcaller]; rfl)
      have hback := hst.back hquiet (fun hd => nomatch hcaller.symm.trans hd)
      have hsem := hs.semaphores
      rw [hcaller] at hsem
      -- The new user data and the new semaphore are the last ones of their
      -- ledgers, which are equally long.
      have hcurrent : (create s.deletions).length - 1 = s.deletions.length := by
        rw [length_create, Nat.add_sub_cancel]
      refine ⟨⟨fun _ => hquiet, fun u hu => ?_⟩, ⟨hs.misused, nofun, fun _ => ?_, ?_⟩⟩
      · change s.callback.user = some u at hu
        rw [hback.2] at hu
        exact nomatch hu
      · exact hcurrent.symm ▸ onlyLast_create (hs.finished hcaller)
      · change OnlyLast (create s.destructions) ((create s.deletions).length - 1)
        rw [hcurrent, ← hst.lengths]
        exact onlyLast_create hsem
  | enable ok =>
      rcases hdoes with ⟨hcaller, ⟨hok, rfl⟩ | ⟨hok, rfl⟩⟩
      · exact ⟨{ ho with quiet := nofun }, hs.step (fun hd => nomatch hcaller.symm.trans hd) nofun
          hs.misused rfl rfl (by rw [hcaller]; rfl)⟩
      · exact ⟨{ ho with quiet := nofun }, hs.step (fun hd => nomatch hcaller.symm.trans hd) nofun
          hs.misused rfl rfl (by rw [hcaller]; rfl)⟩
  | send ok =>
      rcases hdoes with ⟨left, hcaller, ⟨hq, rfl⟩ | ⟨hq, rfl⟩⟩
      · have hleft := hst.left (left + 1) hcaller
        omega
      · exact ⟨{ ho with quiet := nofun }, hs.step (fun hd => nomatch hcaller.symm.trans hd) nofun
          hs.misused rfl rfl (by rw [hcaller]; rfl)⟩
  | capture ok =>
      rcases hdoes with ⟨hcaller, rfl⟩
      refine ⟨{ ho with quiet := fun hq => ?_ },
        hs.step (fun hd => nomatch hcaller.symm.trans hd) (fun hd => ?_) hs.misused rfl rfl ?_⟩
      · cases ok <;> exact nomatch hq
      · cases ok <;> exact nomatch hd
      · rw [hcaller]
        cases ok <;> rfl
  | giveUp => exact hc.elim
  | wake =>
      rcases hdoes with ⟨⟨hcaller, hposts⟩, rfl⟩
      exact ⟨{ ho with quiet := nofun }, hs.step (fun hd => nomatch hcaller.symm.trans hd) nofun
        hs.misused rfl rfl (by rw [hcaller]; rfl)⟩
  | destroySemaphore =>
      rcases hdoes with ⟨hcaller, rfl⟩
      have hsem := hs.semaphores
      rw [hcaller] at hsem
      exact ⟨{ ho with quiet := nofun }, {
        misused := hs.misused
        finished := nofun
        running := fun _ => hs.running (fun hd => nomatch hcaller.symm.trans hd)
        semaphores := allOnce_destroy hsem }⟩
  | disable =>
      rcases hdoes with ⟨hcaller, ⟨he, rfl⟩ | ⟨he, rfl⟩⟩
      · exact ⟨{ ho with quiet := nofun }, hs.step (fun hd => nomatch hcaller.symm.trans hd) nofun
          hs.misused rfl rfl (by rw [hcaller]; rfl)⟩
      · exact absurd (he.symm.trans (hst.busy (by rw [hcaller]; rfl))) Bool.false_ne_true
  | disabled ok =>
      rcases hdoes with ⟨hcaller, ⟨hok, -, rfl⟩ | ⟨hok, rfl⟩⟩
      · exact ⟨{ ho with quiet := fun _ => hst.disabling hcaller },
          hs.step (fun hd => nomatch hcaller.symm.trans hd) nofun
          hs.misused rfl rfl (by rw [hcaller]; rfl)⟩
      · exact nomatch hc.symm.trans hok
  | finish =>
      rcases hdoes with ⟨hcaller, rfl⟩
      have hsem := hs.semaphores
      rw [hcaller] at hsem
      have hquiet : s.enabled = false := ho.quiet (by rw [hcaller]; rfl)
      have hback := hst.back hquiet (fun hd => nomatch hcaller.symm.trans hd)
      refine ⟨⟨fun _ => hquiet, fun u hu => ?_⟩,
        ⟨hs.misused, fun _ => ?_, fun hd => absurd rfl hd, hsem⟩⟩
      · change s.callback.user = some u at hu
        rw [hback.2] at hu
        exact nomatch hu
      · exact allOnce_destroy (hs.running (fun hd => nomatch hcaller.symm.trans hd))
  | begin ends =>
      rcases hdoes with ⟨⟨hidle, hheld, hport⟩, rfl⟩
      -- Between two calls the port is disabled, so that the callback finds the
      -- user data of the call that runs.
      have hrunning : s.caller ≠ .idle := by
        intro hd
        rcases hport with he | he
        · exact absurd ((ho.quiet (by rw [hd]; rfl)).symm.trans he) Bool.false_ne_true
        · exact nomatch hd.symm.trans he
      rw [hst.userdata (hst.called hrunning)]
      refine ⟨{ ho with callback := fun u hu => (Option.some.inj hu).symm },
        hs.step hrunning hrunning ?_ rfl rfl rfl⟩
      exact (congrArg Capturing.misused (hs.use hrunning)).trans hs.misused
  | store =>
      rcases hdoes with ⟨u, ends, hstoring, rfl⟩
      have hu : some u = some s.current := ho.callback (some u) (by rw [hstoring]; rfl)
      rw [Option.some.injEq] at hu
      subst hu
      have hrunning := ho.running hst (fun hd => nomatch hstoring.symm.trans hd)
      refine ⟨{ ho with callback := fun u hu => ?_ }, hs.step hrunning hrunning ?_ rfl rfl rfl⟩
      · cases ends <;> exact (Option.some.inj hu).symm
      · exact (congrArg Capturing.misused (hs.use hrunning)).trans hs.misused
  | post =>
      rcases hdoes with ⟨u, hposting, rfl⟩
      have hu : some u = some s.current := ho.callback (some u) (by rw [hposting]; rfl)
      rw [Option.some.injEq] at hu
      subst hu
      have hrunning := ho.running hst (fun hd => nomatch hposting.symm.trans hd)
      refine ⟨{ ho with callback := fun u hu => (Option.some.inj hu).symm },
        hs.step hrunning hrunning ?_ rfl rfl rfl⟩
      change ((s.use s.current).misused || !s.semaphoreThere s.current) = false
      rw [hs.use hrunning, hs.misused, hs.semaphoreThere, show _ = true from hc]
      rfl
  | recycle ok =>
      rcases hdoes with ⟨u, hreleasing, ⟨he, rfl⟩ | ⟨he, rfl⟩⟩
      · have hu : u = some s.current := ho.callback u (by rw [hreleasing]; rfl)
        subst hu
        have hrunning := ho.running hst (fun hd => nomatch hreleasing.symm.trans hd)
        refine ⟨{ ho with callback := nofun }, hs.step hrunning hrunning ?_ rfl rfl rfl⟩
        exact (congrArg Capturing.misused (hs.use hrunning)).trans hs.misused
      · have hrunning := ho.running hst (fun hd => nomatch hreleasing.symm.trans hd)
        exact ⟨{ ho with callback := nofun }, hs.step hrunning hrunning hs.misused rfl rfl rfl⟩

/-- What keeps the books in order, for one step. -/
theorem sound_step {n : Nat} (s : Capturing) (l : CaptureOp) (s' : Capturing)
    (hs : (Standing n s ∧ Orderly s) ∧ Sound s) (h : captureStep s l = some s') :
    ((Standing n s' ∧ Orderly s') ∧ Sound s') ↔ l.Careful s := by
  rcases hs with ⟨⟨hst, ho⟩, hs⟩
  constructor
  · exact fun hs' => careful_of_sound hst ho hs h hs'.2
  · intro hc
    rcases sound_of_careful hst ho hs h hc with ⟨ho', hs'⟩
    exact ⟨⟨standing_step hst h, ho'⟩, hs'⟩

/-- Every user data is deleted once, every semaphore is destroyed once and
    nothing is used after that, exactly in the runs in which every capture
    starts, every port can be disabled, and no callback posts a semaphore that
    was destroyed. -/
theorem lifetime_iff {n : Nat} {ls : List CaptureOp} :
    Always captureStep Sound (.init n) ls ↔
      Along captureStep (fun s l => l.Careful s) (.init n) ls := by
  have hinit : Standing n (.init n) ∧ Orderly (.init n) := ⟨standing_init n, orderly_init n⟩
  -- `Orderly` is lost with `Sound`, but not before: a capture that gives up may
  -- leave the port enabled.
  have hkeep : ∀ s l s', (Standing n s ∧ Orderly s) → Sound s → captureStep s l = some s' →
      Sound s' → Standing n s' ∧ Orderly s' := by
    rintro s l s' ⟨hst, ho⟩ hs h hs'
    exact ⟨standing_step hst h, (sound_of_careful hst ho hs h (careful_of_sound hst ho hs h hs')).1⟩
  rw [always_strengthen hkeep hinit]
  exact always_iff_along sound_step ⟨hinit, sound_init n⟩

/-- The capture cannot be started, and the encoder fills a header that was
    sent before: the callback follows a pointer to deleted user data. -/
theorem deleted_data_used : ¬ Always captureStep Sound (.init 1)
    [.call, .enable true, .send true, .capture false, .giveUp, .begin true] := by
  intro h
  have hrun : run captureStep (.init 1)
    [.call, .enable true, .send true, .capture false, .giveUp, .begin true] = some _ := rfl
  exact nomatch (always_last h hrun).misused

end Still

end RaspiCam
