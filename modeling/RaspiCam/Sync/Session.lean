import RaspiCam.Sync.Grab
import RaspiCam.Video.Ledger

/-!
# Sessions

The clients and the callbacks of `Sync.Grab` around a camera that is opened
and released. A client looks whether the camera is capturing before it asks
for a frame, without the mutex, and between the look and the request anything
can happen. The calls that open the camera, start to capture and release it
are made by clients, too. They are not meant for several threads at once, so
one is made at a time, but what other clients do goes on.

`release` is two steps. First the port is told to stop; from then on the
buffers it holds come back, and the callback still runs. The call goes on when
all of them have, whether or not disabling the port succeeded, since the
component is destroyed next. `open` is the creation of the camera; when it is
to start capturing at once that is a call of `startCapture`. A `startCapture`
that is refused releases the camera.

With one client and no user's callback, a frame that was grabbed stays in the
buffer until the client grabs again (`frame_stable`), although `retrieve` and
`getImageBufferData` take no mutex.

## Main definitions

* `Session`: The clients, the callback and the camera.
* `SessionOp`, `sessionStep`: The calls and the steps, in any order.
* `grabOps`: The steps among them that `Sync.Grab` knows.
* `FirstFrame`: The first frame that is not empty.
* `Progress`: How far the frame that a call asked for has come.
* `Kept`: A frame that was grabbed is still there.

## Theorems

* `sessionStep_some`: What a step needs and does.
* `session_run`: A session is a run of `Sync.Grab`.
* `progress_step`, `kept_step`: What a step keeps.
* `grab_first`: A call returns with the first frame that is not empty.
* `frame_stable`: The frame is there until the next call.
* `startCapture_session`, `release_session`, `openCamera_session`: The calls
  do what the implementation does.
-/

namespace RaspiCam

open Bytes Monitors Transition Mmal

namespace Sync

open Video

variable {ι : Type*}

/-- The clients and the callback, and whether the camera is open and capturing.
    `passed` tells which clients have found the camera capturing and are about
    to ask for a frame, and `releasing` who is waiting for the port to stop. -/
structure Session (ι : Type*) where
  grabbing : Grabbing ι
  isOpened : Bool
  isCapturing : Bool
  passed : ι → Bool
  releasing : Option ι

/-- The calls, and the steps of `Sync.Grab`. -/
inductive SessionOp (ι : Type*)
  | openCamera (i : ι) (ok : Bool)
  | startCapture (i : ι) (ok : Bool)
  | release (i : ι)
  | released (i : ι)
  | grab (i : ι)
  | retrieve (i : ι)
  | thread (o : GrabOp ι)

namespace Session

/-- Nothing was called yet. -/
def init : Session ι where
  grabbing := .init PrivateImpl.init.callbackData
  isOpened := false
  isCapturing := false
  passed := fun _ => false
  releasing := none

/-- What `retrieve` and `getImageBufferData` read. -/
def reads (s : Session ι) : Membuf := s.grabbing.data.buffData

variable [DecidableEq ι]

/-- The client is in no call. -/
def Free (s : Session ι) (i : ι) : Prop :=
  s.grabbing.client i = .idle ∧ s.passed i = false ∧ s.releasing ≠ some i

instance (s : Session ι) (i : ι) : Decidable (s.Free i) := inferInstanceAs (Decidable (_ ∧ _))

/-- The client is in no call and may open or release the camera. -/
def MayControl (s : Session ι) (i : ι) : Prop := s.Free i ∧ s.releasing = none

instance (s : Session ι) (i : ι) : Decidable (s.MayControl i) :=
  inferInstanceAs (Decidable (_ ∧ _))

end Session

variable [DecidableEq ι]

/-- Where the camera stands when a step of `Sync.Grab` is taken: a client asks
    for a frame after it found the camera capturing, and frames arrive while
    the camera is open. -/
def GrabOp.allowed (s : Session ι) : GrabOp ι → Bool
  | .request i => s.passed i
  | .arrive _ => s.isOpened
  | _ => true

/-- Who passes the look at `isCapturing`. -/
def GrabOp.passes (passed : ι → Bool) : GrabOp ι → ι → Bool
  | .request i => Function.update passed i false
  | _ => passed

/-- The system. -/
def sessionStep (s : Session ι) : SessionOp ι → Option (Session ι)
  -- `open`, up to the call of `startCapture`.
  | .openCamera i ok =>
    if s.MayControl i then
      some (if s.isOpened = false ∧ ok = true then { s with isOpened := true } else s)
    else none
  | .startCapture i ok =>
    if s.MayControl i then
      some (if s.isOpened then
        if ok then { s with isCapturing := true } else { s with releasing := some i }
      else s)
    else none
  -- `release`, up to the wait for the buffers.
  | .release i =>
    if s.MayControl i then some (if s.isOpened then { s with releasing := some i } else s)
    else none
  | .released i =>
    match s.grabbing.callback with
    | .idle => if s.releasing = some i then
        some { s with isOpened := false, isCapturing := false, releasing := none }
      else none
    | _ => none
  -- `grab`, up to the request.
  | .grab i =>
    if s.Free i then
      some (if s.isCapturing then { s with passed := Function.update s.passed i true } else s)
    else none
  | .retrieve i => if s.Free i then some s else none
  | .thread o =>
    if o.allowed s then
      (grabStep s.grabbing o).map fun g => { s with grabbing := g, passed := o.passes s.passed }
    else none

/-- The step as a step of `Sync.Grab`. -/
def SessionOp.grabOp? : SessionOp ι → Option (GrabOp ι)
  | .thread o => some o
  | _ => none

/-- The steps of `Sync.Grab` in a session. -/
def grabOps (ls : List (SessionOp ι)) : List (GrabOp ι) := ls.filterMap SessionOp.grabOp?

/-- What a step finds and what it leaves. -/
def SessionOp.Does (s s' : Session ι) : SessionOp ι → Prop
  | .openCamera i ok => s.MayControl i ∧
      s' = if s.isOpened = false ∧ ok = true then { s with isOpened := true } else s
  | .startCapture i ok => s.MayControl i ∧ s' = if s.isOpened then
      if ok then { s with isCapturing := true } else { s with releasing := some i }
    else s
  | .release i => s.MayControl i ∧
      s' = if s.isOpened then { s with releasing := some i } else s
  | .released i => (s.grabbing.callback = .idle ∧ s.releasing = some i) ∧
      s' = { s with isOpened := false, isCapturing := false, releasing := none }
  | .grab i => s.Free i ∧
      s' = if s.isCapturing then { s with passed := Function.update s.passed i true } else s
  | .retrieve i => s.Free i ∧ s' = s
  | .thread o => o.allowed s = true ∧ ∃ g, grabStep s.grabbing o = some g ∧
      s' = { s with grabbing := g, passed := o.passes s.passed }

/-- What a step needs and does, when it comes up. -/
theorem sessionStep_some {s s' : Session ι} {l : SessionOp ι} (h : sessionStep s l = some s') :
    l.Does s s' := by
  cases l with
  | released i =>
      simp only [sessionStep] at h
      split at h
      · rcases Option.ite_none_right_eq_some.mp h with ⟨hreleasing, h⟩
        exact ⟨⟨‹_›, hreleasing⟩, (Option.some.inj h).symm⟩
      · exact absurd h (Option.some_ne_none s').symm
  | thread o =>
      rcases Option.ite_none_right_eq_some.mp h with ⟨hallowed, h⟩
      rcases Option.map_eq_some_iff.mp h with ⟨g, hg, hs'⟩
      exact ⟨hallowed, g, hg, hs'.symm⟩
  | openCamera i ok =>
      rcases Option.ite_none_right_eq_some.mp h with ⟨hfree, h⟩
      exact ⟨hfree, (Option.some.inj h).symm⟩
  | startCapture i ok =>
      rcases Option.ite_none_right_eq_some.mp h with ⟨hfree, h⟩
      exact ⟨hfree, (Option.some.inj h).symm⟩
  | release i =>
      rcases Option.ite_none_right_eq_some.mp h with ⟨hfree, h⟩
      exact ⟨hfree, (Option.some.inj h).symm⟩
  | grab i =>
      rcases Option.ite_none_right_eq_some.mp h with ⟨hfree, h⟩
      exact ⟨hfree, (Option.some.inj h).symm⟩
  | retrieve i =>
      rcases Option.ite_none_right_eq_some.mp h with ⟨hfree, h⟩
      exact ⟨hfree, (Option.some.inj h).symm⟩

theorem thread_some {s s' : Session ι} {o : GrabOp ι} (h : sessionStep s (.thread o) = some s') :
    o.allowed s = true ∧ ∃ g, grabStep s.grabbing o = some g ∧
      s' = { s with grabbing := g, passed := o.passes s.passed } := sessionStep_some h

/-- The calls leave the clients and the callback alone. -/
theorem sessionStep_grabbing {s s' : Session ι} {l : SessionOp ι} (hl : l.grabOp? = none)
    (h : sessionStep s l = some s') : s'.grabbing = s.grabbing := by
  have hdoes := sessionStep_some h
  cases l with
  | openCamera i ok =>
      rw [hdoes.2]
      split <;> rfl
  | startCapture i ok =>
      rw [hdoes.2]
      split
      · split <;> rfl
      · rfl
  | release i =>
      rw [hdoes.2]
      split <;> rfl
  | released i => rw [hdoes.2]
  | grab i =>
      rw [hdoes.2]
      split <;> rfl
  | retrieve i => rw [hdoes.2]
  | thread o => exact absurd hl (Option.some_ne_none o)

theorem session_step {s s' : Session ι} {l : SessionOp ι} (h : sessionStep s l = some s') :
    run grabStep s.grabbing (grabOps [l]) = some s'.grabbing := by
  cases hl : l.grabOp? with
  | none =>
      rw [grabOps, List.filterMap_cons_none hl, List.filterMap_nil, run_nil,
        sessionStep_grabbing hl h]
  | some o =>
      rw [grabOps, List.filterMap_cons_some hl, List.filterMap_nil, run_cons]
      cases l with
      | thread o' =>
          rw [← Option.some.inj hl]
          rcases thread_some h with ⟨_, g, hg, rfl⟩
          rw [hg, Option.bind_some, run_nil]
      | _ => exact nomatch hl

/-- What happens to the clients and the callback in a session is a run of
    `Sync.Grab`. -/
theorem session_run {s s' : Session ι} {ls : List (SessionOp ι)}
    (h : run sessionStep s ls = some s') :
    run grabStep s.grabbing (grabOps ls) = some s'.grabbing := by
  induction ls generalizing s with
  | nil => rw [Option.some.inj h, grabOps, List.filterMap_nil, run_nil]
  | cons l ls ih =>
      rcases run_cons_some h with ⟨m, hm, hrest⟩
      have happ : grabOps (l :: ls) = grabOps [l] ++ grabOps ls := by
        rw [grabOps, grabOps, grabOps, ← List.filterMap_append, List.singleton_append]
      rw [happ, run_append, session_step hm, Option.bind_some]
      exact ih hrest

/-- The first frame that is not empty. -/
def FirstFrame (ls : List (GrabOp ι)) (a : Arrival) : Prop :=
  ∃ before after, ls = before ++ .arrive a :: after ∧ a.buffer.length ≠ 0 ∧
    ∀ b, .arrive b ∈ before → b.buffer.length = 0

omit [DecidableEq ι] in
theorem FirstFrame.concat {ls : List (GrabOp ι)} {a : Arrival} (h : FirstFrame ls a)
    (l : GrabOp ι) : FirstFrame (ls ++ [l]) a := by
  rcases h with ⟨before, after, rfl, hrest⟩
  exact ⟨before, after ++ [l], by rw [List.append_assoc, List.cons_append], hrest⟩

/-- How far the frame that a waiting client asked for has come: it has not
    arrived, it is being stored, or it was stored and nothing can be stored
    over it. -/
inductive Progress (ls : List (GrabOp Unit)) (s : Grabbing Unit) : Prop
  | pending (hempty : ∀ b, .arrive b ∈ ls → b.buffer.length = 0)
      (hwant : s.data.wantToGrab = true)
      (hcallback : s.callback = .idle ∨ s.callback = .leaving)
      (hready : s.condition.ready = false)
  | storing (a : Arrival) (rest : List Copy) (old : Membuf) (hfirst : FirstFrame ls a)
      (hcallback : s.callback = .storing a rest)
      (hrest : a.store old
        = ⟨applyAll rest a.buffer.data s.data.buffData.data, s.data.buffData.size⟩)
      (hready : s.condition.ready = false)
  | stored (a : Arrival) (old : Membuf) (hfirst : FirstFrame ls a)
      (hbuff : s.data.buffData = a.store old) (hwant : s.data.wantToGrab = false)
      (hcallback : ∀ b rest, s.callback ≠ .storing b rest)

/-- A step that leaves the callback, the data and the flag alone. -/
theorem Progress.keep {ls : List (GrabOp Unit)} {s s' : Grabbing Unit} {l : GrabOp Unit}
    (h : Progress ls s) (hl : ∀ b, l ≠ .arrive b) (hcallback : s'.callback = s.callback)
    (hdata : s'.data = s.data) (hready : s'.condition.ready = s.condition.ready) :
    Progress (ls ++ [l]) s' := by
  cases h with
  | pending hempty hwant hc hr =>
      refine .pending (fun b hb => ?_) (hdata ▸ hwant) (hcallback ▸ hc) (hready.trans hr)
      rcases List.mem_append.mp hb with hb | hb
      · exact hempty b hb
      · exact absurd (List.mem_singleton.mp hb).symm (hl b)
  | storing a rest old hfirst hc hrest hr =>
      exact .storing a rest old (hfirst.concat l) (hcallback.trans hc) (hdata ▸ hrest)
        (hready.trans hr)
  | stored a old hfirst hbuff hwant hc =>
      exact .stored a old (hfirst.concat l) (hdata ▸ hbuff) (hdata ▸ hwant) (hcallback ▸ hc)

/-- Every step but the return of the call keeps track of its frame. -/
theorem progress_step {ls : List (GrabOp Unit)} {s s' : Grabbing Unit} {l : GrabOp Unit}
    (hwaiting : s.client () = .waiting) (huser : s.data.userCallback = false)
    (h : Progress ls s) (hl : l ≠ .leave ()) (hset : l ≠ .setUserCallback true)
    (hstep : grabStep s l = some s') : Progress (ls ++ [l]) s' := by
  have hdoes := grabStep_some hstep
  -- The frame comes further when it arrives, with every copy and when the
  -- copies are done. No other step changes how far it has come, and only the
  -- return of the call could make the client ask for another one.
  cases l with
  | request j => exact nomatch hwaiting.symm.trans hdoes.1
  | wait j => exact nomatch hwaiting.symm.trans hdoes.1
  | leave j => exact absurd rfl hl
  | spurious j =>
      rcases hdoes with ⟨c, hc, rfl⟩
      exact h.keep nofun rfl rfl (condStep_ready hc)
  | recheck j =>
      rcases hdoes with ⟨c, hc, rfl⟩
      exact h.keep nofun rfl rfl (condStep_ready hc)
  | controlEnter =>
      rcases hdoes with ⟨c, hc, rfl⟩
      exact h.keep nofun rfl rfl (condStep_ready hc)
  | controlLeave =>
      rcases hdoes with ⟨c, hc, rfl⟩
      exact h.keep nofun rfl rfl (condStep_ready hc)
  | setUserCallback b =>
      rcases hdoes with rfl
      have hb : b = s.data.userCallback :=
        (Bool.eq_false_iff.mpr fun hb => hset (hb ▸ rfl)).trans huser.symm
      exact h.keep nofun rfl (by rw [hb]) rfl
  | arrive a =>
      rcases hdoes with ⟨hidle, c, hc, rfl⟩
      have hready : c.ready = s.condition.ready := condStep_ready hc
      cases h with
      | pending hempty hwant _ hr =>
          by_cases hlen : a.buffer.length = 0
          · -- An empty buffer is not stored, and leaves `wantToGrab` set.
            have hw : ¬ s.data.wantsFrame a.buffer = true := by
              simp only [PortUserdata.wantsFrame, hlen, ne_eq, not_true_eq_false, decide_false,
                Bool.false_and, Bool.false_eq_true, not_false_eq_true]
            rw [if_neg hw]
            refine .pending (fun b hb => ?_) hwant (Or.inr rfl) (hready.trans hr)
            rcases List.mem_append.mp hb with hb | hb
            · exact hempty b hb
            · rw [GrabOp.arrive.inj (List.mem_singleton.mp hb)]
              exact hlen
          · have hw : s.data.wantsFrame a.buffer = true := by
              simp only [PortUserdata.wantsFrame, hwant, Bool.or_true, Bool.and_true]
              exact decide_eq_true hlen
            rw [if_pos hw]
            exact .storing a a.copies s.data.buffData ⟨ls, [], rfl, hlen, hempty⟩ rfl
              (a.store_eq s.data.buffData) (hready.trans hr)
      | storing b rest old _ hcallback _ _ => exact nomatch hidle.symm.trans hcallback
      | stored b old hfirst hbuff hwant _ =>
          -- Nobody wants a second frame: the first one has cleared the wish, and
          -- there is no user's callback.
          have hw : ¬ s.data.wantsFrame a.buffer = true := by
            simp only [PortUserdata.wantsFrame, hwant, huser, Bool.or_self, Bool.and_false,
              Bool.false_eq_true, not_false_eq_true]
          rw [if_neg hw]
          exact .stored b old (hfirst.concat _) hbuff hwant nofun
  | copy =>
      rcases hdoes with ⟨a, c, rest, hcopying, rfl⟩
      cases h with
      | pending _ _ hcallback _ =>
          rcases hcallback with hc | hc <;> exact nomatch hc.symm.trans hcopying
      | storing b rest' old hfirst hcallback hrest hready =>
          have heq := hcallback.symm.trans hcopying
          rw [CallbackState.storing.injEq] at heq
          rcases heq with ⟨rfl, rfl⟩
          exact .storing b rest old (hfirst.concat _) rfl hrest hready
      | stored b old _ _ _ hcallback => exact absurd hcopying (hcallback a _)
  | finish =>
      rcases hdoes with ⟨⟨a, hcopied⟩, rfl⟩
      cases h with
      | pending _ _ hcallback _ =>
          rcases hcallback with hc | hc <;> exact nomatch hc.symm.trans hcopied
      | storing b rest old hfirst hcallback hrest _ =>
          have heq := hcallback.symm.trans hcopied
          rw [CallbackState.storing.injEq] at heq
          rcases heq with ⟨rfl, rfl⟩
          exact .stored b old (hfirst.concat _) hrest.symm rfl nofun
      | stored b old _ _ _ hcallback => exact absurd hcopied (hcallback a _)
  | broadCast =>
      rcases hdoes with ⟨hstored, c, hc, rfl⟩
      cases h with
      | pending _ _ hcallback _ =>
          rcases hcallback with hc | hc <;> exact nomatch hc.symm.trans hstored
      | storing b rest old _ hcallback _ _ => exact nomatch hcallback.symm.trans hstored
      | stored b old hfirst hbuff hwant _ =>
          exact .stored b old (hfirst.concat _) hbuff hwant nofun
  | depart =>
      rcases hdoes with ⟨hleaving, c, hc, rfl⟩
      have hready : c.ready = s.condition.ready := condStep_ready hc
      cases h with
      | pending hempty hwant _ hr =>
          refine .pending (fun b hb => ?_) hwant (Or.inl rfl) (hready.trans hr)
          rcases List.mem_append.mp hb with hb | hb
          · exact hempty b hb
          · exact nomatch List.mem_singleton.mp hb
      | storing b rest old _ hcallback _ _ => exact nomatch hcallback.symm.trans hleaving
      | stored b old hfirst hbuff hwant _ =>
          exact .stored b old (hfirst.concat _) hbuff hwant nofun

/-- Between the request and the call of `Wait` the client has the mutex, and
    nothing else can happen. -/
theorem requested_step {s s' : Grabbing Unit} {l : GrabOp Unit} (halone : CallbackAlone s)
    (hrequested : s.client () = .requested)
    (hin : s.condition.sync.phase (.client ()) = .inside) (hstep : grabStep s l = some s') :
    l = .wait () ∨ ∃ b, l = .setUserCallback b := by
  rcases inside_step halone hin hstep with hl | rfl | ⟨j, _, hij⟩ | hl
  · exact Or.inl hl
  · exact nomatch hrequested.symm.trans (grabStep_some hstep).1
  · exact absurd rfl hij
  · exact Or.inr hl

/-- No step but one installs a user's callback. -/
theorem userCallback_step {s s' : Grabbing ι} {l : GrabOp ι}
    (huser : s.data.userCallback = false) (hset : l ≠ .setUserCallback true)
    (hstep : grabStep s l = some s') : s'.data.userCallback = false := by
  have hdoes := grabStep_some hstep
  cases l with
  | setUserCallback b =>
      rcases hdoes with rfl
      exact Bool.eq_false_iff.mpr fun hb => hset (hb ▸ rfl)
  | request j =>
      rcases hdoes with ⟨_, c, _, rfl⟩
      exact huser
  | wait j =>
      rcases hdoes with ⟨_, c, _, rfl⟩
      exact huser
  | leave j =>
      rcases hdoes with ⟨_, c, _, rfl⟩
      exact huser
  | arrive a =>
      rcases hdoes with ⟨_, c, _, rfl⟩
      split <;> exact huser
  | copy =>
      rcases hdoes with ⟨a, c, rest, _, rfl⟩
      exact huser
  | finish =>
      rcases hdoes with ⟨_, rfl⟩
      exact huser
  | broadCast =>
      rcases hdoes with ⟨_, c, _, rfl⟩
      exact huser
  | depart =>
      rcases hdoes with ⟨_, c, _, rfl⟩
      exact huser
  | _ =>
      rcases hdoes with ⟨c, _, rfl⟩
      exact huser

/-- A call that has not returned: it has asked for a frame and is about to
    wait, or it waits for one. -/
def Asking (ls : List (GrabOp Unit)) (s : Grabbing Unit) : Prop :=
  (s.client () = .requested ∧ s.condition.sync.phase (.client ()) = .inside ∧
      s.data.wantToGrab = true ∧ ∀ b, .arrive b ∉ ls) ∨
    (s.client () = .waiting ∧ Serving () ls s ∧ Progress ls s)

theorem asking_step {ls : List (GrabOp Unit)} {s s' : Grabbing Unit} {l : GrabOp Unit}
    (halone : CallbackAlone s) (huser : s.data.userCallback = false) (h : Asking ls s)
    (hl : l ≠ .leave ()) (hset : l ≠ .setUserCallback true) (hstep : grabStep s l = some s') :
    Asking (ls ++ [l]) s' := by
  rcases h with ⟨hrequested, hin, hwant, hls⟩ | ⟨hwaiting, hserving, hprogress⟩
  · have hcalling : Calling () (ls ++ [l]) s' :=
      calling_step halone (Or.inl ⟨hrequested, hin⟩) hl hstep
    have hdoes := grabStep_some hstep
    rcases requested_step halone hrequested hin hstep with rfl | ⟨b, rfl⟩
    · rcases hdoes with ⟨_, c, hc, rfl⟩
      have hidle : s.callback = .idle := callback_idle_of_inside halone hin nofun
      -- The frame is pending: nothing arrived since the request, and `Wait` has
      -- cleared the flag.
      rcases hcalling with ⟨hclient, _⟩ | ⟨hwaiting, hserving⟩
      · have hwaiting : Function.update s.client () .waiting () = .waiting :=
          Function.update_self () _ _
        exact nomatch hwaiting.symm.trans hclient
      · refine Or.inr ⟨hwaiting, hserving, .pending (fun b hb => ?_) hwant (Or.inl hidle)
          (condStep_ready hc)⟩
        rcases List.mem_append.mp hb with hb | hb
        · exact absurd hb (hls b)
        · exact nomatch List.mem_singleton.mp hb
    · rcases hdoes with rfl
      refine Or.inl ⟨hrequested, hin, hwant, fun a ha => ?_⟩
      rcases List.mem_append.mp ha with ha | ha
      · exact hls a ha
      · exact nomatch List.mem_singleton.mp ha
  · rcases serving_step halone hwaiting hserving hl hstep with ⟨hwaiting', hserving'⟩
    exact Or.inr ⟨hwaiting', hserving', progress_step hwaiting huser hprogress hl hset hstep⟩

/-- A frame that was grabbed is in the buffer, and nothing is stored over
    it. -/
structure Kept (m : Membuf) (s : Grabbing Unit) : Prop where
  client : s.client () = .idle
  buffData : s.data.buffData = m
  wantToGrab : s.data.wantToGrab = false
  userCallback : s.data.userCallback = false
  callback : ∀ a rest, s.callback ≠ .storing a rest

/-- It stays there until the client grabs again. -/
theorem kept_step {m : Membuf} {s s' : Grabbing Unit} {l : GrabOp Unit} (h : Kept m s)
    (hl : l ≠ .request ()) (hset : l ≠ .setUserCallback true) (hstep : grabStep s l = some s') :
    Kept m s' := by
  have huser := userCallback_step h.userCallback hset hstep
  have hdoes := grabStep_some hstep
  cases l with
  | request j => exact absurd rfl hl
  | wait j => exact nomatch h.client.symm.trans hdoes.1
  | leave j => exact nomatch h.client.symm.trans hdoes.1
  | spurious j =>
      rcases hdoes with ⟨c, _, rfl⟩
      exact ⟨h.client, h.buffData, h.wantToGrab, huser, h.callback⟩
  | recheck j =>
      rcases hdoes with ⟨c, _, rfl⟩
      exact ⟨h.client, h.buffData, h.wantToGrab, huser, h.callback⟩
  | controlEnter =>
      rcases hdoes with ⟨c, _, rfl⟩
      exact ⟨h.client, h.buffData, h.wantToGrab, huser, h.callback⟩
  | controlLeave =>
      rcases hdoes with ⟨c, _, rfl⟩
      exact ⟨h.client, h.buffData, h.wantToGrab, huser, h.callback⟩
  | setUserCallback b =>
      rcases hdoes with rfl
      exact ⟨h.client, h.buffData, h.wantToGrab, huser, h.callback⟩
  | arrive a =>
      -- The one step that could store over the frame finds that nobody wants it.
      rcases hdoes with ⟨_, c, _, rfl⟩
      have hw : ¬ s.data.wantsFrame a.buffer = true := by
        simp only [PortUserdata.wantsFrame, h.wantToGrab, h.userCallback, Bool.or_self,
          Bool.and_false, Bool.false_eq_true, not_false_eq_true]
      rw [if_neg hw] at huser ⊢
      exact ⟨h.client, h.buffData, h.wantToGrab, huser, nofun⟩
  | copy =>
      rcases hdoes with ⟨a, c, rest, hcopying, rfl⟩
      exact absurd hcopying (h.callback a _)
  | finish =>
      rcases hdoes with ⟨⟨a, hcopied⟩, rfl⟩
      exact absurd hcopied (h.callback a _)
  | broadCast =>
      rcases hdoes with ⟨_, c, _, rfl⟩
      exact ⟨h.client, h.buffData, h.wantToGrab, huser, nofun⟩
  | depart =>
      rcases hdoes with ⟨_, c, _, rfl⟩
      exact ⟨h.client, h.buffData, h.wantToGrab, huser, nofun⟩

/-- With one client and no user's callback, a call of `grab` returns with the
    first frame that is not empty and arrived after the call had set
    `wantToGrab`. -/
theorem grab_first {d : PortUserdata} {earlier during : List (GrabOp Unit)} {s : Grabbing Unit}
    (hrun : run grabStep (.init d) (earlier ++ .request () :: during ++ [.leave ()]) = some s)
    (hd : d.userCallback = false) (hduring : .leave () ∉ during)
    (hset : .setUserCallback true ∉ earlier ++ .request () :: during) :
    ∃ a old, FirstFrame during a ∧ Kept (a.store old) s := by
  rcases run_concat hrun with ⟨s₃, hbefore, hleave⟩
  rcases run_append_some hbefore with ⟨s₁, hearlier, hcall⟩
  rcases run_cons_some hcall with ⟨s₂, hrequest, hwait⟩
  have halone := callback_alone_step (callback_alone hearlier) hrequest
  -- Three histories are carried: no user's callback before the call, the same
  -- through the call, and where the call and its frame stand.
  have huser₁ : s₁.data.userCallback = false := by
    refine run_history_forall (I := fun _ s => s.data.userCallback = false)
      (P := fun l => l ≠ .setUserCallback true)
      (fun _ _ _ _ hl hu hstep => userCallback_step hu hl hstep) hd ?_ hearlier
    exact fun l hl hs => hset (List.mem_append_left _ (hs ▸ hl))
  have huser₂ : s₂.data.userCallback = false :=
    userCallback_step (l := .request ()) huser₁ nofun hrequest
  have hasking : Asking [] s₂ := by
    rcases grabStep_some hrequest with ⟨_, c, hc, rfl⟩
    exact Or.inl ⟨Function.update_self () ClientState.requested s₁.client, condStep_leaves hc, rfl,
      fun _ => List.not_mem_nil⟩
  have hcall : CallbackAlone s₃ ∧ s₃.data.userCallback = false ∧ Asking during s₃ := by
    refine run_history_forall (I := fun ls s => CallbackAlone s ∧ s.data.userCallback = false ∧
        Asking ls s) (P := fun l => l ≠ .leave () ∧ l ≠ .setUserCallback true) ?_
      ⟨halone, huser₂, hasking⟩ ?_ hwait
    · rintro ls s l s' ⟨hl, hl'⟩ ⟨ha, hu, hk⟩ hstep
      exact ⟨callback_alone_step ha hstep, userCallback_step hu hl' hstep,
        asking_step ha hu hk hl hl' hstep⟩
    · exact fun l hl => ⟨fun hs => hduring (hs ▸ hl),
        fun hs => hset (List.mem_append_right _ (List.mem_cons_of_mem _ (hs ▸ hl)))⟩
  rcases hcall with ⟨_, huser₃, hasking₃⟩
  rcases grabStep_some hleave with ⟨hwaiting, c, hc, rfl⟩
  have hin : s₃.condition.sync.phase (.client ()) = .inside := condStep_needs hc
  rcases hasking₃ with ⟨hrequested, _⟩ | ⟨_, hserving, hprogress⟩
  · exact nomatch hrequested.symm.trans hwaiting
  -- The client is let in only when the flag is set, and then the frame is stored.
  have hready := hserving.inside hin
  cases hprogress with
  | pending _ _ _ hr => exact absurd (hr.symm.trans hready) Bool.false_ne_true
  | storing a rest old _ _ _ hr => exact absurd (hr.symm.trans hready) Bool.false_ne_true
  | stored a old hfirst hbuff hwant hcallback =>
      exact ⟨a, old, hfirst, Function.update_self () ClientState.idle s₃.client, hbuff, hwant,
        huser₃,
        hcallback⟩

omit [DecidableEq ι] in
theorem mem_grabOps {ls : List (SessionOp ι)} {o : GrabOp ι} (h : o ∈ grabOps ls) :
    .thread o ∈ ls := by
  rcases List.mem_filterMap.mp h with ⟨l, hl, ho⟩
  cases l with
  | thread o' => exact Option.some.inj ho ▸ hl
  | _ => exact nomatch ho

omit [DecidableEq ι] in
theorem grabOps_append (ls ms : List (SessionOp ι)) :
    grabOps (ls ++ ms) = grabOps ls ++ grabOps ms := List.filterMap_append

/-- Whatever else happens in the session. -/
theorem kept_session_step {m : Membuf} {s s' : Session Unit} {l : SessionOp Unit}
    (h : Kept m s.grabbing) (hl : l ≠ .thread (.request ()))
    (hset : l ≠ .thread (.setUserCallback true)) (hstep : sessionStep s l = some s') :
    Kept m s'.grabbing := by
  cases l with
  | thread o =>
      rcases thread_some hstep with ⟨_, g, hg, rfl⟩
      exact kept_step h (fun ho => hl (ho ▸ rfl)) (fun ho => hset (ho ▸ rfl)) hg
  | _ => exact (sessionStep_grabbing rfl hstep).symm ▸ h

theorem kept_session {m : Membuf} {s : Session Unit} {ls : List (SessionOp Unit)}
    (h : Kept m s.grabbing) (hl : .thread (.request ()) ∉ ls)
    (hset : .thread (.setUserCallback true) ∉ ls) :
    Always sessionStep (fun t => Kept m t.grabbing) s ls := by
  refine always_of_along (P := fun _ l => l ≠ .thread (.request ()) ∧
    l ≠ .thread (.setUserCallback true)) ?_ h (along_of_forall fun l hm => ?_)
  · exact fun s l s' h hl hstep => kept_session_step h hl.1 hl.2 hstep
  · exact fun _ => ⟨fun h => hl (h ▸ hm), fun h => hset (h ▸ hm)⟩

section Implementation

/-- The camera is open and capturing when the object says so. -/
structure Session.Follows (s : Session ι) (c : Camera) : Prop where
  isOpened : s.isOpened = c.impl.isOpened
  isCapturing : s.isCapturing = c.impl.isCapturing

variable {s : Session ι} {c c' : Camera} {i : ι}

/-- `open`, up to the call of `startCapture`. -/
theorem openCamera_session {o : OpenOutcome} {b : Bool} (hs : s.Follows c) (hi : s.MayControl i)
    (h : openCamera false o c = .ok (b, c')) :
    ∃ s', sessionStep s (.openCamera i b) = some s' ∧ s'.Follows c' := by
  refine ⟨_, if_pos hi, ?_⟩
  by_cases ho : c.impl.isOpened = true
  · unfold openCamera at h
    rw [if_pos ho, Except.ok.injEq, Prod.mk.injEq] at h
    rcases h with ⟨rfl, rfl⟩
    rw [if_neg fun hc => Bool.false_ne_true hc.2]
    exact hs
  rw [Bool.not_eq_true] at ho
  rcases openCamera_effect false o ho with ⟨d, hd, hopen, hcap, _⟩ | ⟨d, hd, hfresh, _⟩
  · rw [h, Except.ok.injEq, Prod.mk.injEq] at hd
    rcases hd with ⟨rfl, rfl⟩
    rw [if_neg fun hc => Bool.false_ne_true hc.2]
    exact ⟨hs.isOpened.trans (ho.trans hopen.symm), hs.isCapturing.trans hcap.symm⟩
  · rw [h, if_neg Bool.false_ne_true, Except.ok.injEq, Prod.mk.injEq] at hd
    rcases hd with ⟨rfl, rfl⟩
    rw [if_pos ⟨hs.isOpened.trans ho, rfl⟩]
    exact ⟨hfresh.isOpened.symm, hs.isCapturing.trans hfresh.isCapturing.symm⟩

/-- With capturing, `open` is that and `startCapture`. -/
theorem openCamera_true {o : OpenOutcome} {d : Camera} (ho : c.impl.isOpened = false)
    (hd : openCamera false o c = .ok (true, d)) :
    openCamera true o c = startCapture o.sets d := by
  unfold openCamera at hd ⊢
  rw [if_neg (by rw [ho]; decide)] at hd ⊢
  cases hc : createCameraComponent o c with
  | mk created e =>
      rw [hc] at hd
      cases created with
      | false => exact nomatch (Prod.mk.inj (Except.ok.inj hd)).1
      | true =>
          rcases bind_ok hd with ⟨f, hf, hd⟩
          rw [if_neg Bool.false_ne_true, Except.ok.injEq, Prod.mk.injEq] at hd
          simp only [hf, ok_bind, if_true, hd.2]

/-- The end of a call that releases the camera, once no callback is running. -/
theorem released_session (hr : s.releasing = some i) (hidle : s.grabbing.callback = .idle)
    (ho : c'.impl.isOpened = false) (hc : c'.impl.isCapturing = false) :
    ∃ s', sessionStep s (.released i) = some s' ∧ s'.Follows c' := by
  refine ⟨{ s with isOpened := false, isCapturing := false, releasing := none }, ?_, ho.symm,
    hc.symm⟩
  simp only [sessionStep, hidle, if_pos hr]

/-- `release` of an open camera. -/
theorem release_session (hs : s.Follows c) (ha : c.Attached) (hi : s.MayControl i)
    (hidle : s.grabbing.callback = .idle) (ho : c.impl.isOpened = true)
    (h : release c = .ok c') :
    ∃ s', run sessionStep s [.release i, .released i] = some s' ∧ s'.Follows c' := by
  rcases releaseWith_effect true true ha ho with ⟨d, hd, hreleased⟩
  rw [releaseWith_true, h, Except.ok.injEq] at hd
  subst hd
  have hstart : sessionStep s (.release i) = some { s with releasing := some i } := by
    simp only [sessionStep, if_pos hi, hs.isOpened, ho, if_true]
  rw [run_cons, hstart, Option.bind_some, run_cons]
  rcases released_session (s := { s with releasing := some i }) rfl hidle hreleased.isOpened
    hreleased.isCapturing with ⟨s', hs', hfollows⟩
  exact ⟨s', by rw [hs', Option.bind_some, run_nil], hfollows⟩

/-- `startCapture`, which may end as `release` does. -/
theorem startCapture_session {r : SetResults} {b : Bool} (hs : s.Follows c) (ha : c.Attached)
    (hi : s.MayControl i) (hidle : s.grabbing.callback = .idle)
    (h : startCapture r c = .ok (b, c')) :
    ∃ ls s', run sessionStep s (.startCapture i b :: ls) = some s' ∧ s'.Follows c' ∧
      (ls = [] ∨ ls = [.released i] ∧ b = false) := by
  by_cases ho : c.impl.isOpened = true
  · rcases ha.opened ho with ⟨g, hcam, hport, halive, _⟩
    have heq := startCapture_eq (r := r) ho hport halive
    -- It was refused and releases, it ran into a null pool, or it captures.
    rcases startCapture_effect r ha ho with ⟨d, hd, hreleased, _⟩ | ⟨_, _, hd⟩ |
      ⟨d, hd, hsame, hr, hpool, _⟩
    · rw [h, Except.ok.injEq, Prod.mk.injEq] at hd
      rcases hd with ⟨rfl, rfl⟩
      have hstart :
          sessionStep s (.startCapture i false) = some { s with releasing := some i } := by
        simp only [sessionStep, if_pos hi, hs.isOpened, ho, if_true, Bool.false_eq_true, if_false]
      rcases released_session (s := { s with releasing := some i }) rfl hidle hreleased.isOpened
        hreleased.isCapturing with ⟨s', hs', hfollows⟩
      refine ⟨[.released i], s', ?_, hfollows, Or.inr ⟨rfl, rfl⟩⟩
      rw [run_cons, hstart, Option.bind_some, run_cons, hs', Option.bind_some, run_nil]
    · exact nomatch h.symm.trans hd
    · rw [h, Except.ok.injEq, Prod.mk.injEq] at hd
      rcases hd with ⟨rfl, rfl⟩
      have hstart : sessionStep s (.startCapture i true) = some { s with isCapturing := true } := by
        simp only [sessionStep, if_pos hi, hs.isOpened, ho, if_true]
      refine ⟨[], _, by rw [run_cons, hstart, Option.bind_some, run_nil], ⟨?_, ?_⟩, Or.inl rfl⟩
      · exact hs.isOpened.trans hsame.isOpened.symm
      · rw [h, if_neg (by rw [hr]; decide)] at heq
        rcases bind_ok heq.symm with ⟨q, _, hq⟩
        rw [← (Prod.mk.inj (Except.ok.inj hq)).2]
  · rw [Bool.not_eq_true] at ho
    rw [startCapture_closed ho, Except.ok.injEq, Prod.mk.injEq] at h
    rcases h with ⟨rfl, rfl⟩
    refine ⟨[], s, ?_, hs, Or.inl rfl⟩
    have hstart : sessionStep s (.startCapture i false) = some s := by
      simp only [sessionStep, if_pos hi, hs.isOpened, ho, Bool.false_eq_true, if_false]
    rw [run_cons, hstart, Option.bind_some, run_nil]

end Implementation

end Sync

end RaspiCam
