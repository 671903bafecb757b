import RaspiCam.Still.Lifetime

/-!
# What a Call Leaves Behind

`startCapture` gives up after more and more was done: nothing, after the port
was enabled and headers were sent, and it undoes none of it. The next call of
`takePicture` finds the leftovers.

When the port cannot be enabled, nothing is left behind. When the capture
cannot be started the port stays enabled, and since nothing but the end of a
capture disables it, no call gets past the first check ever after. So it is
when the port cannot be disabled. A header that could not be sent is lost, to
this call and to all the others; a camera that has lost all its headers waits
forever. And a pointer to the user data of the last call is left in the port
by every call, whatever it returns.

`leftovers_iff` says exactly which runs leave the port and the headers as they
were, and what a following call comes to.

## Main definitions

* `LeftUsable`: What a call should leave behind.
* `CaptureOp.Restores`: A step that leaves nothing behind.
* `Accepting`, `Repeatable`: What a following call comes to.
* `Tidy`: Nothing was left behind so far.

## Theorems

* `tidy_step`, `tidy_of_step`: What leaves something behind, and that it stays.
* `never_again`: No picture is taken once the port was left enabled.
* `leftovers_iff`: What a run of calls leaves behind.
* `failed_capture_blocks`: A call that blocks the next one.
-/

namespace RaspiCam

open Ledgers Transition

namespace Still

/-- The port is disabled and has no pointer to the user data of the last call,
    and all the headers of the pool are in its queue. -/
structure LeftUsable (n : Nat) (s : Capturing) : Prop where
  disabled : s.enabled = false
  forgotten : s.userdata ≠ some s.current
  queued : s.queued = n

/-- The MMAL call of the step succeeds, if it makes one. -/
def CaptureOp.Succeeds : CaptureOp → Prop
  | .enable ok => ok = true
  | .send ok => ok = true
  | .capture ok => ok = true
  | .disabled ok => ok = true
  | .recycle ok => ok = true
  | _ => True

/-- The step leaves nothing behind. A callback sends no header to a port that
    is not enabled. -/
def CaptureOp.Restores (s : Capturing) : CaptureOp → Prop
  | .send ok => ok = true
  | .capture ok => ok = true
  | .disabled ok => ok = true
  | .recycle ok => ok = true ∨ s.enabled = false
  | _ => True

/-- No call gives up while every MMAL call succeeds. -/
def Accepting (s : Capturing) : Prop :=
  ∀ ls : List CaptureOp, (∀ l ∈ ls, l.Succeeds) → Along captureStep (fun _ l => l ≠ .giveUp) s ls

/-- Steps within a call, every MMAL call of which succeeds. -/
def Reaches (s t : Capturing) : Prop :=
  ∃ ls : List CaptureOp, (∀ l ∈ ls, l.Succeeds ∧ l ≠ .call) ∧ run captureStep s ls = some t

/-- A call can return a picture with every MMAL call succeeding. -/
def Repeatable (s : Capturing) : Prop :=
  ∃ t u v, captureStep s .call = some t ∧ Reaches t u ∧ captureStep u .finish = some v

/-- The call does not have the port in use. -/
def Caller.closed : Caller → Bool
  | .idle => true
  | .starting => true
  | .failed => true
  | .done => true
  | _ => false

/-- No header was lost, and the port is enabled only while it is in use. -/
structure Tidy (s : Capturing) : Prop where
  lost : s.lost = 0
  closed : s.caller.closed = true → s.enabled = false

theorem tidy_init (n : Nat) : Tidy (.init n) := ⟨rfl, fun _ => rfl⟩

/-- What leaves something behind. -/
theorem tidy_step {n : Nat} (s : Capturing) (l : CaptureOp) (s' : Capturing)
    (hs : Standing n s ∧ Tidy s) (h : captureStep s l = some s') :
    (Standing n s' ∧ Tidy s') ↔ l.Restores s := by
  rcases hs with ⟨hst, hs⟩
  have hst' := standing_step hst h
  have hdoes := captureStep_some h
  -- The steps that fail lose a header or leave the port enabled; the others
  -- keep both clauses, whatever MMAL answers.
  cases l with
  | call =>
      rcases hdoes with ⟨hcaller, rfl⟩
      exact iff_of_true ⟨hst', hs.lost, fun _ => hs.closed (by rw [hcaller]; rfl)⟩ trivial
  | enable ok =>
      rcases hdoes with ⟨hcaller, ⟨hok, rfl⟩ | ⟨hok, rfl⟩⟩
      · exact iff_of_true ⟨hst', hs.lost, fun _ => hs.closed (by rw [hcaller]; rfl)⟩ trivial
      · exact iff_of_true ⟨hst', hs.lost, nofun⟩ trivial
  | send ok =>
      rcases hdoes with ⟨left, hcaller, ⟨hq, rfl⟩ | ⟨hq, rfl⟩⟩
      · have hleft := hst.left (left + 1) hcaller
        omega
      · cases ok with
        | true => exact iff_of_true ⟨hst', hs.lost, nofun⟩ rfl
        | false => exact iff_of_false (fun hn => Nat.succ_ne_zero s.lost hn.2.lost) nofun
  | capture ok =>
      rcases hdoes with ⟨hcaller, rfl⟩
      have henabled : s.enabled = true := hst.busy (by rw [hcaller]; rfl)
      cases ok with
      | true => exact iff_of_true ⟨hst', hs.lost, nofun⟩ rfl
      | false =>
          exact iff_of_false
            (fun hn => absurd ((hn.2.closed rfl).symm.trans henabled) Bool.false_ne_true) nofun
  | giveUp =>
      rcases hdoes with ⟨hcaller, rfl⟩
      exact iff_of_true ⟨hst', hs.lost, fun _ => hs.closed (by rw [hcaller]; rfl)⟩ trivial
  | wake =>
      rcases hdoes with ⟨_, rfl⟩
      exact iff_of_true ⟨hst', hs.lost, nofun⟩ trivial
  | destroySemaphore =>
      rcases hdoes with ⟨hcaller, rfl⟩
      exact iff_of_true ⟨hst', hs.lost, nofun⟩ trivial
  | disable =>
      rcases hdoes with ⟨hcaller, ⟨he, rfl⟩ | ⟨he, rfl⟩⟩
      · exact iff_of_true ⟨hst', hs.lost, nofun⟩ trivial
      · exact iff_of_true ⟨hst', hs.lost, fun _ => he⟩ trivial
  | disabled ok =>
      rcases hdoes with ⟨hcaller, ⟨rfl, -, rfl⟩ | ⟨rfl, rfl⟩⟩
      · exact iff_of_true ⟨hst', hs.lost, fun _ => hst.disabling hcaller⟩ rfl
      · exact iff_of_false (fun hn => nomatch hn.2.closed rfl) nofun
  | finish =>
      rcases hdoes with ⟨hcaller, rfl⟩
      exact iff_of_true ⟨hst', hs.lost, fun _ => hs.closed (by rw [hcaller]; rfl)⟩ trivial
  | begin ends =>
      rcases hdoes with ⟨_, rfl⟩
      refine iff_of_true ⟨hst', ?_⟩ trivial
      cases s.userdata with
      | none => exact ⟨hs.lost, hs.closed⟩
      | some u => exact ⟨hs.lost, hs.closed⟩
  | store =>
      rcases hdoes with ⟨u, ends, _, rfl⟩
      exact iff_of_true ⟨hst', hs.lost, hs.closed⟩ trivial
  | post =>
      rcases hdoes with ⟨u, _, rfl⟩
      exact iff_of_true ⟨hst', hs.lost, hs.closed⟩ trivial
  | recycle ok =>
      rcases hdoes with ⟨u, _, ⟨he, rfl⟩ | ⟨he, rfl⟩⟩
      · cases ok with
        | true => exact iff_of_true ⟨hst', hs.lost, hs.closed⟩ (Or.inl rfl)
        | false =>
            refine iff_of_false (fun hn => Nat.succ_ne_zero s.lost hn.2.lost) ?_
            rintro (hok | hf)
            · exact nomatch hok
            · exact absurd (hf.symm.trans he) Bool.false_ne_true
      · exact iff_of_true ⟨hst', hs.lost, hs.closed⟩ (Or.inr he)

/-- What was left behind stays. -/
theorem tidy_of_step (s : Capturing) (l : CaptureOp) (s' : Capturing)
    (h : captureStep s l = some s') (hs' : Tidy s') : Tidy s := by
  have hdoes := captureStep_some h
  -- Read backwards: no step finds a lost header, and a port that is enabled
  -- outside a capture is refused by `startCapture`, the only way into one.
  cases l with
  | call =>
      rcases hdoes with ⟨hcaller, rfl⟩
      exact ⟨hs'.lost, fun _ => hs'.closed rfl⟩
  | enable ok =>
      rcases hdoes with ⟨hcaller, ⟨hok, rfl⟩ | ⟨hok, rfl⟩⟩
      · exact ⟨hs'.lost, fun _ => hs'.closed rfl⟩
      · exact ⟨hs'.lost, fun _ => hok.1⟩
  | send ok =>
      rcases hdoes with ⟨left, hcaller, ⟨hq, rfl⟩ | ⟨hq, rfl⟩⟩
      · exact ⟨hs'.lost, fun hc => by rw [hcaller] at hc; exact nomatch hc⟩
      · refine ⟨?_, fun hc => by rw [hcaller] at hc; exact nomatch hc⟩
        have hlost := hs'.lost
        cases ok with
        | true => exact hlost
        | false => exact absurd hlost (Nat.succ_ne_zero s.lost)
  | capture ok =>
      rcases hdoes with ⟨hcaller, rfl⟩
      exact ⟨hs'.lost, fun hc => by rw [hcaller] at hc; exact nomatch hc⟩
  | giveUp =>
      rcases hdoes with ⟨hcaller, rfl⟩
      exact ⟨hs'.lost, fun _ => hs'.closed rfl⟩
  | wake =>
      rcases hdoes with ⟨⟨hcaller, _⟩, rfl⟩
      exact ⟨hs'.lost, fun hc => by rw [hcaller] at hc; exact nomatch hc⟩
  | destroySemaphore =>
      rcases hdoes with ⟨hcaller, rfl⟩
      exact ⟨hs'.lost, fun hc => by rw [hcaller] at hc; exact nomatch hc⟩
  | disable =>
      rcases hdoes with ⟨hcaller, ⟨he, rfl⟩ | ⟨he, rfl⟩⟩
      · exact ⟨hs'.lost, fun hc => by rw [hcaller] at hc; exact nomatch hc⟩
      · exact ⟨hs'.lost, fun hc => by rw [hcaller] at hc; exact nomatch hc⟩
  | disabled ok =>
      rcases hdoes with ⟨hcaller, ⟨_, -, rfl⟩ | ⟨_, rfl⟩⟩
      · exact ⟨hs'.lost, fun hc => by rw [hcaller] at hc; exact nomatch hc⟩
      · exact ⟨hs'.lost, fun hc => by rw [hcaller] at hc; exact nomatch hc⟩
  | finish =>
      rcases hdoes with ⟨hcaller, rfl⟩
      exact ⟨hs'.lost, fun _ => hs'.closed rfl⟩
  | begin ends =>
      rcases hdoes with ⟨_, rfl⟩
      cases hu : s.userdata with
      | none =>
          rw [hu] at hs'
          exact ⟨hs'.lost, hs'.closed⟩
      | some u =>
          rw [hu] at hs'
          exact ⟨hs'.lost, hs'.closed⟩
  | store =>
      rcases hdoes with ⟨u, ends, _, rfl⟩
      exact ⟨hs'.lost, hs'.closed⟩
  | post =>
      rcases hdoes with ⟨u, _, rfl⟩
      exact ⟨hs'.lost, hs'.closed⟩
  | recycle ok =>
      rcases hdoes with ⟨u, _, ⟨he, rfl⟩ | ⟨he, rfl⟩⟩
      · refine ⟨?_, hs'.closed⟩
        have hlost := hs'.lost
        cases ok with
        | true => exact hlost
        | false => exact absurd hlost (Nat.succ_ne_zero s.lost)
      · exact ⟨hs'.lost, hs'.closed⟩

/-- The port was left enabled, and no call gets past the first check. -/
def Blocked (s : Capturing) : Prop :=
  s.enabled = true ∧ (s.caller = .idle ∨ s.caller = .starting ∨ s.caller = .failed)

theorem blocked_step (s : Capturing) (l : CaptureOp) (s' : Capturing) (hs : Blocked s)
    (h : captureStep s l = some s') : Blocked s' := by
  rcases hs with ⟨he, hcaller⟩
  have hdoes := captureStep_some h
  -- The other steps of `takePicture` come up later.
  have hlater : ∀ {c : Caller}, s.caller = c → c ≠ .idle → c ≠ .starting → c ≠ .failed → False := by
    rintro c hc hidle hstarting hfailed
    rcases hcaller with h | h | h
    · exact hidle (hc.symm.trans h)
    · exact hstarting (hc.symm.trans h)
    · exact hfailed (hc.symm.trans h)
  cases l with
  | call =>
      rcases hdoes with ⟨_, rfl⟩
      exact ⟨he, Or.inr (Or.inl rfl)⟩
  | enable ok =>
      rcases hdoes with ⟨_, ⟨_, rfl⟩ | ⟨⟨hf, _⟩, _⟩⟩
      · exact ⟨he, Or.inr (Or.inr rfl)⟩
      · exact absurd (hf.symm.trans he) Bool.false_ne_true
  | send ok =>
      rcases hdoes with ⟨left, hc, _⟩
      exact (hlater hc nofun nofun nofun).elim
  | capture ok => exact (hlater hdoes.1 nofun nofun nofun).elim
  | giveUp =>
      rcases hdoes with ⟨_, rfl⟩
      exact ⟨he, Or.inl rfl⟩
  | wake => exact (hlater hdoes.1.1 nofun nofun nofun).elim
  | destroySemaphore => exact (hlater hdoes.1 nofun nofun nofun).elim
  | disable => exact (hlater hdoes.1 nofun nofun nofun).elim
  | disabled ok => exact (hlater hdoes.1 nofun nofun nofun).elim
  | finish => exact (hlater hdoes.1 nofun nofun nofun).elim
  | begin ends =>
      rcases hdoes with ⟨_, rfl⟩
      cases s.userdata with
      | none => exact ⟨he, hcaller⟩
      | some u => exact ⟨he, hcaller⟩
  | store =>
      rcases hdoes with ⟨u, ends, _, rfl⟩
      exact ⟨he, hcaller⟩
  | post =>
      rcases hdoes with ⟨u, _, rfl⟩
      exact ⟨he, hcaller⟩
  | recycle ok =>
      rcases hdoes with ⟨u, _, ⟨_, rfl⟩ | ⟨_, rfl⟩⟩
      · exact ⟨he, hcaller⟩
      · exact ⟨he, hcaller⟩

/-- No picture is taken once the port was left enabled, whatever MMAL
    answers. -/
theorem never_again {s : Capturing} (he : s.enabled = true) (hidle : s.caller = .idle)
    (ls : List CaptureOp) : Along captureStep (fun _ l => l ≠ .finish) s ls := by
  have hblocked : Always captureStep Blocked s ls :=
    always_of_along (fun t l t' ht _ => blocked_step t l t' ht) ⟨he, Or.inl hidle⟩
      (along_of_forall (P := fun _ _ => True) (fun _ _ _ => trivial))
  refine along_of_always (fun t l t' ht h => ?_) hblocked
  rintro rfl
  have hdone := (captureStep_some h).1
  rcases ht.2 with hc | hc | hc <;> exact nomatch hdone.symm.trans hc

/-- The camera has lost its headers, and a call waits forever. -/
structure Starved (s : Capturing) : Prop where
  queued : s.queued = 0
  held : s.held = 0
  callback : s.callback = .idle
  posts : s.posts = 0
  caller : s.caller = .idle ∨ s.caller = .starting ∨ s.caller = .failed ∨ s.caller = .waiting ∨
    s.caller = .sending 0

theorem starved_step (s : Capturing) (l : CaptureOp) (s' : Capturing) (hs : Starved s)
    (h : captureStep s l = some s') : Starved s' := by
  have hdoes := captureStep_some h
  -- A call comes as far as the wait: without a header no callback runs, and
  -- without a callback nobody posts the semaphore.
  have hlater : ∀ {c : Caller}, s.caller = c → c ≠ .idle → c ≠ .starting → c ≠ .failed →
      c ≠ .waiting → c ≠ .sending 0 → False := by
    rintro c hc hidle hstarting hfailed hwaiting hsending
    rcases hs.caller with h | h | h | h | h
    · exact hidle (hc.symm.trans h)
    · exact hstarting (hc.symm.trans h)
    · exact hfailed (hc.symm.trans h)
    · exact hwaiting (hc.symm.trans h)
    · exact hsending (hc.symm.trans h)
  cases l with
  | call =>
      rcases hdoes with ⟨_, rfl⟩
      exact { hs with posts := rfl, caller := Or.inr (Or.inl rfl) }
  | enable ok =>
      rcases hdoes with ⟨_, ⟨_, rfl⟩ | ⟨_, rfl⟩⟩
      · exact { hs with caller := Or.inr (Or.inr (Or.inl rfl)) }
      · exact { hs with
          caller := Or.inr (Or.inr (Or.inr (Or.inr (congrArg Caller.sending hs.queued)))) }
  | send ok =>
      rcases hdoes with ⟨left, hc, _⟩
      exact (hlater hc nofun nofun nofun nofun nofun).elim
  | capture ok =>
      rcases hdoes with ⟨_, rfl⟩
      cases ok with
      | true => exact { hs with caller := Or.inr (Or.inr (Or.inr (Or.inl rfl))) }
      | false => exact { hs with caller := Or.inr (Or.inr (Or.inl rfl)) }
  | giveUp =>
      rcases hdoes with ⟨_, rfl⟩
      exact { hs with caller := Or.inl rfl }
  | wake =>
      have hposts := hs.posts
      have hpos := hdoes.1.2
      omega
  | destroySemaphore => exact (hlater hdoes.1 nofun nofun nofun nofun nofun).elim
  | disable => exact (hlater hdoes.1 nofun nofun nofun nofun nofun).elim
  | disabled ok => exact (hlater hdoes.1 nofun nofun nofun nofun nofun).elim
  | finish => exact (hlater hdoes.1 nofun nofun nofun nofun nofun).elim
  | begin ends =>
      have hheld := hs.held
      have hpos := hdoes.1.2.1
      omega
  | store =>
      rcases hdoes with ⟨u, ends, hstoring, _⟩
      exact nomatch hs.callback.symm.trans hstoring
  | post =>
      rcases hdoes with ⟨u, hposting, _⟩
      exact nomatch hs.callback.symm.trans hposting
  | recycle ok =>
      rcases hdoes with ⟨u, hreleasing, _⟩
      exact nomatch hs.callback.symm.trans hreleasing

/-- No call has given up, and the port is enabled only while it is in use. -/
structure Unspoilt (s : Capturing) : Prop where
  caller : s.caller ≠ .failed
  closed : s.caller.closed = true → s.enabled = false

theorem unspoilt_step {n : Nat} (s : Capturing) (l : CaptureOp) (s' : Capturing)
    (hs : Standing n s ∧ Unspoilt s) (hl : l.Succeeds) (h : captureStep s l = some s') :
    Standing n s' ∧ Unspoilt s' := by
  rcases hs with ⟨hst, hs⟩
  refine ⟨standing_step hst h, ?_⟩
  have hdoes := captureStep_some h
  cases l with
  | call =>
      rcases hdoes with ⟨hcaller, rfl⟩
      exact ⟨nofun, fun _ => hs.closed (by rw [hcaller]; rfl)⟩
  | enable ok =>
      rcases hdoes with ⟨hcaller, ⟨hok, rfl⟩ | ⟨hok, rfl⟩⟩
      · have he : s.enabled = false := hs.closed (by rw [hcaller]; rfl)
        rcases hok with hok | hok
        · exact absurd (he.symm.trans hok) Bool.false_ne_true
        · exact absurd (hok.symm.trans hl) Bool.false_ne_true
      · exact ⟨nofun, nofun⟩
  | send ok =>
      rcases hdoes with ⟨left, _, ⟨_, rfl⟩ | ⟨_, rfl⟩⟩
      · exact ⟨nofun, nofun⟩
      · exact ⟨nofun, nofun⟩
  | capture ok =>
      rcases hdoes with ⟨_, rfl⟩
      rw [show ok = true from hl]
      exact ⟨nofun, nofun⟩
  | giveUp => exact absurd hdoes.1 hs.caller
  | wake =>
      rcases hdoes with ⟨_, rfl⟩
      exact ⟨nofun, nofun⟩
  | destroySemaphore =>
      rcases hdoes with ⟨_, rfl⟩
      exact ⟨nofun, nofun⟩
  | disable =>
      rcases hdoes with ⟨_, ⟨_, rfl⟩ | ⟨he, rfl⟩⟩
      · exact ⟨nofun, nofun⟩
      · exact ⟨nofun, fun _ => he⟩
  | disabled ok =>
      rcases hdoes with ⟨hcaller, ⟨_, -, rfl⟩ | ⟨hok, _⟩⟩
      · exact ⟨nofun, fun _ => hst.disabling hcaller⟩
      · exact absurd (hok.symm.trans hl) Bool.false_ne_true
  | finish =>
      rcases hdoes with ⟨hcaller, rfl⟩
      exact ⟨nofun, fun _ => hs.closed (by rw [hcaller]; rfl)⟩
  | begin ends =>
      rcases hdoes with ⟨_, rfl⟩
      cases s.userdata with
      | none => exact ⟨hs.caller, hs.closed⟩
      | some u => exact ⟨hs.caller, hs.closed⟩
  | store =>
      rcases hdoes with ⟨u, ends, _, rfl⟩
      exact ⟨hs.caller, hs.closed⟩
  | post =>
      rcases hdoes with ⟨u, _, rfl⟩
      exact ⟨hs.caller, hs.closed⟩
  | recycle ok =>
      rcases hdoes with ⟨u, _, ⟨_, rfl⟩ | ⟨_, rfl⟩⟩
      · exact ⟨hs.caller, hs.closed⟩
      · exact ⟨hs.caller, hs.closed⟩

/-- A call can be refused, with every MMAL call succeeding, exactly when the
    port was left enabled. -/
theorem accepting_iff {n : Nat} {s : Capturing} (hst : Standing n s) (hidle : s.caller = .idle) :
    Accepting s ↔ s.enabled = false := by
  constructor
  · -- A port that was left enabled makes the very next call give up.
    intro ha
    rw [← Bool.not_eq_true]
    intro he
    have hlabels : ∀ l ∈ [CaptureOp.call, .enable true, .giveUp], l.Succeeds := by
      rintro l (_ | ⟨_, _ | ⟨_, _ | ⟨_, hl⟩⟩⟩)
      · trivial
      · rfl
      · trivial
      · exact nomatch hl
    have hcall : captureStep s .call = some _ := if_pos hidle
    have henable : ∀ {t : Capturing}, t.caller = .starting → t.enabled = true →
        captureStep t (.enable true) = some { t with caller := .failed } := by
      intro t hc ht
      change (if t.caller = .starting then _ else none) = _
      rw [if_pos hc, if_pos (Or.inl ht)]
    have hgiveUp : ∀ {t : Capturing}, t.caller = .failed → captureStep t .giveUp =
        some { t with deletions := destroy t.deletions t.current, caller := .idle } :=
      fun hc => if_pos hc
    exact (((ha _ hlabels _ hcall).2 _ (henable rfl he)).2 _ (hgiveUp rfl)).1 rfl
  · intro he ls hls
    have hunspoilt : Unspoilt s := ⟨fun hf => (nomatch hidle.symm.trans hf), fun _ => he⟩
    have halways : Always captureStep (fun t => Standing n t ∧ Unspoilt t) s ls :=
      always_of_along (P := fun _ l => l.Succeeds) unspoilt_step ⟨hst, hunspoilt⟩
        (along_of_forall (fun l hl _ => hls l hl))
    refine along_of_always (fun t l t' ht h => ?_) halways
    rintro rfl
    exact ht.2.caller (captureStep_some h).1

theorem Reaches.refl (s : Capturing) : Reaches s s := ⟨[], nofun, rfl⟩

theorem Reaches.head {s t u : Capturing} {l : CaptureOp} (h : captureStep s l = some t)
    (hl : l.Succeeds) (hcall : l ≠ .call) (ht : Reaches t u) : Reaches s u := by
  rcases ht with ⟨ls, hls, hrun⟩
  refine ⟨l :: ls, ?_, ?_⟩
  · rintro k (_ | ⟨_, hk⟩)
    · exact ⟨hl, hcall⟩
    · exact hls k hk
  · rw [run_cons, h, Option.bind_some, hrun]

theorem Reaches.trans {s t u : Capturing} (hst : Reaches s t) (htu : Reaches t u) :
    Reaches s u := by
  rcases hst with ⟨ls, hls, hrun⟩
  rcases htu with ⟨ms, hms, hrun'⟩
  refine ⟨ls ++ ms, fun l hl => (List.mem_append.mp hl).elim (hls l) (hms l), ?_⟩
  rw [run_append, hrun, Option.bind_some, hrun']

/-- Where a call stands while no callback runs. -/
structure At (caller : Caller) (queued held : Nat) (enabled : Bool) (s : Capturing) : Prop where
  caller : s.caller = caller
  queued : s.queued = queued
  held : s.held = held
  enabled : s.enabled = enabled
  callback : s.callback = .idle
  userdata : s.userdata ≠ none

/-- All the headers are sent. -/
theorem at_sends {held : Nat} (k : Nat) {s : Capturing} (h : At (.sending k) k held true s) :
    ∃ t, Reaches s t ∧ At (.sending 0) 0 (held + k) true t := by
  -- By induction on the turns of the loop that are left.
  induction k generalizing held s with
  | zero => exact ⟨s, .refl s, h⟩
  | succ k ih =>
      have hsend : captureStep s (.send true) = some { s with
          queued := s.queued - 1, held := s.held + 1, caller := .sending k } := by
        unfold captureStep
        simp only [h.caller]
        rw [if_neg (by rw [h.queued]; exact Nat.succ_ne_zero k), if_pos trivial]
      have hat : At (.sending k) k (held + 1) true { s with
          queued := s.queued - 1, held := s.held + 1, caller := .sending k } :=
        { h with
          caller := rfl, queued := congrArg (· - 1) h.queued, held := congrArg (· + 1) h.held }
      rcases ih hat with ⟨t, ht, hat⟩
      refine ⟨t, .head hsend rfl nofun ht, ?_⟩
      rw [Nat.add_assoc, Nat.add_comm 1 k] at hat
      exact hat

/-- The port calls the callback. -/
theorem at_begin {caller : Caller} {queued held : Nat} {enabled : Bool} {s : Capturing}
    (h : At caller queued (held + 1) enabled s) (hport : enabled = true ∨ caller = .disabling)
    (ends : Bool) : ∃ u, captureStep s (.begin ends) = some { s.use u with
      held := s.held - 1, callback := .storing u ends } := by
  cases hu : s.userdata with
  | none => exact absurd hu h.userdata
  | some u =>
      refine ⟨u, ?_⟩
      unfold captureStep
      simp only [hu]
      exact if_pos ⟨h.callback, h.held ▸ Nat.succ_pos held, h.enabled.symm ▸ h.caller.symm ▸ hport⟩

/-- A callback stores the last buffer of an image and posts the semaphore. -/
theorem at_image {queued held : Nat} {s : Capturing} (h : At .waiting queued (held + 1) true s) :
    ∃ t, Reaches s t ∧ At .waiting queued (held + 1) true t ∧ 0 < t.posts := by
  rcases at_begin h (Or.inl rfl) true with ⟨u, hbegin⟩
  let stored : Capturing := { (s.use u).use u with held := s.held - 1, callback := .posting u }
  have hpost : captureStep stored .post = some { stored.use u with
      misused := (stored.use u).misused || !stored.semaphoreThere u
      posts := s.posts + 1
      callback := .releasing (some u) } := rfl
  refine ⟨_, .head hbegin trivial nofun (.head (t := stored) (l := .store) rfl trivial nofun
    (.head hpost trivial nofun
      (.head (l := .recycle true) (congrArg some (if_pos h.enabled)) rfl nofun
      (.refl _)))), ?_, Nat.succ_pos _⟩
  exact { h with
    held := by
      change s.held - 1 + 1 = held + 1
      rw [h.held, Nat.add_sub_cancel]
    callback := rfl }

/-- A port that is being disabled gives its headers back. -/
theorem at_returns {queued : Nat} (held : Nat) {s : Capturing}
    (h : At .disabling queued held false s) :
    ∃ t, Reaches s t ∧ At .disabling (queued + held) 0 false t := by
  -- By induction on the headers the port still holds. The callback finds the
  -- port disabled and sends none of them again.
  induction held generalizing queued s with
  | zero => exact ⟨s, .refl s, h⟩
  | succ held ih =>
      rcases at_begin h (Or.inr rfl) false with ⟨u, hbegin⟩
      have hnot : s.enabled ≠ true := fun he => absurd (h.enabled.symm.trans he) Bool.false_ne_true
      let stored : Capturing :=
        { (s.use u).use u with held := s.held - 1, callback := .releasing (some u) }
      have hback : At .disabling (queued + 1) held false { stored with
          queued := s.queued + 1, callback := .idle } :=
        { h with
          queued := congrArg (· + 1) h.queued
          held := congrArg (· - 1) h.held
          callback := rfl }
      rcases ih hback with ⟨t, ht, hat⟩
      refine ⟨t, .head hbegin trivial nofun (.head (t := stored) (l := .store) rfl trivial nofun
        (.head (l := .recycle true) (congrArg some (if_neg hnot)) rfl nofun ht)), ?_⟩
      rw [Nat.add_assoc, Nat.add_comm 1 held] at hat
      exact hat

/-- A call returns a picture, if the port is not enabled and there is a header
    to store it in. -/
theorem repeatable_of_header {k : Nat} {s : Capturing} (hidle : s.caller = .idle)
    (he : s.enabled = false) (hheld : s.held = 0) (hcallback : s.callback = .idle)
    (hq : s.queued = k + 1) : Repeatable s := by
  -- The schedule: all headers are sent, one of them comes back with the end of
  -- the image, and the others come back while the port is being disabled.
  let started : Capturing := { s with
    userdata := some s.deletions.length
    deletions := create s.deletions
    destructions := create s.destructions
    posts := 0
    caller := .starting }
  have hcall : captureStep s .call = some started := if_pos hidle
  have henable : captureStep started (.enable true) =
      some { started with enabled := true, caller := .sending s.queued } := by
    refine congrArg some (if_neg ?_)
    rintro (h | h)
    · exact absurd (he.symm.trans h) Bool.false_ne_true
    · exact nomatch h
  have hsending : At (.sending s.queued) s.queued 0 true
      { started with enabled := true, caller := .sending s.queued } :=
    ⟨rfl, rfl, hheld, rfl, hcallback, nofun⟩
  rcases at_sends s.queued hsending with ⟨t, ht, hsent⟩
  have hcapture : captureStep t (.capture true) = some { t with caller := .waiting } :=
    if_pos hsent.caller
  have hwaiting : At .waiting 0 (k + 1) true { t with caller := .waiting } :=
    { hsent with caller := rfl, held := hsent.held.trans ((Nat.zero_add _).trans hq) }
  rcases at_image hwaiting with ⟨u, hu, hposted, hposts⟩
  let woken : Capturing := { u with posts := u.posts - 1, caller := .woken }
  have hwake : captureStep u .wake = some woken := if_pos ⟨hposted.caller, hposts⟩
  let stopping : Capturing :=
    { woken with destructions := destroy u.destructions u.current, caller := .stopping }
  have hdestroy : captureStep woken .destroySemaphore = some stopping := rfl
  have hdisable : captureStep stopping .disable =
      some { stopping with enabled := false, caller := .disabling } :=
    congrArg some (if_pos hposted.enabled)
  have hdisabling : At .disabling 0 (k + 1) false
      { stopping with enabled := false, caller := .disabling } :=
    { hposted with caller := rfl, enabled := rfl }
  rcases at_returns (k + 1) hdisabling with ⟨v, hv, hreturned⟩
  have hdisabled : captureStep v (.disabled true) = some { v with caller := .done } := by
    change (if v.caller = .disabling then _ else none) = _
    rw [if_pos hreturned.caller, if_pos rfl, if_pos ⟨hreturned.held, hreturned.callback⟩]
  have hfinish : captureStep { v with caller := .done } .finish = some _ := rfl
  have hreaches : Reaches started { v with caller := .done } :=
    .head henable rfl nofun (ht.trans (.head hcapture rfl nofun (hu.trans
      (.head hwake trivial nofun (.head hdestroy trivial nofun (.head hdisable trivial nofun
        (hv.trans (.head hdisabled rfl nofun (.refl _)))))))))
  exact ⟨started, _, _, hcall, hreaches, hfinish⟩

/-- A call can return a picture exactly when the port is not enabled and there
    is a header to store it in. -/
theorem repeatable_iff {n : Nat} {s : Capturing} (hst : Standing n s) (hidle : s.caller = .idle) :
    Repeatable s ↔ s.enabled = false ∧ 0 < s.queued := by
  constructor
  · rintro ⟨t, u, v, hcall, ⟨ls, -, hrun⟩, hfinish⟩
    have hdone : u.caller = .done := (captureStep_some hfinish).1
    have hrun' : run captureStep s (.call :: ls) = some u := by
      rw [run_cons, hcall, Option.bind_some, hrun]
    -- Neither a blocked call nor a starved one comes to its end.
    have he : s.enabled = false := by
      rw [← Bool.not_eq_true]
      intro he
      have hblocked : Blocked u := run_invariant blocked_step ⟨he, Or.inl hidle⟩ hrun'
      rcases hblocked.2 with hc | hc | hc <;> exact nomatch hdone.symm.trans hc
    refine ⟨he, Nat.pos_of_ne_zero fun hq => ?_⟩
    have hback := hst.back he (fun hd => nomatch hidle.symm.trans hd)
    have hstarved : Starved t := by
      rcases captureStep_some hcall with ⟨_, rfl⟩
      exact ⟨hq, hback.1, hback.2, rfl, Or.inr (Or.inl rfl)⟩
    rcases (run_invariant starved_step hstarved hrun).caller with hc | hc | hc | hc | hc <;>
      exact nomatch hdone.symm.trans hc
  · rintro ⟨he, hq⟩
    have hback := hst.back he (fun hd => nomatch hidle.symm.trans hd)
    exact repeatable_of_header hidle he hback.1 hback.2 (Nat.succ_pred_eq_of_pos hq).symm

/-- Between two calls everything is as it was exactly when nothing was left
    behind so far. -/
theorem tidy_iff {n : Nat} {s : Capturing} (hst : Standing n s) (hidle : s.caller = .idle) :
    Tidy s ↔ s.enabled = false ∧ s.queued = n := by
  constructor
  · intro hs
    have he : s.enabled = false := hs.closed (by rw [hidle]; rfl)
    have hback := hst.back he (fun hd => nomatch hidle.symm.trans hd)
    have hcount := hst.count
    rw [hback.1, hback.2, hs.lost] at hcount
    exact ⟨he, hcount⟩
  · rintro ⟨he, hq⟩
    have hcount := hst.count
    exact ⟨by omega, fun _ => he⟩

/-- After any number of calls, whatever they returned, the port still has the
    pointer to the user data of the last one, and it is disabled and all the
    headers are in the queue exactly when no send, no capture and no disabling
    has failed so far. A following call is refused only when the port was left
    enabled, and can return a picture exactly when it was not and there is a
    header left. -/
theorem leftovers_iff {n : Nat} {s : Capturing} {ls : List CaptureOp}
    (h : run captureStep (.init n) ls = some s) (hidle : s.caller = .idle)
    (hcalled : s.deletions ≠ []) :
    ¬ LeftUsable n s ∧
      (s.enabled = false ∧ s.queued = n ↔
        Along captureStep (fun t l => l.Restores t) (.init n) ls) ∧
      (Accepting s ↔ s.enabled = false) ∧
      (Repeatable s ↔ s.enabled = false ∧ 0 < s.queued) := by
  have hst : Standing n s := run_invariant (fun _ _ _ => standing_step) (standing_init n) h
  refine ⟨fun hu => hu.forgotten (hst.userdata hcalled), ?_, accepting_iff hst hidle,
    repeatable_iff hst hidle⟩
  -- What is left behind stays, so that the last state tells of all of them.
  rw [← tidy_iff hst hidle, ← always_iff_last tidy_of_step h,
    always_strengthen (fun _ _ _ hs _ h _ => standing_step hs h) (standing_init n)]
  exact always_iff_along tidy_step ⟨standing_init n, tidy_init n⟩

/-- One picture is taken. -/
theorem leftovers_once : ∃ s,
    run captureStep (.init 1) [.call, .enable true, .send true, .capture true, .begin true, .store,
      .post, .recycle true, .wake, .destroySemaphore, .disable, .begin false, .store, .recycle true,
      .disabled true, .finish] = some s ∧ s.enabled = false ∧ s.queued = 1 ∧ Repeatable s := by
  have hrun : run captureStep (.init 1) [.call, .enable true, .send true, .capture true,
      .begin true, .store, .post, .recycle true, .wake, .destroySemaphore, .disable, .begin false,
      .store, .recycle true, .disabled true, .finish] = some _ := rfl
  exact ⟨_, hrun, rfl, rfl, (leftovers_iff hrun rfl nofun).2.2.2.mpr ⟨rfl, Nat.one_pos⟩⟩

/-- The capture cannot be started. The port stays enabled with a pointer to
    deleted user data and keeps the header, and the next call gives up, although
    every MMAL call succeeds. -/
theorem failed_capture_blocks : ∃ s,
    run captureStep (.init 1) [.call, .enable true, .send true, .capture false, .giveUp] = some s ∧
      ¬ LeftUsable 1 s ∧ s.enabled = true ∧ s.userdata = some s.current ∧ s.queued = 0 ∧
      (run captureStep s [.call, .enable true, .giveUp]).isSome = true :=
  ⟨_, rfl, fun h => (nomatch h.disabled), rfl, rfl, rfl, rfl⟩

end Still

end RaspiCam
