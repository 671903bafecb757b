import RaspiCam.Lib.Machine
import RaspiCam.Lib.Run
import RaspiCam.Lib.Threads

/-!
# The Life of a Component

`mmal_component.c` counts the references to a component twice. `refcount` counts
those of the clients, `refcount_ports` those to its ports, which every payload
that was allocated through a port holds. A component is destroyed when both are
gone. Whoever gives up the last one has to do it, be it
`mmal_component_release_internal` or `mmal_port_release`, and the two can run
at the same time.

The first of them gives up the lock in between, to disable and disconnect the
ports, and sets `destruction_pending` for that time. A port reference that is
given up meanwhile leaves the destruction to it. If there still is one
afterwards, the destruction is left to whoever gives that one up.

`component_destroyed_iff` says that this works out in every order of the steps:
`mmal_component_destroy_internal` runs once, and not before nobody has a
reference or is still busy with the component. It frees the component, unless
the component itself refuses to be destroyed; then nobody ever frees it.

Busy is not quite the word for a thread that leaves the destruction to another
one. It gives up the lock and then writes a line of trace with the name of the
component, which may be freed by that time.

A client only acquires a reference while it has one, and no more than fit into
a count. What the ports do while they are disabled is not followed here.

## Main definitions

* `ReleasePlace`: How far a thread is that gives up a reference.
* `Life`: The counts, and what the clients have.
* `lifeStep`: The steps, in any order.
* `Settled`: The invariant.

## Theorems

* `settled_step`: Every step keeps the invariant.
* `component_destroyed_iff`: When a component is destroyed.
-/

namespace RaspiCam

namespace Framework

open Machine Threads Transition

/-- How far a thread is that gives up a reference. -/
inductive ReleasePlace
  -- `mmal_component_release_internal`, before the lock is taken
  | releasing
  -- the count of the clients is zero, and the ports are being disabled
  | disabling
  -- `mmal_port_release`, before the lock is taken
  | portReleasing
  -- `mmal_component_destroy_internal` is called
  | destroying
  -- the destruction is left to somebody else, and only a line of trace is left
  | tracing
deriving DecidableEq

/-- The counts of a component, each of them an `int`, the references that
    clients have and are not giving up, and how often it was freed, or refused
    to be destroyed. -/
structure Life where
  refcount : Int
  refcountPorts : Int
  destructionPending : Bool
  held : Nat
  portsHeld : Nat
  freed : Nat
  refused : Nat
  places : List ReleasePlace

/-- A new component, and the reference of who made it. -/
def Life.init : Life := ⟨1, 0, false, 1, 0, 0, 0, []⟩

/-- The steps: a reference is acquired, a client begins to give one up, or a
    thread goes on. `destroys` is what `pf_destroy` answers, if it is asked. -/
inductive LifeStep
  | acquire
  | release
  | portAcquire
  | portRelease
  | go (t : ReleasePlace) (destroys : Bool)
deriving DecidableEq

/-- A thread moves on. -/
def Life.move (s : Life) (t : ReleasePlace) (next : Option ReleasePlace) : Option Life :=
  (advance s.places t next).map fun places => { s with places := places }

/-- `mmal_component_destroy_internal`. If `pf_destroy` fails nothing is freed. -/
def mmalComponentDestroyInternal (destroys : Bool) (s : Life) : Life :=
  if destroys then { s with freed := s.freed + 1 } else { s with refused := s.refused + 1 }

/-- The next step of a thread. Whatever it does to the counts it does with the
    lock held. -/
def lifeGo (s : Life) (t : ReleasePlace) (destroys : Bool) : Option Life :=
  match t with
  | .releasing =>
    let s : Life := { s with refcount := i32 (s.refcount - 1) }
    if s.refcount ≠ 0 then s.move t none
    else { s with destructionPending := true }.move t (some .disabling)
  -- Once the ports are disabled and disconnected.
  | .disabling =>
    if s.refcountPorts ≠ 0 then { s with destructionPending := false }.move t (some .tracing)
    else s.move t (some .destroying)
  | .portReleasing =>
    let s : Life := { s with refcountPorts := i32 (s.refcountPorts - 1) }
    if s.refcountPorts ≠ 0 ∨ s.refcount ≠ 0 ∨ s.destructionPending = true then s.move t none
    else s.move t (some .destroying)
  | .destroying => (mmalComponentDestroyInternal destroys s).move t none
  | .tracing => s.move t none

/-- The steps of the clients and their threads. A count that is not positive is
    an error, and nothing is done then. -/
def lifeStep (s : Life) : LifeStep → Option Life
  | .acquire =>
    if s.held = 0 then none
    else some { s with refcount := i32 (s.refcount + 1), held := s.held + 1 }
  | .release =>
    if s.held = 0 then none
    else if s.refcount ≤ 0 then some s
    else some { s with held := s.held - 1, places := .releasing :: s.places }
  | .portAcquire =>
    if s.held = 0 ∧ s.portsHeld = 0 then none
    else some { s with
                refcountPorts := i32 (s.refcountPorts + 1), portsHeld := s.portsHeld + 1 }
  | .portRelease =>
    if s.portsHeld = 0 then none
    else if s.refcountPorts ≤ 0 then some s
    else some { s with portsHeld := s.portsHeld - 1, places := .portReleasing :: s.places }
  | .go t destroys => lifeGo s t destroys

/-- There is room for one more reference in the count. -/
def LifeStep.Fits (s : Life) : LifeStep → Prop
  | .acquire => s.refcount < 2147483647
  | .portAcquire => s.refcountPorts < 2147483647
  | .release | .portRelease | .go _ _ => True

instance LifeStep.decidableFits (s : Life) : ∀ l : LifeStep, Decidable (l.Fits s)
  | .acquire => inferInstanceAs (Decidable (s.refcount < 2147483647))
  | .portAcquire => inferInstanceAs (Decidable (s.refcountPorts < 2147483647))
  | .release | .portRelease | .go _ _ => inferInstanceAs (Decidable True)

/-- Whether a thread is at a place. -/
def ReleasePlace.at (p t : ReleasePlace) : Nat := if t = p then 1 else 0

/-- The counts are right, and the destruction is the business of one thread at
    most. Without any reference it is under way, or done. -/
structure Settled (s : Life) : Prop where
  clients : s.refcount = s.held + total ReleasePlace.releasing.at s.places
  ports : s.refcountPorts = s.portsHeld + total ReleasePlace.portReleasing.at s.places
  fits : s.refcount < 2147483648 ∧ s.refcountPorts < 2147483648
  used : s.refcount ≠ 0 → total ReleasePlace.disabling.at s.places = 0
  doomed : s.refcount ≠ 0 ∨ s.refcountPorts ≠ 0 →
    total ReleasePlace.destroying.at s.places = 0 ∧ s.freed + s.refused = 0 ∧
      s.destructionPending.toNat = total ReleasePlace.disabling.at s.places
  unused : s.refcount = 0 → s.refcountPorts = 0 →
    total ReleasePlace.disabling.at s.places + total ReleasePlace.destroying.at s.places +
      (s.freed + s.refused) = 1

variable {s s' : Life}

theorem lifeMove_some {u : Life} {t : ReleasePlace} {next : Option ReleasePlace}
    (h : u.move t next = some s') :
    ∃ places, advance u.places t next = some places ∧ s' = { u with places := places } := by
  simp only [Life.move, Option.map_eq_some_iff] at h
  obtain ⟨places, hp, rfl⟩ := h
  exact ⟨places, hp, rfl⟩

theorem settled_init : Settled Life.init := by
  constructor <;> simp [Life.init]

/-- The number of threads at each place after a step. -/
theorem counts_advance {ts us : List ReleasePlace} {t : ReleasePlace} {next : Option ReleasePlace}
    (h : advance ts t next = some us) :
    let Moved := fun p : ReleasePlace =>
      total p.at us + p.at t = total p.at ts + total p.at next.toList
    Moved .releasing ∧ Moved .disabling ∧ Moved .portReleasing ∧ Moved .destroying :=
  ⟨total_advance _ h, total_advance _ h, total_advance _ h, total_advance _ h⟩

/-- A reference that is being given up counts. -/
theorem releasing_pos (hs : Settled s) {t : ReleasePlace} {next : Option ReleasePlace}
    {places : List ReleasePlace} (hp : advance s.places t next = some places) :
    (t = .releasing → i32 (s.refcount - 1) = s.refcount - 1) ∧
      (t = .portReleasing → i32 (s.refcountPorts - 1) = s.refcountPorts - 1) := by
  have hclients := hs.clients
  have hports := hs.ports
  obtain ⟨hfits, hfitsPorts⟩ := hs.fits
  constructor
  · rintro rfl
    exact i32_of_range (by omega) (by omega)
  · rintro rfl
    exact i32_of_range (by omega) (by omega)

/-- The steps of a thread. The number of threads at each place changes by one
    at most, and the rest is arithmetic. -/
theorem settled_go (hs : Settled s) {t : ReleasePlace} {destroys : Bool}
    (h : lifeGo s t destroys = some s') : Settled s' := by
  have hclients := hs.clients
  have hports := hs.ports
  have hfits := hs.fits
  have hused := hs.used
  have hdoomed := hs.doomed
  have hover := hs.unused
  cases t with
  | releasing =>
      simp only [lifeGo] at h
      split at h
      · rename_i hmore
        obtain ⟨places, hp, rfl⟩ := lifeMove_some h
        rw [(releasing_pos hs hp).1 rfl] at hmore ⊢
        obtain ⟨hr, hd, hpr, hde⟩ := counts_advance hp
        simp [ReleasePlace.at] at hr hd hpr hde
        constructor <;> simp only <;> omega
      · rename_i hlast
        obtain ⟨places, hp, rfl⟩ := lifeMove_some h
        rw [(releasing_pos hs hp).1 rfl] at hlast ⊢
        obtain ⟨hr, hd, hpr, hde⟩ := counts_advance hp
        simp [ReleasePlace.at] at hr hd hpr hde
        constructor <;> simp only [Bool.toNat_true] <;> omega
  | disabling =>
      simp only [lifeGo] at h
      split at h
      · rename_i hports'
        obtain ⟨places, hp, rfl⟩ := lifeMove_some h
        obtain ⟨hr, hd, hpr, hde⟩ := counts_advance hp
        have hle := Bool.toNat_le s.destructionPending
        simp [ReleasePlace.at] at hr hd hpr hde
        constructor <;> simp only [Bool.toNat_false] <;> omega
      · obtain ⟨places, hp, rfl⟩ := lifeMove_some h
        obtain ⟨hr, hd, hpr, hde⟩ := counts_advance hp
        simp [ReleasePlace.at] at hr hd hpr hde
        constructor <;> simp only <;> omega
  | portReleasing =>
      simp only [lifeGo] at h
      have hpending : s.destructionPending = true ↔ s.destructionPending.toNat = 1 := by
        cases s.destructionPending <;> simp
      have hle := Bool.toNat_le s.destructionPending
      split at h
      · rename_i hleft
        obtain ⟨places, hp, rfl⟩ := lifeMove_some h
        rw [(releasing_pos hs hp).2 rfl, hpending] at hleft
        rw [(releasing_pos hs hp).2 rfl]
        obtain ⟨hr, hd, hpr, hde⟩ := counts_advance hp
        simp [ReleasePlace.at] at hr hd hpr hde
        constructor <;> simp only <;> omega
      · rename_i hleft
        obtain ⟨places, hp, rfl⟩ := lifeMove_some h
        rw [(releasing_pos hs hp).2 rfl, hpending] at hleft
        rw [(releasing_pos hs hp).2 rfl]
        obtain ⟨hr, hd, hpr, hde⟩ := counts_advance hp
        simp [ReleasePlace.at] at hr hd hpr hde
        constructor <;> simp only <;> omega
  | destroying =>
      -- Freed or not, it was destroyed once more.
      obtain ⟨u, hu, hcount⟩ : ∃ u : Life, u.move .destroying none = some s' ∧
          (u.freed + u.refused = s.freed + s.refused + 1 ∧
            u = { s with freed := u.freed, refused := u.refused }) := by
        refine ⟨_, h, ?_⟩
        unfold mmalComponentDestroyInternal
        cases destroys
        · exact ⟨by simp only [Bool.false_eq_true, if_false]; omega, rfl⟩
        · exact ⟨by simp only [if_true]; omega, rfl⟩
      obtain ⟨hmore, hsame⟩ := hcount
      obtain ⟨places, hp, rfl⟩ := lifeMove_some hu
      rw [hsame] at hp ⊢
      have hone := le_total ReleasePlace.destroying.at (mem_of_advance hp)
      obtain ⟨hr, hd, hpr, hde⟩ := counts_advance hp
      simp [ReleasePlace.at] at hr hd hpr hde hone
      constructor <;> simp only <;> omega
  | tracing =>
      obtain ⟨places, hp, rfl⟩ := lifeMove_some h
      obtain ⟨hr, hd, hpr, hde⟩ := counts_advance hp
      simp [ReleasePlace.at] at hr hd hpr hde
      constructor <;> simp only <;> omega

theorem settled_step (s : Life) (l : LifeStep) (s' : Life) (hs : Settled s) (hl : l.Fits s)
    (h : lifeStep s l = some s') : Settled s' := by
  cases l with
  | acquire =>
      simp only [lifeStep] at h
      split at h
      · cases h
      · cases h
        obtain ⟨hclients, hports, hfits, hused, hdoomed, hover⟩ := hs
        simp only [LifeStep.Fits] at hl
        rw [i32_of_range (by omega) (by omega)]
        constructor <;> simp only <;> omega
  | release =>
      simp only [lifeStep] at h
      split at h
      · cases h
      · obtain ⟨hclients, hports, hfits, hused, hdoomed, hover⟩ := hs
        split at h
        · omega
        · cases h
          constructor <;> simp [ReleasePlace.at] <;> omega
  | portAcquire =>
      simp only [lifeStep] at h
      split at h
      · cases h
      · cases h
        obtain ⟨hclients, hports, hfits, hused, hdoomed, hover⟩ := hs
        simp only [LifeStep.Fits] at hl
        rw [i32_of_range (by omega) (by omega)]
        constructor <;> simp only <;> omega
  | portRelease =>
      simp only [lifeStep] at h
      split at h
      · cases h
      · obtain ⟨hclients, hports, hfits, hused, hdoomed, hover⟩ := hs
        split at h
        · omega
        · cases h
          constructor <;> simp [ReleasePlace.at] <;> omega
  | go t destroys => exact settled_go hs h

/-- The threads that are busy with the component. -/
theorem only_tracing_iff (ts : List ReleasePlace) :
    (∀ t ∈ ts, t = .tracing) ↔ total ReleasePlace.releasing.at ts = 0 ∧
      total ReleasePlace.disabling.at ts = 0 ∧ total ReleasePlace.portReleasing.at ts = 0 ∧
      total ReleasePlace.destroying.at ts = 0 := by
  simp only [total_eq_zero_iff]
  constructor
  · intro h
    have hzero : ∀ p : ReleasePlace, p ≠ .tracing → ∀ t ∈ ts, p.at t = 0 := fun p hp t ht => by
      rw [h t ht, ReleasePlace.at, if_neg (Ne.symm hp)]
    exact ⟨hzero _ nofun, hzero _ nofun, hzero _ nofun, hzero _ nofun⟩
  · rintro ⟨hr, hd, hpr, hde⟩ t ht
    cases t with
    | releasing => exact absurd (hr _ ht) Nat.one_ne_zero
    | disabling => exact absurd (hd _ ht) Nat.one_ne_zero
    | portReleasing => exact absurd (hpr _ ht) Nat.one_ne_zero
    | destroying => exact absurd (hde _ ht) Nat.one_ne_zero
    | tracing => rfl

/-- In every run without an overflow a component is destroyed once nobody has a
    reference to it or its ports and no thread is in one of its functions any
    more, but for the last line of trace. It is not destroyed before that, nor a
    second time, whether it refuses or not. -/
theorem component_destroyed_iff {ls : List LifeStep}
    (hfits : Along lifeStep (fun s l => l.Fits s) Life.init ls)
    (h : run lifeStep Life.init ls = some s) :
    s.freed + s.refused =
      if s.held = 0 ∧ s.portsHeld = 0 ∧ ∀ t ∈ s.places, t = .tracing then 1 else 0 := by
  obtain ⟨hclients, hports, _, hused, hdoomed, hover⟩ :=
    run_invariant_along settled_step settled_init hfits h
  by_cases hgone : s.held = 0 ∧ s.portsHeld = 0 ∧ ∀ t ∈ s.places, t = .tracing
  · rw [if_pos hgone]
    rw [only_tracing_iff] at hgone
    have hone := hover (by omega) (by omega)
    omega
  · rw [if_neg hgone]
    rw [only_tracing_iff] at hgone
    -- Somebody is left: a reference, or a thread that has still to destroy it.
    by_contra hc
    exact hgone (by omega)

/-- The client gives up its reference while the port has one. The one who gives
    that up destroys the component. -/
theorem component_destroyed_by_port :
    ∃ s, run lifeStep Life.init [.portAcquire, .release, .go .releasing false,
        .go .disabling false, .go .tracing false, .portRelease, .go .portReleasing false,
        .go .destroying true] = some s ∧ s.freed + s.refused = 1 := by
  refine ⟨_, rfl, ?_⟩
  exact component_destroyed_iff (by decide) (show run lifeStep Life.init [.portAcquire, .release,
    .go .releasing false, .go .disabling false, .go .tracing false, .portRelease,
    .go .portReleasing false, .go .destroying true] = some _ from rfl)

-- A thread that leaves the destruction to the port may be slower, and has still
-- to write the name of the component when that is freed.
example : ∃ s, run lifeStep Life.init [.portAcquire, .release, .go .releasing false,
      .go .disabling false, .portRelease, .go .portReleasing false, .go .destroying true] =
    some s ∧ s.freed = 1 ∧ .tracing ∈ s.places := ⟨_, rfl, rfl, by decide⟩

end Framework

end RaspiCam
