import RaspiCam.Framework.Queue
import RaspiCam.Lib.Simulation
import RaspiCam.Lib.Threads

/-!
# The Queues under Threads

The same functions as in `Framework.Queue`, run by any number of threads. Every
queue has a lock and a semaphore. The links are only touched by a thread that
holds the lock, so between two steps the queue is a list. The semaphore is
another matter. `mmal_queue_wait` takes it without the lock, posts it again and
then calls `mmal_queue_get`, which takes it once more, this time with the lock
held. A thread that holds the lock and waits for a semaphore could stop
everybody, and the comment at the wait says that it "will always succeed".

It does succeed. The semaphore falls short of the length of the queue by one
for every thread that has taken it and not posted it yet, or not removed its
header yet, and the first kind needs no lock to go on, `progress`. While a
thread waits there the others have only a few steps left, `claim_ends`.

Seen from outside, each call does all it does in one step on a list, at some
moment between its beginning and its end: `linearizable`.

What the wait does not do is reserve a header. Another thread can take it
before `mmal_queue_get` has the lock, and then `mmal_queue_wait` returns a null
pointer although it was told to wait. With one consumer at a time it never
does, `wait_returns_header`.

## Main definitions

* `Place`: How far a thread is.
* `Shared`: The queue, its lock and its semaphore, and the threads.
* `queueStep`: The steps, in any order.
* `Atomic`, `atomicStep`: The calls, when each does its work in one step.

## Theorems

* `queue_consistent`: The invariant of every run.
* `linearizable`: Every run looks like one of atomic calls.
* `progress`: Only a thread that waits on an empty queue can be stuck.
* `claim_ends`: What can happen while a thread waits with the lock held.
* `wait_returns_header`: What a single consumer gets.
-/

namespace RaspiCam

namespace Framework

open Threads Transition

variable {η : Type*}

/-- How far a thread is in one of the calls. A thread that came through
    `mmal_queue_wait` or `mmal_queue_timedwait` has waited. -/
inductive Place (η : Type*)
  -- `mmal_queue_put` and `mmal_queue_put_back`, before the lock is taken
  | putting (front : Bool) (b : η)
  -- the header is linked in
  | posting
  -- before the semaphore is taken, with or without a time limit
  | waiting (limited : Bool)
  -- the semaphore is taken, and has to be posted again
  | reposting
  -- `mmal_queue_get`, before the lock is taken
  | getting (waited : Bool)
  -- there is a first header, and the semaphore is not taken yet
  | claiming (waited : Bool) (b : η)
  -- the semaphore is taken
  | taking (waited : Bool) (b : η)
  -- all is done but to release the lock; `put` has no result
  | leaving (result : Option (Bool × Option η))
deriving DecidableEq

/-- Whether a thread holds the lock. -/
def Place.holds : Place η → Nat
  | .putting _ _ | .waiting _ | .reposting | .getting _ => 0
  | .posting | .claiming _ _ | .taking _ _ | .leaving _ => 1

/-- What the semaphore falls short of because of a thread: its header is in the
    queue and not counted yet, or not any more. -/
def Place.owes : Place η → Nat
  | .posting | .reposting | .taking _ _ => 1
  | .putting _ _ | .waiting _ | .getting _ | .claiming _ _ | .leaving _ => 0

/-- Whether a thread is about to take a header. -/
def Place.consumes : Place η → Nat
  | .waiting _ | .reposting | .getting _ | .claiming _ _ | .taking _ _ => 1
  | .putting _ _ | .posting | .leaving _ => 0

/-- A header is added at one of the ends. -/
def addItem (front : Bool) (b : η) (l : List η) : List η := if front then b :: l else l ++ [b]

/-- A queue and the threads in its functions. -/
structure Shared (η : Type*) where
  items : List η
  semaphore : Nat
  locked : Bool
  places : List (Place η)

/-- A new queue. -/
def Shared.init : Shared η := ⟨[], 0, false, []⟩

/-- The steps: a call begins, a thread goes on, or it gives up waiting. -/
inductive QueueStep (η : Type*)
  | put (front : Bool) (b : η)
  | get
  | wait (limited : Bool)
  | go (t : Place η)
  | timeout
deriving DecidableEq

variable [DecidableEq η]

/-- A thread moves on. -/
def Shared.move (s : Shared η) (t : Place η) (next : Option (Place η)) : Option (Shared η) :=
  (advance s.places t next).map fun places => { s with places := places }

/-- The next step of a thread. It is not possible as long as the lock is held
    by another thread, or the semaphore is at zero. -/
def goStep (s : Shared η) (t : Place η) : Option (Shared η) :=
  match t with
  | .putting front b =>
    if s.locked then none
    else { s with locked := true, items := addItem front b s.items }.move t (some .posting)
  | .posting => { s with semaphore := s.semaphore + 1 }.move t (some (.leaving none))
  | .waiting _ =>
    if s.semaphore = 0 then none
    else { s with semaphore := s.semaphore - 1 }.move t (some .reposting)
  | .reposting => { s with semaphore := s.semaphore + 1 }.move t (some (.getting true))
  | .getting waited =>
    if s.locked then none
    else match s.items with
      | [] => { s with locked := true }.move t (some (.leaving (some (waited, none))))
      | b :: _ => { s with locked := true }.move t (some (.claiming waited b))
  | .claiming waited b =>
    if s.semaphore = 0 then none
    else { s with semaphore := s.semaphore - 1 }.move t (some (.taking waited b))
  | .taking waited b =>
    { s with items := s.items.tail }.move t (some (.leaving (some (waited, some b))))
  | .leaving _ => { s with locked := false }.move t none

/-- The steps of a queue and its threads. -/
def queueStep (s : Shared η) : QueueStep η → Option (Shared η)
  | .put front b => some { s with places := .putting front b :: s.places }
  | .get => some { s with places := .getting false :: s.places }
  | .wait limited => some { s with places := .waiting limited :: s.places }
  | .go t => goStep s t
  | .timeout => s.move (.waiting true) none

/-- What holds between any two steps. -/
structure Consistent (s : Shared η) : Prop where
  tokens : s.items.length = s.semaphore + total Place.owes s.places
  lock : total Place.holds s.places = s.locked.toNat
  claimed : ∀ t ∈ s.places, ∀ w b, t = .claiming w b ∨ t = .taking w b → s.items.head? = some b

variable {s s' : Shared η}

omit [DecidableEq η] in
theorem consistent_init : Consistent (Shared.init : Shared η) :=
  ⟨rfl, rfl, by simp [Shared.init]⟩

theorem move_some {u : Shared η} {t : Place η} {next : Option (Place η)}
    (h : u.move t next = some s') :
    ∃ places, advance u.places t next = some places ∧ s' = { u with places := places } := by
  simp only [Shared.move, Option.map_eq_some_iff] at h
  obtain ⟨places, hp, rfl⟩ := h
  exact ⟨places, hp, rfl⟩

/-- While a thread has the lock, or takes it, nobody else holds it. -/
theorem others_outside (hs : Consistent s) {t : Place η} {next : Option (Place η)}
    {places : List (Place η)} (h : advance s.places t next = some places)
    (ht : s.locked.toNat ≤ t.holds) {u : Place η} (hu : u ∈ places) :
    next = some u ∨ u.holds = 0 := by
  have htotal := hs.lock
  rcases advance_alone (w := Place.holds) h (by omega) hu with hnext | ⟨_, hzero⟩
  · exact Or.inl hnext
  · exact Or.inr hzero

omit [DecidableEq η] in
/-- Who knows the first header holds the lock. -/
theorem holds_of_claimed {t : Place η} {w : Bool} {b : η}
    (h : t = .claiming w b ∨ t = .taking w b) : t.holds = 1 := by
  rcases h with rfl | rfl <;> rfl

omit [DecidableEq η] in
theorem length_addItem (front : Bool) (b : η) (l : List η) :
    (addItem front b l).length = l.length + 1 := by
  cases front <;> simp [addItem]

/-- A step that does not touch the list. Who knows the first header after it
    has just looked, or knew it before. -/
theorem Consistent.quiet (hs : Consistent s) {u : Shared η} {t : Place η}
    {next : Option (Place η)} {places : List (Place η)}
    (hp : advance s.places t next = some places) (hitems : u.items = s.items)
    (hsema : u.semaphore + total Place.owes next.toList = s.semaphore + t.owes)
    (hlocked : u.locked.toNat + t.holds = s.locked.toNat + total Place.holds next.toList)
    (hnext : ∀ w b, next = some (.claiming w b) ∨ next = some (.taking w b) →
      s.items.head? = some b) :
    Consistent { u with places := places } := by
  have howes := total_advance Place.owes hp
  have hholds := total_advance Place.holds hp
  have htokens := hs.tokens
  have hlock := hs.lock
  refine ⟨?_, ?_, ?_⟩
  · simp only [hitems]
    omega
  · simp only
    omega
  · intro v hv w b hvb
    rw [hitems]
    rcases mem_advance hp hv with rfl | hold
    · exact hnext w b (by simpa using hvb)
    · exact hs.claimed v hold w b hvb

/-- A step that changes the list, by a thread that has the lock or takes it,
    and that has nothing to do with the first header afterwards. -/
theorem Consistent.change (hs : Consistent s) {u : Shared η} {t : Place η}
    {next : Place η} {places : List (Place η)}
    (hp : advance s.places t (some next) = some places)
    (hlen : u.items.length + t.owes = s.items.length + next.owes)
    (hsema : u.semaphore = s.semaphore) (ht : s.locked.toNat ≤ t.holds)
    (hlocked : u.locked.toNat + t.holds = s.locked.toNat + next.holds)
    (hnext : ∀ w b, ¬ (next = .claiming w b ∨ next = .taking w b)) :
    Consistent { u with places := places } := by
  have howes := total_advance Place.owes hp
  have hholds := total_advance Place.holds hp
  have htokens := hs.tokens
  have hlock := hs.lock
  simp only [Option.toList_some, total_cons, total_nil] at howes hholds
  refine ⟨?_, ?_, ?_⟩
  · simp only
    omega
  · simp only
    omega
  · intro v hv w b hvb
    have hone := holds_of_claimed hvb
    rcases others_outside hs hp ht hv with hv' | hzero
    · cases hv'
      exact absurd hvb (hnext w b)
    · omega

/-- A step of a thread. -/
theorem consistent_go (hs : Consistent s) {t : Place η} (h : goStep s t = some s') :
    Consistent s' := by
  cases t with
  | putting front b =>
      simp only [goStep] at h
      split at h
      · cases h
      · rename_i hfree
        obtain ⟨places, hp, rfl⟩ := move_some h
        rw [Bool.not_eq_true] at hfree
        exact hs.change hp (by simp [Place.owes, length_addItem]) rfl
          (by simp [hfree]) (by simp [hfree, Place.holds]) (by simp)
  | posting =>
      obtain ⟨places, hp, rfl⟩ := move_some h
      exact hs.quiet hp rfl (by simp [Place.owes]) (by simp [Place.holds]) (by simp)
  | waiting limited =>
      simp only [goStep] at h
      split at h
      · cases h
      · obtain ⟨places, hp, rfl⟩ := move_some h
        refine hs.quiet hp rfl ?_ (by simp [Place.holds]) (by simp)
        simp only [Place.owes, Option.toList_some, total_cons, total_nil]
        omega
  | reposting =>
      obtain ⟨places, hp, rfl⟩ := move_some h
      exact hs.quiet hp rfl (by simp [Place.owes]) (by simp [Place.holds]) (by simp)
  | getting waited =>
      simp only [goStep] at h
      split at h
      · cases h
      · rename_i hfree
        rw [Bool.not_eq_true] at hfree
        cases hitems : s.items with
        | nil =>
            rw [hitems] at h
            obtain ⟨places, hp, rfl⟩ := move_some h
            exact hs.change hp (by simp [hitems, Place.owes]) rfl (by simp [hfree])
              (by simp [hfree, Place.holds]) (by simp)
        | cons b rest =>
            rw [hitems] at h
            obtain ⟨places, hp, rfl⟩ := move_some h
            exact hs.quiet hp hitems.symm (by simp [Place.owes]) (by simp [hfree, Place.holds])
              (by simp [hitems])
  | claiming waited b =>
      simp only [goStep] at h
      split at h
      · cases h
      · obtain ⟨places, hp, rfl⟩ := move_some h
        have hfirst := hs.claimed _ (mem_of_advance hp) waited b (Or.inl rfl)
        refine hs.quiet hp rfl ?_ (by simp [Place.holds]) (by simp [hfirst])
        simp only [Place.owes, Option.toList_some, total_cons, total_nil]
        omega
  | taking waited b =>
      obtain ⟨places, hp, rfl⟩ := move_some h
      have hfirst := hs.claimed _ (mem_of_advance hp) waited b (Or.inr rfl)
      have hpos : 0 < s.items.length := by
        rw [List.length_pos_iff]
        intro hc
        simp [hc] at hfirst
      refine hs.change hp ?_ rfl (Bool.toNat_le _)
        (by simp [Place.holds]) (by simp)
      simp only [Place.owes, List.length_tail]
      omega
  | leaving result =>
      obtain ⟨places, hp, rfl⟩ := move_some h
      have hlock := hs.lock
      have hone := le_total Place.holds (mem_of_advance hp)
      refine hs.quiet hp rfl (by simp [Place.owes]) ?_ (by simp)
      simp only [Place.holds, Option.toList_none, total_nil, Bool.toNat_false] at hone ⊢
      have hle := Bool.toNat_le s.locked
      omega

/-- Every step keeps the invariant. -/
theorem consistent_step (s : Shared η) (l : QueueStep η) (s' : Shared η) (hs : Consistent s)
    (h : queueStep s l = some s') : Consistent s' := by
  cases l with
  | put front b =>
      cases h
      exact ⟨by simpa [Place.owes] using hs.tokens, by simpa [Place.holds] using hs.lock,
        by simpa using hs.claimed⟩
  | get =>
      cases h
      exact ⟨by simpa [Place.owes] using hs.tokens, by simpa [Place.holds] using hs.lock,
        by simpa using hs.claimed⟩
  | wait limited =>
      cases h
      exact ⟨by simpa [Place.owes] using hs.tokens, by simpa [Place.holds] using hs.lock,
        by simpa using hs.claimed⟩
  | go t => exact consistent_go hs h
  | timeout =>
      obtain ⟨places, hp, rfl⟩ := move_some h
      exact hs.quiet hp rfl (by simp [Place.owes]) (by simp [Place.holds]) (by simp)

theorem queue_consistent {ls : List (QueueStep η)} (h : run queueStep Shared.init ls = some s) :
    Consistent s := run_invariant consistent_step consistent_init h

/-! ## What it looks like from outside -/

/-- A call that does its work in one step: before it, or after it. -/
inductive Atomic (η : Type*)
  | put (front : Bool) (b : η)
  | take (waited : Bool)
  | done (result : Option (Bool × Option η))
deriving DecidableEq

/-- What a client sees of the calls. -/
inductive Event (η : Type*)
  | put (front : Bool) (b : η)
  | get
  | wait (limited : Bool)
  | returned (result : Option (Bool × Option η))
  | timeout

/-- The steps of atomic calls: what is seen of them, and the work. -/
inductive AtomicStep (η : Type*)
  | seen (e : Event η)
  | work (p : Atomic η)

/-- Calls on a list. One that takes a header returns the first one, or nothing
    if there is none. -/
def atomicStep (s : List η × List (Atomic η)) : AtomicStep η → Option (List η × List (Atomic η))
  | .seen (.put front b) => some (s.1, .put front b :: s.2)
  | .seen .get => some (s.1, .take false :: s.2)
  | .seen (.wait _) => some (s.1, .take true :: s.2)
  | .seen (.returned result) => (advance s.2 (.done result) none).map fun ps => (s.1, ps)
  | .seen .timeout => (advance s.2 (.take true) none).map fun ps => (s.1, ps)
  | .work (.put front b) =>
    (advance s.2 (.put front b) (some (.done none))).map fun ps => (addItem front b s.1, ps)
  | .work (.take waited) =>
    (advance s.2 (.take waited) (some (.done (some (waited, s.1.head?))))).map fun ps =>
      (s.1.tail, ps)
  | .work (.done _) => none

/-- What is seen of a step. -/
def AtomicStep.event? : AtomicStep η → Option (Event η)
  | .seen e => some e
  | .work _ => none

/-- What is seen of a step of the threads. -/
def QueueStep.event? : QueueStep η → Option (Event η)
  | .put front b => some (.put front b)
  | .get => some .get
  | .wait limited => some (.wait limited)
  | .go (.leaving result) => some (.returned result)
  | .go _ => none
  | .timeout => some .timeout

/-- Where an atomic call would be. A call has done its work once it has the
    lock and needs nothing but to let go of it, or to post. -/
def Place.atomic : Place η → Atomic η
  | .putting front b => .put front b
  | .posting => .done none
  | .waiting _ | .reposting => .take true
  | .getting waited | .claiming waited _ | .taking waited _ => .take waited
  | .leaving result => .done result

/-- The work that a step does. A thread finds out that there is nothing when it
    has the lock, and takes a header when it has the semaphore as well. -/
def goWork (s : Shared η) : Place η → List (AtomicStep η)
  | .putting front b => [.work (.put front b)]
  | .getting waited => if s.items = [] then [.work (.take waited)] else []
  | .taking waited _ => [.work (.take waited)]
  | .leaving result => [.seen (.returned result)]
  | .posting | .waiting _ | .reposting | .claiming _ _ => []

/-- What a step shows as. -/
def atomicShows (s : Shared η) : QueueStep η → List (AtomicStep η)
  | .put front b => [.seen (.put front b)]
  | .get => [.seen .get]
  | .wait limited => [.seen (.wait limited)]
  | .go t => goWork s t
  | .timeout => [.seen .timeout]

/-- The same list, and each thread where the call would be. -/
def Looks (s : Shared η) (a : List η × List (Atomic η)) : Prop :=
  a.1 = s.items ∧ a.2.Perm (s.places.map Place.atomic)

variable {a : List η × List (Atomic η)}

/-- A step that nobody sees and that does no work. -/
theorem Looks.silent (ha : Looks s a) {u : Shared η} {t next : Place η}
    (h : u.move t (some next) = some s') (hitems : u.items = s.items)
    (hplaces : u.places = s.places) (hsame : next.atomic = t.atomic) : Looks s' a := by
  obtain ⟨places, hp, rfl⟩ := move_some h
  rw [hplaces] at hp
  exact ⟨ha.1.trans hitems.symm, ha.2.trans (map_advance_perm hp hsame).symm⟩

/-- A step that shows as one of an atomic call. -/
theorem Looks.shows (ha : Looks s a) {u : Shared η} {t : Place η} {next : Option (Place η)}
    {l : AtomicStep η} (h : u.move t next = some s') (hplaces : u.places = s.places)
    (hl : ∀ ps, advance a.2 t.atomic (next.map Place.atomic) = some ps →
      atomicStep a l = some (u.items, ps)) :
    ∃ b, run atomicStep a [l] = some b ∧ Looks s' b := by
  obtain ⟨places, hp, rfl⟩ := move_some h
  rw [hplaces] at hp
  obtain ⟨ps, hps, hperm⟩ := advance_map hp ha.2
  exact ⟨(u.items, ps), by simp [run, hl ps hps], rfl, hperm⟩

theorem looks_go (hs : Consistent s) (ha : Looks s a) {t : Place η} (h : goStep s t = some s') :
    ∃ b, run atomicStep a (goWork s t) = some b ∧ Looks s' b := by
  cases t with
  | putting front b =>
      simp only [goStep] at h
      split at h
      · cases h
      · exact ha.shows h rfl fun ps hps => by
          simp only [Place.atomic, Option.map_some] at hps
          simp [atomicStep, hps, ha.1]
  | posting => exact ⟨a, rfl, ha.silent h rfl rfl rfl⟩
  | waiting limited =>
      simp only [goStep] at h
      split at h
      · cases h
      · exact ⟨a, rfl, ha.silent h rfl rfl rfl⟩
  | reposting => exact ⟨a, rfl, ha.silent h rfl rfl rfl⟩
  | getting waited =>
      simp only [goStep] at h
      split at h
      · cases h
      · cases hitems : s.items with
        | nil =>
            rw [hitems] at h
            rw [goWork, if_pos hitems]
            refine ha.shows h rfl fun ps hps => ?_
            simp only [Place.atomic, Option.map_some] at hps
            simp [atomicStep, ha.1, hitems, hps]
        | cons b rest =>
            rw [hitems] at h
            rw [goWork, if_neg (by simp [hitems])]
            exact ⟨a, rfl, ha.silent h hitems.symm rfl rfl⟩
  | claiming waited b =>
      simp only [goStep] at h
      split at h
      · cases h
      · exact ⟨a, rfl, ha.silent h rfl rfl rfl⟩
  | taking waited b =>
      -- The header that was seen under the lock is still the first one.
      have hfirst : s.items.head? = some b := by
        obtain ⟨places, hp, rfl⟩ := move_some h
        exact hs.claimed _ (mem_of_advance hp) waited b (Or.inr rfl)
      refine ha.shows h rfl fun ps hps => ?_
      simp only [Place.atomic, Option.map_some] at hps
      simp [atomicStep, ha.1, hfirst, hps]
  | leaving result =>
      refine ha.shows h rfl fun ps hps => ?_
      simp only [Place.atomic, Option.map_none] at hps
      simp [atomicStep, ha.1, hps]

theorem looks_step (s : Shared η) (l : QueueStep η) (s' : Shared η) (a : List η × List (Atomic η))
    (hs : Consistent s) (ha : Looks s a) (h : queueStep s l = some s') :
    ∃ b, run atomicStep a (atomicShows s l) = some b ∧ Looks s' b := by
  cases l with
  | put front b =>
      cases h
      exact ⟨_, rfl, ha.1, ha.2.cons _⟩
  | get =>
      cases h
      exact ⟨_, rfl, ha.1, ha.2.cons _⟩
  | wait limited =>
      cases h
      exact ⟨_, rfl, ha.1, ha.2.cons _⟩
  | go t => exact looks_go hs ha h
  | timeout =>
      refine ha.shows h rfl fun ps hps => ?_
      simp only [Place.atomic, Option.map_none] at hps
      simp [atomicStep, ha.1, hps]

omit [DecidableEq η] in
/-- Nothing is seen but what the threads show. -/
theorem event_shows (s : Shared η) (l : QueueStep η) :
    (atomicShows s l).filterMap AtomicStep.event? = l.event?.toList := by
  cases l with
  | go t =>
      cases t with
      | getting waited =>
          simp only [atomicShows, goWork, QueueStep.event?]
          split <;> rfl
      | _ => rfl
  | _ => rfl

theorem event_shown {ls : List (QueueStep η)} (h : run queueStep s ls = some s') :
    (shown queueStep atomicShows s ls).filterMap AtomicStep.event?
      = ls.filterMap QueueStep.event? := by
  rw [filterMap_shown]
  simp only [event_shows]
  induction ls generalizing s with
  | nil => rfl
  | cons l ls ih =>
      obtain ⟨m, hm, hrest⟩ := run_cons_some h
      simp only [shown, hm, ih hrest]
      cases hl : l.event? with
      | none => rw [List.filterMap_cons_none hl, Option.toList_none, List.nil_append]
      | some e => rw [List.filterMap_cons_some hl, Option.toList_some, List.singleton_append]

/-- Every run looks like one in which each call does its work in one step on a
    list: the same calls begin and return, in the same order and with the same
    results, and the list ends up as the queue. -/
theorem linearizable {ls : List (QueueStep η)} (h : run queueStep Shared.init ls = some s) :
    ∃ as ps, run atomicStep ([], []) as = some (s.items, ps) ∧
      ps.Perm (s.places.map Place.atomic) ∧
      as.filterMap AtomicStep.event? = ls.filterMap QueueStep.event? := by
  have hlooks : Looks (Shared.init : Shared η) ([], []) := ⟨rfl, List.Perm.nil⟩
  obtain ⟨⟨items, ps⟩, hrun, rfl, hperm⟩ :=
    run_shown consistent_step looks_step consistent_init hlooks h
  exact ⟨_, ps, hrun, hperm, event_shown h⟩

/-- A thread has called `mmal_queue_get` before another one has put the header,
    and returns it. -/
theorem linearizable_two :
    ∃ s, run queueStep (Shared.init : Shared Nat)
        [.put false 7, .get, .go (.putting false 7), .go .posting, .go (.leaving none),
          .go (.getting false), .go (.claiming false 7), .go (.taking false 7),
          .go (.leaving (some (false, some 7)))] = some s ∧
      ∃ as ps, run atomicStep ([], []) as = some (s.items, ps) ∧
        ps.Perm (s.places.map Place.atomic) ∧
        as.filterMap AtomicStep.event? =
          [.put false 7, .get, .returned none, .returned (some (false, some 7))] :=
  ⟨_, rfl, linearizable (show run queueStep (Shared.init : Shared Nat)
    [.put false 7, .get, .go (.putting false 7), .go .posting, .go (.leaving none),
      .go (.getting false), .go (.claiming false 7), .go (.taking false 7),
      .go (.leaving (some (false, some 7)))] = some _ from rfl)⟩

/-! ## Who can be stuck -/

/-- The thread waits for the lock. -/
def Place.wantsLock : Place η → Bool
  | .putting _ _ | .getting _ => true
  | .posting | .waiting _ | .reposting | .claiming _ _ | .taking _ _ | .leaving _ => false

/-- The thread waits for the semaphore. -/
def Place.wantsToken : Place η → Bool
  | .waiting _ | .claiming _ _ => true
  | .putting _ _ | .posting | .reposting | .getting _ | .taking _ _ | .leaving _ => false

/-- A thread can go on unless what it waits for is missing. -/
theorem can_go {t : Place η} (ht : t ∈ s.places) (hlock : t.wantsLock = true → s.locked = false)
    (htoken : t.wantsToken = true → s.semaphore ≠ 0) :
    ∃ s', queueStep s (.go t) = some s' := by
  have hmove : ∀ (u : Shared η) next, u.places = s.places → ∃ s', u.move t next = some s' := by
    intro u next hu
    obtain ⟨places, hp⟩ := advance_of_mem next ht
    exact ⟨{ u with places := places }, by simp [Shared.move, hu, hp]⟩
  cases t with
  | putting front b =>
      simp only [queueStep, goStep, hlock rfl]
      exact hmove _ _ rfl
  | posting => exact hmove _ _ rfl
  | waiting limited =>
      simp only [queueStep, goStep, if_neg (htoken rfl)]
      exact hmove _ _ rfl
  | reposting => exact hmove _ _ rfl
  | getting waited =>
      cases hitems : s.items with
      | nil =>
          simp only [queueStep, goStep, hlock rfl, hitems]
          exact hmove _ _ rfl
      | cons b rest =>
          simp only [queueStep, goStep, hlock rfl, hitems]
          exact hmove _ _ rfl
  | claiming waited b =>
      simp only [queueStep, goStep, if_neg (htoken rfl)]
      exact hmove _ _ rfl
  | taking waited b => exact hmove _ _ rfl
  | leaving result => exact hmove _ _ rfl

omit [DecidableEq η] in
/-- A thread that owes a token waits for nothing: it has only to post it, or to
    unlink its header. -/
theorem free_of_owes {t : Place η} (h : t.owes ≠ 0) :
    t.wantsLock = false ∧ t.wantsToken = false := by
  cases t with
  | posting => exact ⟨rfl, rfl⟩
  | reposting => exact ⟨rfl, rfl⟩
  | taking waited b => exact ⟨rfl, rfl⟩
  | _ => exact absurd rfl h

omit [DecidableEq η] in
theorem wantsLock_of_holds {t : Place η} (h : t.holds ≠ 0) : t.wantsLock = false := by
  cases t with
  | putting front b => exact absurd rfl h
  | getting waited => exact absurd rfl h
  | _ => rfl

omit [DecidableEq η] in
/-- The only wait of a thread with the lock is the one in `mmal_queue_get`. -/
theorem claiming_of_holds {t : Place η} (h : t.holds ≠ 0) (hw : t.wantsToken = true) :
    ∃ waited b, t = .claiming waited b := by
  cases t with
  | claiming waited b => exact ⟨waited, b, rfl⟩
  | waiting limited => exact absurd rfl h
  | _ => exact absurd hw Bool.false_ne_true

omit [DecidableEq η] in
theorem waiting_of_outside {t : Place η} (h : t.holds = 0) (hw : t.wantsToken = true) :
    ∃ limited, t = .waiting limited := by
  cases t with
  | waiting limited => exact ⟨limited, rfl⟩
  | claiming waited b => exact absurd h Nat.one_ne_zero
  | _ => exact absurd hw Bool.false_ne_true

omit [DecidableEq η] in
/-- The header that a thread is about to take is there. -/
theorem items_pos (hs : Consistent s) {waited : Bool} {b : η}
    (ht : .claiming waited b ∈ s.places) : 0 < s.items.length := by
  have hfirst := hs.claimed _ ht waited b (Or.inl rfl)
  rw [List.length_pos_iff]
  intro hempty
  rw [hempty, List.head?_nil] at hfirst
  exact absurd hfirst (Option.some_ne_none b).symm

/-- If no thread can go on, all of them wait in `mmal_queue_wait` or
    `mmal_queue_timedwait`, the lock is free, and there is nothing in the queue
    to wait for. -/
theorem progress {ls : List (QueueStep η)} (h : run queueStep Shared.init ls = some s) :
    (∃ t s', queueStep s (.go t) = some s') ∨
      s.locked = false ∧ (∀ t ∈ s.places, ∃ limited, t = .waiting limited) ∧
        (s.places = [] ∨ s.items = []) := by
  have hs := queue_consistent h
  have htokens := hs.tokens
  have hlock := hs.lock
  by_cases hgo : ∃ t s', queueStep s (.go t) = some s'
  · exact Or.inl hgo
  right
  have hstuck : ∀ t ∈ s.places, ¬ ∃ s', queueStep s (.go t) = some s' :=
    fun t _ hc => hgo ⟨t, hc⟩
  -- Who owes a token waits for nothing, so nobody does.
  have howes : total Place.owes s.places = 0 := by
    rw [total_eq_zero_iff]
    intro t ht
    by_contra hne
    obtain ⟨hnolock, hnotoken⟩ := free_of_owes hne
    exact hstuck t ht (can_go ht (by simp [hnolock]) (by simp [hnotoken]))
  have hfree : s.locked = false := by
    by_contra hheld
    rw [Bool.not_eq_false] at hheld
    have hsome : 0 < total Place.holds s.places := by simp [hlock, hheld]
    obtain ⟨t, ht, hone⟩ := exists_of_total_pos hsome
    have hwants := wantsLock_of_holds (Nat.pos_iff_ne_zero.mp hone)
    refine hstuck t ht (can_go ht (by simp [hwants]) fun htoken => ?_)
    -- The holder has seen a header. Its token is there, as nobody owes it.
    obtain ⟨w, b, rfl⟩ := claiming_of_holds (Nat.pos_iff_ne_zero.mp hone) htoken
    have hpos := items_pos hs ht
    omega
  have hwaiting : ∀ t ∈ s.places, ∃ limited, t = .waiting limited := by
    intro t ht
    have hnone : total Place.holds s.places = 0 := by rw [hlock, hfree, Bool.toNat_false]
    have hout : t.holds = 0 := total_eq_zero_iff.mp hnone t ht
    refine waiting_of_outside hout ?_
    by_contra hc
    exact hstuck t ht (can_go ht (fun _ => hfree) fun hw => absurd hw hc)
  refine ⟨hfree, hwaiting, ?_⟩
  cases hplaces : s.places with
  | nil => exact Or.inl rfl
  | cons t ts =>
      have ht : t ∈ s.places := by simp [hplaces]
      obtain ⟨limited, rfl⟩ := hwaiting t ht
      have hzero : s.semaphore = 0 := by
        by_contra hpos
        exact hstuck _ ht (can_go ht (fun _ => hfree) fun _ => hpos)
      exact Or.inr (List.length_eq_zero_iff.mp (by omega))

/-- One thread waits with the lock held, another one has taken the semaphore
    and not posted it yet. -/
def claiming : List (QueueStep Nat) :=
  [.put false 7, .go (.putting false 7), .go .posting, .go (.leaving none), .wait false,
    .go (.waiting false), .get, .go (.getting false)]

theorem progress_claiming :
    ∃ s, run queueStep (Shared.init : Shared Nat) claiming = some s ∧
      .claiming false 7 ∈ s.places ∧ s.semaphore = 0 ∧
      ((∃ t s', queueStep s (.go t) = some s') ∨
        s.locked = false ∧ (∀ t ∈ s.places, ∃ limited, t = .waiting limited) ∧
          (s.places = [] ∨ s.items = [])) := by
  refine ⟨_, rfl, by decide, rfl, ?_⟩
  exact progress (show run queueStep (Shared.init : Shared Nat) claiming = some _ from rfl)

/-- The steps a thread has left while another one has the lock and waits for
    the semaphore. -/
def Place.left : Place η → Nat
  | .waiting _ => 2
  | .reposting => 1
  | .putting _ _ | .posting | .getting _ | .claiming _ _ | .taking _ _ | .leaving _ => 0

/-- Whether a call begins. -/
def QueueStep.begins : QueueStep η → Nat
  | .put _ _ | .get | .wait _ => 1
  | .go _ | .timeout => 0

omit [DecidableEq η] in
theorem left_le (t : Place η) : t.left ≤ 2 := by
  cases t <;> simp [Place.left]

omit [DecidableEq η] in
/-- While a thread waits with the lock held, nobody else is between taking and
    releasing it. -/
theorem outside_of_claiming (hs : Consistent s) {waited : Bool} {b : η}
    (ht : .claiming waited b ∈ s.places) {u : Place η} (hu : u ∈ s.places)
    (hne : u ≠ .claiming waited b) : u.holds = 0 := by
  have hboth := add_le_total Place.holds ht hu (Ne.symm hne)
  have hlock := hs.lock
  have hle := Bool.toNat_le s.locked
  have hone : Place.holds (.claiming waited b) = 1 := rfl
  omega

omit [DecidableEq η] in
theorem locked_of_claiming (hs : Consistent s) {waited : Bool} {b : η}
    (ht : .claiming waited b ∈ s.places) : s.locked = true := by
  have hone : 1 ≤ total Place.holds s.places := le_total Place.holds ht
  rw [hs.lock] at hone
  exact Bool.toNat_eq_one.mp (Nat.le_antisymm (Bool.toNat_le _) hone)

/-- A thread that goes on meanwhile takes the semaphore in `mmal_queue_wait`,
    or posts it again. -/
theorem claim_go (hs : Consistent s) {waited : Bool} {b : η} (ht : .claiming waited b ∈ s.places)
    {t : Place η} (hne : t ≠ .claiming waited b) (h : goStep s t = some s') :
    ∃ next, advance s.places t (some next) = some s'.places ∧ next.left + 1 = t.left := by
  have hlocked := locked_of_claiming hs ht
  have hout : ∀ {next : Option (Place η)} {u : Shared η}, u.move t next = some s' →
      u.places = s.places → t.holds = 0 := by
    intro next u hmove hu
    obtain ⟨places, hp, -⟩ := move_some hmove
    exact outside_of_claiming hs ht (hu ▸ mem_of_advance hp) hne
  cases t with
  | putting front x => simp [goStep, hlocked] at h
  | getting w => simp [goStep, hlocked] at h
  | waiting limited =>
      simp only [goStep] at h
      split at h
      · cases h
      · obtain ⟨places, hp, rfl⟩ := move_some h
        exact ⟨_, hp, rfl⟩
  | reposting =>
      obtain ⟨places, hp, rfl⟩ := move_some h
      exact ⟨_, hp, rfl⟩
  | posting => exact absurd (hout h rfl) Nat.one_ne_zero
  | claiming w x =>
      simp only [goStep] at h
      split at h
      · cases h
      · exact absurd (hout h rfl) Nat.one_ne_zero
  | taking w x => exact absurd (hout h rfl) Nat.one_ne_zero
  | leaving result => exact absurd (hout h rfl) Nat.one_ne_zero

/-- A step of the others leaves the thread where it is, and is one of the few
    they have left, unless a call begins. -/
theorem claim_step (hs : Consistent s) {waited : Bool} {b : η} (ht : .claiming waited b ∈ s.places)
    {l : QueueStep η} (hl : l ≠ .go (.claiming waited b)) (h : queueStep s l = some s') :
    .claiming waited b ∈ s'.places ∧
      total Place.left s'.places + 1 ≤ total Place.left s.places + 3 * l.begins := by
  cases l with
  | put front x =>
      cases h
      exact ⟨List.mem_cons_of_mem _ ht, by simp [Place.left, QueueStep.begins]⟩
  | get =>
      cases h
      exact ⟨List.mem_cons_of_mem _ ht, by simp [Place.left, QueueStep.begins]⟩
  | wait limited =>
      cases h
      refine ⟨List.mem_cons_of_mem _ ht, ?_⟩
      simp only [total_cons, Place.left, QueueStep.begins]
      omega
  | go t =>
      have hne : t ≠ .claiming waited b := fun hc => hl (congrArg QueueStep.go hc)
      obtain ⟨next, hp, hleft⟩ := claim_go hs ht hne h
      have htotal := total_advance Place.left hp
      simp only [Option.toList_some, total_cons, total_nil] at htotal
      exact ⟨mem_advance_of_ne hp ht (Ne.symm hne), by omega⟩
  | timeout =>
      obtain ⟨places, hp, rfl⟩ := move_some h
      have htotal := total_advance Place.left hp
      simp only [Option.toList_none, total_nil, Place.left] at htotal
      exact ⟨mem_advance_of_ne hp ht (by simp), by simp only; omega⟩

/-- So it is as long as the thread does not go on. -/
theorem claim_run (hs : Consistent s) {waited : Bool} {b : η} (ht : .claiming waited b ∈ s.places)
    {ms : List (QueueStep η)} (hms : ∀ l ∈ ms, l ≠ .go (.claiming waited b))
    (h : run queueStep s ms = some s') :
    .claiming waited b ∈ s'.places ∧
      total Place.left s'.places + ms.length ≤
        total Place.left s.places + 3 * total QueueStep.begins ms := by
  induction ms generalizing s with
  | nil =>
      rw [run_nil, Option.some.injEq] at h
      exact ⟨h ▸ ht, by simp [h]⟩
  | cons l ms ih =>
      obtain ⟨m, hm, hrest⟩ := run_cons_some h
      obtain ⟨hmem, hfirst⟩ := claim_step hs ht (hms l List.mem_cons_self) hm
      obtain ⟨hmem', hothers⟩ := ih (consistent_step s l m hs hm) hmem
        (fun k hk => hms k (List.mem_cons_of_mem l hk)) hrest
      refine ⟨hmem', ?_⟩
      rw [List.length_cons, total_cons]
      omega

/-- The thread that waits with the lock held can go on, or another one has the
    semaphore and can post it. -/
theorem claim_can_go (hs : Consistent s) {waited : Bool} {b : η}
    (ht : .claiming waited b ∈ s.places) :
    (∃ u, queueStep s (.go (.claiming waited b)) = some u) ∨
      ∃ u, queueStep s (.go .reposting) = some u := by
  by_cases hzero : s.semaphore = 0
  · right
    -- The header has been counted: its token is on its way.
    have htokens := hs.tokens
    have hpos := items_pos hs ht
    have howes : 0 < total Place.owes s.places := by omega
    obtain ⟨t, htmem, howe⟩ := exists_of_total_pos howes
    have hne : t ≠ .claiming waited b := by
      rintro rfl
      exact absurd howe (Nat.lt_irrefl 0)
    have hout := outside_of_claiming hs ht htmem hne
    cases t with
    | reposting => exact can_go htmem (by simp [Place.wantsLock]) (by simp [Place.wantsToken])
    | posting => exact absurd hout Nat.one_ne_zero
    | taking w x => exact absurd hout Nat.one_ne_zero
    | _ => exact absurd howe (Nat.lt_irrefl 0)
  · exact Or.inl (can_go ht (by simp [Place.wantsLock]) fun _ => hzero)

/-- The wait for the semaphore in `mmal_queue_get`, with the lock held, comes to
    an end. As long as it lasts, the thread can go on, or another one only has
    to post the semaphore; and the others have two steps each, and three for
    every call that begins meanwhile. -/
theorem claim_ends {ls ms : List (QueueStep η)} (h : run queueStep Shared.init ls = some s)
    {waited : Bool} {b : η} (ht : .claiming waited b ∈ s.places)
    (hms : ∀ l ∈ ms, l ≠ .go (.claiming waited b)) (hrun : run queueStep s ms = some s') :
    ((∃ u, queueStep s' (.go (.claiming waited b)) = some u) ∨
        ∃ u, queueStep s' (.go .reposting) = some u) ∧
      ms.length ≤ 2 * s.places.length + 3 * total QueueStep.begins ms := by
  have hs := queue_consistent h
  obtain ⟨hmem, hsteps⟩ := claim_run hs ht hms hrun
  have hle : total Place.left s.places ≤ 2 * s.places.length := total_le_mul fun t _ => left_le t
  exact ⟨claim_can_go (run_invariant consistent_step hs hrun) hmem, by omega⟩

/-- The semaphore is posted, and taken once more by a thread that begins to
    wait. -/
theorem claim_ends_contended :
    ∃ s s', run queueStep (Shared.init : Shared Nat) claiming = some s ∧
      run queueStep s [.wait true, .go .reposting, .go (.waiting true)] = some s' ∧
      s'.semaphore = 0 ∧
      (((∃ u, queueStep s' (.go (.claiming false 7)) = some u) ∨
          ∃ u, queueStep s' (.go .reposting) = some u) ∧
        3 ≤ 2 * s.places.length + 3 * total QueueStep.begins
          ([.wait true, .go .reposting, .go (.waiting true)] : List (QueueStep Nat))) := by
  refine ⟨_, _, rfl, rfl, rfl, ?_⟩
  exact claim_ends (show run queueStep (Shared.init : Shared Nat) claiming = some _ from rfl)
    (by decide) (by decide)
    (show run queueStep _ [.wait true, .go .reposting, .go (.waiting true)] = some _ from rfl)

/-! ## A single consumer -/

/-- A header is only asked for while no other thread is after one. -/
def OneConsumer (s : Shared η) : QueueStep η → Prop
  | .get | .wait _ => total Place.consumes s.places = 0
  | .put _ _ | .go _ | .timeout => True

instance decidableOneConsumer (s : Shared η) : ∀ l, Decidable (OneConsumer s l)
  | .get | .wait _ => inferInstanceAs (Decidable (_ = _))
  | .put _ _ | .go _ | .timeout => inferInstanceAs (Decidable True)

/-- There is one consumer at most, and if it has waited there is a header. -/
structure Served (s : Shared η) : Prop where
  consistent : Consistent s
  one : total Place.consumes s.places ≤ 1
  waited : .getting true ∈ s.places → s.items ≠ []
  served : .leaving (some (true, none)) ∉ s.places

/-- A step that leaves the list alone, to a place that is neither the one
    between `wait` and `get` nor the end of a wait in vain. -/
theorem Served.quiet (hs : Served s) {t : Place η} {next : Option (Place η)} (hs' : Consistent s')
    (hp : advance s.places t next = some s'.places) (hitems : s'.items = s.items)
    (hone : total Place.consumes next.toList ≤ t.consumes)
    (hgetting : next ≠ some (.getting true)) (hnull : next ≠ some (.leaving (some (true, none)))) :
    Served s' := by
  have hconsumes := total_advance Place.consumes hp
  have hle := hs.one
  refine ⟨hs', by omega, fun hu => ?_, fun hu => ?_⟩
  · rw [hitems]
    exact hs.waited ((mem_advance hp hu).resolve_left hgetting)
  · exact hs.served ((mem_advance hp hu).resolve_left hnull)

theorem served_go (hs : Served s) {t : Place η} (h : goStep s t = some s') : Served s' := by
  have hs' := consistent_go hs.consistent h
  have hle := hs.one
  cases t with
  | putting front b =>
      simp only [goStep] at h
      split at h
      · cases h
      · obtain ⟨places, hp, rfl⟩ := move_some h
        have hconsumes := total_advance Place.consumes hp
        simp only [Place.consumes, Option.toList_some, total_cons, total_nil] at hconsumes
        refine ⟨hs', by simpa using by omega, fun _ => ?_, fun hu => ?_⟩
        · rw [ne_eq, ← List.length_eq_zero_iff, length_addItem]
          omega
        · exact hs.served ((mem_advance hp hu).resolve_left (by simp))
  | posting =>
      obtain ⟨places, hp, rfl⟩ := move_some h
      exact hs.quiet hs' hp rfl (by simp [Place.consumes]) (by simp) (by simp)
  | waiting limited =>
      simp only [goStep] at h
      split at h
      · cases h
      · obtain ⟨places, hp, rfl⟩ := move_some h
        exact hs.quiet hs' hp rfl (by simp [Place.consumes]) (by simp) (by simp)
  | reposting =>
      obtain ⟨places, hp, rfl⟩ := move_some h
      have hconsumes := total_advance Place.consumes hp
      simp only [Place.consumes, Option.toList_some, total_cons, total_nil] at hconsumes
      refine ⟨hs', by simpa using by omega, fun _ => ?_, fun hu => ?_⟩
      · -- The token that is given back belongs to a header.
        have htokens := hs.consistent.tokens
        have howes : 1 ≤ total Place.owes s.places := le_total Place.owes (mem_of_advance hp)
        rw [ne_eq, ← List.length_eq_zero_iff]
        simp only
        omega
      · exact hs.served ((mem_advance hp hu).resolve_left (by simp))
  | getting waited =>
      simp only [goStep] at h
      split at h
      · cases h
      · cases hitems : s.items with
        | nil =>
            rw [hitems] at h
            obtain ⟨places, hp, rfl⟩ := move_some h
            have hwaited : waited = false := by
              by_contra hc
              rw [Bool.not_eq_false] at hc
              subst hc
              exact hs.waited (mem_of_advance hp) hitems
            exact hs.quiet hs' hp hitems.symm (by simp [Place.consumes]) (by simp)
              (by simp [hwaited])
        | cons b rest =>
            rw [hitems] at h
            obtain ⟨places, hp, rfl⟩ := move_some h
            exact hs.quiet hs' hp hitems.symm (by simp [Place.consumes]) (by simp) (by simp)
  | claiming waited b =>
      simp only [goStep] at h
      split at h
      · cases h
      · obtain ⟨places, hp, rfl⟩ := move_some h
        exact hs.quiet hs' hp rfl (by simp [Place.consumes]) (by simp) (by simp)
  | taking waited b =>
      obtain ⟨places, hp, rfl⟩ := move_some h
      have hconsumes := total_advance Place.consumes hp
      simp only [Place.consumes, Option.toList_some, total_cons, total_nil] at hconsumes
      refine ⟨hs', by simpa using by omega, fun hu => ?_, fun hu => ?_⟩
      · -- The list gets shorter, but no other consumer is there to mind.
        rcases advance_alone (w := Place.consumes) hp hle hu with hnext | ⟨_, hzero⟩
        · cases hnext
        · simp [Place.consumes] at hzero
      · exact hs.served ((mem_advance hp hu).resolve_left (by simp))
  | leaving result =>
      obtain ⟨places, hp, rfl⟩ := move_some h
      exact hs.quiet hs' hp rfl (by simp) (by simp) (by simp)

theorem served_step (s : Shared η) (l : QueueStep η) (s' : Shared η) (hs : Served s)
    (hl : OneConsumer s l) (h : queueStep s l = some s') : Served s' := by
  have hs' := consistent_step s l s' hs.consistent h
  have hone := hs.one
  have hwaited := hs.waited
  have hserved := hs.served
  cases l with
  | put front b =>
      cases h
      exact ⟨hs', by simpa [Place.consumes] using hone, by simpa using hwaited,
        by simpa using hserved⟩
  | get =>
      cases h
      have hnone : total Place.consumes s.places = 0 := hl
      exact ⟨hs', by simp [Place.consumes, hnone], by simpa using hwaited, by simpa using hserved⟩
  | wait limited =>
      cases h
      have hnone : total Place.consumes s.places = 0 := hl
      exact ⟨hs', by simp [Place.consumes, hnone], by simpa using hwaited, by simpa using hserved⟩
  | go t => exact served_go hs h
  | timeout =>
      obtain ⟨places, hp, rfl⟩ := move_some h
      exact hs.quiet hs' hp rfl (by simp) (by simp) (by simp)

/-- A single consumer never waits in vain: what `mmal_queue_wait` returns, and
    `mmal_queue_timedwait` unless it gives up, is a header. -/
theorem wait_returns_header {ls : List (QueueStep η)}
    (hone : Along queueStep OneConsumer Shared.init ls)
    (h : run queueStep Shared.init ls = some s) (result : Option η)
    (hleaving : .leaving (some (true, result)) ∈ s.places) : result ≠ none := by
  rintro rfl
  have hinit : Served (Shared.init : Shared η) :=
    ⟨consistent_init, by simp [Shared.init], by simp [Shared.init], by simp [Shared.init]⟩
  exact (run_invariant_along served_step hinit hone h).served hleaving

/-- A header is put, a thread waits for it, and gets it. -/
theorem wait_returns_header_one :
    ∃ s, run queueStep (Shared.init : Shared Nat)
        [.put false 7, .wait false, .go (.putting false 7), .go .posting, .go (.leaving none),
          .go (.waiting false), .go .reposting, .go (.getting true), .go (.claiming true 7),
          .go (.taking true 7)] = some s ∧
      .leaving (some (true, some 7)) ∈ s.places ∧ some 7 ≠ none := by
  refine ⟨_, rfl, by decide, ?_⟩
  exact wait_returns_header (by decide) (show run queueStep (Shared.init : Shared Nat)
    [.put false 7, .wait false, .go (.putting false 7), .go .posting, .go (.leaving none),
      .go (.waiting false), .go .reposting, .go (.getting true), .go (.claiming true 7),
      .go (.taking true 7)] = some _ from rfl) _ (by decide)

-- With a second consumer, which takes the header in between, the wait is in vain.
example : ∃ s, run queueStep (Shared.init : Shared Nat)
      [.put false 7, .go (.putting false 7), .go .posting, .go (.leaving none), .wait false,
        .go (.waiting false), .go .reposting, .get, .go (.getting false), .go (.claiming false 7),
        .go (.taking false 7), .go (.leaving (some (false, some 7))), .go (.getting true)] =
      some s ∧ .leaving (some (true, none)) ∈ s.places :=
  ⟨_, rfl, by decide⟩

end Framework

end RaspiCam
