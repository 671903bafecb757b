import RaspiCam.Lib.Chain
import RaspiCam.Lib.Objects

/-!
# The Queues of Buffer Headers

`mmal_queue.c`, on which the pools, the ports and the connections of the
framework are built. A queue is a singly linked list that is threaded through
the headers themselves: `first` and the `next` field of every header are links,
and `last` is the address of the link that the next `put` has to write. That
address lies in the queue when the queue is empty and in a header otherwise.

A header has one `next` field, so it can be in one queue at a time, and nothing
checks this. The calls are compared with lists: as long as nobody puts a header
that is in a queue already, the calls answer as if the queues were lists, where
`put` appends, `put_back` prepends and `get` takes the first element,
`queue_answers`. A header put twice is another matter, see `put_twice`.

This is the view of one thread. A call that waits for a semaphore nobody posts
does not come back, and `mmal_queue_get` waits for one too, which "will always
succeed".

## Main definitions

* `Slot`: The address of a link.
* `Queues`: The memory of the queues and the headers.
* `callQueue`: The calls, as they are computed.
* `callFifo`: The calls, on lists.
* `Proper`: What the callers have to keep to.
* `Represents`: The memory holds these lists.

## Theorems

* `represents_put`, `represents_putBack`, `represents_get`: The operations.
* `call_agrees`: Every call answers as on lists.
* `queue_answers`: So does every program of calls.
* `put_twice`: A header that is put twice.
-/

namespace RaspiCam

namespace Framework

open Chains Objects

variable {κ η : Type*}

/-- The address of a link, in a queue or in a header. -/
inductive Slot (κ η : Type*)
  | first (q : κ)
  | next (b : η)
deriving DecidableEq

/-- The fields of the queues and the `next` fields of the headers. -/
structure Queues (κ η : Type*) where
  link : Slot κ η → Option η
  last : κ → Slot κ η
  length : κ → UInt32
  semaphore : κ → Nat

/-- The calls. A null pointer can be passed for any queue and any header.
    `create` is told at which address the memory was, and whether the memory,
    the lock and the semaphore could be had. -/
inductive QueueCall (κ η : Type*)
  | create (q : κ) (made : Bool)
  | destroy (queue : Option κ)
  | put (queue : Option κ) (buffer : Option η)
  | putBack (queue : Option κ) (buffer : Option η)
  | get (queue : Option κ)
  | wait (queue : Option κ)
  | timedwait (queue : Option κ)
  | length (queue : Option κ)
deriving DecidableEq

/-- What a call returns. -/
inductive QueueAnswer (κ η : Type*)
  | void
  | queue (queue : Option κ)
  | header (buffer : Option η)
  | length (n : UInt32)
deriving DecidableEq

variable [DecidableEq κ] [DecidableEq η]

/-- `mmal_queue_create`. Whatever was made before a step that fails is
    released again. -/
def mmalQueueCreate (s : Queues κ η) (q : κ) (made : Bool) : Queues κ η × Option κ :=
  if made then
    ({ link := Function.update s.link (.first q) none
       last := Function.update s.last q (.first q)
       length := Function.update s.length q 0
       semaphore := Function.update s.semaphore q 0 }, some q)
  else (s, none)

/-- `mmal_queue_put`: the link at `last` first, then the one in the header. -/
def mmalQueuePut (s : Queues κ η) (queue : Option κ) (buffer : Option η) : Queues κ η :=
  match queue, buffer with
  | some q, some b =>
    { link := Function.update (Function.update s.link (s.last q) (some b)) (.next b) none
      last := Function.update s.last q (.next b)
      length := Function.update s.length q (s.length q + 1)
      semaphore := Function.update s.semaphore q (s.semaphore q + 1) }
  | _, _ => s

/-- `mmal_queue_put_back`. -/
def mmalQueuePutBack (s : Queues κ η) (queue : Option κ) (buffer : Option η) : Queues κ η :=
  match queue, buffer with
  | some q, some b =>
    { link := Function.update (Function.update s.link (.next b) (s.link (.first q)))
        (.first q) (some b)
      last := if s.last q = .first q then Function.update s.last q (.next b) else s.last
      length := Function.update s.length q (s.length q + 1)
      semaphore := Function.update s.semaphore q (s.semaphore q + 1) }
  | _, _ => s

/-- `mmal_queue_get`. The wait for the semaphore comes after the test whether
    there is a header, and holds the caller up for good if it is at zero. -/
def mmalQueueGet (s : Queues κ η) (queue : Option κ) : Option (Queues κ η × Option η) :=
  match queue with
  | none => some (s, none)
  | some q =>
    match s.link (.first q) with
    | none => some (s, none)
    | some b =>
      if s.semaphore q = 0 then none
      else
        some ({ link := Function.update s.link (.first q) (s.link (.next b))
                last := if s.link (.next b) = none then Function.update s.last q (.first q)
                  else s.last
                length := Function.update s.length q (s.length q - 1)
                semaphore := Function.update s.semaphore q (s.semaphore q - 1) }, some b)

/-- `mmal_queue_wait`: the semaphore is taken, posted again, and then
    `mmal_queue_get` takes it once more. -/
def mmalQueueWait (s : Queues κ η) (queue : Option κ) : Option (Queues κ η × Option η) :=
  match queue with
  | none => some (s, none)
  | some q => if s.semaphore q = 0 then none else mmalQueueGet s (some q)

/-- `mmal_queue_timedwait`, which gives up after some time. -/
def mmalQueueTimedwait (s : Queues κ η) (queue : Option κ) : Option (Queues κ η × Option η) :=
  match queue with
  | none => some (s, none)
  | some q => if s.semaphore q = 0 then some (s, none) else mmalQueueGet s (some q)

/-- `mmal_queue_length`. -/
def mmalQueueLength (s : Queues κ η) (queue : Option κ) : UInt32 :=
  match queue with
  | none => 0
  | some q => s.length q

/-- A call of one of the functions. The memory of a queue that is destroyed is
    not touched any more. -/
def callQueue (s : Queues κ η) : QueueCall κ η → Option (Queues κ η × QueueAnswer κ η)
  | .create q made => some ((mmalQueueCreate s q made).1, .queue (mmalQueueCreate s q made).2)
  | .destroy _ => some (s, .void)
  | .put queue buffer => some (mmalQueuePut s queue buffer, .void)
  | .putBack queue buffer => some (mmalQueuePutBack s queue buffer, .void)
  | .get queue => (mmalQueueGet s queue).map fun r => (r.1, .header r.2)
  | .wait queue => (mmalQueueWait s queue).map fun r => (r.1, .header r.2)
  | .timedwait queue => (mmalQueueTimedwait s queue).map fun r => (r.1, .header r.2)
  | .length queue => some (s, .length (mmalQueueLength s queue))

/-! ## Lists of headers -/

/-- The queues that there are, each with what is in it. -/
abbrev Fifos (κ η : Type*) := κ → Option (List η)

/-- What is in a queue. -/
def Fifos.items (f : Fifos κ η) (q : κ) : List η := (f q).getD []

/-- Takes the first header of a queue, if there is one. -/
def Fifos.take (f : Fifos κ η) (q : κ) : Fifos κ η × Option η :=
  match f.items q with
  | [] => (f, none)
  | b :: rest => (Function.update f q (some rest), some b)

/-- The calls, on lists. -/
def callFifo (f : Fifos κ η) : QueueCall κ η → Option (Fifos κ η × QueueAnswer κ η)
  | .create q made =>
    if made then some (Function.update f q (some []), .queue (some q)) else some (f, .queue none)
  | .destroy (some q) => some (Function.update f q none, .void)
  | .put (some q) (some b) => some (Function.update f q (some (f.items q ++ [b])), .void)
  | .putBack (some q) (some b) => some (Function.update f q (some (b :: f.items q)), .void)
  | .get (some q) => some ((f.take q).1, .header (f.take q).2)
  | .wait (some q) =>
    if f.items q = [] then none else some ((f.take q).1, .header (f.take q).2)
  | .timedwait (some q) => some ((f.take q).1, .header (f.take q).2)
  | .length (some q) => some (f, .length (.ofNat (f.items q).length))
  -- Nothing is done with a null pointer.
  | .destroy none | .put _ _ | .putBack _ _ => some (f, .void)
  | .get none | .wait none | .timedwait none => some (f, .header none)
  | .length none => some (f, .length 0)

/-- The header is in no queue. -/
def Loose (f : Fifos κ η) (b : η) : Prop := ∀ q l, f q = some l → b ∉ l

/-- What the callers have to keep to: a queue is used between its creation and
    its destruction, and a header is only put while it is in no queue. -/
def Proper (f : Fifos κ η) : QueueCall κ η → Prop
  | .create q _ => f q = none
  | .put queue buffer | .putBack queue buffer =>
    ∀ q b, queue = some q → buffer = some b → f q ≠ none ∧ Loose f b
  | .destroy queue | .get queue | .wait queue | .timedwait queue | .length queue =>
    ∀ q, queue = some q → f q ≠ none

/-- The memory holds these lists. -/
structure Represents (s : Queues κ η) (f : Fifos κ η) : Prop where
  chain : ∀ q l, f q = some l → Chain Slot.next s.link (.first q) l (s.last q)
  length : ∀ q l, f q = some l → s.length q = .ofNat l.length
  semaphore : ∀ q l, f q = some l → s.semaphore q = l.length
  apart : ∀ q r l m, f q = some l → f r = some m → q ≠ r → ∀ b ∈ l, b ∉ m

/-! ## The operations -/

variable {s s' : Queues κ η} {f : Fifos κ η} {q : κ} {b : η} {l : List η}

omit [DecidableEq κ] [DecidableEq η] in
theorem Loose.slot (hb : Loose f b) (hq : f q = some l) :
    Slot.next b ∉ slots Slot.next (Slot.first q) l := by
  simpa [slots] using hb q l hq

omit [DecidableEq κ] [DecidableEq η] in
/-- Two queues have no slot in common. -/
theorem Represents.slot_apart {r : κ} {m : List η} {u : Slot κ η} (h : Represents s f)
    (hq : f q = some l) (hr : f r = some m) (hne : q ≠ r)
    (hu : u ∈ slots Slot.next (Slot.first q) l) : u ∉ slots Slot.next (Slot.first r) m := by
  simp only [slots, List.mem_cons, List.mem_map] at hu ⊢
  rcases hu with rfl | ⟨x, hx, rfl⟩
  · simp [hne]
  · simpa using h.apart q r l m hq hr hne x hx

omit [DecidableEq η] in
/-- An operation on one queue, which leaves the links of all the others alone.
    The headers it puts in were in no queue. -/
theorem Represents.rewrite (h : Represents s f)
    (hchain : Chain Slot.next s'.link (.first q) l (s'.last q))
    (hlength : s'.length q = .ofNat l.length) (hsema : s'.semaphore q = l.length)
    (hitems : ∀ x ∈ l, x ∈ f.items q ∨ Loose f x)
    (hlinks : ∀ r m, r ≠ q → f r = some m → Chain Slot.next s'.link (.first r) m (s.last r))
    (hfields : ∀ r, r ≠ q →
      s'.last r = s.last r ∧ s'.length r = s.length r ∧ s'.semaphore r = s.semaphore r) :
    Represents s' (Function.update f q (some l)) := by
  have hother : ∀ r m, r ≠ q → f r = some m → ∀ x ∈ l, x ∉ m := by
    intro r m hr hm x hx
    rcases hitems x hx with hin | hloose
    · -- The header was in the queue that is operated on.
      cases hf : f q with
      | none => simp [Fifos.items, hf] at hin
      | some k => exact h.apart q r k m hf hm (Ne.symm hr) x (by simpa [Fifos.items, hf] using hin)
    · exact hloose r m hm
  refine ⟨?_, ?_, ?_, ?_⟩
  · intro r m hm
    by_cases hr : r = q
    · subst hr
      obtain rfl : l = m := by simpa using hm
      exact hchain
    · rw [Function.update_of_ne hr] at hm
      rw [(hfields r hr).1]
      exact hlinks r m hr hm
  · intro r m hm
    by_cases hr : r = q
    · subst hr
      obtain rfl : l = m := by simpa using hm
      exact hlength
    · rw [Function.update_of_ne hr] at hm
      rw [(hfields r hr).2.1]
      exact h.length r m hm
  · intro r m hm
    by_cases hr : r = q
    · subst hr
      obtain rfl : l = m := by simpa using hm
      exact hsema
    · rw [Function.update_of_ne hr] at hm
      rw [(hfields r hr).2.2]
      exact h.semaphore r m hm
  · intro r t m k hm hk hne x hx
    by_cases hr : r = q
    · subst hr
      obtain rfl : l = m := by simpa using hm
      rw [Function.update_of_ne (Ne.symm hne)] at hk
      exact hother t k (Ne.symm hne) hk x hx
    · rw [Function.update_of_ne hr] at hm
      by_cases ht : t = q
      · subst ht
        obtain rfl : l = k := by simpa using hk
        exact fun hxl => hother r m hr hm x hxl hx
      · rw [Function.update_of_ne ht] at hk
        exact h.apart r t m k hm hk hne x hx

theorem represents_create (h : Represents s f) (q : κ) :
    Represents (mmalQueueCreate s q true).1 (Function.update f q (some [])) := by
  refine h.rewrite ⟨?_, ?_, ?_⟩ ?_ ?_ ?_ ?_ ?_
  · simp [Leads, mmalQueueCreate]
  · simp [mmalQueueCreate]
  · simp [slots]
  · simp [mmalQueueCreate]
  · simp [mmalQueueCreate]
  · simp
  · intro r m hr hm
    exact (h.chain r m hm).frame none (by simpa [slots] using Ne.symm hr)
  · intro r hr
    simp [mmalQueueCreate, Function.update_of_ne hr]

omit [DecidableEq η] in
theorem represents_destroy (h : Represents s f) (q : κ) :
    Represents s (Function.update f q none) := by
  have hof : ∀ r m, Function.update f q none r = some m → f r = some m := by
    intro r m hm
    by_cases hr : r = q
    · simp [hr] at hm
    · rwa [Function.update_of_ne hr] at hm
  exact ⟨fun r m hm => h.chain r m (hof r m hm), fun r m hm => h.length r m (hof r m hm),
    fun r m hm => h.semaphore r m (hof r m hm),
    fun r t m k hm hk => h.apart r t m k (hof r m hm) (hof t k hk)⟩

theorem represents_put (h : Represents s f) (hq : f q = some l) (hb : Loose f b) :
    Represents (mmalQueuePut s (some q) (some b)) (Function.update f q (some (l ++ [b]))) := by
  have hchain := h.chain q l hq
  have hlast : s.last q ∈ slots Slot.next (Slot.first q) l := leads_last hchain.leads
  refine h.rewrite ?_ ?_ ?_ ?_ ?_ ?_
  · have hlinked := hchain.put (hb.slot hq)
    simpa [mmalQueuePut] using hlinked
  · simp [mmalQueuePut, h.length q l hq]
  · simp [mmalQueuePut, h.semaphore q l hq]
  · intro x hx
    rcases List.mem_append.mp hx with hl | hbx
    · exact Or.inl (by simpa [Fifos.items, hq] using hl)
    · exact Or.inr (List.mem_singleton.mp hbx ▸ hb)
  · intro r m hr hm
    have hlinked := (h.chain r m hm).frame (some b) (h.slot_apart hq hm (Ne.symm hr) hlast)
    exact hlinked.frame none (hb.slot hm)
  · intro r hr
    simp [mmalQueuePut, Function.update_of_ne hr]

theorem represents_putBack (h : Represents s f) (hq : f q = some l) (hb : Loose f b) :
    Represents (mmalQueuePutBack s (some q) (some b)) (Function.update f q (some (b :: l))) := by
  have hfirst : Slot.first q ∈ slots Slot.next (Slot.first q) l := List.mem_cons_self
  refine h.rewrite ?_ ?_ ?_ ?_ ?_ ?_
  · have hlinked := (h.chain q l hq).putBack (hb.slot hq)
    by_cases hempty : s.last q = .first q
    · simpa [mmalQueuePutBack, hempty] using hlinked
    · simpa [mmalQueuePutBack, hempty] using hlinked
  · simp [mmalQueuePutBack, h.length q l hq]
  · simp [mmalQueuePutBack, h.semaphore q l hq]
  · intro x hx
    rcases List.mem_cons.mp hx with hbx | hl
    · exact Or.inr (hbx ▸ hb)
    · exact Or.inl (by simpa [Fifos.items, hq] using hl)
  · intro r m hr hm
    have hlinked := (h.chain r m hm).frame (s.link (.first q)) (hb.slot hm)
    exact hlinked.frame (some b) (h.slot_apart hq hm (Ne.symm hr) hfirst)
  · intro r hr
    by_cases hempty : s.last q = .first q <;>
      simp [mmalQueuePutBack, hempty, Function.update_of_ne hr]

/-- With a header in the queue the semaphore is not at zero. -/
theorem represents_get (h : Represents s f) (hq : f q = some (b :: l)) :
    ∃ s', mmalQueueGet s (some q) = some (s', some b) ∧
      Represents s' (Function.update f q (some l)) := by
  have hchain := h.chain q (b :: l) hq
  have hfirst : s.link (.first q) = some b := hchain.head
  have hsema : s.semaphore q = l.length + 1 := h.semaphore q (b :: l) hq
  refine ⟨_, by simp only [mmalQueueGet, hfirst, hsema]; rw [if_neg (Nat.succ_ne_zero _)], ?_⟩
  refine h.rewrite ?_ ?_ ?_ ?_ ?_ ?_
  · have hlinked := hchain.get
    by_cases hlone : s.link (.next b) = none
    · simpa [hlone] using hlinked
    · simpa [hlone] using hlinked
  · simp [h.length q (b :: l) hq]
  · simp
  · intro x hx
    exact Or.inl (by simp [Fifos.items, hq, hx])
  · intro r m hr hm
    exact (h.chain r m hm).frame _ (h.slot_apart hq hm (Ne.symm hr) List.mem_cons_self)
  · intro r hr
    by_cases hlone : s.link (.next b) = none <;> simp [hlone, Function.update_of_ne hr]

/-! ## Programs of calls -/

omit [DecidableEq κ] [DecidableEq η] in
/-- A queue that has been created, with what is in it. -/
theorem items_of_live (hq : f q ≠ none) : f q = some (f.items q) := by
  cases hf : f q with
  | none => exact absurd hf hq
  | some l => simp [Fifos.items, hf]

/-- `get` on a queue, empty or not. -/
theorem get_agrees (h : Represents s f) (hq : f q ≠ none) :
    ∃ s', mmalQueueGet s (some q) = some (s', (f.take q).2) ∧ Represents s' (f.take q).1 := by
  have hf := items_of_live hq
  cases hl : f.items q with
  | nil =>
      rw [hl] at hf
      have hfirst : s.link (.first q) = none := (h.chain q [] hf).head
      refine ⟨s, by simp [mmalQueueGet, hfirst, Fifos.take, hl], ?_⟩
      simpa [Fifos.take, hl] using h
  | cons b l =>
      rw [hl] at hf
      obtain ⟨s', hget, hs'⟩ := represents_get h hf
      exact ⟨s', by simp [hget, Fifos.take, hl], by simpa [Fifos.take, hl] using hs'⟩

omit [DecidableEq κ] [DecidableEq η] in
/-- The semaphore tells whether the queue is empty. -/
theorem semaphore_zero (h : Represents s f) (hq : f q ≠ none) :
    s.semaphore q = 0 ↔ f.items q = [] := by
  rw [h.semaphore q _ (items_of_live hq), List.length_eq_zero_iff]

/-- Every call within the rules answers as on lists, and leaves lists behind. -/
theorem call_agrees (h : Represents s f) (c : QueueCall κ η) (hc : Proper f c) :
    Agree Represents (callQueue s c) (callFifo f c) := by
  cases c with
  | create q made =>
      cases made with
      | false => exact agree_some rfl rfl h
      | true => exact agree_some rfl rfl (represents_create h q)
  | destroy queue =>
      cases queue with
      | none => exact agree_some rfl rfl h
      | some q => exact agree_some rfl rfl (represents_destroy h q)
  | put queue buffer =>
      rcases queue with _ | q
      · exact agree_some rfl rfl h
      rcases buffer with _ | b
      · exact agree_some rfl rfl h
      obtain ⟨hq, hb⟩ := hc q b rfl rfl
      exact agree_some rfl rfl (represents_put h (items_of_live hq) hb)
  | putBack queue buffer =>
      rcases queue with _ | q
      · exact agree_some rfl rfl h
      rcases buffer with _ | b
      · exact agree_some rfl rfl h
      obtain ⟨hq, hb⟩ := hc q b rfl rfl
      exact agree_some rfl rfl (represents_putBack h (items_of_live hq) hb)
  | get queue =>
      cases queue with
      | none => exact agree_some rfl rfl h
      | some q =>
          obtain ⟨s', hget, hs'⟩ := get_agrees h (hc q rfl)
          have hcall : callQueue s (.get (some q)) = some (s', .header (f.take q).2) := by
            simp [callQueue, hget]
          exact agree_some hcall rfl hs'
  | wait queue =>
      cases queue with
      | none => exact agree_some rfl rfl h
      | some q =>
          obtain ⟨s', hget, hs'⟩ := get_agrees h (hc q rfl)
          have hzero := semaphore_zero h (hc q rfl)
          by_cases hempty : f.items q = []
          · -- Neither comes back.
            simp [callQueue, callFifo, mmalQueueWait, hzero.mpr hempty, hempty, Agree]
          · have hsema : s.semaphore q ≠ 0 := fun hz => hempty (hzero.mp hz)
            have hcall : callQueue s (.wait (some q)) = some (s', .header (f.take q).2) := by
              simp [callQueue, mmalQueueWait, hsema, hget]
            exact agree_some hcall (by simp [callFifo, hempty]) hs'
  | timedwait queue =>
      cases queue with
      | none => exact agree_some rfl rfl h
      | some q =>
          obtain ⟨s', hget, hs'⟩ := get_agrees h (hc q rfl)
          have hzero := semaphore_zero h (hc q rfl)
          by_cases hempty : f.items q = []
          · have hcall : callQueue s (.timedwait (some q)) = some (s, .header none) := by
              simp [callQueue, mmalQueueTimedwait, hzero.mpr hempty]
            exact agree_some hcall (by simp [callFifo, Fifos.take, hempty]) h
          · have hsema : s.semaphore q ≠ 0 := fun hz => hempty (hzero.mp hz)
            have hcall : callQueue s (.timedwait (some q)) = some (s', .header (f.take q).2) := by
              simp [callQueue, mmalQueueTimedwait, hsema, hget]
            exact agree_some hcall rfl hs'
  | length queue =>
      cases queue with
      | none => exact agree_some rfl rfl h
      | some q =>
          have hlength := h.length q _ (items_of_live (hc q rfl))
          have hcall : callQueue s (.length (some q)) =
              some (s, .length (.ofNat (f.items q).length)) := by
            simp [callQueue, mmalQueueLength, hlength]
          exact agree_some hcall rfl h

omit [DecidableEq κ] [DecidableEq η] in
/-- Before any queue is created there is nothing to represent. -/
theorem represents_nothing (s : Queues κ η) : Represents s fun _ => none :=
  ⟨by simp, by simp, by simp, by simp⟩

/-- Whatever is in the memory to begin with, callers that keep to the rules
    cannot tell the queues from lists. -/
theorem queue_answers (s : Queues κ η) (calls : List (QueueCall κ η))
    (h : Keeps callFifo Proper (fun _ => none) calls) :
    answers callQueue s calls = answers callFifo (fun _ => none) calls :=
  answers_eq (fun _ _ c hR hc => call_agrees hR c hc) (represents_nothing s) h

/-- A few calls within the rules, on memory that has been used before: a header
    goes to the end, one to the front, and they come out again. -/
theorem queue_answers_two :
    answers callQueue (⟨fun _ => some true, fun _ => .next true, fun _ => 7, fun _ => 3⟩ :
        Queues Unit Bool)
      [.create () true, .put (some ()) (some true), .putBack (some ()) (some false),
        .get (some ()), .wait (some ()), .wait (some ())] =
    [some (.queue (some ())), some .void, some .void, some (.header (some false)),
      some (.header (some true)), none] :=
  (queue_answers _ _ (by simp [Keeps, Proper, Loose, callFifo, Fifos.take, Fifos.items])).trans
    (by decide)

/-- A header that is put while it is in the queue is the last one then. The
    headers behind it are in no queue any more, though the length still counts
    them. -/
theorem put_twice {before after : List η} (h : Represents s f)
    (hq : f q = some (before ++ b :: after)) :
    Leads Slot.next (mmalQueuePut s (some q) (some b)).link (.first q) (before ++ [b]) (.next b) ∧
      (mmalQueuePut s (some q) (some b)).link (.next b) = none ∧
      (mmalQueuePut s (some q) (some b)).semaphore q = before.length + after.length + 2 := by
  have hchain := h.chain q _ hq
  obtain ⟨hfront, hback⟩ := leads_split hchain.leads
  have hapart : (slots Slot.next (Slot.first q) (before ++ [b])).Nodup := by
    refine hchain.apart.sublist ?_
    simp [slots]
  refine ⟨?_, by simp [mmalQueuePut], ?_⟩
  · -- The link at `last` is the one of the header itself, or comes after it.
    have hlinked : Leads Slot.next (Function.update s.link (s.last q) (some b)) (.first q)
        (before ++ [b]) (.next b) := by
      cases after with
      | nil =>
          have hlast : Slot.next b = s.last q := hback
          rw [← hlast]
          exact leads_update_end _ hfront hapart
      | cons x rest =>
          refine leads_frame _ hfront ?_
          have hlast : s.last q ∈ slots Slot.next (Slot.next x) rest := leads_last hback.2
          have hnodup := hchain.apart
          have hsplit : slots Slot.next (Slot.first q) (before ++ b :: x :: rest) =
              slots Slot.next (Slot.first q) (before ++ [b]) ++ slots Slot.next (.next x) rest := by
            simp [slots]
          rw [hsplit, List.nodup_append] at hnodup
          exact fun hc => hnodup.2.2 _ hc _ hlast rfl
    exact leads_update_end _ hlinked hapart
  · have hsema := h.semaphore q _ hq
    simp only [List.length_append, List.length_cons] at hsema
    simp only [mmalQueuePut, Function.update_self, hsema]
    omega

end Framework

end RaspiCam
