import RaspiCam.Core.Mmal

/-!
# Parameters That Are Accepted

When MMAL accepts every value, committing settings is a list of parameters
that end up on the ports they were sent to. As long as no two of them go to
the same place, the order does not matter, and each is found there afterwards
(`param_sent_mem`).

## Main definitions

* `Slot`, `slotOf`: Where a parameter is kept.
* `World.sent`: Parameters accepted one after the other.
* `Component.accept`: What that makes of the component they are all sent to.

## Theorems

* `sendAll_eq_sent`: Setting parameters when all of them are accepted.
* `param_sent_mem`: A parameter that was sent is there.
* `param_sent_other`: Every other parameter stays what it was.
* `at_sent`: The component after its parameters were sent.
-/

namespace RaspiCam

namespace Mmal

/-- The place a parameter is kept in: a port and an identifier. -/
abbrev Slot := PortId × ParamId

/-- The place of a parameter that is sent to a port. -/
def slotOf (q : PortRef × Param) : Slot := (q.1.port, q.2.id)

/-- The same parameters, for the ports of a given component. -/
def toComponent (h : Handle) (qs : List (PortId × Param)) : List (PortRef × Param) :=
  qs.map fun q => (⟨h, q.1⟩, q.2)

namespace World

/-- The parameters are accepted one after the other. -/
def sent (w : World) (qs : List (PortRef × Param)) : World :=
  qs.foldl (fun w q => w.setParam q.1.component q.1.port q.2) w

@[simp] theorem sent_nil (w : World) : w.sent [] = w := rfl

@[simp] theorem sent_cons (w : World) (q : PortRef × Param) (qs : List (PortRef × Param)) :
    w.sent (q :: qs) = (w.setParam q.1.component q.1.port q.2).sent qs := rfl

theorem sent_append (w : World) (ps qs : List (PortRef × Param)) :
    w.sent (ps ++ qs) = (w.sent ps).sent qs := List.foldl_append

@[simp] theorem alive_sent (w : World) (qs : List (PortRef × Param)) (h : Handle) :
    (w.sent qs).alive h = w.alive h := by
  induction qs generalizing w with
  | nil => rfl
  | cons q qs ih => rw [sent_cons, ih, alive_setParam]

theorem forgetParams_sent (w : World) (qs : List (PortRef × Param)) :
    (w.sent qs).forgetParams = w.forgetParams := by
  induction qs generalizing w with
  | nil => rfl
  | cons q qs ih => rw [sent_cons, ih, forgetParams_setParam]

/-- Setting a parameter leaves the others alone. -/
theorem param_setParam_other {w : World} {h h' : Handle} {p p' : PortId} {q : Param} {i : ParamId}
    (hne : ¬ (h = h' ∧ p' = p ∧ i = q.id)) :
    (w.setParam h p q).param h' p' i = w.param h' p' i := by
  simp only [param, setParam, getElem?_modify]
  by_cases hh : h = h'
  · rw [if_pos hh]
    cases w.components[h']? with
    | none => rfl
    | some c =>
        simp only [Option.map_some, Option.bind_some]
        rw [if_neg (fun hc => hne ⟨hh, hc⟩)]
  · rw [if_neg hh]

/-- Every parameter of another component, or in another place, stays what it
    was. -/
theorem param_sent_other {w : World} {qs : List (PortRef × Param)} {h : Handle} {p : PortId}
    {i : ParamId} (hne : ∀ q ∈ qs, q.1.component = h → slotOf q ≠ (p, i)) :
    (w.sent qs).param h p i = w.param h p i := by
  induction qs generalizing w with
  | nil => rfl
  | cons q qs ih =>
      rw [sent_cons, ih (fun r hr => hne r (List.mem_cons_of_mem q hr))]
      refine param_setParam_other (fun hc => ?_)
      exact hne q List.mem_cons_self hc.1 (Prod.ext hc.2.1.symm hc.2.2.symm)

/-- A parameter that was sent is there, if nothing else was sent to its
    place. -/
theorem param_sent_mem {w : World} {qs : List (PortRef × Param)} {q : PortRef × Param}
    (hq : q ∈ qs) (hnodup : (qs.map slotOf).Nodup) (ha : w.alive q.1.component = true) :
    (w.sent qs).param q.1.component q.1.port q.2.id = some q.2 := by
  induction qs generalizing w with
  | nil => exact absurd hq List.not_mem_nil
  | cons r qs ih =>
      rw [List.map_cons, List.nodup_cons] at hnodup
      rw [sent_cons]
      rcases List.mem_cons.mp hq with rfl | hq
      · rw [param_sent_other, param_setParam ha, if_pos ⟨rfl, rfl, rfl⟩]
        intro s hs _ hslot
        exact hnodup.1 (List.mem_map.mpr ⟨s, hs, hslot⟩)
      · exact ih hq hnodup.2 (by rw [alive_setParam, ha])

end World

/-- When all of them are accepted, setting parameters sends them. -/
theorem sendAll_eq_sent {w : World} {h : Handle} {r : SetResults} (ha : w.alive h = true)
    (hr : r.ParamsOk) (qs : List (PortId × Param)) :
    sendAll (some h) r qs w = .ok (w.sent (toComponent h qs)) := by
  induction qs generalizing w with
  | nil => rfl
  | cons q qs ih =>
      have hsend : sendTo (portOf (some h) q.1) q.2 r w = .ok (w.setParam h q.1 q.2) := by
        rw [portOf, Option.map_some, sendTo_ok ha, if_pos (hr _ _)]
      simp only [sendAll, hsend]
      exact ih (by rw [World.alive_setParam, ha])

/-- The parameters a component has after accepting some more. -/
def Component.accept (c : Component) (qs : List (PortId × Param)) : Component :=
  qs.foldl (fun c q =>
    { c with params := fun p i => if p = q.1 ∧ i = q.2.id then some q.2 else c.params p i }) c

theorem World.at_sent (w : World) (h : Handle) (qs : List (PortId × Param))
    (P : Component → Prop) :
    (w.sent (toComponent h qs)).At h P ↔ w.At h fun c => P (c.accept qs) := by
  induction qs generalizing w with
  | nil => exact Iff.rfl
  | cons q qs ih => exact (ih (w.setParam h q.1 q.2)).trans (World.at_setParam w h q.1 q.2 _)

end Mmal

end RaspiCam
