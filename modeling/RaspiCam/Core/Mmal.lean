import RaspiCam.Core.Types
import Mathlib.Data.List.Basic

/-!
# The MMAL Side

What the library sees of MMAL: components with their ports, buffer pools and
connections, each named by a handle, and the calls that create, configure and
destroy them.

Objects are kept in creation order and never removed. A destroyed object
stays behind with the number of times it was destroyed, so the lists are also
the ledger of everything ever created: an object is live while that count is
zero, and a leak or a double destruction is visible in the final state.

Whether a call succeeds is up to MMAL, so every call that can fail takes its
result as an argument. A call that fails changes nothing. Dereferencing a
null pointer, or one that refers to a destroyed object, is a `Fault`: the
program has no behaviour past it, and the functions that can do it return
`Except Fault`.

A device parameter is kept per port, under the identifier of the parameter.
What a port holds for an identifier is the value last accepted for it, which
is what "the value last committed" means throughout.

## Main definitions

* `Param`, `ParamId`: Parameters with their values, and their identifiers.
* `EsFormat`: The elementary stream format of a port.
* `Component`, `Pool`, `Connection`: The objects.
* `World`: All objects created so far.
* `Fault`: What a program does when it has no behaviour.
* `PortRef`: A pointer to a port of a component.
* `SetResults`: The results of the parameter calls of one operation.
* `sendTo`, `sendAll`, `sendWhileOk`: Setting parameters through a pointer.
* `trySet`: Setting a parameter on a component at hand.
* `setOn`, `usePool`, `useComponent`, `usePort`: Following a pointer that was
  kept.
* `Goes`: A step that goes through and destroys nothing.
* `World.forgetParams`: Everything but the parameters.
* `World.At`: A property of a component that exists.

## Theorems

* `bind_ok`: Peeling a computation that went through.
* `alive_modify`: Reconfiguring a component leaves its life alone.
* `param_setParam`: What a port holds after a parameter was set.
* `sendTo_ok`: Setting a parameter through a valid pointer.
* `sendTo_forgetParams`, `sendAll_forgetParams`, `sendWhileOk_forgetParams`:
  Setting parameters changes nothing else.
-/

namespace RaspiCam

namespace Mmal

/-- Objects are named by their position in creation order. -/
abbrev Handle := Nat

/-- The ports of a component. -/
inductive PortId
  | control
  | input (i : Nat)
  | output (i : Nat)
deriving DecidableEq

/-- `MMAL_CAMERA_VIDEO_PORT`. -/
def cameraVideoPort : PortId := .output 1

/-- `MMAL_CAMERA_CAPTURE_PORT`. -/
def cameraCapturePort : PortId := .output 2

/-- `MMAL_PARAMETER_CAMERA_CONFIG_T`, the fields that are not constant zero. -/
structure CameraConfig where
  maxStillsW : Nat
  maxStillsH : Nat
  oneShotStills : Bool
  maxPreviewVideoW : Nat
  maxPreviewVideoH : Nat
  numPreviewVideoFrames : Nat
deriving DecidableEq

/-- The parameter identifiers the library uses. -/
inductive ParamId
  | brightness
  | sharpness
  | contrast
  | saturation
  | iso
  | shutterSpeed
  | exposureMode
  | exposureComp
  | expMeteringMode
  | awbMode
  | customAwbGains
  | imageEffect
  | rotation
  | mirror
  | videoStabilisation
  | colourEffect
  | inputCrop
  | jpegQFactor
  | cameraConfig
  | changeEventRequest
  | cameraCustomSensorConfig
  | capture
deriving DecidableEq

/-- A parameter with its value. -/
inductive Param
  | brightness (v : MmalRational)
  | sharpness (v : MmalRational)
  | contrast (v : MmalRational)
  | saturation (v : MmalRational)
  | iso (v : Nat)
  | shutterSpeed (v : Nat)
  | exposureMode (v : MmalExposureMode)
  | exposureComp (v : Int)
  | expMeteringMode (v : MmalExposureMeteringMode)
  | awbMode (v : MmalAwbMode)
  | customAwbGains (r b : MmalRational)
  | imageEffect (v : MmalImageFx)
  | rotation (v : Int)
  | mirror (v : MmalMirror)
  | videoStabilisation (v : Bool)
  | colourEffect (enable : Bool) (u v : Nat)
  | inputCrop (x y width height : Int)
  | jpegQFactor (v : Nat)
  | cameraConfig (v : CameraConfig)
  | changeEventRequest (enable : Bool)
  | cameraCustomSensorConfig (v : Nat)
  | capture (v : Bool)
deriving DecidableEq

/-- The identifier a parameter is filed under. -/
def Param.id : Param → ParamId
  | .brightness _ => .brightness
  | .sharpness _ => .sharpness
  | .contrast _ => .contrast
  | .saturation _ => .saturation
  | .iso _ => .iso
  | .shutterSpeed _ => .shutterSpeed
  | .exposureMode _ => .exposureMode
  | .exposureComp _ => .exposureComp
  | .expMeteringMode _ => .expMeteringMode
  | .awbMode _ => .awbMode
  | .customAwbGains _ _ => .customAwbGains
  | .imageEffect _ => .imageEffect
  | .rotation _ => .rotation
  | .mirror _ => .mirror
  | .videoStabilisation _ => .videoStabilisation
  | .colourEffect _ _ _ => .colourEffect
  | .inputCrop _ _ _ _ => .inputCrop
  | .jpegQFactor _ => .jpegQFactor
  | .cameraConfig _ => .cameraConfig
  | .changeEventRequest _ => .changeEventRequest
  | .cameraCustomSensorConfig _ => .cameraCustomSensorConfig
  | .capture _ => .capture

/-- `MMAL_ES_FORMAT_T` with its video part. The crop origin is always zero. -/
structure EsFormat where
  encoding : MmalEncoding
  encodingVariant : MmalEncoding
  width : Nat
  height : Nat
  cropWidth : Nat
  cropHeight : Nat
  frameRateNum : Int
  frameRateDen : Int
deriving DecidableEq

/-- A format that was never configured. -/
def EsFormat.unset : EsFormat where
  encoding := .opaq
  encodingVariant := .opaq
  width := 0
  height := 0
  cropWidth := 0
  cropHeight := 0
  frameRateNum := 0
  frameRateDen := 1

/-- Which component was asked for. -/
inductive ComponentKind
  | camera
  | imageEncoder
deriving DecidableEq

/-- `MMAL_COMPONENT_T` and its ports. `format` is the format a client reads
    and writes, `committed` the one the device last accepted. -/
structure Component where
  kind : ComponentKind
  params : PortId → ParamId → Option Param
  format : PortId → EsFormat
  committed : PortId → Option EsFormat
  portEnabled : PortId → Bool
  userdata : PortId → Option Nat
  enabled : Bool
  destroyed : Nat

/-- A component that was just created. The firmware decides which formats its
    ports start with. -/
def Component.created (k : ComponentKind) (formats : PortId → EsFormat) : Component where
  kind := k
  params := fun _ _ => none
  format := formats
  committed := fun _ => none
  portEnabled := fun _ => false
  userdata := fun _ => none
  enabled := false
  destroyed := 0

/-- `MMAL_POOL_T`. -/
structure Pool where
  destroyed : Nat
deriving DecidableEq

/-- `MMAL_CONNECTION_T`. -/
structure Connection where
  enabled : Bool
  destroyed : Nat
deriving DecidableEq

/-- Every object created so far, in creation order. -/
structure World where
  components : List Component
  pools : List Pool
  connections : List Connection

/-- Nothing created yet. -/
def World.empty : World := ⟨[], [], []⟩

/-- What a program does when it has no behaviour. -/
inductive Fault
  | nullPointer
  | deadObject
deriving DecidableEq

/-- A pointer to a port: the component it belongs to and which port it is. -/
structure PortRef where
  component : Handle
  port : PortId
deriving DecidableEq

/-- The results of the parameter calls and of the bare format commit that one
    operation makes. -/
structure SetResults where
  param : PortId → ParamId → Bool
  formatCommit : Bool

/-- Every parameter is accepted. -/
def SetResults.AllOk (r : SetResults) : Prop :=
  (∀ p i, r.param p i = true) ∧ r.formatCommit = true

/-- Every parameter is accepted, and the format may not be. -/
def SetResults.ParamsOk (r : SetResults) : Prop := ∀ p i, r.param p i = true

theorem SetResults.AllOk.paramsOk {r : SetResults} (h : r.AllOk) : r.ParamsOk := h.1

/-- The results where every call succeeds. -/
def SetResults.allOk : SetResults := { param := fun _ _ => true, formatCommit := true }

theorem SetResults.allOk_allOk : SetResults.allOk.AllOk := ⟨fun _ _ => rfl, rfl⟩

namespace World

/-- The component with handle `h` exists and was not destroyed. -/
def alive (w : World) (h : Handle) : Bool :=
  match w.components[h]? with
  | some c => c.destroyed == 0
  | none => false

/-- The pool with handle `h` exists and was not destroyed. -/
def poolAlive (w : World) (h : Handle) : Bool :=
  match w.pools[h]? with
  | some p => p.destroyed == 0
  | none => false

/-- Change the component with handle `h`. -/
def modify (w : World) (h : Handle) (f : Component → Component) : World :=
  { w with components := w.components.modify h f }

/-- What port `p` of component `h` holds for parameter `i`. -/
def param (w : World) (h : Handle) (p : PortId) (i : ParamId) : Option Param :=
  (w.components[h]?).bind fun c => c.params p i

/-- The format component `h` last accepted on port `p`. -/
def committed (w : World) (h : Handle) (p : PortId) : Option EsFormat :=
  (w.components[h]?).bind fun c => c.committed p

/-- Whether port `p` of component `h` is enabled. -/
def portEnabled (w : World) (h : Handle) (p : PortId) : Bool :=
  match w.components[h]? with
  | some c => c.portEnabled p
  | none => false

/-- Component `h` accepts parameter `q` on port `p`. -/
def setParam (w : World) (h : Handle) (p : PortId) (q : Param) : World :=
  w.modify h fun c =>
    { c with params := fun p' i => if p' = p ∧ i = q.id then some q else c.params p' i }

/-- A client writes the format of port `p` of component `h`. -/
def writeFormat (w : World) (h : Handle) (p : PortId) (f : EsFormat → EsFormat) : World :=
  w.modify h fun c => { c with format := fun p' => if p' = p then f (c.format p) else c.format p' }

/-- `mmal_port_format_commit`. -/
def commitFormat (w : World) (h : Handle) (p : PortId) (ok : Bool) : World :=
  if ok then
    w.modify h fun c =>
      { c with committed := fun p' => if p' = p then some (c.format p) else c.committed p' }
  else w

/-- Set whether port `p` of component `h` is enabled. -/
def setPortEnabled (w : World) (h : Handle) (p : PortId) (b : Bool) : World :=
  w.modify h fun c => { c with portEnabled := fun p' => if p' = p then b else c.portEnabled p' }

/-- `port->userdata = u`. -/
def setUserdata (w : World) (h : Handle) (p : PortId) (u : Option Nat) : World :=
  w.modify h fun c => { c with userdata := fun p' => if p' = p then u else c.userdata p' }

/-- Set whether the component is enabled. -/
def setEnabled (w : World) (h : Handle) (b : Bool) : World :=
  w.modify h fun c => { c with enabled := b }

/-- `mmal_component_create` on success. -/
def createComponent (w : World) (k : ComponentKind) (formats : PortId → EsFormat) : World :=
  { w with components := w.components ++ [Component.created k formats] }

/-- `mmal_component_destroy`: the ports are disabled and the component goes. -/
def destroyComponent (w : World) (h : Handle) : World :=
  w.modify h fun c => { c with portEnabled := fun _ => false, destroyed := c.destroyed + 1 }

/-- `mmal_port_pool_create` on success. -/
def createPool (w : World) : World := { w with pools := w.pools ++ [{ destroyed := 0 }] }

/-- `mmal_pool_destroy`. -/
def destroyPool (w : World) (h : Handle) : World :=
  { w with pools := w.pools.modify h fun p => { p with destroyed := p.destroyed + 1 } }

/-- `mmal_connection_create` on success. -/
def createConnection (w : World) : World :=
  { w with connections := w.connections ++ [{ enabled := false, destroyed := 0 }] }

/-- `mmal_connection_enable` on success. -/
def enableConnection (w : World) (h : Handle) : World :=
  { w with connections := w.connections.modify h fun c => { c with enabled := true } }

/-- `mmal_connection_destroy`. -/
def destroyConnection (w : World) (h : Handle) : World :=
  { w with connections := w.connections.modify h fun c =>
      { c with enabled := false, destroyed := c.destroyed + 1 } }

/-- The handle the next component gets. -/
def nextComponent (w : World) : Handle := w.components.length

/-- The handle the next pool gets. -/
def nextPool (w : World) : Handle := w.pools.length

/-- The handle the next connection gets. -/
def nextConnection (w : World) : Handle := w.connections.length

/-- Changing a component creates none. -/
@[simp] theorem nextComponent_modify (w : World) (h : Handle) (f : Component → Component) :
    (w.modify h f).nextComponent = w.nextComponent := List.length_modify f w.components h

@[simp] theorem nextComponent_setParam (w : World) (h : Handle) (p : PortId) (q : Param) :
    (w.setParam h p q).nextComponent = w.nextComponent := nextComponent_modify w h _

@[simp] theorem nextComponent_writeFormat (w : World) (h : Handle) (p : PortId)
    (f : EsFormat → EsFormat) : (w.writeFormat h p f).nextComponent = w.nextComponent :=
  nextComponent_modify w h _

@[simp] theorem nextComponent_commitFormat (w : World) (h : Handle) (p : PortId) (ok : Bool) :
    (w.commitFormat h p ok).nextComponent = w.nextComponent := by
  cases ok with
  | false => rfl
  | true => exact nextComponent_modify w h _

@[simp] theorem nextComponent_setPortEnabled (w : World) (h : Handle) (p : PortId) (b : Bool) :
    (w.setPortEnabled h p b).nextComponent = w.nextComponent := nextComponent_modify w h _

@[simp] theorem nextComponent_setUserdata (w : World) (h : Handle) (p : PortId)
    (u : Option Nat) : (w.setUserdata h p u).nextComponent = w.nextComponent :=
  nextComponent_modify w h _

@[simp] theorem nextComponent_setEnabled (w : World) (h : Handle) (b : Bool) :
    (w.setEnabled h b).nextComponent = w.nextComponent := nextComponent_modify w h _

@[simp] theorem nextComponent_destroyComponent (w : World) (h : Handle) :
    (w.destroyComponent h).nextComponent = w.nextComponent := nextComponent_modify w h _

@[simp] theorem nextComponent_destroyPool (w : World) (h : Handle) :
    (w.destroyPool h).nextComponent = w.nextComponent := rfl

@[simp] theorem nextComponent_createPool (w : World) :
    w.createPool.nextComponent = w.nextComponent := rfl

theorem nextComponent_createComponent (w : World) (k : ComponentKind)
    (formats : PortId → EsFormat) :
    (w.createComponent k formats).nextComponent = w.nextComponent + 1 := by
  simp only [nextComponent, createComponent, List.length_append, List.length_cons, List.length_nil]

theorem getElem?_modify (w : World) (h h' : Handle) (f : Component → Component) :
    (w.modify h f).components[h']?
      = if h = h' then (w.components[h']?).map f else w.components[h']? := by
  simp only [modify, List.getElem?_modify]
  by_cases hh : h = h'
  · simp only [if_pos hh]
    rfl
  · simp only [if_neg hh]
    cases w.components[h']? <;> rfl

/-- What can be read off a component is the same after a change that does not
    concern it. -/
theorem read_modify {α : Type} (w : World) (h h' : Handle) {f : Component → Component}
    (read : Option Component → α) (hf : ∀ c, read (some (f c)) = read (some c)) :
    read ((w.modify h f).components[h']?) = read (w.components[h']?) := by
  rw [getElem?_modify]
  by_cases hh : h = h'
  · rw [if_pos hh]
    cases w.components[h']? with
    | none => rfl
    | some c => exact hf c
  · rw [if_neg hh]

/-- Reconfiguring a component leaves its life alone. -/
theorem alive_modify (w : World) (h h' : Handle) (f : Component → Component)
    (hf : ∀ c, (f c).destroyed = c.destroyed) : (w.modify h f).alive h' = w.alive h' :=
  w.read_modify h h' (fun o => match o with
    | some c => c.destroyed == 0
    | none => false) fun c => congrArg (· == 0) (hf c)

/-- So it does with what a port was configured to, unless that is what it
    changes. -/
theorem committed_modify (w : World) (h h' : Handle) (p : PortId) (f : Component → Component)
    (hf : ∀ c, (f c).committed = c.committed) :
    (w.modify h f).committed h' p = w.committed h' p :=
  w.read_modify h h' (fun o => o.bind fun c => c.committed p) fun c => congrFun (hf c) p

theorem param_modify (w : World) (h h' : Handle) (p : PortId) (i : ParamId)
    (f : Component → Component) (hf : ∀ c, (f c).params = c.params) :
    (w.modify h f).param h' p i = w.param h' p i :=
  w.read_modify h h' (fun o => o.bind fun c => c.params p i) fun c => congrFun (congrFun (hf c) p) i

/-- A change to a component that leaves its ports alone. -/
theorem portEnabled_modify (w : World) (h h' : Handle) (p : PortId) (f : Component → Component)
    (hf : ∀ c, (f c).portEnabled = c.portEnabled) :
    (w.modify h f).portEnabled h' p = w.portEnabled h' p :=
  w.read_modify h h' (fun o => match o with
    | some c => c.portEnabled p
    | none => false) fun c => congrFun (hf c) p

theorem portEnabled_setUserdata (w : World) (h g : Handle) (p q : PortId) (u : Option Nat) :
    (w.setUserdata h p u).portEnabled g q = w.portEnabled g q :=
  portEnabled_modify w h g q _ fun _ => rfl

theorem param_writeFormat (w : World) (h h' : Handle) (p p' : PortId) (f : EsFormat → EsFormat)
    (i : ParamId) : (w.writeFormat h p f).param h' p' i = w.param h' p' i :=
  param_modify w h h' p' i _ fun _ => rfl

theorem param_commitFormat (w : World) (h h' : Handle) (p p' : PortId) (ok : Bool) (i : ParamId) :
    (w.commitFormat h p ok).param h' p' i = w.param h' p' i := by
  cases ok with
  | false => rfl
  | true => exact param_modify w h h' p' i _ fun _ => rfl

theorem committed_setUserdata (w : World) (h h' : Handle) (p p' : PortId) (u : Option Nat) :
    (w.setUserdata h p u).committed h' p' = w.committed h' p' :=
  committed_modify w h h' p' _ fun _ => rfl

@[simp] theorem alive_setParam (w : World) (h h' : Handle) (p : PortId) (q : Param) :
    (w.setParam h p q).alive h' = w.alive h' := alive_modify w h h' _ fun _ => rfl

@[simp] theorem alive_writeFormat (w : World) (h h' : Handle) (p : PortId)
    (f : EsFormat → EsFormat) : (w.writeFormat h p f).alive h' = w.alive h' :=
  alive_modify w h h' _ fun _ => rfl

@[simp] theorem alive_commitFormat (w : World) (h h' : Handle) (p : PortId) (ok : Bool) :
    (w.commitFormat h p ok).alive h' = w.alive h' := by
  cases ok with
  | false => rfl
  | true => exact alive_modify w h h' _ fun _ => rfl

theorem pools_commitFormat (w : World) (h : Handle) (p : PortId) (ok : Bool) :
    (w.commitFormat h p ok).pools = w.pools := by
  cases ok <;> rfl

@[simp] theorem alive_setPortEnabled (w : World) (h h' : Handle) (p : PortId) (b : Bool) :
    (w.setPortEnabled h p b).alive h' = w.alive h' := alive_modify w h h' _ fun _ => rfl

@[simp] theorem alive_setUserdata (w : World) (h h' : Handle) (p : PortId) (u : Option Nat) :
    (w.setUserdata h p u).alive h' = w.alive h' := alive_modify w h h' _ fun _ => rfl

@[simp] theorem alive_setEnabled (w : World) (h h' : Handle) (b : Bool) :
    (w.setEnabled h b).alive h' = w.alive h' := alive_modify w h h' _ fun _ => rfl

@[simp] theorem alive_createPool (w : World) (h : Handle) : w.createPool.alive h = w.alive h := rfl

/-- Destroying a component ends no other life. -/
theorem alive_destroyComponent_other {w : World} {h h' : Handle} (hne : h ≠ h') :
    (w.destroyComponent h).alive h' = w.alive h' := by
  simp only [alive, destroyComponent, getElem?_modify, if_neg hne]

theorem alive_getElem {w : World} {h : Handle} (ha : w.alive h = true) :
    ∃ c, w.components[h]? = some c ∧ c.destroyed = 0 := by
  unfold alive at ha
  cases hc : w.components[h]? with
  | none => rw [hc] at ha; exact absurd ha (by simp only [Bool.false_eq_true, not_false_eq_true])
  | some c =>
      rw [hc] at ha
      exact ⟨c, rfl, by simpa only [beq_iff_eq] using ha⟩

theorem alive_lt {w : World} {h : Handle} (ha : w.alive h = true) : h < w.nextComponent := by
  rcases alive_getElem ha with ⟨c, hc, _⟩
  exact (List.getElem?_eq_some_iff.mp hc).1

/-- What a port holds after a parameter was set. -/
theorem param_setParam {w : World} {h : Handle} (ha : w.alive h = true) (h' : Handle)
    (p p' : PortId) (q : Param) (i : ParamId) :
    (w.setParam h p q).param h' p' i
      = if h = h' ∧ p' = p ∧ i = q.id then some q else w.param h' p' i := by
  rcases alive_getElem ha with ⟨c, hc, _⟩
  simp only [param, setParam, getElem?_modify]
  by_cases hh : h = h'
  · subst hh
    rw [if_pos rfl, hc]
    simp only [Option.map_some, Option.bind_some, true_and]
  · rw [if_neg hh, if_neg (fun hc => hh hc.1)]

end World

/-- A computation that went through went through at every step. -/
theorem bind_ok {α β : Type} {x : Except Fault α} {f : α → Except Fault β} {b : β}
    (h : x >>= f = .ok b) : ∃ a, x = .ok a ∧ f a = .ok b := by
  cases x with
  | error e => exact absurd h (by simp only [bind, Except.bind, reduceCtorEq, not_false_eq_true])
  | ok a => exact ⟨a, rfl, h⟩

theorem toOption_ok {α : Type} {x : Except Fault α} {a : α} (h : x.toOption = some a) :
    x = .ok a := by
  cases x with
  | error e => exact absurd h nofun
  | ok b => exact congrArg Except.ok (Option.some.inj h)

/-- What goes through does not fail. -/
theorem ok_ne_error {α : Type} (a : α) (e : Fault) : Except.ok a ≠ Except.error e := nofun

/-- A step that goes through is gone through. -/
theorem ok_bind {α β : Type} (a : α) (f : α → Except Fault β) : (.ok a >>= f) = f a := by
  -- Not by `rfl`: a rewrite along a chain of steps is then checked step by step.
  have h : ∀ x : Except Fault α, x = .ok a → (x >>= f) = f a := by
    rintro x rfl
    rfl
  exact h _ rfl

/-- Set a parameter through a pointer to a port: a null pointer or one into a
    destroyed component is a fault, and a refused value changes nothing. -/
def sendTo (p : Option PortRef) (q : Param) (r : SetResults) (w : World) : Except Fault World :=
  match p with
  | none => .error .nullPointer
  | some p =>
    if w.alive p.component then
      .ok (if r.param p.port q.id then w.setParam p.component p.port q else w)
    else .error .deadObject

theorem sendTo_ok {w : World} {h : Handle} (ha : w.alive h = true) (p : PortId) (q : Param)
    (r : SetResults) : sendTo (some ⟨h, p⟩) q r w
      = .ok (if r.param p q.id then w.setParam h p q else w) := by
  simp only [sendTo, ha, if_true]

/-- A parameter that is set on a component at hand. -/
def trySet (h : Handle) (p : PortId) (q : Param) (r : SetResults) (w : World) : World :=
  if r.param p q.id then w.setParam h p q else w

@[simp] theorem alive_trySet (h h' : Handle) (p : PortId) (q : Param) (r : SetResults)
    (w : World) : (trySet h p q r w).alive h' = w.alive h' := by
  unfold trySet
  by_cases hq : r.param p q.id = true
  · rw [if_pos hq, World.alive_setParam]
  · rw [if_neg hq]

@[simp] theorem nextComponent_trySet (h : Handle) (p : PortId) (q : Param) (r : SetResults)
    (w : World) : (trySet h p q r w).nextComponent = w.nextComponent := by
  unfold trySet
  by_cases hq : r.param p q.id = true
  · rw [if_pos hq, World.nextComponent_setParam]
  · rw [if_neg hq]

theorem trySet_allOk {r : SetResults} (hr : r.ParamsOk) (h : Handle) (p : PortId) (q : Param)
    (w : World) : trySet h p q r w = w.setParam h p q := if_pos (hr p q.id)

theorem pools_trySet (h : Handle) (p : PortId) (q : Param) (r : SetResults) (w : World) :
    (trySet h p q r w).pools = w.pools := by
  unfold trySet
  by_cases hq : r.param p q.id = true
  · rw [if_pos hq]
    rfl
  · rw [if_neg hq]

/-- `mmal_port_parameter_set` with its status, on a port pointer that was
    kept: unlike a null component, a null port is refused, not dereferenced. -/
def setOn (p : Option PortRef) (q : Param) (r : SetResults) (w : World) :
    Except Fault (Bool × World) :=
  match p with
  | none => .ok (false, w)
  | some p => do .ok (r.param p.port q.id, ← sendTo (some p) q r w)

/-- Following a pointer to a pool. -/
def usePool (pool : Option Handle) (w : World) : Except Fault Handle :=
  match pool with
  | none => .error .nullPointer
  | some h => if w.poolAlive h then .ok h else .error .deadObject

/-- Following a pointer to a component. -/
def useComponent (c : Option Handle) (w : World) : Except Fault Handle :=
  match c with
  | none => .error .nullPointer
  | some h => if w.alive h then .ok h else .error .deadObject

/-- Following a pointer to a port. -/
def usePort (p : Option PortRef) (w : World) : Except Fault PortRef :=
  match p with
  | none => .error .nullPointer
  | some p => if w.alive p.component then .ok p else .error .deadObject

theorem useComponent_ok {c : Option Handle} {w : World} {h : Handle}
    (hc : useComponent c w = .ok h) : c = some h ∧ w.alive h = true := by
  cases c with
  | none => exact absurd hc nofun
  | some g =>
      simp only [useComponent] at hc
      by_cases ha : w.alive g = true
      · rw [if_pos ha, Except.ok.injEq] at hc
        exact ⟨congrArg some hc, hc ▸ ha⟩
      · rw [if_neg ha] at hc
        exact absurd hc nofun

theorem usePort_ok {p : Option PortRef} {w : World} {q : PortRef} (hp : usePort p w = .ok q) :
    p = some q ∧ w.alive q.component = true := by
  cases p with
  | none => exact absurd hp nofun
  | some g =>
      simp only [usePort] at hp
      by_cases ha : w.alive g.component = true
      · rw [if_pos ha, Except.ok.injEq] at hp
        exact ⟨congrArg some hp, hp ▸ ha⟩
      · rw [if_neg ha] at hp
        exact absurd hp nofun

/-- Port `p` of the component a pointer refers to. -/
def portOf (c : Option Handle) (p : PortId) : Option PortRef := c.map fun h => ⟨h, p⟩

/-- What setting a parameter on a kept pointer changes. -/
theorem setOn_ok {p : Option PortRef} {q : Param} {r : SetResults} {w w' : World} {b : Bool}
    (h : setOn p q r w = .ok (b, w')) :
    w' = w ∨ ∃ p', p = some p' ∧ b = true ∧ w' = w.setParam p'.component p'.port q := by
  cases p with
  | none => exact Or.inl (Prod.mk.inj (Except.ok.inj h)).2.symm
  | some p =>
      rcases bind_ok h with ⟨w₁, hw, h⟩
      rcases Prod.mk.inj (Except.ok.inj h) with ⟨rfl, rfl⟩
      simp only [sendTo] at hw
      by_cases ha : w.alive p.component = true
      · rw [if_pos ha, Except.ok.injEq] at hw
        by_cases hr : r.param p.port q.id = true
        · rw [if_pos hr] at hw
          exact Or.inr ⟨p, rfl, hr, hw.symm⟩
        · rw [if_neg hr] at hw
          exact Or.inl hw.symm
      · rw [if_neg ha] at hw
        exact absurd hw nofun

/-- Set several parameters in order, whether or not they are accepted. -/
def sendAll (c : Option Handle) (r : SetResults) :
    List (PortId × Param) → World → Except Fault World
  | [], w => .ok w
  | q :: qs, w => do sendAll c r qs (← sendTo (portOf c q.1) q.2 r w)

/-- Set several parameters in order, up to the first that is refused: calls
    chained by `||`. -/
def sendWhileOk (c : Option Handle) (r : SetResults) :
    List (PortId × Param) → World → Except Fault World
  | [], w => .ok w
  | q :: qs, w => do
    let w ← sendTo (portOf c q.1) q.2 r w
    if r.param q.1 q.2.id then sendWhileOk c r qs w else .ok w

/-- A step on the device that goes through and destroys nothing. -/
def Goes (alive : Handle → Bool) (x : Except Fault World) : Prop :=
  ∃ w, x = .ok w ∧ w.alive = alive

/-- A step that goes through may be followed by another one. -/
theorem bind_total {α β : Type} {x : Except Fault α} {f : α → Except Fault β} {a : α}
    (hx : x = .ok a) (hf : ∃ b, f a = .ok b) : ∃ b, (x >>= f) = .ok b := by
  rcases hf with ⟨b, hb⟩
  exact ⟨b, by rw [hx, ok_bind, hb]⟩

theorem Goes.bind {alive : Handle → Bool} {α : Type} {x : Except Fault World}
    {f : World → Except Fault α} (hx : Goes alive x)
    (hf : ∀ w, w.alive = alive → ∃ a, f w = .ok a) : ∃ a, (x >>= f) = .ok a := by
  rcases hx with ⟨w, hx, hw⟩
  exact bind_total hx (hf w hw)

theorem sendTo_goes {w : World} {p : PortRef} (ha : w.alive p.component = true) (q : Param)
    (r : SetResults) : Goes w.alive (sendTo (some p) q r w) := by
  refine ⟨_, sendTo_ok ha p.port q r, ?_⟩
  by_cases hr : r.param p.port q.id = true
  · rw [if_pos hr]
    exact funext fun g => World.alive_setParam w _ g _ _
  · rw [if_neg hr]

theorem sendAll_goes {w : World} {h : Handle} (ha : w.alive h = true) (r : SetResults)
    (qs : List (PortId × Param)) : Goes w.alive (sendAll (some h) r qs w) := by
  induction qs generalizing w with
  | nil => exact ⟨w, rfl, rfl⟩
  | cons q qs ih =>
      rcases sendTo_goes (p := ⟨h, q.1⟩) ha q.2 r with ⟨w', hw', halive⟩
      simp only [sendAll, portOf, Option.map_some, hw']
      rw [← halive] at ha ⊢
      exact ih ha

theorem sendWhileOk_goes {w : World} {h : Handle} (ha : w.alive h = true) (r : SetResults)
    (qs : List (PortId × Param)) : Goes w.alive (sendWhileOk (some h) r qs w) := by
  induction qs generalizing w with
  | nil => exact ⟨w, rfl, rfl⟩
  | cons q qs ih =>
      rcases sendTo_goes (p := ⟨h, q.1⟩) ha q.2 r with ⟨w', hw', halive⟩
      simp only [sendWhileOk, portOf, Option.map_some, hw', ok_bind]
      rw [← halive] at ha ⊢
      by_cases hr : r.param q.1 q.2.id = true
      · rw [if_pos hr]
        exact ih ha
      · rw [if_neg hr]
        exact ⟨w', rfl, rfl⟩

/-- When every parameter is accepted the chain is not cut. -/
theorem sendWhileOk_eq_sendAll {r : SetResults} (hr : r.ParamsOk) (c : Option Handle)
    (qs : List (PortId × Param)) (w : World) : sendWhileOk c r qs w = sendAll c r qs w := by
  induction qs generalizing w with
  | nil => rfl
  | cons q qs ih =>
      simp only [sendWhileOk, sendAll, hr _ _, if_true]
      cases sendTo (portOf c q.1) q.2 r w with
      | error e => rfl
      | ok w' => exact ih w'

namespace World

/-- Everything but the parameters. -/
def forgetParams (w : World) : World :=
  { w with components := w.components.map fun c => { c with params := fun _ _ => none } }

theorem getElem?_forgetParams (w : World) (h : Handle) :
    w.forgetParams.components[h]?
      = (w.components[h]?).map fun c => { c with params := fun _ _ => none } :=
  List.getElem?_map

theorem poolAlive_congr {w w' : World} (h : w'.pools = w.pools) (g : Handle) :
    w'.poolAlive g = w.poolAlive g := by
  simp only [poolAlive, h]

theorem nextComponent_forgetParams (w : World) :
    w.forgetParams.nextComponent = w.nextComponent := List.length_map _

theorem pools_forgetParams (w : World) : w.forgetParams.pools = w.pools := rfl

theorem alive_forgetParams (w : World) (h : Handle) : w.forgetParams.alive h = w.alive h := by
  simp only [alive, getElem?_forgetParams]
  cases w.components[h]? <;> rfl

theorem committed_forgetParams (w : World) (h : Handle) (p : PortId) :
    w.forgetParams.committed h p = w.committed h p := by
  simp only [committed, getElem?_forgetParams]
  cases w.components[h]? <;> rfl

theorem portEnabled_forgetParams (w : World) (h : Handle) (p : PortId) :
    w.forgetParams.portEnabled h p = w.portEnabled h p := by
  simp only [portEnabled, getElem?_forgetParams]
  cases w.components[h]? <;> rfl

theorem forgetParams_setParam (w : World) (h : Handle) (p : PortId) (q : Param) :
    (w.setParam h p q).forgetParams = w.forgetParams := by
  simp only [forgetParams, setParam, modify, mk.injEq, and_true]
  refine List.ext_getElem? (fun i => ?_)
  simp only [List.getElem?_map, List.getElem?_modify]
  by_cases hi : h = i
  · simp only [if_pos hi]
    cases w.components[i]? <;> rfl
  · simp only [if_neg hi]
    cases w.components[i]? <;> rfl

/-- A change that has nothing to do with parameters may be made before or
    after they are forgotten. -/
theorem forgetParams_modify (w : World) (h : Handle) (f : Component → Component)
    (hf : ∀ c, { f c with params := fun _ _ => none } = f { c with params := fun _ _ => none }) :
    (w.modify h f).forgetParams = w.forgetParams.modify h f := by
  simp only [forgetParams, modify, mk.injEq, and_true]
  refine List.ext_getElem? (fun i => ?_)
  simp only [List.getElem?_map, List.getElem?_modify]
  by_cases hi : h = i
  · simp only [if_pos hi]
    cases w.components[i]? with
    | none => rfl
    | some c => exact congrArg some (hf c)
  · simp only [if_neg hi]
    cases w.components[i]? <;> rfl

theorem forgetParams_writeFormat (w : World) (h : Handle) (p : PortId) (f : EsFormat → EsFormat) :
    (w.writeFormat h p f).forgetParams = w.forgetParams.writeFormat h p f :=
  forgetParams_modify w h _ fun _ => rfl

theorem forgetParams_commitFormat (w : World) (h : Handle) (p : PortId) :
    (w.commitFormat h p true).forgetParams = w.forgetParams.commitFormat h p true :=
  forgetParams_modify w h _ fun _ => rfl

theorem forgetParams_setPortEnabled (w : World) (h : Handle) (p : PortId) (b : Bool) :
    (w.setPortEnabled h p b).forgetParams = w.forgetParams.setPortEnabled h p b :=
  forgetParams_modify w h _ fun _ => rfl

theorem forgetParams_setUserdata (w : World) (h : Handle) (p : PortId) (u : Option Nat) :
    (w.setUserdata h p u).forgetParams = w.forgetParams.setUserdata h p u :=
  forgetParams_modify w h _ fun _ => rfl

theorem forgetParams_setEnabled (w : World) (h : Handle) (b : Bool) :
    (w.setEnabled h b).forgetParams = w.forgetParams.setEnabled h b :=
  forgetParams_modify w h _ fun _ => rfl

theorem forgetParams_destroyComponent (w : World) (h : Handle) :
    (w.destroyComponent h).forgetParams = w.forgetParams.destroyComponent h :=
  forgetParams_modify w h _ fun _ => rfl

theorem forgetParams_createComponent (w : World) (k : ComponentKind)
    (formats : PortId → EsFormat) :
    (w.createComponent k formats).forgetParams = w.forgetParams.createComponent k formats := by
  simp only [forgetParams, createComponent, List.map_append, List.map_cons, List.map_nil,
    Component.created]

theorem forgetParams_createPool (w : World) :
    w.createPool.forgetParams = w.forgetParams.createPool := rfl

theorem forgetParams_destroyPool (w : World) (h : Handle) :
    (w.destroyPool h).forgetParams = w.forgetParams.destroyPool h := rfl

/-- Component `h` exists and satisfies `P`. -/
def At (w : World) (h : Handle) (P : Component → Prop) : Prop :=
  ∃ c, w.components[h]? = some c ∧ P c

theorem at_modify (w : World) (h : Handle) (f : Component → Component) (P : Component → Prop) :
    (w.modify h f).At h P ↔ w.At h fun c => P (f c) := by
  simp only [At, getElem?_modify, if_true, Option.map_eq_some_iff]
  constructor
  · rintro ⟨_, ⟨c, hc, rfl⟩, hP⟩
    exact ⟨c, hc, hP⟩
  · rintro ⟨c, hc, hP⟩
    exact ⟨f c, ⟨c, hc, rfl⟩, hP⟩

theorem at_setParam (w : World) (h : Handle) (p : PortId) (q : Param) (P : Component → Prop) :
    (w.setParam h p q).At h P ↔ w.At h fun c =>
      P { c with params := fun p' i => if p' = p ∧ i = q.id then some q else c.params p' i } :=
  at_modify w h _ P

theorem at_writeFormat (w : World) (h : Handle) (p : PortId) (f : EsFormat → EsFormat)
    (P : Component → Prop) : (w.writeFormat h p f).At h P ↔ w.At h fun c =>
      P { c with format := fun p' => if p' = p then f (c.format p) else c.format p' } :=
  at_modify w h _ P

theorem at_commitFormat (w : World) (h : Handle) (p : PortId) (P : Component → Prop) :
    (w.commitFormat h p true).At h P ↔ w.At h fun c =>
      P { c with committed := fun p' => if p' = p then some (c.format p) else c.committed p' } :=
  at_modify w h _ P

theorem at_setPortEnabled (w : World) (h : Handle) (p : PortId) (b : Bool)
    (P : Component → Prop) : (w.setPortEnabled h p b).At h P ↔ w.At h fun c =>
      P { c with portEnabled := fun p' => if p' = p then b else c.portEnabled p' } :=
  at_modify w h _ P

theorem at_setEnabled (w : World) (h : Handle) (b : Bool) (P : Component → Prop) :
    (w.setEnabled h b).At h P ↔ w.At h fun c => P { c with enabled := b } := at_modify w h _ P

theorem at_createPool (w : World) (h : Handle) (P : Component → Prop) :
    w.createPool.At h P ↔ w.At h P := Iff.rfl

/-- A new component is as it was created. -/
theorem at_createComponent (w : World) (k : ComponentKind) (formats : PortId → EsFormat)
    (P : Component → Prop) :
    (w.createComponent k formats).At w.nextComponent P ↔ P (.created k formats) := by
  simp only [At, createComponent, nextComponent, List.getElem?_concat_length, Option.some.injEq,
    exists_eq_left']

/-- Changing a component that was just created. -/
theorem components_modify_created (w : World) (k : ComponentKind) (formats : PortId → EsFormat)
    (f : Component → Component) :
    ((w.createComponent k formats).modify w.nextComponent f).components
      = w.components ++ [f (.created k formats)] := by
  simp only [modify, createComponent, nextComponent]
  rw [List.modify_eq_take_cons_drop (by rw [List.length_append]; exact Nat.lt_succ_self _),
    List.take_left, List.getElem_concat_length rfl, List.drop_eq_nil_of_le]
  rw [List.length_append]
  exact Nat.le_refl _

theorem At.mono {w : World} {h : Handle} {P Q : Component → Prop} (ha : w.At h P)
    (hPQ : ∀ c, P c → Q c) : w.At h Q := by
  rcases ha with ⟨c, hc, hP⟩
  exact ⟨c, hc, hPQ c hP⟩

/-- What happens to one component does not concern the others. -/
theorem at_modify_other {w : World} {h h' : Handle} (hne : h ≠ h') (f : Component → Component)
    (P : Component → Prop) : (w.modify h f).At h' P ↔ w.At h' P := by
  simp only [At, getElem?_modify, if_neg hne]

theorem At.lt {w : World} {h : Handle} {P : Component → Prop} (ha : w.At h P) :
    h < w.nextComponent := by
  rcases ha with ⟨c, hc, _⟩
  exact (List.getElem?_eq_some_iff.mp hc).1

/-- A new component does not concern the old ones. -/
theorem at_createComponent_old {w : World} {h : Handle} {P : Component → Prop} (ha : w.At h P)
    (k : ComponentKind) (formats : PortId → EsFormat) : (w.createComponent k formats).At h P := by
  rcases ha with ⟨c, hc, hP⟩
  refine ⟨c, ?_, hP⟩
  simp only [createComponent]
  rw [List.getElem?_append_left (List.getElem?_eq_some_iff.mp hc).1, hc]

/-- A component that was not destroyed is alive. -/
theorem alive_iff_at (w : World) (h : Handle) :
    w.alive h = true ↔ w.At h fun c => c.destroyed = 0 := by
  constructor
  · exact fun ha => alive_getElem ha
  · rintro ⟨c, hc, h0⟩
    simp only [alive, hc, h0, BEq.rfl]

/-- A new component does not end the life of an old one. -/
theorem alive_createComponent_old {w : World} {h : Handle} (ha : w.alive h = true)
    (k : ComponentKind) (formats : PortId → EsFormat) :
    (w.createComponent k formats).alive h = true :=
  (alive_iff_at _ h).mpr (at_createComponent_old ((alive_iff_at w h).mp ha) k formats)

/-- The components that are alive are the old ones and the new one. -/
theorem alive_createComponent_iff (w : World) (k : ComponentKind) (formats : PortId → EsFormat)
    (h : Handle) : (w.createComponent k formats).alive h = true ↔
      w.alive h = true ∨ h = w.nextComponent := by
  simp only [alive, createComponent, nextComponent]
  rcases Nat.lt_trichotomy h w.components.length with hlt | rfl | hgt
  · rw [List.getElem?_append_left hlt]
    exact ⟨Or.inl, fun hor => hor.resolve_right (Nat.ne_of_lt hlt)⟩
  · rw [List.getElem?_concat_length]
    exact ⟨fun _ => Or.inr rfl, fun _ => rfl⟩
  · rw [List.getElem?_eq_none (by rw [List.length_append]; exact hgt),
      List.getElem?_eq_none (Nat.le_of_lt hgt)]
    exact ⟨Or.inl, fun hor => hor.resolve_right (Nat.ne_of_gt hgt)⟩

theorem alive_createComponent_new (w : World) (k : ComponentKind) (formats : PortId → EsFormat) :
    (w.createComponent k formats).alive w.nextComponent = true :=
  (alive_iff_at _ _).mpr ((at_createComponent w k formats _).mpr rfl)

theorem param_of_at {w : World} {h : Handle} {p : PortId} {i : ParamId} {q : Option Param}
    (ha : w.At h fun c => c.params p i = q) : w.param h p i = q := by
  rcases ha with ⟨c, hc, hq⟩
  simp only [param, hc, Option.bind_some, hq]

theorem committed_of_at {w : World} {h : Handle} {p : PortId} {f : EsFormat}
    (ha : w.At h fun c => c.committed p = some f) : w.committed h p = some f := by
  rcases ha with ⟨c, hc, hf⟩
  simp only [committed, hc, Option.bind_some, hf]

end World

theorem forgetParams_trySet (h : Handle) (p : PortId) (q : Param) (r : SetResults) (w : World) :
    (trySet h p q r w).forgetParams = w.forgetParams := by
  unfold trySet
  by_cases hq : r.param p q.id = true
  · rw [if_pos hq, World.forgetParams_setParam]
  · rw [if_neg hq]

/-- Setting a parameter changes nothing else. -/
theorem sendTo_forgetParams {p : Option PortRef} {q : Param} {r : SetResults} {w w' : World}
    (h : sendTo p q r w = .ok w') : w'.forgetParams = w.forgetParams := by
  unfold sendTo at h
  cases p with
  | none => exact absurd h (by simp only [reduceCtorEq, not_false_eq_true])
  | some p =>
      by_cases ha : w.alive p.component = true
      · simp only [ha, if_true, Except.ok.injEq] at h
        rw [← h]
        by_cases hr : r.param p.port q.id = true
        · rw [if_pos hr]
          exact w.forgetParams_setParam _ _ _
        · rw [if_neg hr]
      · simp only [if_neg ha, reduceCtorEq] at h

theorem sendAll_forgetParams {c : Option Handle} {r : SetResults} {qs : List (PortId × Param)}
    {w w' : World} (h : sendAll c r qs w = .ok w') : w'.forgetParams = w.forgetParams := by
  induction qs generalizing w with
  | nil =>
      rw [sendAll, Except.ok.injEq] at h
      rw [h]
  | cons q qs ih =>
      rcases bind_ok h with ⟨m, hq, hrest⟩
      exact (ih hrest).trans (sendTo_forgetParams hq)

theorem sendWhileOk_forgetParams {c : Option Handle} {r : SetResults}
    {qs : List (PortId × Param)} {w w' : World} (h : sendWhileOk c r qs w = .ok w') :
    w'.forgetParams = w.forgetParams := by
  induction qs generalizing w with
  | nil =>
      rw [sendWhileOk, Except.ok.injEq] at h
      rw [h]
  | cons q qs ih =>
      rcases bind_ok h with ⟨m, hq, hrest⟩
      by_cases hr : r.param q.1 q.2.id = true
      · rw [if_pos hr] at hrest
        exact (ih hrest).trans (sendTo_forgetParams hq)
      · rw [if_neg hr, Except.ok.injEq] at hrest
        exact hrest ▸ sendTo_forgetParams hq

end Mmal

end RaspiCam
