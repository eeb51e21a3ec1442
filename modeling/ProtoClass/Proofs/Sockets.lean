import ProtoClass.Proofs.HostTypes
import ProtoClass.Proofs.Initializers

set_option autoImplicit false

/- A function that opens connections calls the create function of the host type of sockets once, and
copies the callbacks of a listener into slots of the connection that it is given. Reads of the listener
and writes to the connection take turns. But callbacks and slots have different names, so no write is
seen by a later read, whatever the two objects are: also when they are one and the same, or when one
delegates to the other. -/
namespace ProtoClass

namespace PropertyTable

/-- Assigns a value to a slot, if there is one. -/
def receive (t : PropertyTable) (slot : String) : Option Value → PropertyTable
  | some handler => (t.set slot handler).2
  | none => t

/-- The property that is left in a slot. -/
def received (t : PropertyTable) (slot : String) : Option Value → Option Property
  | some handler => some (t.assigned slot handler)
  | none => t.get? slot

theorem received_congr {t t' : PropertyTable} {slot : String} (same : t'.get? slot = t.get? slot)
    (handler : Option Value) : t'.received slot handler = t.received slot handler := by
  cases handler with
  | some handler => rw [received, received, assigned, assigned, same]
  | none => exact same

theorem get?_receive (t : PropertyTable) (slot : String) (handler : Option Value) (name : String) :
    (t.receive slot handler).get? name =
      if name = slot then t.received slot handler else t.get? name := by
  cases handler with
  | some handler => exact t.get?_set slot handler name
  | none =>
    by_cases same : name = slot
    · rw [if_pos same, same]
      rfl
    · rw [if_neg same]
      rfl

theorem names_receive (t : PropertyTable) (slot : String) (handler : Option Value) :
    (t.receive slot handler).names =
      t.names ++ if handler.isSome ∧ slot ∉ t.names then [slot] else [] := by
  cases handler with
  | some handler =>
    rw [receive, names_set]
    by_cases old : slot ∈ t.names <;> simp [old]
  | none => simp [receive]

/-- A value goes into a slot that is new or can be written. -/
theorem received_of_writable {t : PropertyTable} {slot : String}
    (writable : (t.get? slot).all (·.flags.writable) = true) (handler : Value) :
    t.received slot (some handler) =
      some ⟨slot, handler, ((t.get? slot).map Property.flags).getD .plain⟩ := by
  rw [received, assigned]
  cases found : t.get? slot with
  | none => rfl
  | some p =>
    rw [found, Option.all_some] at writable
    dsimp only
    rw [if_pos writable]
    rfl

theorem received_of_readOnly {t : PropertyTable} {slot : String}
    (readOnly : (t.get? slot).all (·.flags.writable) = false) (handler : Option Value) :
    t.received slot handler = t.get? slot := by
  cases handler with
  | none => rfl
  | some handler =>
    rw [received, assigned]
    cases found : t.get? slot with
    | none =>
      rw [found] at readOnly
      cases readOnly
    | some p =>
      rw [found, Option.all_some] at readOnly
      dsimp only
      rw [if_neg (Bool.eq_false_iff.1 readOnly)]

end PropertyTable

namespace Heap

/-- Copies the callbacks that a listener sees into slots of a connection, one after another. -/
def wired (h : Heap) (o listener : ObjectRef) : List (String × String) → Heap
  | [] => h
  | (callback, slot) :: rest =>
    (h.mapProperties o fun t => t.receive slot (h.get listener callback)).wired o listener rest

/-- Copying changes the properties of the connection only. -/
theorem wired_heap (h : Heap) (o listener : ObjectRef) (slots : List (String × String)) :
    ∃ f, h.wired o listener slots = h.mapProperties o f := by
  induction slots generalizing h with
  | nil => exact ⟨_, (h.mapProperties_id o).symm⟩
  | cons first rest ih =>
    obtain ⟨f, others⟩ := ih (h.mapProperties o fun t => t.receive first.2 (h.get listener first.1))
    exact ⟨_, others.trans (h.mapProperties_mapProperties o _ f)⟩

variable {h : Heap} {o listener : ObjectRef} {slots : List (String × String)}

section One

variable (live : h.objects.isLive o = true) (slot : String) (handler : Option Value)
include live

theorem isLive_receive :
    (h.mapProperties o fun t => t.receive slot handler).objects.isLive o = true := by
  rwa [mapProperties, Arena.isLive_modify]

theorem ownProperty_receive (name : String) :
    (h.mapProperties o fun t => t.receive slot handler).ownProperty o name =
      if name = slot then (h.object o).properties.received slot handler else h.ownProperty o name := by
  rw [ownProperty_mapProperties live, PropertyTable.get?_receive, ownProperty]

/-- Nobody sees a change of a slot under another name. -/
theorem get_receive_of_ne {name : String} (other : name ≠ slot) (p : ObjectRef) :
    (h.mapProperties o fun t => t.receive slot handler).get p name = h.get p name := by
  apply get_mapProperties live
  rw [PropertyTable.get?_receive, if_neg other]

end One

/-- Do no two callbacks go to the same slot, and has no slot the name of a callback? -/
structure Separate (slots : List (String × String)) : Prop where
  distinct : (slots.map Prod.snd).Nodup
  apart : ∀ callback ∈ slots.map Prod.fst, callback ∉ slots.map Prod.snd

namespace Separate

variable {callback slot : String} {rest : List (String × String)}

theorem tail (separate : Separate ((callback, slot) :: rest)) : Separate rest where
  distinct := (List.nodup_cons.1 separate.distinct).2
  apart name member in_slots :=
    separate.apart name (List.mem_cons_of_mem _ member) (List.mem_cons_of_mem _ in_slots)

theorem slot_ne (separate : Separate ((callback, slot) :: rest)) :
    slot ∉ rest.map Prod.snd :=
  (List.nodup_cons.1 separate.distinct).1

theorem callback_ne (separate : Separate ((callback, slot) :: rest)) {entry : String × String}
    (member : entry ∈ rest) : entry.1 ≠ slot := by
  rintro rfl
  exact separate.apart entry.1 (List.mem_cons_of_mem _ (List.mem_map_of_mem member))
    List.mem_cons_self

end Separate

theorem separate_socketCallbacks : Separate socketCallbacks where
  distinct := by decide
  apart := by decide

theorem ownProperty_wired_of_not_mem (live : h.objects.isLive o = true) {name : String}
    (other : name ∉ slots.map Prod.snd) :
    (h.wired o listener slots).ownProperty o name = h.ownProperty o name := by
  induction slots generalizing h with
  | nil => rfl
  | cons first rest ih =>
    obtain ⟨apart, others⟩ := List.ne_and_not_mem_of_not_mem_cons other
    have there := isLive_receive live first.2 (h.get listener first.1)
    rw [wired, ih there others, ownProperty_receive live, if_neg apart]

/-- Each slot is left with what the listener sees at the start, whatever was copied before. -/
theorem ownProperty_wired (live : h.objects.isLive o = true) (separate : Separate slots)
    {callback slot : String} (member : (callback, slot) ∈ slots) :
    (h.wired o listener slots).ownProperty o slot =
      (h.object o).properties.received slot (h.get listener callback) := by
  induction slots generalizing h with
  | nil => cases member
  | cons first rest ih =>
    have there := isLive_receive live first.2 (h.get listener first.1)
    rw [wired]
    rcases List.mem_cons.1 member with rfl | later
    · rw [ownProperty_wired_of_not_mem there separate.slot_ne, ownProperty_receive live, if_pos rfl]
    · have other : slot ≠ first.2 := by
        rintro rfl
        exact separate.slot_ne (List.mem_map.2 ⟨_, later, rfl⟩)
      have same := ownProperty_receive live first.2 (h.get listener first.1) slot
      rw [if_neg other, ownProperty, ownProperty] at same
      rw [ih there separate.tail later, get_receive_of_ne live _ _ (separate.callback_ne later)]
      exact PropertyTable.received_congr same _

/-- Slots that were there keep their places, and new ones follow in their order. -/
theorem names_wired (live : h.objects.isLive o = true) (separate : Separate slots) :
    ((h.wired o listener slots).object o).properties.names = (h.object o).properties.names ++
      ((slots.filter fun entry => (h.get listener entry.1).isSome).map Prod.snd).filter
        (· ∉ (h.object o).properties.names) := by
  induction slots generalizing h with
  | nil => exact (List.append_nil _).symm
  | cons first rest ih =>
    have there := isLive_receive live first.2 (h.get listener first.1)
    have seen : (rest.filter fun entry => ((h.mapProperties o fun t =>
        t.receive first.2 (h.get listener first.1)).get listener entry.1).isSome) =
        rest.filter fun entry => (h.get listener entry.1).isSome := by
      apply List.filter_congr
      intro entry member
      rw [get_receive_of_ne live _ _ (separate.callback_ne member)]
    -- no slot comes twice, so whether a later one is new does not depend on the first
    have others : ∀ name ∈ (rest.filter fun entry => (h.get listener entry.1).isSome).map Prod.snd,
        decide (name ∉ (h.object o).properties.names ++
          if (h.get listener first.1).isSome ∧ first.2 ∉ (h.object o).properties.names
          then [first.2] else []) = decide (name ∉ (h.object o).properties.names) := by
      intro name member
      obtain ⟨entry, among, rfl⟩ := List.mem_map.1 member
      have apart : entry.2 ≠ first.2 := by
        intro same
        exact separate.slot_ne (List.mem_map.2 ⟨entry, List.mem_of_mem_filter among, same⟩)
      split <;> simp [apart]
    rw [wired, ih there separate.tail, seen, properties_mapProperties live,
      PropertyTable.names_receive, List.filter_congr others, List.append_assoc]
    congr 1
    by_cases sees : (h.get listener first.1).isSome = true
    · by_cases old : first.2 ∈ (h.object o).properties.names <;> simp [sees, old]
    · simp [sees]

end Heap

/-- What a connection is left with when the callbacks of a listener were copied into its slots. The two
may be any objects. -/
structure Wired (h : Heap) (o listener : ObjectRef) (h' : Heap) : Prop where
  /-- A callback that the listener sees is in its slot, which keeps its flags if it was there; -/
  copied : ∀ callback slot handler, (callback, slot) ∈ socketCallbacks →
    h.get listener callback = some handler →
    (h.ownProperty o slot).all (·.flags.writable) = true →
    h'.ownProperty o slot = some ⟨slot, handler, ((h.ownProperty o slot).map Property.flags).getD .plain⟩
  /-- the slot of any other callback, a slot that is read-only, -/
  kept : ∀ callback slot, (callback, slot) ∈ socketCallbacks →
    h.get listener callback = none ∨ (h.ownProperty o slot).all (·.flags.writable) = false →
    h'.ownProperty o slot = h.ownProperty o slot
  /-- and what is no slot stay as they were. -/
  others : ∀ name, name ∉ socketCallbacks.map Prod.snd → h'.ownProperty o name = h.ownProperty o name
  /-- Old names keep their places; new slots follow in the order of the callbacks. -/
  names : (h'.object o).properties.names = (h.object o).properties.names ++
    ((socketCallbacks.filter fun entry => (h.get listener entry.1).isSome).map Prod.snd).filter
      (· ∉ (h.object o).properties.names)
  /-- Nothing but the properties of the connection has changed. -/
  frame : h' = h.mapProperties o fun _ => (h'.object o).properties

theorem Heap.wired_spec {h : Heap} {o : ObjectRef} (live : h.objects.isLive o = true)
    (listener : ObjectRef) : Wired h o listener (h.wired o listener socketCallbacks) where
  copied callback slot handler member seen writable := by
    rw [ownProperty_wired live separate_socketCallbacks member, seen]
    exact PropertyTable.received_of_writable writable handler
  kept callback slot member spared := by
    rw [ownProperty_wired live separate_socketCallbacks member]
    rcases spared with unseen | readOnly
    · rw [unseen]
      rfl
    · exact PropertyTable.received_of_readOnly readOnly _
  others name other := ownProperty_wired_of_not_mem live other
  names := names_wired live separate_socketCallbacks
  frame := by
    obtain ⟨f, changed⟩ := h.wired_heap o listener socketCallbacks
    rw [changed]
    exact h.mapProperties_frame live f

/-- The heap in which a connection is given out: its slots are wired when the second argument is an
object. -/
def Heap.connected (h : Heap) (o : ObjectRef) : Option Value → Heap
  | some (.object listener) => h.wired o listener socketCallbacks
  | _ => h

/-- What is made of the outcome of a create function. -/
def connectionOutcome {σ : Type} (args : List Value) :
    Except Error Value × World σ → Except Error Value × World σ
  | (.error e, w) => (.error e, w)
  | (.ok (.object o), w) => (.ok (.object o), { w with heap := w.heap.connected o args[1]? })
  | (.ok v, w) => (.error (.typeError (.connectionNotObject socketHost v.kindName)), w)

section Opening

variable {σ : Type} {s : Setting σ} {w : World σ} (free : s.watch = {})

include free in
theorem Setting.wire_apply (o listener : ObjectRef) (slots : List (String × String)) :
    s.wire o listener slots w = some (.ok (), { w with heap := w.heap.wired o listener slots }) := by
  induction slots generalizing w with
  | nil => rfl
  | cons first rest ih =>
    rw [Setting.wire, Action.heap_bind_apply, Heap.wired]
    cases seen : w.heap.get listener first.1 with
    | none =>
      dsimp only
      rw [ih, show (fun t => PropertyTable.receive t first.2 none) = fun t => t from rfl,
        Heap.mapProperties_id]
    | some handler =>
      have assigned : s.set o first.2 handler w = some (.ok (Update.set o first.2 handler w.heap).1,
          { w with heap := w.heap.mapProperties o fun t => t.receive first.2 (some handler) }) := by
        rw [Setting.set, Setting.write_of_free free, Update.set, Update.changeProperties_heap]
        rfl
      exact (Action.bind_of_ok assigned).trans ih

variable {rt : RuntimeRef} {host : HostType} {create : FunctionRef} {args : List Value}
  (hosted : w.heap.hostNamed rt socketHost = some host) (made : host.create = some create)
include free hosted made

/-- Opening a connection is one call of the create function and what is made of its outcome, in every way
of calling functions. -/
theorem Setting.socketConnect_apply :
    s.socketConnect rt args w =
      (s.call create rt (.object host.constructor) [args.head?.getD .undefined] w).map
        (connectionOutcome args) := by
  have start : s.constructHost rt socketHost [args.head?.getD .undefined] w =
      s.call create rt (.object host.constructor) [args.head?.getD .undefined] w := by
    rw [Setting.constructHost, Action.heap_bind_apply, hosted]
    dsimp only
    rw [made]
  rw [Setting.socketConnect]
  cases outcome : s.call create rt (.object host.constructor) [args.head?.getD .undefined] w with
  | none => exact Action.bind_of_none (start.trans outcome)
  | some ended =>
    obtain ⟨r, w'⟩ := ended
    cases r with
    | error e => exact Action.bind_of_error (start.trans outcome)
    | ok v =>
      rw [Action.bind_of_ok (start.trans outcome)]
      cases v with
      | object o =>
        dsimp only
        cases second : (args[1]? : Option Value) with
        | none => rw [Option.map_some, connectionOutcome, second]; rfl
        | some v =>
          rw [Option.map_some, connectionOutcome, second]
          cases v with
          | object listener => exact Action.bind_of_ok (Setting.wire_apply free o listener _)
          | _ => rfl
      | _ => rfl

end Opening

/-- What opening a connection ends with, by what the call of the create function ended with. -/
structure Connects {σ : Type} (args : List Value)
    (created opened : Option (Except Error Value × World σ)) : Prop where
  endless : created = none → opened = none
  failed : ∀ e w', created = some (.error e, w') → opened = some (.error e, w')
  refused : ∀ v w', created = some (.ok v, w') → (∀ o, v ≠ .object o) →
    opened = some (.error (.typeError (.connectionNotObject socketHost v.kindName)), w')
  /-- An object that was created is given out, and wired when the second argument is an object. -/
  given : ∀ o w', created = some (.ok (.object o), w') → ∃ h',
    opened = some (.ok (.object o), { w' with heap := h' }) ∧
      (∀ listener, args[1]? = some (.object listener) → Wired w'.heap o listener h') ∧
      ((∀ listener, args[1]? ≠ some (.object listener)) → h' = w'.heap)

theorem connects_of_live {σ : Type} {args : List Value}
    {created : Option (Except Error Value × World σ)}
    (live : ∀ o w', created = some (.ok (.object o), w') → w'.heap.objects.isLive o = true) :
    Connects args created (created.map (connectionOutcome args)) := by
  constructor
  case endless => rintro rfl; rfl
  case failed => rintro e w' rfl; rfl
  case refused =>
    rintro v w' rfl other
    cases v with
    | object o => exact absurd rfl (other o)
    | _ => rfl
  case given =>
    intro o w' ended
    have there := live o w' ended
    subst ended
    refine ⟨w'.heap.connected o args[1]?, rfl, fun listener second => ?_, fun other => ?_⟩
    · rw [second]
      exact Heap.wired_spec there listener
    · unfold Heap.connected
      split
      · next listener second => exact absurd second (other listener)
      · rfl

/-- How a function opens connections: the create function is called once, with the constructor object
and the first argument alone, and the rest follows from what that call ends with. -/
structure OpensConnections {σ : Type} (w : World σ) (rt : RuntimeRef) (constructor : ObjectRef)
    (create f : FunctionRef) (args : List Value) : Prop where
  /-- A call of the function is one of the built-in function for connections, -/
  builtin : ∀ n this, (Setting.within {} (n + 1)).call f rt this args w =
    (Setting.within {} n).runBuiltin .socketConnect rt this args w
  /-- which makes one call, -/
  once : ∀ outcome this bodies calls, ∃ r h',
    (Setting.listing outcome).runBuiltin .socketConnect rt this args ⟨w.heap, bodies, calls⟩ =
      some (r, ⟨h', bodies, calls ++
        [⟨create, rt, .object constructor, [args.head?.getD .undefined], w.heap⟩]⟩)
  /-- and ends as that call does, whatever it is called with, -/
  called : ∀ n this, w.heap.hasValue this = true → Connects args
    (callWithin {} n create rt (.object constructor) [args.head?.getD .undefined] w)
    ((Setting.within {} (n + 1)).perform (.call f rt this args) w)
  /-- also as a member. -/
  invoked : ∀ n receiver, w.heap.hasValue receiver = true →
    w.heap.lookup rt receiver "connect" = some (.function f) → Connects args
      (callWithin {} n create rt (.object constructor) [args.head?.getD .undefined] w)
      ((Setting.within {} (n + 1)).perform (.invoke rt receiver "connect" args) w)

/-- What is known of connections in a world: how the function that opens them is installed, and what it
does. -/
structure ConnectsSockets {σ : Type} (w : World σ) : Prop where
  unhosted : ∀ rt, w.heap.runtimes.isLive rt = true → w.heap.hostNamed rt socketHost = none →
    ∀ s : Setting σ, s.watch = {} → ∃ h',
      s.perform (.installSocketConnect rt) w = some (.ok false, { w with heap := h' }) ∧
        w.heap.SameOutside [.function] h'
  /-- A new function is installed on the constructor object, as any other member would be. -/
  installed : ∀ rt host, w.heap.hostNamed rt socketHost = some host →
    ∀ s : Setting σ, s.watch = {} → ∃ f count h₁ h',
      s.perform (.installSocketConnect rt) w = some (.ok true, { w with heap := h' }) ∧
        ¬ w.heap.functions.isLive f = true ∧ (h'.function f).code = .builtin .socketConnect ∧
        w.heap.SameOutside [.function] h₁ ∧
        FirstWins h₁ host.constructor [("connect", .function f)] count h' ∧
        (h₁.accepts host.constructor "connect" = true →
          h'.lookup rt (.object host.constructor) "connect" = some (.function f))
  opens : ∀ rt host create f args, w.heap.hostNamed rt socketHost = some host →
    host.create = some create → w.heap.functions.isLive f = true →
    (w.heap.function f).code = .builtin .socketConnect → args.all w.heap.hasValue = true →
    OpensConnections w rt host.constructor create f args

/-- The world with a new function that opens connections. -/
def addConnect {σ : Type} (w : World σ) : World σ :=
  { w with heap := (Update.newFunction "WebSocket.connect" (.builtin .socketConnect) w.heap).2 }

theorem hasEntries_connect {σ : Type} (w : World σ) :
    (addConnect w).heap.hasEntries [("connect", .function w.heap.functions.fresh)] = true := by
  rw [Heap.hasEntries_iff]
  refine List.forall_mem_singleton.2 ?_
  simp [addConnect, Update.newFunction, Heap.hasValue]

/-- The new function is installed on the constructor object of the host type. -/
theorem Setting.perform_installSocketConnect {σ : Type} {s : Setting σ} (free : s.watch = {})
    {w : World σ} {rt : RuntimeRef} (live : w.heap.runtimes.isLive rt = true) :
    s.perform (.installSocketConnect rt) w =
      s.installPart .constructor rt socketHost [("connect", .function w.heap.functions.fresh)]
        (addConnect w) := by
  have asked : Request.isLive w.heap (.installSocketConnect rt) = true := live
  have later : Request.isLive (addConnect w).heap
      (.installStaticOn rt socketHost [("connect", .function w.heap.functions.fresh)]) = true := by
    rw [Request.isLive, hasEntries_connect]
    exact Bool.and_eq_true_iff.2 ⟨live, rfl⟩
  refine (Setting.perform_apply asked (by rw [free])).trans ?_
  exact (Action.bind_of_ok rfl).trans (Setting.perform_apply later (by rw [free])).symm

section Reached

variable {σ : Type} {w : World σ} (reached : w.heap.Reached {})
include reached

theorem Heap.Reached.opensConnections {rt : RuntimeRef} {host : HostType} {create f : FunctionRef}
    {args : List Value} (hosted : w.heap.hostNamed rt socketHost = some host)
    (made : host.create = some create) (function : w.heap.functions.isLive f = true)
    (code : (w.heap.function f).code = .builtin .socketConnect)
    (there : args.all w.heap.hasValue = true) :
    OpensConnections w rt host.constructor create f args := by
  have closed := reached.closed
  have runtime := Heap.isLive_of_hostNamed hosted
  have host_closed := closed.host_closed runtime hosted
  have first : [args.head?.getD .undefined].all w.heap.hasValue = true := by
    cases args with
    | nil => rfl
    | cons v rest => simpa using List.all_eq_true.1 there v List.mem_cons_self
  have connects : ∀ n this, Connects args
      (callWithin {} n create rt (.object host.constructor) [args.head?.getD .undefined] w)
      ((Setting.within {} (n + 1)).call f rt this args w) := by
    intro n this
    have outcome : (Setting.within {} n).runBuiltin .socketConnect rt this args w =
        (callWithin {} n create rt (.object host.constructor) [args.head?.getD .undefined] w).map
          (connectionOutcome args) := Setting.socketConnect_apply rfl hosted made
    rw [call_builtin code, outcome]
    refine connects_of_live fun o w' ended => ?_
    have receiver : w.heap.hasValue (.object host.constructor) = true := host_closed.constructor
    have kept := (within_lawful {} n).call reached (host_closed.create create made) runtime receiver
      first _ _ ended
    exact kept.answer _ rfl
  constructor
  case builtin => exact fun n this => call_builtin code rt this args
  case once =>
    intro outcome this bodies calls
    have run : (Setting.listing outcome).runBuiltin .socketConnect rt this args ⟨w.heap, bodies, calls⟩ =
        some (connectionOutcome args (outcome, ⟨w.heap, bodies, calls ++
          [⟨create, rt, .object host.constructor, [args.head?.getD .undefined], w.heap⟩]⟩)) :=
      Setting.socketConnect_apply (s := Setting.listing outcome) rfl hosted made
    rw [run]
    cases outcome with
    | error e => exact ⟨_, _, rfl⟩
    | ok v => cases v <;> exact ⟨_, _, rfl⟩
  case called =>
    intro n this live
    have asked : Request.isLive w.heap (.call f rt this args) = true := by
      rw [Request.isLive, function, runtime, live, there]
      rfl
    rw [Setting.perform_apply asked rfl]
    exact connects n this
  case invoked =>
    intro n receiver live found
    have asked : Request.isLive w.heap (.invoke rt receiver "connect" args) = true := by
      rw [Request.isLive, runtime, live, there]
      rfl
    rw [Setting.perform_apply asked rfl, Setting.serve, Setting.invoke_apply found]
    exact connects n receiver

theorem Heap.Reached.connectsSockets : ConnectsSockets w := by
  have new := Event.frame (.function "WebSocket.connect" (.builtin .socketConnect)) w.heap
  constructor
  case unhosted =>
    intro rt live absent s free
    have refused := installPart_of_absent (w := addConnect w) free live (hasEntries_connect w) absent
      .constructor
    exact ⟨_, (Setting.perform_installSocketConnect free live).trans refused, new⟩
  case installed =>
    intro rt host hosted s free
    have runtime := Heap.isLive_of_hostNamed hosted
    have allowed : Event.Allowed {} w.heap (.function "WebSocket.connect" (.builtin .socketConnect)) :=
      trivial
    have later : (addConnect w).heap.Reached {} := reached.trace (.single allowed)
    have installs := installsOnHost (w := addConnect w) free later.closed (hasEntries_connect w) hosted
      .constructor
    refine ⟨_, _, _, _, (Setting.perform_installSocketConnect free runtime).trans installs.alike,
      by simp, ?_, new, installs.first, fun accepted => ?_⟩
    · rw [installs.first.frame, Heap.mapProperties, Heap.function]
      exact congrArg FunctionCell.code (Arena.get_add_fresh _ _)
    · exact installs.seen "connect" _ accepted rfl _ host (Or.inl (.refl _)) hosted
  case opens =>
    intro rt host create f args hosted made function code there
    exact reached.opensConnections hosted made function code there

end Reached

/-- Sockets are wired exactly. At every moment of a run, and wherever else a program can be, the function
that opens connections is installed as other static members are, calls the create function once, and
copies the callbacks of a listener, whatever objects listener and connection are. -/
theorem sockets_are_wired {σ : Type} (watch : Watch) (depth : Nat) (p : Program σ) (state : σ)
    (count : Nat) :
    (∀ m ∈ p.moments watch depth state count, ConnectsSockets m.toWorld) ∧
      ∀ (τ : Type) (w : World τ), Reached watch w → ConnectsSockets w :=
  everywhere_of_reached (fun _ _ reached => reached.connectsSockets) watch depth p state count

/-- Registers a host type of sockets whose create function gives out the constructor object, and installs
the function that opens connections and a callback on that object. -/
def selfConnecting : Program Unit := Script.toProgram do
  let rt ← Script.ask (.newRuntime {})
  let create ← Script.newFunction "create" fun _ this _ => Script.toProgram (return this)
  let _ ← Script.ask (.registerHost rt "WebSocket" (some create))
  let _ ← Script.ask (.installSocketConnect rt)
  let _ ← Script.ask (.installStaticOn rt "WebSocket" [("open", .integer 1)])
  return .undefined

/-- The constructor object is receiver, listener and connection in one, and its callback goes to its own
slot. -/
theorem selfConnecting_wires :
    ∃ m ∈ selfConnecting.moments {} 2 () 20, ∃ host w' h',
      m.heap.hostNamed ⟨0⟩ "WebSocket" = some host ∧
      callWithin {} 2 ⟨16⟩ ⟨0⟩ (.object host.constructor) [.null] m.toWorld =
        some (.ok (.object host.constructor), w') ∧
      (Setting.within {} 3).perform (.invoke ⟨0⟩ (.object host.constructor) "connect"
          [.null, .object host.constructor]) m.toWorld =
        some (.ok (.object host.constructor), { w' with heap := h' }) ∧
      h'.ownProperty host.constructor "onopen" = some ⟨"onopen", .integer 1, .plain⟩ ∧
      h'.ownProperty host.constructor "onclose" = w'.heap.ownProperty host.constructor "onclose" := by
  have ends : (selfConnecting.moments {} 2 () 20).any (fun m =>
      m.heap.functions.isLive ⟨17⟩ && decide ((m.heap.function ⟨17⟩).code = .builtin .socketConnect) &&
      (m.heap.hostNamed ⟨0⟩ "WebSocket").any fun host =>
        m.heap.hasValue (.object host.constructor) && decide (host.create = some ⟨16⟩) &&
        decide (m.heap.lookup ⟨0⟩ (.object host.constructor) "connect" = some (.function ⟨17⟩)) &&
        (callWithin {} 2 ⟨16⟩ ⟨0⟩ (.object host.constructor) [.null] m.toWorld).any fun created =>
          decide (created.1.toOption = some (.object host.constructor)) &&
          decide (created.2.heap.get host.constructor "open" = some (.integer 1)) &&
          decide (created.2.heap.get host.constructor "close" = none) &&
          (created.2.heap.ownProperty host.constructor "onopen").isNone) = true := by
    decide +kernel
  obtain ⟨m, member, facts⟩ := List.any_eq_true.1 ends
  simp only [Bool.and_eq_true, decide_eq_true_iff, Option.any_eq_true, Option.isNone_iff_eq_none]
    at facts
  obtain ⟨⟨function, code⟩, host, hosted, ⟨⟨there, made⟩, found⟩, ⟨r, w'⟩, ended, facts⟩ := facts
  obtain ⟨⟨⟨answer, opened⟩, closed⟩, unset⟩ := facts
  cases r with
  | error e => cases answer
  | ok v =>
    cases answer
    have args : [.null, .object host.constructor].all m.heap.hasValue = true := by
      rw [List.all_cons, List.all_cons, there]
      rfl
    have opens := ((sockets_are_wired {} 2 selfConnecting () 20).1 m member).opens ⟨0⟩ host ⟨16⟩ ⟨17⟩ _
      hosted made function code args
    obtain ⟨h', given, wires, _⟩ := (opens.invoked 2 _ there found).given _ _ ended
    have wired := wires host.constructor rfl
    have copied := wired.copied "open" "onopen" _ (by decide) opened (by rw [unset]; rfl)
    rw [unset] at copied
    exact ⟨m, member, host, w', h', hosted, ended, given, copied,
      wired.kept "close" "onclose" (by decide) (Or.inl closed)⟩

end ProtoClass
