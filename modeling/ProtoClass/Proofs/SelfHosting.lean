import ProtoClass.Proofs.Describing
import ProtoClass.Proofs.Links

set_option autoImplicit false

namespace ProtoClass

theorem Heap.isMetadataPrototype_iff {h : Heap} {o : ObjectRef} :
    h.IsMetadataPrototype o ↔ ∃ i ∈ List.range h.runtimes.size,
      (h.runtime ⟨i⟩).metadataClass.any (fun m => (h.klass m).prototype = o) = true := by
  simp only [Option.any_eq_true, decide_eq_true_iff, List.mem_range]
  constructor
  · rintro ⟨rt, m, live, set, same⟩
    exact ⟨rt.id, (Arena.isLive_iff _ _).1 live, m, set, same⟩
  · rintro ⟨i, live, m, set, same⟩
    exact ⟨⟨i⟩, m, (Arena.isLive_iff _ _).2 live, set, same⟩

instance (h : Heap) (o : ObjectRef) : Decidable (h.IsMetadataPrototype o) :=
  decidable_of_iff' _ Heap.isMetadataPrototype_iff

namespace Watch

/-- The watch under which programs may do anything but write to prototypes of metadata classes. -/
def sparingMetadata : Watch := forbidding Heap.IsMetadataPrototype

theorem sparingMetadata_spares : sparingMetadata.SparesMetadata :=
  fun _ _ write => mayWrite_forbidding.1 write

theorem sparingMetadata_permits : sparingMetadata.PermitsPlain where
  write _ _ plain := mayWrite_forbidding.2 plain.2
  ask _ _ := rfl

end Watch

section Settled

variable {σ : Type}

/-- A runtime describes every class by instances of this metadata class, and the metadata class too. -/
structure SelfHosting (w : World σ) (rt : RuntimeRef) (metadata : ClassRef) : Prop where
  valid : (w.heap.runtime rt).options.validate = .ok ()
  set : (w.heap.runtime rt).metadataClass = some metadata
  name : (w.heap.klass metadata).name = (w.heap.runtime rt).options.metadataName
  superclass : (w.heap.klass metadata).superclass = some (w.heap.runtime rt).root
  live : w.heap.classes.isLive metadata = true
  /-- A request for the descriptor of a class ends with it, and fails for no class. -/
  described : ∀ n c, w.heap.classes.isLive c = true →
    ∃ d w', (Setting.within {} (n + 1)).perform (.descriptorOf rt c) w = some (.ok d, w') ∧
      (w'.heap.klass c).descriptor = some d
  /-- The class of an object is described, and the metadata class for every class. -/
  getClass_object : ∀ n o c, w.heap.owningClass o = some c →
    (Setting.within {} n).perform (.getClass rt (.object o)) w =
      (Setting.within {} n).perform (.descriptorOf rt c) w
  getClass_klass : ∀ n c, w.heap.classes.isLive c = true →
    (Setting.within {} n).perform (.getClass rt (.klass c)) w =
      (Setting.within {} n).perform (.descriptorOf rt metadata) w
  /-- Every descriptor object is an instance of the metadata class. -/
  instances : ∀ d, w.heap.descriptors.isLive d = true →
    (w.heap.object (w.heap.descriptor d).object).prototype =
        some (w.heap.klass metadata).prototype ∧
      w.heap.owningClass (w.heap.descriptor d).object = some metadata
  getClass_descriptor : ∀ n d, w.heap.descriptors.isLive d = true →
    (Setting.within {} n).perform (.getClass rt (.object (w.heap.descriptor d).object)) w =
      (Setting.within {} n).perform (.descriptorOf rt metadata) w

/-- The class of a value is described. -/
theorem getClass_apply (s : Setting σ) {w : World σ} {rt : RuntimeRef} {v : Value} {c : ClassRef}
    (belongs : w.heap.classOf rt v = some c) : s.getClass rt v w = s.descriptorOf rt c w := by
  cases v with
  | object o =>
    unfold Setting.getClass
    dsimp only
    rw [Action.heap_bind_apply, show w.heap.owningClass o = some c from belongs]
  | klass k => exact Action.bind_of_ok (metadataClass_apply belongs)
  | _ => cases belongs

theorem Heap.Closed.classOf_live {h : Heap} (closed : h.Closed) {rt : RuntimeRef}
    (runtime : h.runtimes.isLive rt = true) {v : Value} {c : ClassRef}
    (belongs : h.classOf rt v = some c) : h.classes.isLive c = true := by
  cases v with
  | object o => exact closed.owningClass_live belongs
  | klass k => exact (closed.runtime runtime).metadataClass c belongs
  | _ => cases belongs

/-- A request for the class of a value is one for the descriptor of that class. -/
theorem perform_getClass {s : Setting σ} (asks : ∀ h q, s.watch.mayAsk h q = true) {w : World σ}
    (closed : w.heap.Closed) {rt : RuntimeRef} {v : Value} (live : w.heap.hasValue v = true)
    {c : ClassRef} (belongs : w.heap.classOf rt v = some c) :
    s.perform (.getClass rt v) w = s.perform (.descriptorOf rt c) w := by
  unfold Setting.perform
  rw [asks, asks, Request.isLive, Request.isLive, live]
  by_cases runtime : w.heap.runtimes.isLive rt = true
  · rw [closed.classOf_live runtime belongs, runtime]
    exact getClass_apply s belongs
  · rw [Bool.eq_false_iff.2 runtime]
    rfl

variable {w : World σ} {rt : RuntimeRef}

/-- With one runtime all descriptor objects are instances of its metadata class. -/
theorem Heap.Settled.owningClass_descriptor {watch : Watch} {h : Heap} (settled : h.Settled watch)
    (spares : watch.SparesMetadata)
    (only : ∀ other, h.runtimes.isLive other = true → other = rt) {m : ClassRef}
    (set : (h.runtime rt).metadataClass = some m) {d : DescriptorRef}
    (live : h.descriptors.isLive d = true) :
    (h.object (h.descriptor d).object).prototype = some (h.klass m).prototype ∧
      h.owningClass (h.descriptor d).object = some m := by
  have closed := settled.reached.closed
  obtain ⟨o, ⟨rt', m', runtime, set', rfl⟩, link⟩ := (settled.reached.equipped spares).made d live
  obtain rfl := only rt' runtime
  obtain rfl := Option.some.inj (set'.symm.trans set)
  have there := (closed.runtime runtime).metadataClass m' set'
  refine ⟨link, ?_⟩
  rw [closed.owningClass_of_some (settled.unbound d live).2 link]
  exact Heap.owningClass_of_bound (settled.reached.linked.bound m' there)

theorem selfHosting_of_settled (settled : w.heap.Settled .sparingMetadata)
    (runtime : w.heap.runtimes.isLive rt = true)
    (only : ∀ other, w.heap.runtimes.isLive other = true → other = rt) {metadata : ClassRef}
    (set : (w.heap.runtime rt).metadataClass = some metadata) : SelfHosting w rt metadata := by
  have closed := settled.reached.closed
  obtain ⟨valid, m, set', live, name, superclass⟩ := (settled.built rt runtime).metadata
  obtain rfl := Option.some.inj (set'.symm.trans set)
  have object : ∀ n o c, w.heap.owningClass o = some c →
      (Setting.within {} n).perform (.getClass rt (.object o)) w =
        (Setting.within {} n).perform (.descriptorOf rt c) w := by
    intro n o c owned
    exact perform_getClass (v := .object o) (fun _ _ => rfl) closed
      (Heap.isLive_of_owningClass owned) owned
  refine ⟨valid, set, name, superclass, live, ?_, object, ?_, ?_, ?_⟩
  · intro n c there
    obtain ⟨d, w', run, outcome⟩ := perform_descriptorOf_succeeds Watch.sparingMetadata_permits
      Watch.sparingMetadata_spares settled runtime there n
    exact ⟨d, w', run, outcome.descriptor⟩
  · exact fun n c there => perform_getClass (v := .klass c) (fun _ _ => rfl) closed there set
  · exact fun d there => settled.owningClass_descriptor Watch.sparingMetadata_spares only set there
  · intro n d there
    refine object n _ _ ?_
    exact (settled.owningClass_descriptor Watch.sparingMetadata_spares only set there).2

end Settled

/-- As long as programs spare the prototype of the metadata class, a runtime that is alone describes
every class at every moment of a run, and still does after it was asked to; its metadata class stays
the one that it was built with. -/
theorem describing_never_fails {σ : Type} {watch : Watch} (spares : watch.SparesMetadata)
    (depth : Nat) (p : Program σ) (state : σ) (count : Nat) :
    (∀ m ∈ p.moments watch depth state count, ∀ rt, m.heap.runtimes.isLive rt = true →
      (∀ other, m.heap.runtimes.isLive other = true → other = rt) →
      ∃ metadata, SelfHosting m.toWorld rt metadata ∧
        ∀ n c d w', (Setting.within {} (n + 1)).perform (.descriptorOf rt c) m.toWorld =
          some (.ok d, w') → SelfHosting w' rt metadata) ∧
      (p.moments watch depth state count).Pairwise fun earlier later => ∀ rt metadata,
        (earlier.heap.runtime rt).metadataClass = some metadata →
          (later.heap.runtime rt).metadataClass = some metadata := by
  refine ⟨fun m member rt runtime only => ?_, ?_⟩
  · have sound := Program.sound_of_mem_moments member
    have settled := sound.toSettled.mono (Watch.le_forbidding spares)
    obtain ⟨_, metadata, set, _⟩ := (sound.built rt runtime).metadata
    refine ⟨metadata, selfHosting_of_settled settled runtime only set, fun n c d w' run => ?_⟩
    have live := (Bool.and_eq_true_iff.1 (Setting.perform_inv run).1).2
    obtain ⟨d', w'', run', outcome⟩ := perform_descriptorOf_succeeds (w := m.toWorld)
      Watch.sparingMetadata_permits Watch.sparingMetadata_spares settled runtime live n
    cases run.symm.trans run'
    refine selfHosting_of_settled outcome.settled ?_ ?_ ?_
    · rw [outcome.runtimes]
      exact runtime
    · rw [outcome.runtimes]
      exact only
    · rw [Heap.runtime, outcome.runtimes]
      exact set
  · refine (Program.moments_pass watch depth p state count).imp ?_
    intro earlier later passes rt metadata set
    exact (passes.extended.runtime (Heap.isLive_of_metadataClass set)).metadataClass metadata set

/-- Gives the names of the metadata class and of the root to other classes, hides members of
descriptor objects on the root prototype, and asks for a descriptor. -/
def namesakes : Program Unit := Script.toProgram do
  let rt ← Script.ask (.newRuntime {})
  let _ ← Script.ask (.defineClass rt { name := "Class" })
  let c ← Script.ask (.defineClass rt { name := "Object", superclass := "Class" })
  let _ ← Script.ask (.set ⟨0⟩ "$0" .null)
  let _ ← Script.ask (.set ⟨0⟩ "getName" .null)
  let _ ← Script.ask (.descriptorOf rt c)
  return .klass c

theorem namesakes_selfHosting :
    Watch.sparingMetadata.SparesMetadata ∧
      ∃ m ∈ namesakes.moments .sparingMetadata 2 () 40,
        m.heap.runtimes.isLive ⟨0⟩ = true ∧
        (∀ other, m.heap.runtimes.isLive other = true → other = ⟨0⟩) ∧
        m.heap.classNamed ⟨0⟩ "Class" = some ⟨2⟩ ∧ (m.heap.klass ⟨3⟩).descriptor = some ⟨2⟩ ∧
        SelfHosting m.toWorld ⟨0⟩ ⟨1⟩ ∧
        ∃ d w', (Setting.within {} 1).perform (.descriptorOf ⟨0⟩ ⟨1⟩) m.toWorld = some (.ok d, w') ∧
          SelfHosting w' ⟨0⟩ ⟨1⟩ := by
  have ends : (namesakes.moments .sparingMetadata 2 () 40).any (fun m =>
      decide (m.heap.runtimes.size = 1) &&
      decide ((m.heap.runtime ⟨0⟩).metadataClass = some ⟨1⟩) &&
      decide (m.heap.classNamed ⟨0⟩ "Class" = some ⟨2⟩) &&
      decide ((m.heap.klass ⟨3⟩).descriptor = some ⟨2⟩)) = true := by
    decide +kernel
  obtain ⟨m, member, facts⟩ := List.any_eq_true.1 ends
  simp only [Bool.and_eq_true, decide_eq_true_iff] at facts
  obtain ⟨⟨⟨single, set⟩, named⟩, described⟩ := facts
  have runtime : m.heap.runtimes.isLive ⟨0⟩ = true := by simp [Arena.isLive_iff, single]
  have only : ∀ other, m.heap.runtimes.isLive other = true → other = ⟨0⟩ := by
    intro other live
    rw [Arena.isLive_iff, single] at live
    exact Ref.ext_id (Nat.lt_one_iff.1 live)
  obtain ⟨metadata, hosting, after⟩ :=
    (describing_never_fails Watch.sparingMetadata_spares 2 namesakes () 40).1 m member ⟨0⟩ runtime only
  obtain rfl := Option.some.inj (hosting.set.symm.trans set)
  obtain ⟨d, w', run, _⟩ := hosting.described 0 ⟨1⟩ hosting.live
  exact ⟨Watch.sparingMetadata_spares, m, member, runtime, only, named, described, hosting, d, w', run,
    after 0 ⟨1⟩ d w' run⟩

end ProtoClass
