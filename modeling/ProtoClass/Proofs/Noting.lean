import ProtoClass.Proofs.Congruence
import ProtoClass.Proofs.Moment

set_option autoImplicit false

/- A program that notes what it goes through does the same as the program itself, as long as steps are
left: every operation that has an outcome has the same one in a world that mirrors the first. So the
world in which a run ends is one of its moments. -/
namespace ProtoClass

variable {σ : Type}

/-- The function body that does the same and notes each moment. -/
def Body.noted (body : Body σ) : Body (Record σ) := fun rt this args => (body rt this args).noted none

/-- A world in which programs note what they go through, and what it is without the notes. -/
structure Mirrors (w : World σ) (noting : World (Record σ)) : Prop where
  heap : noting.heap = w.heap
  state : noting.state.state = w.state
  bodies : noting.state.bodies = w.bodies
  noted : noting.bodies = w.bodies.map Body.noted

theorem Mirrors.update {w : World σ} {v : World (Record σ)} (mirrors : Mirrors w v) (h : Heap) :
    Mirrors { w with heap := h } { v with heap := h } :=
  ⟨rfl, mirrors.state, mirrors.bodies, mirrors.noted⟩

theorem Mirrors.note {w : World σ} {v : World (Record σ)} (mirrors : Mirrors w v) (m : Moment σ) :
    Mirrors w { v with state := v.state.note m } :=
  ⟨mirrors.heap, mirrors.state, mirrors.bodies, mirrors.noted⟩

/-- Each outcome of the first action is one of the second too, in a world that mirrors the first,
when it has enough steps left. -/
def Action.Mirrored {α : Type} (x : Action σ α) (y : Action (Record σ) α) : Prop :=
  ∀ w r w', x w = some (r, w') → ∃ cost, ∀ v : World (Record σ), Mirrors w v →
    cost ≤ v.state.remaining → ∃ v', y v = some (r, v') ∧ Mirrors w' v' ∧
      v.state.remaining ≤ v'.state.remaining + cost

namespace Action

variable {α β : Type}

/-- An action that costs no step. -/
theorem mirrored_of_free {x : Action σ α} {y : Action (Record σ) α}
    (free : ∀ w r w' v, x w = some (r, w') → Mirrors w v →
      ∃ v', y v = some (r, v') ∧ Mirrors w' v' ∧ v'.state.remaining = v.state.remaining) :
    x.Mirrored y := by
  intro w r w' run
  refine ⟨0, fun v mirrors _ => ?_⟩
  obtain ⟨v', done, after, same⟩ := free w r w' v run mirrors
  exact ⟨v', done, after, Nat.le_of_eq same.symm⟩

theorem mirrored_pure (a : α) : (pure a : Action σ α).Mirrored (pure a) := by
  refine mirrored_of_free ?_
  rintro w r w' v ⟨⟩ mirrors
  exact ⟨v, rfl, mirrors, rfl⟩

theorem mirrored_fail (e : Error) : (fail e : Action σ α).Mirrored (fail e) := by
  refine mirrored_of_free ?_
  rintro w r w' v ⟨⟩ mirrors
  exact ⟨v, rfl, mirrors, rfl⟩

theorem mirrored_ofExcept (r : Except Error α) : (ofExcept r : Action σ α).Mirrored (ofExcept r) := by
  refine mirrored_of_free ?_
  rintro w r w' v ⟨⟩ mirrors
  exact ⟨v, rfl, mirrors, rfl⟩

theorem mirrored_ofOption (x : Option α) : (ofOption x : Action σ α).Mirrored (ofOption x) := by
  refine mirrored_of_free fun w r w' v run mirrors => ?_
  obtain ⟨a, found, same⟩ := Option.map_eq_some_iff.1 run
  cases same
  exact ⟨v, by rw [ofOption, found]; rfl, mirrors, rfl⟩

theorem mirrored_bind {x : Action σ α} {y : Action (Record σ) α} {f : α → Action σ β}
    {g : α → Action (Record σ) β} (first : x.Mirrored y) (rest : ∀ a, (f a).Mirrored (g a)) :
    (x >>= f).Mirrored (y >>= g) := by
  intro w r w'' run
  rcases bind_inv run with ⟨e, failed, rfl⟩ | ⟨a, w', start, finish⟩
  · obtain ⟨cost, same⟩ := first _ _ _ failed
    refine ⟨cost, fun v mirrors enough => ?_⟩
    obtain ⟨v', failed', after, left⟩ := same v mirrors enough
    exact ⟨v', bind_of_error failed', after, left⟩
  · obtain ⟨cost, same⟩ := first _ _ _ start
    obtain ⟨cost', same'⟩ := rest a _ _ _ finish
    refine ⟨cost + cost', fun v mirrors enough => ?_⟩
    obtain ⟨v', start', between, left⟩ := same v mirrors (by omega)
    obtain ⟨v'', finish', after, left'⟩ := same' v' between (by omega)
    exact ⟨v'', (bind_of_ok start').trans finish', after, by omega⟩

theorem mirrored_heap {f : Heap → Action σ β} {g : Heap → Action (Record σ) β}
    (rest : ∀ h, (f h).Mirrored (g h)) : (heap >>= f).Mirrored (heap >>= g) := by
  intro w r w' run
  rw [heap_bind_apply] at run
  obtain ⟨cost, same⟩ := rest w.heap w r w' run
  refine ⟨cost, fun v mirrors enough => ?_⟩
  rw [heap_bind_apply, mirrors.heap]
  exact same v mirrors enough

theorem mirrored_attempt {x : Action σ α} {y : Action (Record σ) α} (mirrored : x.Mirrored y) :
    x.attempt.Mirrored y.attempt := by
  intro w r w' run
  obtain ⟨⟨r', w''⟩, start, same⟩ := Option.map_eq_some_iff.1 run
  cases same
  obtain ⟨cost, same⟩ := mirrored _ _ _ start
  refine ⟨cost, fun v mirrors enough => ?_⟩
  obtain ⟨v', start', after, left⟩ := same v mirrors enough
  exact ⟨v', by rw [attempt, start']; rfl, after, left⟩

theorem mirrored_update (u : Update α) : (update u : Action σ α).Mirrored (update u) := by
  refine mirrored_of_free ?_
  rintro w r w' v ⟨⟩ mirrors
  refine ⟨{ v with heap := (u w.heap).2 }, ?_, mirrors.update _, rfl⟩
  rw [update, mirrors.heap]

theorem mirrored_tryUpdate (u : Update (Except Error α)) :
    (tryUpdate u : Action σ α).Mirrored (tryUpdate u) := by
  refine mirrored_of_free ?_
  rintro w r w' v ⟨⟩ mirrors
  refine ⟨{ v with heap := (u w.heap).2 }, ?_, mirrors.update _, rfl⟩
  rw [tryUpdate, mirrors.heap]

end Action

namespace Setting

open ProtoClass.Action

variable {s : Setting σ} {t : Setting (Record σ)}

theorem mirrored_write {α : Type} (same : t.watch = s.watch) (o : ObjectRef) (u : Update α)
    (wrote : α → Bool) : (s.write o u wrote).Mirrored (t.write o u wrote) := by
  refine mirrored_of_free fun w r w' v run mirrors => ?_
  unfold write at run ⊢
  rw [same, mirrors.heap]
  split at run
  · cases run
  · next permitted =>
    cases run
    rw [if_neg permitted]
    exact ⟨_, rfl, mirrors.update _, rfl⟩

/-- What is mirrored by calls is mirrored by all operations. -/
def noteCongruence (same : t.watch = s.watch)
    (calls : ∀ f rt this args, (s.call f rt this args).Mirrored (t.call f rt this args)) :
    Congruence s t fun _ => True where
  rel x y := x.Mirrored y
  pure := mirrored_pure
  fail := mirrored_fail
  ofExcept := mirrored_ofExcept
  ofOption := mirrored_ofOption
  bind := mirrored_bind
  heap := mirrored_heap
  attempt := mirrored_attempt
  update _ _ := mirrored_update _
  tryUpdate _ _ := mirrored_tryUpdate _
  newRuntime _ _ := mirrored_tryUpdate _
  write o u wrote _ _ _ := mirrored_write same o u wrote
  call := calls

theorem mirrored_perform (same : t.watch = s.watch)
    (calls : ∀ f rt this args, (s.call f rt this args).Mirrored (t.call f rt this args))
    (q : Request) : (s.perform q).Mirrored (t.perform q) := by
  intro w r w' run
  obtain ⟨live, asked, served⟩ := perform_inv run
  have mirrored : (s.serve q).Mirrored (t.serve q) :=
    (noteCongruence same calls).serve q fun _ _ => trivial
  obtain ⟨cost, others⟩ := mirrored w r w' served
  refine ⟨cost, fun v mirrors enough => ?_⟩
  obtain ⟨v', served', after, left⟩ := others v mirrors enough
  refine ⟨v', ?_, after, left⟩
  unfold perform
  rw [mirrors.heap, same, live, asked]
  exact served'

/-- The program ends with this outcome for at most the given number of steps, and what it leaves is
without the notes a moment that it noted. -/
def Arrives (t : Setting (Record σ)) (p : Program (Record σ)) (v : World (Record σ))
    (r : Except Error Value) (w' : World σ) (cost : Nat) : Prop :=
  ∃ v', t.run p v = some (r, v') ∧ Mirrors w' v' ∧ v.state.remaining ≤ v'.state.remaining + cost ∧
    ∃ m ∈ v'.state.moments, m.toWorld = w'

/-- A note costs one step. -/
theorem arrives_note (shown : ∀ h, t.watch.mayShow h = true) {v : World (Record σ)}
    {r : Except Error Value} {w' : World σ} {cost : Nat} (enough : cost + 1 ≤ v.state.remaining)
    {answered : Option Answered} {next : Program (Record σ)}
    (rest : ∀ m : Moment σ, m.toWorld = ⟨v.heap, v.state.bodies, v.state.state⟩ →
      Arrives t next { v with state := v.state.note m } r w' cost) :
    Arrives t (Program.note answered next) v r w' (cost + 1) := by
  obtain ⟨v', done, after, left, last⟩ :=
    rest ⟨⟨v.heap, v.state.bodies, v.state.state⟩, answered⟩ rfl
  refine ⟨v', ?_, after, ?_, last⟩
  · rw [Program.note, run_inspect_apply (shown v.heap), if_neg (by omega), run_store_apply]
    exact done
  · have step : v.state.remaining - 1 ≤ v'.state.remaining + cost := left
    omega

/-- A program that notes what it goes through has the outcome that the program has, and the last
moment that it notes is the world that the program leaves. -/
theorem arrives_noted (same : t.watch = s.watch) (shown : ∀ h, t.watch.mayShow h = true)
    (calls : ∀ f rt this args, (s.call f rt this args).Mirrored (t.call f rt this args))
    (p : Program σ) {w w' : World σ} {r : Except Error Value} (done : s.run p w = some (r, w')) :
    ∃ cost, ∀ (answered : Option Answered) (v : World (Record σ)), Mirrors w v →
      cost ≤ v.state.remaining → Arrives t (p.noted answered) v r w' cost := by
  have shown' : ∀ h, s.watch.mayShow h = true := by
    rw [← same]
    exact shown
  induction p generalizing w with
  | done outcome =>
    obtain ⟨rfl, rfl, live⟩ := run_done_inv done
    refine ⟨1, fun answered v mirrors enough => arrives_note shown enough fun m here => ?_⟩
    have noted := mirrors.note m
    refine ⟨_, run_done_apply t ?_, noted, Nat.le_refl _, m, List.mem_cons_self, ?_⟩
    · rw [noted.heap]
      exact live
    · rw [here, mirrors.heap, mirrors.state, mirrors.bodies]
  | inspect next ih =>
    rw [run_inspect_apply (shown' _)] at done
    obtain ⟨cost, rest⟩ := ih _ _ done
    refine ⟨cost + 1, fun answered v mirrors enough => arrives_note shown enough fun m _ => ?_⟩
    have noted := mirrors.note m
    obtain ⟨v', done', arrived⟩ := rest none _ noted (Nat.le_sub_of_add_le enough)
    refine ⟨v', ?_, arrived⟩
    have seen : next v.heap (v.state.note m).state = next w.heap w.state := by
      rw [mirrors.heap, noted.state]
    rw [run_inspect_apply (shown _), seen]
    exact done'
  | store state next ih =>
    rw [run_store_apply] at done
    obtain ⟨cost, rest⟩ := ih done
    refine ⟨cost + 1, fun answered v mirrors enough => arrives_note shown enough fun m _ => ?_⟩
    have noted : Mirrors { w with state } { v with state := { v.state.note m with state } } :=
      ⟨mirrors.heap, rfl, mirrors.bodies, mirrors.noted⟩
    obtain ⟨v', done', arrived⟩ := rest none _ noted (Nat.le_sub_of_add_le enough)
    refine ⟨v', ?_, arrived⟩
    rw [run_inspect_apply (shown _), run_store_apply]
    exact done'
  | newFunction name body next _ ih =>
    rw [run_newFunction_apply] at done
    obtain ⟨cost, rest⟩ := ih _ done
    refine ⟨cost + 1, fun answered v mirrors enough => arrives_note shown enough fun m _ => ?_⟩
    have size : v.bodies.size = w.bodies.size := by rw [mirrors.noted, Array.size_map]
    have noted : Mirrors
        { w with
          heap := (Update.newFunction name (.program w.bodies.size) w.heap).2
          bodies := w.bodies.push body }
        { heap := (Update.newFunction name (.program v.bodies.size) v.heap).2
          bodies := v.bodies.push (Body.noted body)
          state := { v.state.note m with bodies := v.state.bodies.push body } } := by
      refine ⟨?_, mirrors.state, ?_, ?_⟩
      · rw [mirrors.heap, size]
      · rw [mirrors.bodies]
      · rw [mirrors.noted, Array.map_push]
    obtain ⟨v', done', arrived⟩ := rest none _ noted (Nat.le_sub_of_add_le enough)
    refine ⟨v', ?_, arrived⟩
    rw [run_inspect_apply (shown _), run_store_apply, run_newFunction_apply]
    rw [mirrors.heap, size] at done' ⊢
    exact done'
  | ask q next ih =>
    obtain ⟨answer, between, served, finish⟩ := run_ask_inv done
    obtain ⟨cost, rest⟩ := ih answer finish
    obtain ⟨price, others⟩ := mirrored_perform same calls q w answer between served
    refine ⟨price + cost + 1, fun answered v mirrors enough =>
      arrives_note shown enough fun m _ => ?_⟩
    have left : price + cost ≤ (v.state.note m).remaining := Nat.le_sub_of_add_le enough
    obtain ⟨v₁, served', between', left₁⟩ :=
      others _ (mirrors.note m) (Nat.le_trans (Nat.le_add_right _ _) left)
    replace left₁ : (v.state.note m).remaining ≤ v₁.state.remaining + price := left₁
    obtain ⟨v', done', after, left₂, last⟩ := rest (some ⟨q, v.heap, answer⟩) v₁ between' (by omega)
    refine ⟨v', ?_, after, ?_, last⟩
    · rw [run_inspect_apply (shown _), run_ask_apply served']
      exact done'
    · show (v.state.note m).remaining ≤ v'.state.remaining + (price + cost)
      omega

/-- Functions that programs made have the same outcomes when they note what they go through. -/
theorem mirrored_within {watch : Watch} (shown : ∀ h, watch.mayShow h = true) (depth : Nat)
    (f : FunctionRef) (rt : RuntimeRef) (this : Value) (args : List Value) :
    ((Setting.within (σ := σ) watch depth).call f rt this args).Mirrored
      ((Setting.within watch depth).call f rt this args) := by
  induction depth generalizing f rt this args with
  | zero =>
    intro w r w' run
    cases run
  | succ depth ih =>
    intro w r w' run
    simp only [within, callWithin] at run
    split at run
    · next b code =>
      have mirrored := (noteCongruence (s := within watch depth) rfl ih).runBuiltin b rt this args
        fun _ _ => trivial
      obtain ⟨cost, others⟩ := mirrored w r w' run
      refine ⟨cost, fun v mirrors enough => ?_⟩
      simp only [within, callWithin, mirrors.heap, code]
      exact others v mirrors enough
    · next i code =>
      split at run
      · next body stored =>
        obtain ⟨cost, arrives⟩ := arrives_noted (s := within watch depth) rfl shown ih _ run
        refine ⟨cost, fun v mirrors enough => ?_⟩
        obtain ⟨v', done, after, left, _⟩ := arrives none v mirrors enough
        refine ⟨v', ?_, after, left⟩
        have noted : v.bodies[i]? = some (Body.noted body) := by
          rw [mirrors.noted, Array.getElem?_map, stored]
          rfl
        simp only [within, callWithin, mirrors.heap, code, noted]
        exact done
      · cases run

end Setting

/-- The world in which a run ends is one of its moments, once there are steps enough. -/
theorem Program.end_mem_moments {watch : Watch} (shown : ∀ h, watch.mayShow h = true) {depth : Nat}
    {p : Program σ} {state : σ} {r : Except Error Value} {w : World σ}
    (done : (Setting.within watch depth).run p { state } = some (r, w)) :
    ∃ cost, ∀ count, cost ≤ count → ∃ m ∈ p.moments watch depth state count, m.toWorld = w := by
  obtain ⟨cost, arrives⟩ :=
    Setting.arrives_noted rfl shown (Setting.mirrored_within shown depth) p done
  refine ⟨cost, fun count enough => ?_⟩
  have start : Mirrors (σ := σ) { state } { state := { state, remaining := count } } :=
    ⟨rfl, rfl, rfl, Array.map_empty.symm⟩
  obtain ⟨v, noted, _, _, m, last, here⟩ := arrives none _ start enough
  refine ⟨m, ?_, here⟩
  unfold moments
  rw [noted]
  exact List.mem_reverse.2 last

end ProtoClass
