/-
**Scenes that scripts lead to.**

A script is performed command by command, each with an empty account to begin with.  What holds in
the scene of a new client and is kept by every step, at any depth of nesting, holds in every scene
that scripts lead to.

The client holds the transport of a connection only once that connection is there: its transport is
taken on by the attempt that has created it, and by nobody else.  The generations of the connections
are their numbers in the order of their creation, so that the handler of a new connection is told
apart from all others until the numbers have come full circle.

Main definitions:

* `Reachable` — the scenes that scripts lead to;
* `Script.accountOf` — what the reports on a script tell;
* `Scene.Places` — which transports the client may have taken on between two scenes;
* `Scene.WellPlaced` — the transport that the client holds is that of a connection in the network;
* `Scene.Numbered` — generations are numbers in the order of creation.

Main results:

* `Reachable.invariant` — **what every step keeps holds in every reachable scene**;
* `Reachable.wellPlaced`, `Reachable.numbered` — every reachable scene is well placed and numbered;
* `Numbered.ne_next` — the next generation is a new one.
-/
import Mathlib.Algebra.Group.Nat.Defs
import BridgeChannel.Proofs.Client.Attempt

set_option autoImplicit false

namespace BridgeChannel

/-- The scenes that scripts for a client with given settings lead to, with steps nested in one
another down to any depth. -/
inductive Reachable (config : Config) : Scene → Prop
  | start : Reachable config (.start config)
  | performed {s : Scene} (reachable : Reachable config s) (depth : Nat) (command : Command) :
      Reachable config (command.perform depth { s with account := [] }).1

/-- **What holds for a new client and is kept by every step, and by the end of the client, holds in
every reachable scene.** -/
theorem Reachable.invariant {config : Config} {P : Scene → Prop} (start : P (.start config))
    (forget : ∀ s : Scene, P s → P { s with account := [] })
    (perform : ∀ depth step s, P s → P (Scene.perform depth step s).1)
    (drop : ∀ s, P s → P s.dropClient) {s : Scene} (reachable : Reachable config s) : P s := by
  induction reachable with
  | start => exact start
  | @performed s _ depth command ih =>
      have forgotten := forget s ih
      cases command with
      | step step => exact perform depth step _ forgotten
      | dropClient =>
          simp only [Command.perform, Scene.asClient]
          split
          · exact forgotten
          · exact drop _ forgotten

/-- What the reports on a script tell, all in all. -/
def Script.accountOf (depth : Nat) (script : Script) (s : Scene) : List Occurrence :=
  (script.runFrom depth s).flatMap Report.account

theorem Script.accountOf_cons (depth : Nat) (command : Command) (rest : Script) (s : Scene) :
    Script.accountOf depth (command :: rest) s =
      Scene.since { s with account := [] } (command.perform depth { s with account := [] }).1 ++
        rest.accountOf depth (command.perform depth { s with account := [] }).1 := by
  rw [Scene.since_of_account _ (List.append_nil _).symm]
  rfl

namespace Scene

/-- Between two scenes, the client has taken on no transport but those of new connections. -/
structure Places (s t : Scene) : Prop where
  longer : s.network.length ≤ t.network.length
  transport : ∀ k, t.client.transport = some k →
    s.client.transport = some k ∨ (s.network.length ≤ k ∧ k < t.network.length)

namespace Places

theorem of_same {s t : Scene} (transport : t.client.transport = s.client.transport)
    (longer : s.network.length ≤ t.network.length) : Places s t :=
  ⟨longer, fun _ hk => Or.inl (transport ▸ hk)⟩

theorem trans {s t u : Scene} (h : Places s t) (h' : Places t u) : Places s u where
  longer := Nat.le_trans h.longer h'.longer
  transport k hk := by
    have later := h'.longer
    -- a transport that was taken on in the first stretch may still be held at the end of the second
    rcases h'.transport k hk with earlier | ⟨low, high⟩
    · rcases h.transport k earlier with first | ⟨low, high⟩
      · exact Or.inl first
      · exact Or.inr ⟨low, Nat.lt_of_lt_of_le high later⟩
    · exact Or.inr ⟨Nat.le_trans h.longer low, high⟩

end Places

theorem respected_places : Respected Places where
  refl s := Places.of_same rfl (Nat.le_refl _)
  trans := Places.trans
  longer h := h.longer
  note _ s := Places.of_same rfl (Nat.le_refl _)
  close _ := Places.of_same rfl (Nat.le_refl _)
  called _ _ s := Places.of_same rfl (Nat.le_refl _)
  submitted _ _ s := Places.of_same rfl (Nat.le_refl _)
  requested _ s := Places.of_same rfl (Nat.le_refl _)
  withRoster s _ := Places.of_same rfl (Nat.le_refl _)
  update _ _ _ _ := Places.of_same rfl (by simp [Scene.update])
  move _ s := Places.of_same rfl (Nat.le_refl _)
  setSession _ s := Places.of_same rfl (Nat.le_refl _)
  leaveTransport s := ⟨Nat.le_refl _, fun k hk => absurd hk (by simp [Scene.setTransport])⟩
  leaveHandler s := Places.of_same rfl (Nat.le_refl _)
  launched plan s := Places.of_same rfl (by simp)
  takeTransport {n s t} h fresh there := by
    refine ⟨h.longer, fun k hk => Or.inr ?_⟩
    obtain rfl : n = k := by simpa [Scene.setTransport] using hk
    exact ⟨fresh, there⟩

/-- The transport that the client holds is that of a connection in the network. -/
def WellPlaced (s : Scene) : Prop := ∀ k, s.client.transport = some k → k < s.network.length

theorem WellPlaced.of_places {s t : Scene} (placed : s.WellPlaced) (h : Places s t) :
    t.WellPlaced := by
  intro k hk
  rcases h.transport k hk with held | ⟨-, there⟩
  · exact Nat.lt_of_lt_of_le (placed k held) h.longer
  · exact there

end Scene

/-- **In every reachable scene, the client holds transports only of connections that are there.** -/
theorem Reachable.wellPlaced {config : Config} {s : Scene} (reachable : Reachable config s) :
    s.WellPlaced := by
  refine reachable.invariant ?_ (fun s placed => placed) ?_ ?_
  · intro k hk
    exact absurd hk (by simp [Scene.start])
  · intro depth step s placed
    exact placed.of_places (Scene.respected_places.inherited.perform depth step s)
  · intro s placed
    exact placed.of_places (Scene.respected_places.phased.dropClient
      (fun _ => Scene.Places.of_same rfl (Nat.le_refl _)) s)

/-! ### Generations -/

namespace Scene

/-- Generations are numbers in the order of creation: that of the client is how many connections
there are, and that of a connection how many there were when it was created. -/
structure Numbered (s : Scene) : Prop where
  latest : s.client.generation = .ofNat s.network.length
  each : ∀ (k : Nat) c, s.network[k]? = some c → c.generation = .ofNat (k + 1)

namespace Numbered

/-- A change that keeps the generation of the client and those of all connections. -/
theorem of_same {s t : Scene} (numbered : s.Numbered)
    (latest : t.client.generation = s.client.generation)
    (length : t.network.length = s.network.length)
    (each : ∀ k : Nat,
      t.network[k]?.map Connection.generation = s.network[k]?.map Connection.generation) :
    t.Numbered where
  latest := by rw [latest, length, numbered.latest]
  each k c hc := by
    have same := each k
    rw [hc, Option.map_some] at same
    obtain ⟨c', hc', generation⟩ := Option.map_eq_some_iff.1 same.symm
    rw [← generation]
    exact numbered.each k c' hc'

/-- A new connection has the next number. -/
theorem launched {s : Scene} (numbered : s.Numbered) (plan : Attempt) :
    (s.launched plan).Numbered where
  latest := by
    rw [client_launched, length_launched]
    dsimp only
    rw [numbered.latest, UInt64.ofNat_add]
    rfl
  each k c hc := by
    rcases Nat.lt_trichotomy k s.network.length with older | rfl | beyond
    · rw [getElem?_launched_of_lt older] at hc
      exact numbered.each k c hc
    · rw [getElem?_launched] at hc
      obtain rfl := Option.some.inj hc
      dsimp only
      rw [numbered.latest, UInt64.ofNat_add]
      rfl
    · have there : k < (s.launched plan).network.length := (List.getElem?_eq_some_iff.1 hc).1
      rw [length_launched] at there
      omega

/-- **The next generation is a new one**, as long as the numbers have not come full circle. -/
theorem ne_next {s : Scene} (numbered : s.Numbered) (few : s.network.length + 1 < 2 ^ 64) :
    ∀ c ∈ s.network, c.generation ≠ s.client.generation + 1 := by
  intro c hc same
  obtain ⟨k, there, rfl⟩ := List.mem_iff_getElem.1 hc
  have own := numbered.each k _ (List.getElem?_eq_getElem there)
  have next : s.client.generation + 1 = .ofNat (s.network.length + 1) := by
    rw [numbered.latest, UInt64.ofNat_add]
    rfl
  rw [own, next] at same
  -- both numbers fit 64 bits, so that they are equal already
  have size : UInt64.size = 2 ^ 64 := rfl
  have equal := congrArg UInt64.toNat same
  rw [UInt64.toNat_ofNat_of_lt' (by omega), UInt64.toNat_ofNat_of_lt' few] at equal
  omega

end Numbered

/-- Between two scenes, the generations stay numbers in the order of creation. -/
structure Counts (s t : Scene) : Prop where
  longer : s.network.length ≤ t.network.length
  numbered : s.Numbered → t.Numbered

theorem Counts.of_same {s t : Scene} (latest : t.client.generation = s.client.generation)
    (network : t.network = s.network) : Counts s t where
  longer := Nat.le_of_eq (congrArg List.length network.symm)
  numbered h := h.of_same latest (congrArg List.length network) fun k => by rw [network]

theorem respected_counts : Respected Counts where
  refl _ := Counts.of_same rfl rfl
  trans h h' := ⟨Nat.le_trans h.longer h'.longer, fun numbered => h'.numbered (h.numbered numbered)⟩
  longer h := h.longer
  note _ _ := Counts.of_same rfl rfl
  close _ := Counts.of_same rfl rfl
  called _ _ _ := Counts.of_same rfl rfl
  submitted _ _ _ := Counts.of_same rfl rfl
  requested _ _ := Counts.of_same rfl rfl
  withRoster _ _ := Counts.of_same rfl rfl
  update n f s keeps := by
    have length : (s.update n f).network.length = s.network.length := by simp [Scene.update]
    exact ⟨Nat.le_of_eq length.symm, fun numbered => numbered.of_same rfl length
      fun k => links_update keeps n s k⟩
  move _ _ := Counts.of_same rfl rfl
  setSession _ _ := Counts.of_same rfl rfl
  leaveTransport _ := Counts.of_same rfl rfl
  leaveHandler _ := Counts.of_same rfl rfl
  launched plan s := ⟨by simp, fun numbered => numbered.launched plan⟩
  takeTransport h _ _ :=
    ⟨h.longer, fun numbered => (h.numbered numbered).of_same rfl rfl fun _ => rfl⟩

end Scene

/-- **In every reachable scene, generations are numbers in the order of creation.** -/
theorem Reachable.numbered {config : Config} {s : Scene} (reachable : Reachable config s) :
    s.Numbered := by
  refine reachable.invariant ?_ (fun s numbered => ?_) ?_ ?_
  · exact ⟨rfl, fun k c hc => absurd hc (by simp [Scene.start])⟩
  · exact numbered.of_same rfl rfl fun _ => rfl
  · intro depth step s numbered
    exact (Scene.respected_counts.inherited.perform depth step s).numbered numbered
  · intro s numbered
    exact (Scene.respected_counts.phased.dropClient
      (fun _ => Scene.Counts.of_same rfl rfl) s).numbered numbered

end BridgeChannel
