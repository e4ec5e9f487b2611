/-
**Scenes that differ in what was noted only.**

If parts of the account are disregarded to begin with, the rest of it depends on them no more than
anything else does.  Two scenes that differ in calls that were counted, and in what is disregarded
of their accounts, stay so, whatever is done in both.

Main definitions:

* `Scene.Alike` — two scenes that differ only in calls, and in the part of the account that is
  disregarded;
* `Scene.AlikeMeanwhile`, `Scene.AlikeActs` — two ways to go on in the midst of a step that take
  scenes that are alike to scenes that are alike.

Main results:

* `alike_iff` — such scenes are akin, with what is disregarded as the margin;
* `Alike.connect_of_cleared`, `Alike.deliver_deaf` — attempts to connect, and signals that nobody
  listens to;
* `alikeActs_perform` — **steps, at any depth of nesting**.
-/
import BridgeChannel.Proofs.Client.Akin

set_option autoImplicit false

namespace BridgeChannel.Scene

/-- Two scenes that differ only in the calls that were counted, and in the occurrences that are not
kept. -/
structure Alike (keep : Occurrence → Bool) (s t : Scene) : Prop where
  client : s.client = t.client
  gone : s.gone = t.gone
  network : s.network = t.network
  roster : s.roster = t.roster
  sends : s.sends = t.sends
  requests : s.requests = t.requests
  account : s.account.filter keep = t.account.filter keep

/-- Two ways to go on at the points of an attempt that keep scenes alike. -/
def AlikeMeanwhile (keep : Occurrence → Bool) (between between' : Interludes) : Prop :=
  ∀ m {s t}, Alike keep s t → Alike keep (between m s) (between' m t)

/-- Two scenes that are alike, with the same outcome. -/
def AlikeResults (keep : Occurrence → Bool) (r r' : Scene × Outcome) : Prop :=
  Alike keep r.1 r'.1 ∧ r.2 = r'.2

/-- Two ways to perform nested steps that keep scenes alike and have the same outcomes. -/
def AlikeActs (keep : Occurrence → Bool) (act act' : Performance) : Prop :=
  ∀ step {s t}, Alike keep s t → AlikeResults keep (act step s) (act' step t)

/-- Accounts may differ in the occurrences that are not kept, and calls in any way. -/
def Margin.kept (keep : Occurrence → Bool) : Margin where
  Allows a _ b _ := a.filter keep = b.filter keep
  note _ h := by rw [List.filter_cons, List.filter_cons, h]
  call _ _ h := h

section Akin

variable {keep : Occurrence → Bool} {s t : Scene}

/-- Scenes that are alike are akin, with what is not kept as the margin. -/
theorem alike_iff : Alike keep s t ↔ Akin (.kept keep) s t :=
  ⟨fun h => ⟨h.client, h.gone, h.network, h.roster, h.sends, h.requests, h.account⟩,
    fun h => ⟨h.client, h.gone, h.network, h.roster, h.sends, h.requests, h.allowed⟩⟩

theorem Akin.alike (h : Akin (.kept keep) s t) : Alike keep s t := alike_iff.2 h

theorem Alike.akin (h : Alike keep s t) : Akin (.kept keep) s t := alike_iff.1 h

theorem AkinResults.alike {r r' : Scene × Outcome} (h : AkinResults (.kept keep) r r') :
    AlikeResults keep r r' :=
  ⟨h.1.alike, h.2⟩

theorem AlikeResults.akin {r r' : Scene × Outcome} (h : AlikeResults keep r r') :
    AkinResults (.kept keep) r r' :=
  ⟨h.1.akin, h.2⟩

theorem AlikeMeanwhile.akin {between between' : Interludes}
    (meanwhile : AlikeMeanwhile keep between between') :
    AkinMeanwhile (.kept keep) between between' :=
  fun m _ _ h => (meanwhile m h.alike).akin

theorem AlikeActs.akin {act act' : Performance} (acts : AlikeActs keep act act') :
    AkinActs (.kept keep) act act' :=
  fun step _ _ h => (acts step h.alike).akin

end Akin

namespace Alike

variable {keep : Occurrence → Bool} {s t : Scene}

theorem refl (s : Scene) : Alike keep s s := ⟨rfl, rfl, rfl, rfl, rfl, rfl, rfl⟩

theorem trans {u : Scene} (h : Alike keep s t) (h' : Alike keep t u) : Alike keep s u :=
  ⟨h.client.trans h'.client, h.gone.trans h'.gone, h.network.trans h'.network,
    h.roster.trans h'.roster, h.sends.trans h'.sends, h.requests.trans h'.requests,
    h.account.trans h'.account⟩

/-! ### Questions -/

theorem state? (h : Alike keep s t) : s.state? = t.state? := h.akin.state?

theorem connected? (h : Alike keep s t) : s.connected? = t.connected? := h.akin.connected?

/-! ### Parts of a scene -/

theorem log (h : Alike keep s t) (line : LogLine) : Alike keep (s.log line) (t.log line) :=
  (h.akin.log line).alike

/-- What is not kept makes no difference. -/
theorem noted {o : Occurrence} (dropped : keep o = false) (s : Scene) :
    Alike keep (s.note o) s :=
  ⟨rfl, rfl, rfl, rfl, rfl, rfl, by simp [Scene.note, dropped]⟩

/-- Calls make no difference. -/
theorem counted (n : Nat) (signal : Signal) (s : Scene) : Alike keep (s.called n signal) s :=
  ⟨rfl, rfl, rfl, rfl, rfl, rfl, rfl⟩

/-! ### Closing and opening -/

/-- What happens while a session is being closed has to be alike where it happens. -/
theorem closeSession {between between' : Interludes} {n : Nat}
    (h : Alike keep (between .closing (s.note (.closed n)))
      (between' .closing (t.note (.closed n)))) :
    Alike keep (Scene.closeSession between n s) (Scene.closeSession between' n t) :=
  (Akin.closeSession h.akin).alike

theorem stopTransport {between between' : Interludes} {n : Nat}
    (h : Alike keep (between .stopping (s.note (.stopped n)))
      (between' .stopping (t.note (.stopped n)))) :
    Alike keep (Scene.stopTransport between n s) (Scene.stopTransport between' n t) :=
  (Akin.stopTransport h.akin).alike

theorem quietly : AlikeMeanwhile keep Scene.quietly Scene.quietly := fun _ _ _ h => h

theorem dropTransport {between between' : Interludes}
    (meanwhile : AlikeMeanwhile keep between between') (h : Alike keep s t) :
    Alike keep (Scene.dropTransport between s) (Scene.dropTransport between' t) :=
  (Akin.dropTransport meanwhile.akin h.akin).alike

/-- What happens until the factory answers is all that has to be compared before the new connection
is launched. -/
theorem connect_of_cleared {between between' : Interludes}
    (opening : ∀ {u v}, Alike keep u v → Alike keep (between .opening u) (between' .opening v))
    (h : Alike keep s t) (cleared : Alike keep (s.cleared between) (t.cleared between'))
    (plan : Attempt) :
    Alike keep (s.connect plan between).1 (t.connect plan between').1 ∧
      (s.connect plan between).2 = (t.connect plan between').2 := by
  obtain ⟨later, same⟩ :=
    h.akin.connect_of_cleared (fun h => (opening h.alike).akin) cleared.akin plan
  exact ⟨later.alike, same⟩

/-! ### Receiving -/

/-- A call that leaves a scene alike while it runs does so when it is over. -/
theorem engaged_self {f : Scene → Scene} {n : Nat}
    (h : Alike keep (f (s.update n fun c => { c with running := c.running + 1 }))
      (s.update n fun c => { c with running := c.running + 1 })) :
    Alike keep (s.engaged n f) s := by
  have after := h.akin.update n fun c => { c with running := c.running - 1 }
  rw [update_over] at after
  exact after.alike

/-- A signal that nobody listens to leaves a log line at most. -/
theorem deliver_deaf {react : Reaction} {n : Nat} {signal : Signal}
    (dropped : ∀ generation latest, keep (.log (.stale generation latest)) = false)
    (deaf : s.listensTo n = false) : Alike keep (s.deliver react n signal) s := by
  have called : Alike keep (s.called n signal) s := .counted n signal s
  rcases deliver_of_deaf deaf signal with h | ⟨generation, latest, h⟩
  · rw [h]
    exact called
  · rw [h]
    exact (noted (dropped _ _) _).trans called

end Alike

section Steps

variable {keep : Occurrence → Bool} {act act' : Performance}

theorem AlikeActs.interludes (acts : AlikeActs keep act act') (during : List (Moment × Step)) :
    AlikeMeanwhile keep (Scene.interludes act during) (Scene.interludes act' during) :=
  fun m _ _ h => (acts.akin.interludes during m h.akin).alike

/-- **Every step keeps scenes alike, with all that is nested in it.** -/
theorem alikeActs_perform (depth : Nat) :
    AlikeActs keep (Scene.perform depth) (Scene.perform depth) := by
  intro step s t h
  rw [← performBy_outright]
  exact (akinActs_performBy akinCalls_outright depth step h.akin).alike

end Steps

end BridgeChannel.Scene
