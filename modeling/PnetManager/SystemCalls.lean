import Mathlib

/-!
# Calls into a host that may refuse them

A host is a state together with the outcomes of the calls still to come; a call
beyond the end of that list succeeds. A refused call leaves the state alone.
-/

namespace PnetManager.SystemCalls

variable {E : Type*}

structure Host (E : Type*) where
  env : E
  outcomes : List Bool

namespace Host

/-- One call. `effect` is `none` where the host cannot carry the call out. -/
def call (host : Host E) (effect : E → Option E) : Bool × Host E :=
  match host.outcomes.headD true, effect host.env with
  | true, some env => (true, ⟨env, host.outcomes.tail⟩)
  | _, _ => (false, ⟨host.env, host.outcomes.tail⟩)

def Granting (host : Host E) : Prop := false ∉ host.outcomes

theorem Granting.next {host : Host E} (h : host.Granting) : host.outcomes.headD true = true := by
  obtain ⟨env, outcomes⟩ := host
  cases outcomes with
  | nil => rfl
  | cons b bs =>
    have hb : false ≠ b := fun he => h (he ▸ List.mem_cons_self)
    simpa using hb.symm

theorem Granting.tail {host : Host E} (h : host.Granting) (env : E) :
    Granting ⟨env, host.outcomes.tail⟩ := fun hm => h (List.mem_of_mem_tail hm)

theorem Granting.call {host : Host E} (h : host.Granting) (effect : E → Option E) {env : E}
    (he : effect host.env = some env) :
    host.call effect = (true, ⟨env, host.outcomes.tail⟩) := by
  simp only [Host.call, h.next, he]

def Granted (host : Host E) : Prop := host.outcomes.headD true = true

theorem call_granted {host : Host E} (h : host.Granted) {effect : E → Option E} {env : E}
    (he : effect host.env = some env) :
    host.call effect = (true, ⟨env, host.outcomes.tail⟩) := by
  rw [Granted] at h
  simp only [call, h, he]

theorem call_not_granted {host : Host E} (h : ¬ host.Granted) (effect : E → Option E) :
    host.call effect = (false, ⟨host.env, host.outcomes.tail⟩) := by
  rw [Granted, Bool.not_eq_true] at h
  simp only [call, h]

theorem call_env (host : Host E) (effect : E → Option E) :
    (host.call effect).2.env = host.env ∨ effect host.env = some (host.call effect).2.env := by
  rw [Host.call]
  split
  · exact Or.inr ‹_›
  · exact Or.inl rfl

theorem call_done {host host' : Host E} {effect : E → Option E}
    (h : host.call effect = (true, host')) : effect host.env = some host'.env := by
  rw [Host.call] at h
  split at h
  · rwa [← (Prod.mk.inj h).2]
  · simp at h

theorem call_refused {host host' : Host E} {effect : E → Option E}
    (h : host.call effect = (false, host')) : host'.env = host.env := by
  rw [Host.call] at h
  split at h
  · simp at h
  · rw [← (Prod.mk.inj h).2]

end Host

end PnetManager.SystemCalls
