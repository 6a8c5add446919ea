import PnetManager.SystemCalls

/-!
# A store of files

A store gives each path the content of its file, if there is one. A file is
rewritten from its beginning or it is removed; either call may be refused.
-/

namespace PnetManager.FileStore
open SystemCalls

abbrev Files (P C : Type*) := P → Option C

variable {P C : Type*} [DecidableEq P]

namespace Files

def write (files : Files P C) (p : P) (c : C) : Files P C := Function.update files p (some c)

def erase (files : Files P C) (p : P) : Files P C := Function.update files p none

variable {files : Files P C} {p q : P} {c d : C}

@[simp] theorem write_same : files.write p c p = some c := Function.update_self ..

@[simp] theorem erase_same : files.erase p p = none := Function.update_self ..

theorem write_of_ne (h : q ≠ p) : files.write p c q = files q := Function.update_of_ne h ..

theorem erase_of_ne (h : q ≠ p) : files.erase p q = files q := Function.update_of_ne h ..

@[simp] theorem write_write : (files.write p c).write p d = files.write p d :=
  Function.update_idem ..

@[simp] theorem erase_write : (files.write p c).erase p = files.erase p :=
  Function.update_idem ..

theorem write_eq_self_iff : files.write p c = files ↔ files p = some c :=
  Function.update_eq_self_iff.trans eq_comm

theorem erase_write_comm (h : p ≠ q) : (files.write q c).erase p = (files.erase p).write q c :=
  Function.update_comm h.symm ..

end Files

def openEmpty (p : P) (c : C) (host : Host (Files P C)) : Bool × Host (Files P C) :=
  host.call fun files => some (files.write p c)

def unlink (p : P) (host : Host (Files P C)) : Bool × Host (Files P C) :=
  host.call fun files => (files p).map fun _ => files.erase p

variable {p q : P} {c : C} {files : Files P C} {outcomes : List Bool} {host : Host (Files P C)}

theorem openEmpty_granted (h : outcomes.headD true = true) :
    openEmpty p c ⟨files, outcomes⟩ = (true, ⟨files.write p c, outcomes.tail⟩) := by
  simp only [openEmpty, Host.call, h]

theorem openEmpty_refused (h : outcomes.headD true = false) :
    openEmpty p c ⟨files, outcomes⟩ = (false, ⟨files, outcomes.tail⟩) := by
  simp only [openEmpty, Host.call, h]

theorem unlink_outcomes (p : P) (host : Host (Files P C)) :
    (unlink p host).2.outcomes = host.outcomes.tail := by
  rw [unlink, Host.call]
  split <;> rfl

theorem unlink_granted (h : host.outcomes.headD true = true) : (unlink p host).2.env p = none := by
  simp only [unlink, Host.call, h]
  cases hp : host.env p with
  | none => exact hp
  | some c => exact Files.erase_same

theorem unlink_of_ne (h : q ≠ p) : (unlink p host).2.env q = host.env q := by
  rcases Host.call_env host fun files => (files p).map fun _ => files.erase p with hsame | hdone
  · exact congrFun hsame q
  · obtain ⟨_, _, herase⟩ := Option.map_eq_some_iff.mp hdone
    exact (congrFun herase q).symm.trans (Files.erase_of_ne h)

theorem unlink_done (h : (unlink p host).1 = true) :
    (unlink p host).2.env = host.env.erase p := by
  have hcall : unlink p host = (true, (unlink p host).2) := Prod.ext h rfl
  have hdone := Host.call_done hcall
  obtain ⟨_, _, herase⟩ := Option.map_eq_some_iff.mp hdone
  exact herase.symm

theorem unlink_failed (h : (unlink p host).1 = false) : (unlink p host).2.env = host.env :=
  Host.call_refused (show unlink p host = (false, (unlink p host).2) from Prod.ext h rfl)

end PnetManager.FileStore
