import PnetManager.ConfigRoundTrip

/-!
# Which assignment decides

The last assignment of a key counts, wherever in the file it stands.
-/

namespace PnetManager.ConfigKeys
open CText ConfigFile ConfigRoundTrip

def lastValue (k : Key) (ps : List (Text × Text)) : Option Text :=
  (ps.reverse.find? fun p => p.1 = k.name).map Prod.snd

theorem lastValue_snoc (k : Key) (ps : List (Text × Text)) (p : Text × Text) :
    lastValue k (ps ++ [p]) = if p.1 = k.name then some p.2 else lastValue k ps := by
  simp only [lastValue, List.reverse_append, List.reverse_singleton, List.singleton_append,
    List.find?_cons]
  by_cases hp : p.1 = k.name <;> simp [hp]

theorem lastValue_append (k : Key) (ps qs : List (Text × Text)) :
    lastValue k (ps ++ qs) = (lastValue k qs).or (lastValue k ps) := by
  rw [lastValue, List.reverse_append, List.find?_append, Option.map_or]
  rfl

theorem name_injective {k k' : Key} (h : k.name = k'.name) : k = k' :=
  Option.some_injective _ ((ofText_name k).symm.trans (h ▸ ofText_name k'))

theorem ofText_eq_some {key : Text} {k : Key} (h : Key.ofText key = some k) : key = k.name := by
  have hf := List.find?_some h
  exact (of_decide_eq_true hf).symm

end PnetManager.ConfigKeys
