import DualBoy.Lockstep.Coordinator

/-!
# Writes to the coordinator's table

What a write through a player, or to a machine, leaves of the rest of a pair; for any pair, whoever is
attached.
-/

namespace DualBoy.Lockstep

variable [Mgba]

namespace Pair

omit [Mgba] in
theorem lookup_map (players : List (Nat × Player)) (id id' : Nat) (f : Player → Player) :
    (players.map fun e => if e.1 = id then (e.1, f e.2) else e).lookup id' =
      if id' = id then (players.lookup id').map f else players.lookup id' := by
  induction players with
  | nil => simp
  | cons entry players ih =>
    obtain ⟨key, player⟩ := entry
    rw [List.map_cons]
    by_cases hkey : key = id
    · rw [if_pos hkey, List.lookup_cons, List.lookup_cons, ih]
      by_cases hid : id' = key
      · simp [hid, hkey]
      · rw [beq_false_of_ne hid]
    · rw [if_neg hkey, List.lookup_cons, List.lookup_cons, ih]
      by_cases hid : id' = key
      · have hne : id' ≠ id := hid ▸ hkey
        rw [beq_iff_eq.mpr hid, if_neg hne, if_neg hne]
      · rw [beq_false_of_ne hid]

/-- A write through one player is seen by lookups of that player alone. -/
theorem lookup_modifyPlayer (s : Pair) (id id' : Nat) (f : Player → Player) :
    (s.modifyPlayer id f).lookup id' =
      if id' = id then (s.lookup id').map f else s.lookup id' :=
  lookup_map _ _ _ _

theorem lookup_congr {s s' : Pair} (h : s'.coordinator.players = s.coordinator.players) (id : Nat) :
    s'.lookup id = s.lookup id := by
  unfold lookup
  rw [h]

@[simp] theorem coordinator_modifyGba (s : Pair) (i : Fin 2) (f : Gba → Gba) :
    (s.modifyGba i f).coordinator = s.coordinator := by
  match i with
  | 0 => rfl
  | 1 => rfl

theorem drivers_modifyGba_of_ne (s : Pair) {i j : Fin 2} (h : i ≠ j) (f : Gba → Gba) :
    (s.modifyGba i f).drivers j = s.drivers j := by
  match i, j with
  | 0, 0 => exact absurd rfl h
  | 0, 1 => rfl
  | 1, 0 => rfl
  | 1, 1 => exact absurd rfl h

end Pair

end DualBoy.Lockstep
