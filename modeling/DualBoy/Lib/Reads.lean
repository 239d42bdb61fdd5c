import DualBoy.Lib.Memory

/-!
# Computations that read a byte string

A computation reads below `n` when it stays inside every string of at least `n` bytes and finds
there what it finds in every longer string that begins with it. The rules follow the computation.
-/

namespace DualBoy.Lib

universe u v

variable {α : Type u} {β : Type v} {n : Nat}

/-- Inside the first `n` bytes, and of nothing else. -/
def ReadsBelow (n : Nat) (read : List Byte → Option α) : Prop :=
  ∀ data, n ≤ data.length → ∃ value, ∀ suffix, read (data ++ suffix) = some value

namespace ReadsBelow

theorem pure (value : α) : ReadsBelow n fun _ => some value :=
  fun _ _ => ⟨value, fun _ => rfl⟩

theorem byte {i : Nat} (h : i < n) : ReadsBelow n fun data => data[i]? := by
  intro data hn
  have hi : i < data.length := Nat.lt_of_lt_of_le h hn
  refine ⟨data[i], fun suffix => ?_⟩
  dsimp only
  rw [List.getElem?_append_left hi, List.getElem?_eq_getElem hi]

theorem slice {i size : Nat} (h : i + size ≤ n) :
    ReadsBelow n fun data =>
      if i + size ≤ data.length then some ((data.drop i).take size) else none := by
  intro data hn
  refine ⟨(data.drop i).take size, fun suffix => ?_⟩
  dsimp only
  rw [if_pos (by rw [List.length_append]; omega), List.drop_append_of_le_length (by omega),
    List.take_append_of_le_length (by rw [List.length_drop]; omega)]

theorem bind {first : List Byte → Option α} {rest : α → List Byte → Option β}
    (hfirst : ReadsBelow n first) (hrest : ∀ value, ReadsBelow n (rest value)) :
    ReadsBelow n fun data => (first data).bind fun value => rest value data := by
  intro data hn
  obtain ⟨value, hvalue⟩ := hfirst data hn
  obtain ⟨result, hresult⟩ := hrest value data hn
  refine ⟨result, fun suffix => ?_⟩
  dsimp only
  rw [hvalue suffix, Option.bind_some, hresult suffix]

theorem ite {p : Prop} [Decidable p] {yes no : List Byte → Option α} (hyes : ReadsBelow n yes)
    (hno : ReadsBelow n no) : ReadsBelow n fun data => if p then yes data else no data := by
  by_cases hp : p
  · simpa only [if_pos hp] using hyes
  · simpa only [if_neg hp] using hno

/-- A loop over places below `n`. -/
theorem foldlM {turn : List Byte → β → Nat → Option β} {places : List Nat}
    (hturn : ∀ value, ∀ place ∈ places, ReadsBelow n fun data => turn data value place)
    (start : β) : ReadsBelow n fun data => places.foldlM (turn data) start := by
  induction places generalizing start with
  | nil => exact pure start
  | cons place places ih =>
    have hfirst := hturn start place List.mem_cons_self
    have hrest (value : β) : ReadsBelow n fun data => places.foldlM (turn data) value :=
      ih (fun value place hplace => hturn value place (List.mem_cons_of_mem _ hplace)) value
    exact hfirst.bind hrest

theorem mono {m : Nat} {read : List Byte → Option α} (h : ReadsBelow m read) (hle : m ≤ n) :
    ReadsBelow n read := fun data hn => h data (Nat.le_trans hle hn)

/-- What is found in a string is found in every longer one. -/
theorem found {read : List Byte → Option α} (h : ReadsBelow n read) {data : List Byte}
    (hn : n ≤ data.length) (suffix : List Byte) :
    ∃ value, read data = some value ∧ read (data ++ suffix) = some value := by
  obtain ⟨value, hvalue⟩ := h data hn
  have hself := hvalue []
  rw [List.append_nil] at hself
  exact ⟨value, hself, hvalue suffix⟩

end ReadsBelow

end DualBoy.Lib
