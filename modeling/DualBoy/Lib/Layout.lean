import Mathlib.Algebra.Order.Ring.Int
import Mathlib.Data.List.Basic

/-!
# Fields of a buffer

A buffer is a list, and a field is data at an offset of it. Fields that lie one after the other
fill their part of the buffer, and each is found again at its offset, whatever comes before and
behind them.
-/

namespace DualBoy.Lib

universe u

variable {α : Type u}

/-- Data copied into a buffer at an offset. -/
def writeAt (buffer : List α) (offset : Nat) (data : List α) : List α :=
  buffer.take offset ++ data ++ buffer.drop (offset + data.length)

/-- Fields copied into a buffer, one after the other. -/
def writeFields (buffer : List α) (fields : List (Nat × List α)) : List α :=
  fields.foldl (fun buffer field => writeAt buffer field.1 field.2) buffer

/-- Each field begins where the one before it ends. -/
def Consecutive : Nat → List (Nat × List α) → Prop
  | _, [] => True
  | offset, field :: fields => field.1 = offset ∧ Consecutive (offset + field.2.length) fields

/-- What the fields hold together. -/
def contents (fields : List (Nat × List α)) : List α :=
  (fields.map Prod.snd).flatten

@[simp] theorem contents_nil : contents ([] : List (Nat × List α)) = [] := rfl

@[simp] theorem contents_cons (field : Nat × List α) (fields : List (Nat × List α)) :
    contents (field :: fields) = field.2 ++ contents fields := rfl

@[simp] theorem contents_append (fields fields' : List (Nat × List α)) :
    contents (fields ++ fields') = contents fields ++ contents fields' := by
  simp [contents]

theorem Consecutive.append {fields fields' : List (Nat × List α)} {offset : Nat}
    (h : Consecutive offset fields)
    (h' : Consecutive (offset + (contents fields).length) fields') :
    Consecutive offset (fields ++ fields') := by
  induction fields generalizing offset with
  | nil => exact h'
  | cons field fields ih =>
    obtain ⟨hoffset, hrest⟩ := h
    refine ⟨hoffset, ih hrest ?_⟩
    rw [contents_cons, List.length_append] at h'
    rw [Nat.add_assoc]
    exact h'

theorem writeAt_append (front rest data : List α) :
    writeAt (front ++ rest) front.length data = front ++ data ++ rest.drop data.length := by
  unfold writeAt
  rw [List.take_left, List.drop_length_add_append]

theorem length_writeAt {buffer data : List α} {offset : Nat}
    (h : offset + data.length ≤ buffer.length) :
    (writeAt buffer offset data).length = buffer.length := by
  unfold writeAt
  rw [List.length_append, List.length_append, List.length_take, List.length_drop]
  omega

/-- **Consecutive fields replace their part of the buffer.** -/
theorem writeFields_append {fields : List (Nat × List α)} (front rest : List α)
    (h : Consecutive front.length fields) :
    writeFields (front ++ rest) fields =
      front ++ contents fields ++ rest.drop (contents fields).length := by
  induction fields generalizing front rest with
  | nil => simp [writeFields]
  | cons field fields ih =>
    obtain ⟨hoffset, hrest⟩ := h
    rw [← List.length_append] at hrest
    have hfield := ih (front ++ field.2) (rest.drop field.2.length) hrest
    unfold writeFields at hfield ⊢
    rw [List.foldl_cons, hoffset, writeAt_append, hfield, contents_cons, List.drop_drop,
      List.length_append, List.append_assoc front]

/-- **A field is found again at its offset.** -/
theorem field_of_mem {fields : List (Nat × List α)} (front rest : List α)
    (h : Consecutive front.length fields) {offset : Nat} {data : List α}
    (hmem : (offset, data) ∈ fields) :
    ((front ++ contents fields ++ rest).drop offset).take data.length = data := by
  induction fields generalizing front with
  | nil => cases hmem
  | cons field fields ih =>
    obtain ⟨hoffset, hrest⟩ := h
    rw [← List.length_append] at hrest
    rw [contents_cons]
    rcases List.mem_cons.mp hmem with rfl | hmem
    · simp only at hoffset
      rw [hoffset, List.append_assoc, List.drop_left, List.append_assoc, List.take_left]
    · have hfield := ih (front ++ field.2) hrest hmem
      simp only [List.append_assoc] at hfield ⊢
      exact hfield

/-! ## Fields with gaps

Fields in the order of their offsets need not fill the buffer. Each is found again, and what lies
between them is what the buffer held before. -/

/-- The `n` entries of a buffer from an offset on. -/
def fieldAt (buffer : List α) (offset n : Nat) : List α :=
  (buffer.drop offset).take n

/-- The fields lie one behind the other from `low` on and end by `high`. -/
def Spaced (low high : Nat) : List (Nat × List α) → Prop
  | [] => low ≤ high
  | field :: fields => low ≤ field.1 ∧ Spaced (field.1 + field.2.length) high fields

/-- A field lies outside the `n` entries from an offset on. -/
def Outside (offset n : Nat) (field : Nat × List α) : Prop :=
  field.1 + field.2.length ≤ offset ∨ offset + n ≤ field.1

theorem Spaced.le {fields : List (Nat × List α)} {low high : Nat} (h : Spaced low high fields) :
    low ≤ high := by
  induction fields generalizing low with
  | nil => exact h
  | cons field fields ih =>
    have hrest := ih h.2
    have hfirst := h.1
    omega

theorem Spaced.of_le {fields : List (Nat × List α)} {low low' high : Nat} (h : Spaced low high fields)
    (hle : low' ≤ low) : Spaced low' high fields := by
  cases fields with
  | nil => exact Nat.le_trans hle h
  | cons field fields => exact ⟨Nat.le_trans hle h.1, h.2⟩

theorem Spaced.append {fields fields' : List (Nat × List α)} {low middle high : Nat}
    (h : Spaced low middle fields) (h' : Spaced middle high fields') :
    Spaced low high (fields ++ fields') := by
  induction fields generalizing low with
  | nil =>
    cases fields' with
    | nil => exact Nat.le_trans h h'
    | cons field fields' => exact ⟨Nat.le_trans h h'.1, h'.2⟩
  | cons field fields ih => exact ⟨h.1, ih h.2⟩

theorem Spaced.bounds {fields : List (Nat × List α)} {low high : Nat} (h : Spaced low high fields)
    {field : Nat × List α} (hmem : field ∈ fields) :
    low ≤ field.1 ∧ field.1 + field.2.length ≤ high := by
  induction fields generalizing low with
  | nil => cases hmem
  | cons first fields ih =>
    rcases List.mem_cons.mp hmem with rfl | hmem
    · exact ⟨h.1, h.2.le⟩
    · have hfirst := h.1
      obtain ⟨hlow, hhigh⟩ := ih h.2 hmem
      exact ⟨by omega, hhigh⟩

theorem getElem?_fieldAt (buffer : List α) (offset n i : Nat) :
    (fieldAt buffer offset n)[i]? = if i < n then buffer[offset + i]? else none := by
  unfold fieldAt
  rw [List.getElem?_take, List.getElem?_drop]

theorem getElem?_writeAt {buffer data : List α} {offset : Nat}
    (h : offset + data.length ≤ buffer.length) (i : Nat) :
    (writeAt buffer offset data)[i]? =
      if offset ≤ i ∧ i < offset + data.length then data[i - offset]? else buffer[i]? := by
  have htake : (buffer.take offset).length = offset := by
    rw [List.length_take]
    omega
  unfold writeAt
  rw [List.append_assoc, List.getElem?_append, htake, List.getElem?_append, List.getElem?_drop]
  split
  · rw [if_neg (by omega), List.getElem?_take, if_pos (by omega)]
  · split
    · rw [if_pos (by omega)]
    · rw [if_neg (by omega)]
      congr 1
      omega

/-- Data just written is read back. -/
theorem fieldAt_writeAt {buffer data : List α} {offset : Nat}
    (h : offset + data.length ≤ buffer.length) :
    fieldAt (writeAt buffer offset data) offset data.length = data := by
  refine List.ext_getElem? fun i => ?_
  rw [getElem?_fieldAt, getElem?_writeAt h]
  split
  · rw [if_pos (by omega), Nat.add_sub_cancel_left]
  · rw [List.getElem?_eq_none (by omega)]

theorem fieldAt_writeAt_of_outside {buffer : List α} {offset n : Nat} {field : Nat × List α}
    (h : field.1 + field.2.length ≤ buffer.length) (hout : Outside offset n field) :
    fieldAt (writeAt buffer field.1 field.2) offset n = fieldAt buffer offset n := by
  refine List.ext_getElem? fun i => ?_
  rw [getElem?_fieldAt, getElem?_fieldAt, getElem?_writeAt h]
  split
  · rw [if_neg (by rcases hout with hout | hout <;> omega)]
  · rfl

theorem length_writeFields {fields : List (Nat × List α)} {low high : Nat} {buffer : List α}
    (h : Spaced low high fields) (hbuffer : high ≤ buffer.length) :
    (writeFields buffer fields).length = buffer.length := by
  induction fields generalizing low buffer with
  | nil => rfl
  | cons field fields ih =>
    have hlength : (writeAt buffer field.1 field.2).length = buffer.length :=
      length_writeAt (Nat.le_trans h.2.le hbuffer)
    exact (ih h.2 (by rw [hlength]; exact hbuffer)).trans hlength

/-- What no field covers stays as it was. -/
theorem fieldAt_writeFields_of_outside {fields : List (Nat × List α)} {low high offset n : Nat}
    {buffer : List α} (h : Spaced low high fields) (hbuffer : high ≤ buffer.length)
    (hout : ∀ field ∈ fields, Outside offset n field) :
    fieldAt (writeFields buffer fields) offset n = fieldAt buffer offset n := by
  induction fields generalizing low buffer with
  | nil => rfl
  | cons field fields ih =>
    have hfield : field.1 + field.2.length ≤ buffer.length := Nat.le_trans h.2.le hbuffer
    have hrest : fieldAt (writeFields (writeAt buffer field.1 field.2) fields) offset n =
        fieldAt (writeAt buffer field.1 field.2) offset n :=
      ih h.2 (by rw [length_writeAt hfield]; exact hbuffer)
        fun other hmem => hout other (List.mem_cons_of_mem _ hmem)
    exact hrest.trans (fieldAt_writeAt_of_outside hfield (hout field List.mem_cons_self))

/-- **A field with gaps around it is found again at its offset.** -/
theorem fieldAt_writeFields_of_mem {fields : List (Nat × List α)} {low high : Nat}
    {buffer : List α} (h : Spaced low high fields) (hbuffer : high ≤ buffer.length)
    {offset : Nat} {data : List α} (hmem : (offset, data) ∈ fields) :
    fieldAt (writeFields buffer fields) offset data.length = data := by
  induction fields generalizing low buffer with
  | nil => cases hmem
  | cons field fields ih =>
    have hfield : field.1 + field.2.length ≤ buffer.length := Nat.le_trans h.2.le hbuffer
    have hlength := length_writeAt hfield
    rcases List.mem_cons.mp hmem with rfl | hmem
    · have hrest : fieldAt (writeFields (writeAt buffer offset data) fields) offset data.length =
          fieldAt (writeAt buffer offset data) offset data.length :=
        fieldAt_writeFields_of_outside h.2 (by rw [hlength]; exact hbuffer)
          fun other hother => Or.inr (h.2.bounds hother).1
      exact hrest.trans (fieldAt_writeAt hfield)
    · exact ih h.2 (by rw [hlength]; exact hbuffer) hmem

end DualBoy.Lib
