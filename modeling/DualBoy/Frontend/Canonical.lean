import DualBoy.Frontend.Normalize

/-!
# What a normalized path is

`normalize_path` against its specification: a fold over the components that keeps a canonical list
of them, and writes it out at the end. A component is either skipped, cancels the last one kept, or
is kept; it fails when an absolute path would step above the root, and when what is kept no longer
fits the output.

The function works in place on two arrays of one entry per byte of the input and one more.
`normalizeAt` is the same loop with every index checked.

* `normalizeComponent_keep`: one turn of the loop is one step of the fold.
* `specify_canonical`: a canonical list is kept as it is.
* `normalizePathAt_eq`: no index leaves the arrays.
* **`normalizePath_spec`**.
-/

namespace DualBoy.Frontend

open DualBoy.Lib

/-! ## The specification -/

/-- The components kept so far, the last one first, once one more has been seen; `none` above the
root. -/
def keepComponent (absolute : Bool) (kept : List PathBytes) (component : PathBytes) :
    Option (List PathBytes) :=
  if component = [] ∨ component = here then some kept
  else if component = parent then
    match kept with
    | [] => if absolute then none else some [parent]
    | name :: names =>
      if name ≠ parent then some names
      else if absolute then none
      else some (parent :: name :: names)
  else some (component :: kept)

/-- The components a path keeps. -/
def keptComponents (absolute : Bool) (components : List PathBytes) : Option (List PathBytes) :=
  components.foldlM (keepComponent absolute) []

/-- The components kept, written out. -/
def writtenPath (absolute : Bool) (kept : List PathBytes) : PathBytes :=
  (if absolute then [slash] else []) ++ [slash].intercalate kept.reverse

/-- The path they stand for. -/
def canonicalPath (absolute : Bool) (kept : List PathBytes) : PathBytes :=
  if writtenPath absolute kept = [] then here else writtenPath absolute kept

/-- The fold, which ends early above the root and where the output is too short. -/
def specify (capacity : Nat) (absolute : Bool) :
    List PathBytes → List PathBytes → Except PlaylistResult (List PathBytes)
  | kept, [] => .ok kept
  | kept, component :: components =>
    match keepComponent absolute kept component with
    | none => .error .unsafePath
    | some kept =>
      if (writtenPath absolute kept).length < capacity then specify capacity absolute kept components
      else .error .pathTooLong

/-- The path `normalize_path` is to produce. -/
def specifiedPath (capacity : Nat) (input : PathBytes) : Except PlaylistResult PathBytes :=
  let absolute : Bool := input.head? = some slash
  match specify capacity absolute [] (input.splitOn slash) with
  | .error result => .error result
  | .ok kept =>
    if (canonicalPath absolute kept).length < capacity then .ok (canonicalPath absolute kept)
    else .error .pathTooLong

/-! ## Canonical lists -/

/-- Names without `.` or separators; a parent stands only before names, in a relative path. -/
def Canonical (absolute : Bool) : List PathBytes → Prop
  | [] => True
  | component :: kept =>
    (component ≠ [] ∧ component ≠ here ∧ slash ∉ component ∧
      (component = parent → absolute = false ∧ ∀ other ∈ kept, other = parent)) ∧
    Canonical absolute kept

variable {capacity : Nat} {absolute : Bool} {kept : List PathBytes}

theorem canonical_nil (absolute : Bool) : Canonical absolute [] := trivial

theorem Canonical.component (h : Canonical absolute kept) :
    ∀ component ∈ kept, component ≠ [] ∧ slash ∉ component := by
  induction kept with
  | nil => exact fun _ hmem => nomatch hmem
  | cons first kept ih =>
    intro component hmem
    rcases List.mem_cons.mp hmem with rfl | hmem
    · exact ⟨h.1.1, h.1.2.2.1⟩
    · exact ih h.2 component hmem

/-- **The fold keeps its list canonical.** -/
theorem Canonical.keep (h : Canonical absolute kept) {component : PathBytes}
    (hslash : slash ∉ component) {kept' : List PathBytes}
    (hkeep : keepComponent absolute kept component = some kept') : Canonical absolute kept' := by
  unfold keepComponent at hkeep
  by_cases hskip : component = [] ∨ component = here
  · rw [if_pos hskip] at hkeep
    obtain rfl := Option.some.inj hkeep
    exact h
  rw [if_neg hskip] at hkeep
  obtain ⟨hne, hhere⟩ := not_or.mp hskip
  by_cases hparent : component = parent
  · rw [if_pos hparent] at hkeep
    cases absolute with
    | true =>
      cases kept with
      | nil => cases hkeep
      | cons name names =>
        by_cases hname : name ≠ parent
        · obtain rfl := Option.some.inj ((if_pos hname).symm.trans hkeep)
          exact h.2
        · dsimp only at hkeep
          rw [if_neg hname] at hkeep
          cases hkeep
    | false =>
      cases kept with
      | nil =>
        obtain rfl := Option.some.inj hkeep
        exact ⟨⟨by decide, by decide, by decide, fun _ => ⟨rfl, nofun⟩⟩, trivial⟩
      | cons name names =>
        by_cases hname : name ≠ parent
        · obtain rfl := Option.some.inj ((if_pos hname).symm.trans hkeep)
          exact h.2
        · dsimp only at hkeep
          rw [if_neg hname] at hkeep
          obtain rfl := Option.some.inj hkeep
          have hall := (h.1.2.2.2 (not_not.mp hname)).2
          refine ⟨⟨by decide, by decide, by decide, fun _ => ⟨rfl, fun other hmem => ?_⟩⟩, h⟩
          rcases List.mem_cons.mp hmem with rfl | hmem
          · exact not_not.mp hname
          · exact hall other hmem
  · rw [if_neg hparent] at hkeep
    obtain rfl := Option.some.inj hkeep
    exact ⟨⟨hne, hhere, hslash, fun h => absurd h hparent⟩, h⟩

/-! ## Writing -/

theorem intercalate_concat {components : List PathBytes} (hne : components ≠ [])
    (component : PathBytes) :
    [slash].intercalate (components ++ [component]) =
      [slash].intercalate components ++ [slash] ++ component := by
  induction components with
  | nil => exact absurd rfl hne
  | cons first components ih =>
    cases components with
    | nil => simp
    | cons second components =>
      have hrest := ih (List.cons_ne_nil _ _)
      rw [List.cons_append, List.intercalate_cons_of_ne_nil (by simp), hrest,
        List.intercalate_cons_cons]
      simp only [List.append_assoc]

theorem getLast?_writtenPath {component : PathBytes} (h : Canonical absolute (component :: kept)) :
    (writtenPath absolute (component :: kept)).getLast? = component.getLast? := by
  unfold writtenPath
  rw [List.reverse_cons]
  cases hkept : kept.reverse with
  | nil =>
    rw [List.nil_append, List.intercalate_singleton, List.getLast?_append_of_ne_nil _ h.1.1]
  | cons first others =>
    rw [intercalate_concat (List.cons_ne_nil _ _), ← List.append_assoc,
      List.getLast?_append_of_ne_nil _ h.1.1]

/-- A component is written behind a separator. -/
theorem writtenPath_cons (h : Canonical absolute kept) (component : PathBytes) :
    writtenPath absolute (component :: kept) =
      writtenPath absolute kept ++ separatorAfter (writtenPath absolute kept) ++ component := by
  cases kept with
  | nil => cases absolute <;> simp [writtenPath, separatorAfter]
  | cons first kept =>
    obtain ⟨hne, hslash⟩ := h.component first List.mem_cons_self
    have hlast : (writtenPath absolute (first :: kept)).getLast? ≠ some slash := by
      rw [getLast?_writtenPath h]
      exact fun hlast => hslash (List.mem_of_getLast? hlast)
    have hwritten : writtenPath absolute (first :: kept) ≠ [] := by
      intro hempty
      have hnone := getLast?_writtenPath h
      rw [hempty, List.getLast?_nil] at hnone
      exact hne (List.getLast?_eq_none_iff.mp hnone.symm)
    rw [separatorAfter, if_pos ⟨hwritten, hlast⟩]
    unfold writtenPath
    rw [List.reverse_cons, intercalate_concat (by simp)]
    simp only [List.append_assoc]

/-- The buffer holds the components kept. -/
theorem rendered_output (h : Canonical absolute kept) :
    (rendered absolute kept).output = writtenPath absolute kept := by
  induction kept with
  | nil => cases absolute <;> rfl
  | cons component kept ih =>
    have hrest := ih h.2
    rw [writtenPath_cons h.2, ← hrest]
    rfl

/-! ## The loop is the fold -/

theorem separatorAfter_length (output : PathBytes) :
    (separatorAfter output).length =
      if (output ≠ [] && output.getLast? ≠ some slash : Bool) then 1 else 0 := by
  unfold separatorAfter
  by_cases h : output ≠ [] ∧ output.getLast? ≠ some slash
  · rw [if_pos h, if_pos (by simpa using h)]
    rfl
  · rw [if_neg h, if_neg (by simpa using h)]
    rfl

/-- `append_component` keeps one more component, if the output holds it. -/
theorem appendComponent_keep (h : Canonical absolute kept) (component : PathBytes) :
    appendComponent capacity (rendered absolute kept) component (decide (component = parent)) =
      if (writtenPath absolute (component :: kept)).length < capacity then
        .ok (rendered absolute (component :: kept))
      else .error .pathTooLong := by
  have hlength : (writtenPath absolute (component :: kept)).length =
      (rendered absolute kept).output.length + component.length +
        (separatorAfter (rendered absolute kept).output).length := by
    rw [writtenPath_cons h, ← rendered_output h, List.length_append, List.length_append]
    omega
  have hseparator : (if ((rendered absolute kept).output ≠ [] &&
      (rendered absolute kept).output.getLast? ≠ some slash : Bool) then [slash] else []) =
        separatorAfter (rendered absolute kept).output := by
    unfold separatorAfter
    simp only [Bool.and_eq_true, decide_eq_true_eq]
  unfold appendComponent
  dsimp only
  rw [hseparator, ← separatorAfter_length, hlength]
  by_cases hshort : (rendered absolute kept).output.length + component.length +
      (separatorAfter (rendered absolute kept).output).length < capacity
  · rw [if_pos hshort, if_neg (by omega)]
    rfl
  · rw [if_neg hshort, if_pos (by omega)]

theorem length_writtenPath_tail (h : Canonical absolute kept) (component : PathBytes) :
    (writtenPath absolute kept).length ≤ (writtenPath absolute (component :: kept)).length := by
  rw [writtenPath_cons h, List.append_assoc, List.length_append]
  omega

/-- **One turn of the loop is one step of the fold.** -/
theorem normalizeComponent_keep (h : Canonical absolute kept)
    (hshort : (writtenPath absolute kept).length < capacity) (component : PathBytes) :
    normalizeComponent capacity absolute (rendered absolute kept) component =
      match keepComponent absolute kept component with
      | none => .error .unsafePath
      | some kept' =>
        if (writtenPath absolute kept').length < capacity then .ok (rendered absolute kept')
        else .error .pathTooLong := by
  unfold normalizeComponent keepComponent
  by_cases hskip : component = [] ∨ component = here
  · rw [if_pos hskip, if_pos hskip]
    exact (if_pos hshort).symm
  rw [if_neg hskip, if_neg hskip]
  by_cases hparent : component = parent
  · rw [if_pos hparent]
    have hpush : appendComponent capacity (rendered absolute kept) component
        (decide (component = parent)) = _ := appendComponent_keep h component
    rw [hparent] at hpush ⊢
    cases kept with
    | nil =>
      cases absolute with
      | true => rfl
      | false => exact hpush
    | cons name names =>
      by_cases hname : name = parent
      · rw [hname] at hpush h ⊢
        cases absolute with
        | true => rfl
        | false => exact hpush
      · -- the last name is taken back
        have htail := length_writtenPath_tail h.2 name
        have htake : (rendered absolute (name :: names)).output.take
            (rendered absolute names).output.length = (rendered absolute names).output := by
          show ((rendered absolute names).output ++ separatorAfter (rendered absolute names).output ++
            name).take _ = _
          rw [List.append_assoc, List.take_left]
        simp only [rendered, decide_true, decide_eq_false hname]
        rw [if_pos hname]
        dsimp only
        rw [if_pos (by omega)]
        exact congrArg (fun output => Except.ok (⟨output, _⟩ : Normalizing)) htake
  · rw [if_neg hparent]
    have hpush : appendComponent capacity (rendered absolute kept) component
        (decide (component = parent)) = _ := appendComponent_keep h component
    rw [decide_eq_false hparent] at hpush ⊢
    exact hpush

/-- The whole loop is the whole fold. -/
theorem normalizeAll_specify {components : List PathBytes} (h : Canonical absolute kept)
    (hslash : ∀ component ∈ components, slash ∉ component)
    (hshort : (writtenPath absolute kept).length < capacity) :
    normalizeAll capacity absolute components (rendered absolute kept) =
      (specify capacity absolute kept components).map (rendered absolute) := by
  induction components generalizing kept with
  | nil => rfl
  | cons component components ih =>
    unfold normalizeAll specify
    rw [normalizeComponent_keep h hshort]
    cases hkeep : keepComponent absolute kept component with
    | none => rfl
    | some kept' =>
      dsimp only
      by_cases hshort' : (writtenPath absolute kept').length < capacity
      · rw [if_pos hshort', if_pos hshort']
        exact ih (h.keep (hslash component List.mem_cons_self) hkeep)
          (fun c hc => hslash c (List.mem_cons_of_mem _ hc)) hshort'
      · rw [if_neg hshort', if_neg hshort']
        rfl

theorem Canonical.specify {components : List PathBytes} (h : Canonical absolute kept)
    (hslash : ∀ component ∈ components, slash ∉ component) {kept' : List PathBytes}
    (hspecify : specify capacity absolute kept components = .ok kept') :
    Canonical absolute kept' := by
  induction components generalizing kept with
  | nil =>
    obtain rfl := Except.ok.inj hspecify
    exact h
  | cons component components ih =>
    unfold Frontend.specify at hspecify
    cases hkeep : keepComponent absolute kept component with
    | none =>
      rw [hkeep] at hspecify
      cases hspecify
    | some kept₁ =>
      rw [hkeep] at hspecify
      dsimp only at hspecify
      split at hspecify
      · exact ih (h.keep (hslash component List.mem_cons_self) hkeep)
          (fun c hc => hslash c (List.mem_cons_of_mem _ hc)) hspecify
      · cases hspecify

/-- The fold ends with what fits the output. -/
theorem specify_short {components : List PathBytes} {kept' : List PathBytes}
    (hshort : (writtenPath absolute kept).length < capacity)
    (h : specify capacity absolute kept components = .ok kept') :
    (writtenPath absolute kept').length < capacity := by
  induction components generalizing kept with
  | nil =>
    obtain rfl := Except.ok.inj h
    exact hshort
  | cons component components ih =>
    unfold specify at h
    cases hkeep : keepComponent absolute kept component with
    | none =>
      rw [hkeep] at h
      cases h
    | some kept₁ =>
      rw [hkeep] at h
      dsimp only at h
      split at h
      · exact ih ‹_› h
      · cases h

/-! ## Lengths -/

/-- The bytes of the components, each with a separator. -/
def weight (components : List PathBytes) : Nat :=
  (components.map fun component => component.length + 1).sum

@[simp] theorem weight_nil : weight [] = 0 := rfl

@[simp] theorem weight_cons (component : PathBytes) (components : List PathBytes) :
    weight (component :: components) = component.length + 1 + weight components := by
  simp [weight]

theorem weight_reverse (components : List PathBytes) :
    weight components.reverse = weight components := by
  unfold weight
  rw [List.map_reverse, List.sum_reverse]

theorem length_intercalate {components : List PathBytes} (hne : components ≠ []) :
    ([slash].intercalate components).length + 1 = weight components := by
  induction components with
  | nil => exact absurd rfl hne
  | cons first components ih =>
    cases components with
    | nil => simp
    | cons second components =>
      have hrest := ih (List.cons_ne_nil _ _)
      rw [List.intercalate_cons_cons, weight_cons, ← hrest]
      simp only [List.length_append, List.length_singleton]
      omega

/-- A path weighs its length and one. -/
theorem weight_splitOn (input : PathBytes) : weight (input.splitOn slash) = input.length + 1 := by
  rw [← length_intercalate (List.splitOn_ne_nil slash input), List.intercalate_splitOn]

theorem length_writtenPath (absolute : Bool) {kept : List PathBytes} (hne : kept ≠ []) :
    (writtenPath absolute kept).length + 1 = weight kept + absolute.toNat := by
  have hlength := length_intercalate (List.reverse_ne_nil_iff.mpr hne)
  rw [weight_reverse] at hlength
  unfold writtenPath
  rw [List.length_append]
  cases absolute <;> simp <;> omega

theorem length_writtenPath_nil (absolute : Bool) :
    (writtenPath absolute []).length = absolute.toNat := by
  cases absolute <;> rfl

/-- A component adds at most its own weight to what is kept. -/
theorem weight_keep {component : PathBytes} {kept' : List PathBytes}
    (hkeep : keepComponent absolute kept component = some kept') :
    weight kept' ≤ weight kept + weight [component] := by
  unfold keepComponent at hkeep
  by_cases hskip : component = [] ∨ component = here
  · rw [if_pos hskip] at hkeep
    obtain rfl := Option.some.inj hkeep
    omega
  rw [if_neg hskip] at hkeep
  by_cases hparent : component = parent
  · rw [if_pos hparent] at hkeep
    rw [hparent]
    split at hkeep
    · split at hkeep
      · cases hkeep
      · obtain rfl := Option.some.inj hkeep
        simp
    · split at hkeep
      · obtain rfl := Option.some.inj hkeep
        simp only [weight_cons]
        omega
      · split at hkeep
        · cases hkeep
        · obtain rfl := Option.some.inj hkeep
          simp only [weight_cons, weight_nil]
          omega
  · rw [if_neg hparent] at hkeep
    obtain rfl := Option.some.inj hkeep
    simp only [weight_cons, weight_nil]
    omega

theorem weight_specify {components : List PathBytes} {kept' : List PathBytes}
    (h : specify capacity absolute kept components = .ok kept') :
    weight kept' ≤ weight kept + weight components := by
  induction components generalizing kept with
  | nil =>
    obtain rfl := Except.ok.inj h
    simp
  | cons component components ih =>
    unfold specify at h
    cases hkeep : keepComponent absolute kept component with
    | none =>
      rw [hkeep] at h
      cases h
    | some kept₁ =>
      rw [hkeep] at h
      dsimp only at h
      split at h
      · have hone := weight_keep hkeep
        have hrest := ih h
        simp only [weight_cons, weight_nil] at hone ⊢
        omega
      · cases h

/-- Components that fit the output together never make it too long. -/
theorem specify_ne_tooLong {components : List PathBytes} (hroot : absolute.toNat < capacity)
    (hweight : weight kept + weight components + absolute.toNat ≤ capacity) :
    specify capacity absolute kept components ≠ .error .pathTooLong := by
  induction components generalizing kept with
  | nil => nofun
  | cons component components ih =>
    unfold specify
    cases hkeep : keepComponent absolute kept component with
    | none => nofun
    | some kept' =>
      have hone := weight_keep hkeep
      simp only [weight_cons, weight_nil] at hone hweight
      have hshort : (writtenPath absolute kept').length < capacity := by
        by_cases hne : kept' = []
        · rw [hne, length_writtenPath_nil]
          exact hroot
        · have hlength := length_writtenPath absolute hne
          omega
      dsimp only
      rw [if_pos hshort]
      exact ih (by omega)

/-! ## The whole path -/

/-- The components of an absolute path begin with an empty one. -/
theorem splitOn_absolute {input : PathBytes} (h : input.head? = some slash) :
    ∃ rest, input = slash :: rest ∧ input.splitOn slash = [] :: rest.splitOn slash := by
  match input, h with
  | c :: rest, h =>
    obtain rfl : c = slash := Option.some.inj h
    refine ⟨rest, rfl, ?_⟩
    rw [List.splitOn_cons_eq_if_modifyHead, if_pos (beq_self_eq_true slash)]

theorem specify_skip (components : List PathBytes) :
    specify capacity absolute kept ([] :: components) =
      if (writtenPath absolute kept).length < capacity then specify capacity absolute kept components
      else .error .pathTooLong := rfl

/-- Without room for a byte a relative path is too long. -/
theorem normalizeAll_no_room (components : List PathBytes) :
    normalizeAll 0 false components (rendered false []) = .ok (rendered false []) ∨
      normalizeAll 0 false components (rendered false []) = .error .pathTooLong := by
  induction components with
  | nil => exact Or.inl rfl
  | cons component components ih =>
    unfold normalizeAll
    by_cases hskip : component = [] ∨ component = here
    · rw [show normalizeComponent 0 false (rendered false []) component = .ok (rendered false []) from
        if_pos hskip]
      exact ih
    · have hlong : appendComponent 0 (rendered false []) component (decide (component = parent)) =
          .error .pathTooLong :=
        (appendComponent_keep (canonical_nil false) component).trans (if_neg (Nat.not_lt_zero _))
      have hturn : normalizeComponent 0 false (rendered false []) component =
          .error .pathTooLong := by
        unfold normalizeComponent
        rw [if_neg hskip]
        by_cases hparent : component = parent
        · rw [hparent] at hlong ⊢
          exact hlong
        · rw [decide_eq_false hparent] at hlong ⊢
          exact hlong
      right
      rw [hturn]

/-- The fold begins where there is no room for the root. -/
theorem specify_no_room {input : PathBytes} (hroom : ¬(writtenPath absolute []).length < capacity)
    (habsolute : absolute = decide (input.head? = some slash)) :
    specify capacity absolute [] (input.splitOn slash) = .error .pathTooLong := by
  cases absolute with
  | true =>
    obtain ⟨rest, -, hsplit⟩ := splitOn_absolute (of_decide_eq_true habsolute.symm)
    rw [hsplit, specify_skip, if_neg hroom]
  | false =>
    obtain rfl : capacity = 0 := by
      rw [length_writtenPath_nil] at hroom
      exact Nat.eq_zero_of_not_pos hroom
    cases hsplit : input.splitOn slash with
    | nil => exact absurd hsplit (List.splitOn_ne_nil slash input)
    | cons component components =>
      have hsome : ∃ kept, keepComponent false [] component = some kept := by
        unfold keepComponent
        split
        · exact ⟨_, rfl⟩
        · split
          · exact ⟨_, rfl⟩
          · exact ⟨_, rfl⟩
      obtain ⟨kept, hkept⟩ := hsome
      unfold specify
      rw [hkept]
      exact if_neg (Nat.not_lt_zero _)

/-- **`normalize_path` computes the specified path.** -/
theorem normalizePath_eq_specifiedPath (input : PathBytes) (capacity : Nat) :
    normalizePath true input capacity = specifiedPath capacity input := by
  have hstart (absolute : Bool) :
      (⟨if absolute then [slash] else [], []⟩ : Normalizing) = rendered absolute [] := rfl
  rw [normalizePath_eq]
  unfold specifiedPath
  dsimp only
  rw [if_neg (by decide), hstart]
  generalize habsolute : decide (input.head? = some slash) = absolute
  by_cases hroom : (writtenPath absolute []).length < capacity
  · -- there is room for the root, so the loop is the fold
    have hlow : ¬(absolute = true ∧ capacity < 2) := by
      rintro ⟨rfl, hsmall⟩
      have hone : 1 < capacity := hroom
      omega
    rw [if_neg hlow, normalizeAll_specify (canonical_nil absolute) (fun _ => slash_not_mem_of_mem_splitOn) hroom]
    cases hspecify : specify capacity absolute [] (input.splitOn slash) with
    | error result => rfl
    | ok kept =>
      have hcanonical : Canonical absolute kept :=
        (canonical_nil absolute).specify (fun _ => slash_not_mem_of_mem_splitOn) hspecify
      have houtput := rendered_output hcanonical
      have hshort := specify_short hroom hspecify
      unfold canonicalPath
      simp only [Except.map, houtput]
      by_cases hnone : writtenPath absolute kept = []
      · rw [if_pos hnone, if_pos hnone]
        by_cases hsmall : capacity < 2
        · rw [if_pos hsmall, if_neg (show ¬here.length < capacity by
            show ¬1 < capacity; omega)]
        · rw [if_neg hsmall, if_pos (show here.length < capacity by
            show 1 < capacity; omega)]
      · rw [if_neg hnone, if_neg hnone, if_pos hshort]
  · rw [specify_no_room hroom habsolute.symm]
    cases absolute with
    | true =>
      have hone : ¬1 < capacity := hroom
      rw [if_pos ⟨rfl, by omega⟩]
    | false =>
      obtain rfl : capacity = 0 := Nat.eq_zero_of_not_pos hroom
      rw [if_neg (fun h => Bool.false_ne_true h.1)]
      rcases normalizeAll_no_room (input.splitOn slash) with h | h
      · rw [h]
        rfl
      · rw [h]

/-! ## Above the root -/

/-- Only an absolute path leaves its root, by a parent with nothing left to cancel. -/
theorem keepComponent_eq_none (h : Canonical absolute kept) (component : PathBytes) :
    keepComponent absolute kept component = none ↔
      absolute = true ∧ component = parent ∧ kept = [] := by
  unfold keepComponent
  by_cases hskip : component = [] ∨ component = here
  · rw [if_pos hskip]
    refine iff_of_false nofun ?_
    rintro ⟨-, rfl, -⟩
    exact absurd hskip (by decide)
  rw [if_neg hskip]
  by_cases hparent : component = parent
  · rw [if_pos hparent]
    cases kept with
    | nil => cases absolute <;> simp [hparent]
    | cons name names =>
      by_cases hname : name = parent
      · obtain ⟨rfl, -⟩ := h.1.2.2.2 hname
        simp [hname]
      · simp [hname]
  · rw [if_neg hparent]
    exact iff_of_false nofun fun h => hparent h.2.1

/-- What is kept of the first components fits the output, for as many as stay below the root. -/
def RoomFor (capacity : Nat) (absolute : Bool) (kept components : List PathBytes) : Prop :=
  ∀ first kept', first <+: components → first.foldlM (keepComponent absolute) kept = some kept' →
    (writtenPath absolute kept').length < capacity

theorem roomFor_cons {component : PathBytes} {components kept' : List PathBytes}
    (hshort : (writtenPath absolute kept).length < capacity)
    (hkeep : keepComponent absolute kept component = some kept') :
    RoomFor capacity absolute kept (component :: components) ↔
      RoomFor capacity absolute kept' components := by
  constructor
  · intro h first kept₁ hfirst hfold
    refine h (component :: first) kept₁ ((List.prefix_cons_inj component).mpr hfirst) ?_
    rw [List.foldlM_cons, hkeep]
    exact hfold
  · intro h first kept₁ hfirst hfold
    cases first with
    | nil =>
      obtain rfl := Option.some.inj hfold
      exact hshort
    | cons c first =>
      obtain ⟨rfl, htail⟩ := List.cons_prefix_cons.mp hfirst
      rw [List.foldlM_cons, hkeep] at hfold
      exact h first kept₁ htail hfold

/-- **The fold fails above the root just where it gets there with room to spare.** -/
theorem specify_unsafe_iff {components : List PathBytes} (h : Canonical absolute kept)
    (hslash : ∀ component ∈ components, slash ∉ component)
    (hshort : (writtenPath absolute kept).length < capacity) :
    specify capacity absolute kept components = .error .unsafePath ↔
      absolute = true ∧ ∃ before rest, components = before ++ parent :: rest ∧
        before.foldlM (keepComponent absolute) kept = some [] ∧
        RoomFor capacity absolute kept before := by
  induction components generalizing kept with
  | nil =>
    refine iff_of_false nofun ?_
    rintro ⟨-, before, rest, hnil, -⟩
    exact absurd hnil (by simp)
  | cons component components ih =>
    unfold specify
    cases hkeep : keepComponent absolute kept component with
    | none =>
      obtain ⟨rfl, rfl, rfl⟩ := (keepComponent_eq_none h component).mp hkeep
      refine iff_of_true rfl ⟨rfl, [], components, rfl, rfl, ?_⟩
      intro first kept' hfirst hfold
      obtain rfl := List.prefix_nil.mp hfirst
      obtain rfl := Option.some.inj hfold
      exact hshort
    | some kept' =>
      have hcanonical := h.keep (hslash component List.mem_cons_self) hkeep
      dsimp only
      by_cases hshort' : (writtenPath absolute kept').length < capacity
      · rw [if_pos hshort', ih hcanonical (fun c hc => hslash c (List.mem_cons_of_mem _ hc)) hshort']
        refine and_congr_right fun habsolute => ?_
        constructor
        · rintro ⟨before, rest, rfl, hfold, hroom⟩
          refine ⟨component :: before, rest, rfl, ?_, (roomFor_cons hshort hkeep).mpr hroom⟩
          rw [List.foldlM_cons, hkeep]
          exact hfold
        · rintro ⟨before, rest, heq, hfold, hroom⟩
          cases before with
          | nil =>
            obtain ⟨rfl, rfl⟩ := List.cons.inj heq
            obtain rfl := Option.some.inj hfold
            have hnone := (keepComponent_eq_none h parent).mpr ⟨habsolute, rfl, rfl⟩
            exact absurd (hkeep.symm.trans hnone) nofun
          | cons c before =>
            obtain ⟨rfl, rfl⟩ := List.cons.inj heq
            rw [List.foldlM_cons, hkeep] at hfold
            exact ⟨before, rest, rfl, hfold, (roomFor_cons hshort hkeep).mp hroom⟩
      · rw [if_neg hshort']
        refine iff_of_false nofun ?_
        rintro ⟨habsolute, before, rest, heq, hfold, hroom⟩
        cases before with
        | nil =>
          obtain ⟨rfl, rfl⟩ := List.cons.inj heq
          obtain rfl := Option.some.inj hfold
          have hnone := (keepComponent_eq_none h parent).mpr ⟨habsolute, rfl, rfl⟩
          exact absurd (hkeep.symm.trans hnone) nofun
        | cons c before =>
          obtain ⟨rfl, rfl⟩ := List.cons.inj heq
          refine hshort' (hroom [component] kept' ⟨before, rfl⟩ ?_)
          rw [List.foldlM_cons, hkeep]
          rfl

/-! ## Normalizing again -/

theorem specify_cons (component : PathBytes) (components : List PathBytes) :
    specify capacity absolute kept (component :: components) =
      match keepComponent absolute kept component with
      | none => .error .unsafePath
      | some kept' =>
        if (writtenPath absolute kept').length < capacity then
          specify capacity absolute kept' components
        else .error .pathTooLong := rfl

theorem specify_append (components components' : List PathBytes) :
    specify capacity absolute kept (components ++ components') =
      match specify capacity absolute kept components with
      | .error result => .error result
      | .ok kept' => specify capacity absolute kept' components' := by
  induction components generalizing kept with
  | nil => rfl
  | cons component components ih =>
    rw [List.cons_append, specify_cons, specify_cons]
    cases keepComponent absolute kept component with
    | none => rfl
    | some kept' =>
      dsimp only
      split
      · exact ih
      · rfl

/-- A component of a canonical list is kept. -/
theorem keepComponent_canonical {component : PathBytes}
    (h : Canonical absolute (component :: kept)) :
    keepComponent absolute kept component = some (component :: kept) := by
  obtain ⟨⟨hne, hhere, -, hparent⟩, -⟩ := h
  unfold keepComponent
  rw [if_neg (not_or.mpr ⟨hne, hhere⟩)]
  by_cases hcomponent : component = parent
  · obtain ⟨rfl, hall⟩ := hparent hcomponent
    rw [if_pos hcomponent, hcomponent]
    cases kept with
    | nil => rfl
    | cons name names =>
      have hname := hall name List.mem_cons_self
      simp [hname]
  · rw [if_neg hcomponent]

/-- **A canonical list is kept as it is.** -/
theorem specify_canonical (h : Canonical absolute kept)
    (hshort : (writtenPath absolute kept).length < capacity) :
    specify capacity absolute [] kept.reverse = .ok kept := by
  induction kept with
  | nil => rfl
  | cons component kept ih =>
    have htail := length_writtenPath_tail h.2 component
    rw [List.reverse_cons, specify_append, ih h.2 (by omega)]
    dsimp only
    rw [specify_cons, keepComponent_canonical h]
    exact if_pos hshort

theorem writtenPath_absolute (kept : List PathBytes) :
    (writtenPath true kept).splitOn slash =
      [] :: ([slash].intercalate kept.reverse).splitOn slash := by
  unfold writtenPath
  rw [if_pos rfl, List.singleton_append, List.splitOn_cons_eq_if_modifyHead,
    if_pos (beq_self_eq_true slash)]

/-- A canonical path is specified to be itself. -/
theorem specifiedPath_canonical (h : Canonical absolute kept)
    (hlength : (canonicalPath absolute kept).length < capacity) :
    specifiedPath capacity (canonicalPath absolute kept) = .ok (canonicalPath absolute kept) := by
  cases kept with
  | nil =>
    cases absolute with
    | true =>
      have hroom : (writtenPath true []).length < capacity := hlength
      have hsplit : ([slash] : PathBytes).splitOn slash = [[], []] := by decide
      show specifiedPath capacity [slash] = .ok [slash]
      unfold specifiedPath
      simp only [List.head?_cons, decide_true, hsplit, specify_skip, if_pos hroom]
      exact if_pos hlength
    | false =>
      have hroom : (writtenPath false []).length < capacity := Nat.lt_of_succ_lt hlength
      have hsplit : here.splitOn slash = [here] := by decide
      have hrelative : decide (here.head? = some slash) = false := by decide
      show specifiedPath capacity here = .ok here
      unfold specifiedPath
      simp only [hrelative, hsplit]
      rw [show specify capacity false [] [here] = .ok [] from if_pos hroom]
      exact if_pos hlength
  | cons component kept =>
    have hwritten : writtenPath absolute (component :: kept) ≠ [] := by
      intro hempty
      have hnone := getLast?_writtenPath h
      rw [hempty, List.getLast?_nil] at hnone
      exact h.1.1 (List.getLast?_eq_none_iff.mp hnone.symm)
    have hcanonical : canonicalPath absolute (component :: kept) =
        writtenPath absolute (component :: kept) := if_neg hwritten
    have habsolute : decide ((writtenPath absolute (component :: kept)).head? = some slash) =
        absolute := by
      have hhead := rendered_head absolute h.component
      rw [rendered_output h] at hhead
      cases absolute with
      | true => exact decide_eq_true (hhead.mpr rfl)
      | false => exact decide_eq_false fun hslash => Bool.false_ne_true (hhead.mp hslash)
    have hsplit : ([slash].intercalate (component :: kept).reverse).splitOn slash =
        (component :: kept).reverse := by
      refine List.splitOn_intercalate slash (fun other hmem => ?_) (by simp)
      exact (h.component other (List.mem_reverse.mp hmem)).2
    have hspecify : specify capacity absolute []
        ((writtenPath absolute (component :: kept)).splitOn slash) = .ok (component :: kept) := by
      rw [hcanonical] at hlength
      cases absolute with
      | true =>
        have hroom : (writtenPath true []).length < capacity := by
          have hone := length_writtenPath true (List.cons_ne_nil component kept)
          rw [length_writtenPath_nil, weight_cons] at *
          omega
        rw [writtenPath_absolute, hsplit, specify_skip, if_pos hroom]
        exact specify_canonical h hlength
      | false =>
        have hsame : writtenPath false (component :: kept) =
            [slash].intercalate (component :: kept).reverse := rfl
        rw [hsame, hsplit]
        exact specify_canonical h hlength
    rw [hcanonical] at hlength ⊢
    unfold specifiedPath
    dsimp only
    rw [habsolute, hspecify]
    dsimp only
    rw [hcanonical, if_pos hlength]

/-! ## The arrays

`restore_lengths` and `is_parent` as `normalize_path` allocates them, with what they happen to hold.
A read or a write outside is `none`. -/

structure Scratch where
  output : PathBytes
  restoreLengths : List Nat
  isParent : List Bool
  componentCount : Nat

/-- `append_component` and the flag its caller stores, on the arrays. -/
def appendComponentAt (capacity : Nat) (s : Scratch) (component : PathBytes)
    (parentComponent : Bool) : Option (Except PlaylistResult Scratch) :=
  let needsSeparator : Bool := s.output ≠ [] && s.output.getLast? ≠ some slash
  let required := s.output.length + component.length + 1 + (if needsSeparator then 1 else 0)
  if capacity < required then some (.error .pathTooLong)
  else if s.componentCount < s.restoreLengths.length ∧ s.componentCount < s.isParent.length then
    some (.ok
      { output := s.output ++ (if needsSeparator then [slash] else []) ++ component
        restoreLengths := s.restoreLengths.set s.componentCount s.output.length
        isParent := s.isParent.set s.componentCount parentComponent
        componentCount := s.componentCount + 1 })
  else none

/-- One turn of the loop, on the arrays. -/
def normalizeComponentAt (capacity : Nat) (absolute : Bool) (s : Scratch) (component : PathBytes) :
    Option (Except PlaylistResult Scratch) :=
  if component = [] ∨ component = here then some (.ok s)
  else do
    let parentComponent : Bool := component = parent
    let cancels ← if parentComponent && s.componentCount ≠ 0 then
        (s.isParent[s.componentCount - 1]?).map (!·)
      else some false
    if cancels then
      let restoreLength ← s.restoreLengths[s.componentCount - 1]?
      some (.ok { s with
        output := s.output.take restoreLength, componentCount := s.componentCount - 1 })
    else if parentComponent && absolute then some (.error .unsafePath)
    else appendComponentAt capacity s component parentComponent

/-- The loop, on the arrays. -/
def normalizeAt (capacity : Nat) (absolute : Bool) :
    List PathBytes → Scratch → Option (Except PlaylistResult Scratch)
  | [], s => some (.ok s)
  | component :: components, s =>
    match normalizeComponentAt capacity absolute s component with
    | none => none
    | some (.error result) => some (.error result)
    | some (.ok s) => normalizeAt capacity absolute components s

/-- The arrays hold the components, the last one at the highest index. -/
structure Scratch.Holds (s : Scratch) (n : Normalizing) : Prop where
  output : s.output = n.output
  count : s.componentCount = n.components.length
  restoreLengths : s.restoreLengths.take s.componentCount = n.components.reverse.map Prod.fst
  isParent : s.isParent.take s.componentCount = n.components.reverse.map Prod.snd

theorem take_set_self {α : Type} {l : List α} {i : Nat} (h : i < l.length) (a : α) :
    (l.set i a).take (i + 1) = l.take i ++ [a] := by
  have hset : i < (l.set i a).length := by rwa [List.length_set]
  rw [List.take_succ_eq_append_getElem hset, List.take_set_of_le (Nat.le_refl i),
    List.getElem_set_self]

/-- The last entry in use, and those before it. -/
theorem last_of_take {α : Type} {l front : List α} {n : Nat} {a : α}
    (h : l.take n = front ++ [a]) (hn : n = front.length + 1) :
    l[n - 1]? = some a ∧ l.take (n - 1) = front := by
  have hpred : n - 1 = front.length := by omega
  constructor
  · have hget : (l.take n)[n - 1]? = some a := by
      rw [h, hpred]
      simp
    rwa [List.getElem?_take, if_pos (by omega)] at hget
  · have htake : l.take (n - 1) = (l.take n).take (n - 1) := by
      rw [List.take_take, Nat.min_eq_left (Nat.sub_le n 1)]
    rw [htake, h, hpred, List.take_left]

/-- What a turn on the arrays comes to, for what a turn of the loop does. -/
def SameTurn (s : Scratch) (n : Normalizing) (turn : Option (Except PlaylistResult Scratch)) :
    Except PlaylistResult Normalizing → Prop
  | .error result => turn = some (.error result)
  | .ok n' => ∃ s' : Scratch, turn = some (.ok s') ∧ s'.Holds n' ∧
      s'.restoreLengths.length = s.restoreLengths.length ∧
      s'.isParent.length = s.isParent.length ∧ n'.components.length ≤ n.components.length + 1

variable {s : Scratch} {n : Normalizing}

theorem appendComponentAt_eq (h : s.Holds n)
    (hrestore : n.components.length < s.restoreLengths.length)
    (hparent : n.components.length < s.isParent.length) (component : PathBytes)
    (parentComponent : Bool) :
    SameTurn s n (appendComponentAt capacity s component parentComponent)
      (appendComponent capacity n component parentComponent) := by
  obtain ⟨houtput, hcount, hlengths, hflags⟩ := h
  unfold appendComponentAt appendComponent
  dsimp only
  rw [houtput]
  by_cases hlong : capacity < n.output.length + component.length + 1 +
      if (n.output ≠ [] && n.output.getLast? ≠ some slash : Bool) then 1 else 0
  · rw [if_pos hlong, if_pos hlong]
    rfl
  · rw [if_neg hlong, if_neg hlong, if_pos (by omega)]
    refine ⟨_, rfl, ⟨rfl, ?_, ?_, ?_⟩, List.length_set, List.length_set, Nat.le_refl _⟩
    · rw [hcount]
      rfl
    · rw [take_set_self (by omega), hlengths, List.reverse_cons, List.map_append]
      rfl
    · rw [take_set_self (by omega), hflags, List.reverse_cons, List.map_append]
      rfl

/-- **One turn on the arrays is one turn of the loop**, as long as an entry is free. -/
theorem normalizeComponentAt_eq (h : s.Holds n)
    (hrestore : n.components.length < s.restoreLengths.length)
    (hparent : n.components.length < s.isParent.length) (component : PathBytes) :
    SameTurn s n (normalizeComponentAt capacity absolute s component)
      (normalizeComponent capacity absolute n component) := by
  have hpush (parentComponent : Bool) :
      SameTurn s n (appendComponentAt capacity s component parentComponent)
        (appendComponent capacity n component parentComponent) :=
    appendComponentAt_eq h hrestore hparent component parentComponent
  unfold normalizeComponentAt normalizeComponent
  by_cases hskip : component = [] ∨ component = here
  · rw [if_pos hskip, if_pos hskip]
    exact ⟨s, rfl, h, rfl, rfl, Nat.le_succ _⟩
  rw [if_neg hskip, if_neg hskip]
  by_cases hcomponent : component = parent
  · simp only [hcomponent, decide_true, Bool.true_and]
    rw [hcomponent] at hpush
    obtain ⟨houtput, hcount, hlengths, hflags⟩ := h
    obtain ⟨output, components⟩ := n
    cases components with
    | nil =>
      rw [hcount]
      cases absolute with
      | true => rfl
      | false => exact hpush true
    | cons entry components =>
      obtain ⟨restoreLength, flag⟩ := entry
      rw [List.reverse_cons, List.map_append] at hlengths hflags
      obtain ⟨hlength, hlengths'⟩ := last_of_take hlengths (by
        rw [hcount, List.length_map, List.length_reverse, List.length_cons])
      obtain ⟨hflag, hflags'⟩ := last_of_take hflags (by
        rw [hcount, List.length_map, List.length_reverse, List.length_cons])
      have hne : s.componentCount ≠ 0 := by
        rw [hcount]
        exact Nat.succ_ne_zero _
      simp only [ne_eq, hne, not_false_eq_true, decide_true, if_true, hflag, hlength,
        Option.map_some]
      cases flag with
      | true =>
        cases absolute with
        | true => rfl
        | false => exact hpush true
      | false =>
        refine ⟨_, rfl, ⟨?_, ?_, hlengths', hflags'⟩, rfl, rfl, ?_⟩
        · rw [houtput]
        · dsimp only
          rw [hcount, List.length_cons, Nat.add_sub_cancel]
        · exact Nat.le_succ_of_le (Nat.le_succ _)
  · simp only [hcomponent, decide_false, Bool.false_and]
    exact hpush false

/-- **The loop never leaves its arrays**, if they have an entry for every component. -/
theorem normalizeAt_eq {components : List PathBytes} (h : s.Holds n)
    (hrestore : n.components.length + components.length ≤ s.restoreLengths.length)
    (hparent : n.components.length + components.length ≤ s.isParent.length) :
    ∃ result, normalizeAt capacity absolute components s = some result ∧
      result.map Scratch.output =
        (normalizeAll capacity absolute components n).map Normalizing.output := by
  induction components generalizing s n with
  | nil => exact ⟨.ok s, rfl, congrArg Except.ok h.output⟩
  | cons component components ih =>
    rw [List.length_cons] at hrestore hparent
    have hturn : SameTurn s n (normalizeComponentAt capacity absolute s component)
        (normalizeComponent capacity absolute n component) :=
      normalizeComponentAt_eq h (by omega) (by omega) component
    unfold normalizeAt normalizeAll
    cases hcomponent : normalizeComponent capacity absolute n component with
    | error result =>
      rw [hcomponent] at hturn
      rw [show normalizeComponentAt capacity absolute s component = some (.error result) from hturn]
      exact ⟨.error result, rfl, rfl⟩
    | ok n' =>
      rw [hcomponent] at hturn
      obtain ⟨s', hs', hholds, hrestore', hparent', hcount⟩ := hturn
      rw [hs']
      exact ih hholds (by omega) (by omega)

theorem length_le_weight (components : List PathBytes) :
    components.length ≤ weight components := by
  induction components with
  | nil => exact Nat.le_refl _
  | cons component components ih =>
    rw [List.length_cons, weight_cons]
    omega

/-- `normalize_path` with its two arrays, as the allocator returned them. -/
def normalizePathAt (restoreLengths : List Nat) (isParent : List Bool) (input : PathBytes)
    (capacity : Nat) : Option (Except PlaylistResult PathBytes) :=
  let absolute : Bool := input.head? = some slash
  if absolute = true ∧ capacity < 2 then some (.error .pathTooLong)
  else do
    let result ← normalizeAt capacity absolute (input.splitOn slash)
      ⟨if absolute then [slash] else [], restoreLengths, isParent, 0⟩
    match result with
    | .error result => some (.error result)
    | .ok s =>
      if s.output = [] then
        if capacity < 2 then some (.error .pathTooLong) else some (.ok here)
      else some (.ok s.output)

/-- **Arrays of one entry per byte and one more are never left**, and what they held does not
matter. -/
theorem normalizePathAt_eq {restoreLengths : List Nat} {isParent : List Bool} (input : PathBytes)
    (capacity : Nat) (hrestore : restoreLengths.length = input.length + 1)
    (hparent : isParent.length = input.length + 1) :
    normalizePathAt restoreLengths isParent input capacity =
      some (normalizePath true input capacity) := by
  have hcount : (input.splitOn slash).length ≤ input.length + 1 := by
    rw [← weight_splitOn]
    exact length_le_weight _
  rw [normalizePath_eq]
  unfold normalizePathAt
  dsimp only
  generalize decide (input.head? = some slash) = absolute
  rw [if_neg (show ¬(true = false) by decide)]
  by_cases hsmall : absolute = true ∧ capacity < 2
  · rw [if_pos hsmall, if_pos hsmall]
  rw [if_neg hsmall, if_neg hsmall]
  have hholds : Scratch.Holds ⟨if absolute then [slash] else [], restoreLengths, isParent, 0⟩
      ⟨if absolute then [slash] else [], []⟩ := ⟨rfl, rfl, rfl, rfl⟩
  obtain ⟨result, hresult, hsame⟩ : ∃ result, normalizeAt capacity absolute (input.splitOn slash)
      ⟨if absolute then [slash] else [], restoreLengths, isParent, 0⟩ = some result ∧
        result.map Scratch.output = (normalizeAll capacity absolute (input.splitOn slash)
          ⟨if absolute then [slash] else [], []⟩).map Normalizing.output :=
    normalizeAt_eq hholds (by simpa using hrestore ▸ hcount) (by simpa using hparent ▸ hcount)
  rw [hresult]
  cases hall : normalizeAll capacity absolute (input.splitOn slash)
      ⟨if absolute then [slash] else [], []⟩ with
  | error failure =>
    rw [hall] at hsame
    cases result with
    | error failure' =>
      obtain rfl := Except.error.inj hsame
      rfl
    | ok s => cases hsame
  | ok n =>
    rw [hall] at hsame
    cases result with
    | error failure' => cases hsame
    | ok s =>
      have houtput : s.output = n.output := Except.ok.inj hsame
      simp only [Option.bind_eq_bind, Option.bind_some, houtput]
      split
      · split <;> rfl
      · rfl

/-! ## The headline -/

/-- What is specified is the path of a canonical list. -/
theorem specifiedPath_ok {input output : PathBytes} (h : specifiedPath capacity input = .ok output) :
    ∃ kept, Canonical (decide (input.head? = some slash)) kept ∧
      output = canonicalPath (decide (input.head? = some slash)) kept ∧ output.length < capacity ∧
      specify capacity (decide (input.head? = some slash)) [] (input.splitOn slash) = .ok kept := by
  unfold specifiedPath at h
  dsimp only at h
  cases hspecify : specify capacity (decide (input.head? = some slash)) []
      (input.splitOn slash) with
  | error result =>
    rw [hspecify] at h
    cases h
  | ok kept =>
    rw [hspecify] at h
    dsimp only at h
    split at h
    · obtain rfl := Except.ok.inj h
      exact ⟨kept, (canonical_nil _).specify (fun _ => slash_not_mem_of_mem_splitOn) hspecify, rfl,
        ‹_›, rfl⟩
    · cases h

/-- The components of a path, without the separator of the root. -/
theorem weight_specify_path {input : PathBytes} {kept : List PathBytes}
    (h : specify capacity (decide (input.head? = some slash)) [] (input.splitOn slash) = .ok kept) :
    weight kept + (decide (input.head? = some slash)).toNat ≤ input.length + 1 := by
  by_cases habsolute : input.head? = some slash
  · obtain ⟨rest, rfl, hsplit⟩ := splitOn_absolute habsolute
    rw [hsplit, specify_skip] at h
    split at h
    · have hweight := weight_specify h
      rw [weight_splitOn, weight_nil] at hweight
      rw [decide_eq_true habsolute, List.length_cons, Bool.toNat_true]
      omega
    · cases h
  · have hweight := weight_specify h
    rw [weight_splitOn, weight_nil] at hweight
    rw [decide_eq_false habsolute, Bool.toNat_false]
    omega

/-- The output is no longer than the input, or one byte. -/
theorem length_specifiedPath {input output : PathBytes}
    (h : specifiedPath capacity input = .ok output) : output.length ≤ max 1 input.length := by
  obtain ⟨kept, -, rfl, -, hspecify⟩ := specifiedPath_ok h
  have hweight := weight_specify_path hspecify
  unfold canonicalPath
  split
  · exact Nat.le_max_left 1 _
  · by_cases hne : kept = []
    · rw [hne, length_writtenPath_nil]
      exact Nat.le_trans (Bool.toNat_le _) (Nat.le_max_left 1 _)
    · have hlength := length_writtenPath (decide (input.head? = some slash)) hne
      omega

/-- An input shorter than the output's room is never too long. -/
theorem specifiedPath_ne_tooLong {input : PathBytes} (hne : input ≠ [])
    (hlength : input.length < capacity) : specifiedPath capacity input ≠ .error .pathTooLong := by
  have hpositive := List.length_pos_iff.mpr hne
  have hspecify : specify capacity (decide (input.head? = some slash)) [] (input.splitOn slash) ≠
      .error .pathTooLong := by
    by_cases habsolute : input.head? = some slash
    · obtain ⟨rest, rfl, hsplit⟩ := splitOn_absolute habsolute
      rw [List.length_cons] at hlength
      rw [hsplit, specify_skip, decide_eq_true habsolute, if_pos (by
        rw [length_writtenPath_nil, Bool.toNat_true]
        omega)]
      refine specify_ne_tooLong (by rw [Bool.toNat_true]; omega) ?_
      rw [weight_splitOn, weight_nil, Bool.toNat_true]
      omega
    · rw [decide_eq_false habsolute]
      refine specify_ne_tooLong (by rw [Bool.toNat_false]; omega) ?_
      rw [weight_splitOn, weight_nil, Bool.toNat_false]
      omega
  intro hlong
  cases hresult : specify capacity (decide (input.head? = some slash)) []
      (input.splitOn slash) with
  | error result =>
    unfold specifiedPath at hlong
    simp only [hresult] at hlong
    obtain rfl := Except.error.inj hlong
    exact hspecify hresult
  | ok kept =>
    have hweight := weight_specify_path hresult
    have hshort : (canonicalPath (decide (input.head? = some slash)) kept).length < capacity := by
      unfold canonicalPath
      split
      · show 1 < capacity
        omega
      · by_cases hkept : kept = []
        · rw [hkept, length_writtenPath_nil]
          have hone := Bool.toNat_le (decide (input.head? = some slash))
          omega
        · have hwritten := length_writtenPath (decide (input.head? = some slash)) hkept
          omega
    unfold specifiedPath at hlong
    simp only [hresult, if_pos hshort] at hlong
    cases hlong

/-- A parent above the root, before the output is too short. -/
def LeavesRoot (capacity : Nat) (input : PathBytes) : Prop :=
  input.head? = some slash ∧ ∃ before rest, input.splitOn slash = before ++ parent :: rest ∧
    keptComponents true before = some [] ∧ RoomFor capacity true [] before

theorem specifiedPath_unsafe_iff (capacity : Nat) (input : PathBytes) :
    specifiedPath capacity input = .error .unsafePath ↔ LeavesRoot capacity input := by
  have hspecified : specifiedPath capacity input = .error .unsafePath ↔
      specify capacity (decide (input.head? = some slash)) [] (input.splitOn slash) =
        .error .unsafePath := by
    unfold specifiedPath
    dsimp only
    cases specify capacity (decide (input.head? = some slash)) [] (input.splitOn slash) with
    | error result => simp
    | ok kept =>
      refine iff_of_false ?_ nofun
      dsimp only
      split <;> nofun
  rw [hspecified]
  by_cases hroom : (writtenPath (decide (input.head? = some slash)) []).length < capacity
  · rw [specify_unsafe_iff (canonical_nil _) (fun _ => slash_not_mem_of_mem_splitOn) hroom,
      decide_eq_true_iff]
    unfold LeavesRoot
    refine and_congr_right fun habsolute => ?_
    rw [decide_eq_true habsolute]
    rfl
  · rw [specify_no_room hroom rfl]
    refine iff_of_false nofun ?_
    rintro ⟨habsolute, before, rest, -, -, hall⟩
    rw [decide_eq_true habsolute] at hroom
    exact hroom (hall [] [] (List.nil_prefix) rfl)

/-- **Path normalization equals its specification**: the fold over the components; `UNSAFE_PATH`
just for a parent above the root before the output is too short; a normalized path is left as it
is; no output is longer than the input, or one byte; an input shorter than the output's room is
never too long; and the two arrays are never left. -/
theorem normalizePath_spec (input : PathBytes) (hne : input ≠ []) (capacity : Nat) :
    normalizePath true input capacity = specifiedPath capacity input ∧
    (normalizePath true input capacity = .error .unsafePath ↔ LeavesRoot capacity input) ∧
    (∀ output, normalizePath true input capacity = .ok output →
      normalizePath true output capacity = .ok output ∧ output.length ≤ max 1 input.length) ∧
    (input.length < capacity → normalizePath true input capacity ≠ .error .pathTooLong) ∧
    (∀ (restoreLengths : List Nat) (isParent : List Bool),
      restoreLengths.length = input.length + 1 → isParent.length = input.length + 1 →
        normalizePathAt restoreLengths isParent input capacity =
          some (normalizePath true input capacity)) := by
  refine ⟨normalizePath_eq_specifiedPath input capacity, ?_, ?_, ?_, ?_⟩
  · rw [normalizePath_eq_specifiedPath]
    exact specifiedPath_unsafe_iff capacity input
  · intro output houtput
    rw [normalizePath_eq_specifiedPath] at houtput ⊢
    obtain ⟨kept, hcanonical, rfl, hlength, -⟩ := specifiedPath_ok houtput
    exact ⟨specifiedPath_canonical hcanonical hlength, length_specifiedPath houtput⟩
  · intro hlength
    rw [normalizePath_eq_specifiedPath]
    exact specifiedPath_ne_tooLong hne hlength
  · intro restoreLengths isParent hrestore hparent
    exact normalizePathAt_eq input capacity hrestore hparent

/-- `/a/../..` steps above the root. -/
theorem normalizePath_spec_above_root :
    [slash, 97, slash, 46, 46, slash, 46, 46] ≠ ([] : PathBytes) ∧
      normalizePath true [slash, 97, slash, 46, 46, slash, 46, 46] 16 = .error .unsafePath ∧
      LeavesRoot 16 [slash, 97, slash, 46, 46, slash, 46, 46] := by
  have hspec := normalizePath_spec [slash, 97, slash, 46, 46, slash, 46, 46] (by decide) 16
  have hunsafe : normalizePath true [slash, 97, slash, 46, 46, slash, 46, 46] 16 =
      .error .unsafePath := hspec.1.trans (by decide)
  exact ⟨by decide, hunsafe, hspec.2.1.mp hunsafe⟩

end DualBoy.Frontend
