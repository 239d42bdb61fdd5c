import DualBoy.Frontend.Playlist
import DualBoy.Lib.Trail

/-!
# Normalized paths

What `normalize_path` computes: the components of its input are moves, and the output is the trail
they come to. Its buffer, restore lengths and parent flags are `rendered`, a function of the names
on that trail.

* `normalizeLoop_eq`: the loop takes the components one by one.
* `normalizeComponent_rendered`: one component is one move.
* **`normalizePath_eq_ok`**: the output is the trail of the input, written out.
-/

namespace DualBoy.Frontend

open DualBoy.Lib

/-! ## Components -/

/-- The move a component is. -/
def moveOf (component : PathBytes) : Move PathBytes :=
  if component = [] ∨ component = here then .stay
  else if component = parent then .up
  else .enter component

/-- The moves of a path. -/
def pathMoves (path : PathBytes) : List (Move PathBytes) :=
  (path.splitOn slash).map moveOf

/-- The loop of `normalize_path`, given the components. -/
def normalizeAll (capacity : Nat) (absolute : Bool) :
    List PathBytes → Normalizing → Except PlaylistResult Normalizing
  | [], s => .ok s
  | component :: components, s =>
    match normalizeComponent capacity absolute s component with
    | .error result => .error result
    | .ok s => normalizeAll capacity absolute components s

variable {capacity : Nat} {absolute : Bool}

/-- Empty components do nothing. -/
theorem normalizeAll_nil_cons (components : List PathBytes) (s : Normalizing) :
    normalizeAll capacity absolute ([] :: components) s =
      normalizeAll capacity absolute components s := rfl

theorem normalizeAll_skip (path : PathBytes) (s : Normalizing) :
    normalizeAll capacity absolute ((path.dropWhile (· = slash)).splitOn slash) s =
      normalizeAll capacity absolute (path.splitOn slash) s := by
  induction path with
  | nil => rfl
  | cons c cs ih =>
    by_cases hc : c = slash
    · have hdrop : (c :: cs).dropWhile (· = slash) = cs.dropWhile (· = slash) :=
        List.dropWhile_cons_of_pos (decide_eq_true hc)
      rw [hdrop, ih, hc, List.splitOn_cons_eq_if_modifyHead, if_pos (beq_self_eq_true slash),
        normalizeAll_nil_cons]
    · have hdrop : (c :: cs).dropWhile (· = slash) = c :: cs :=
        List.dropWhile_cons_of_neg (by simpa using hc)
      rw [hdrop]

/-- The first component of a path, and the rest. -/
theorem normalizeAll_take (path : PathBytes) (s : Normalizing) :
    normalizeAll capacity absolute (path.splitOn slash) s =
      match normalizeComponent capacity absolute s (path.takeWhile (· ≠ slash)) with
      | .error result => .error result
      | .ok s => normalizeAll capacity absolute ((path.dropWhile (· ≠ slash)).splitOn slash) s := by
  have hpath : path = path.takeWhile (· ≠ slash) ++ path.dropWhile (· ≠ slash) :=
    List.takeWhile_append_dropWhile.symm
  have hname : slash ∉ path.takeWhile (· ≠ slash) := by
    intro hmem
    have hne := List.all_eq_true.mp List.all_takeWhile slash hmem
    exact absurd rfl (of_decide_eq_true hne)
  cases hrest : path.dropWhile (· ≠ slash) with
  | nil =>
    rw [hrest, List.append_nil] at hpath
    rw [← hpath] at hname ⊢
    rw [List.splitOn_eq_singleton hname]
    rfl
  | cons c rest =>
    have hc : c = slash := by
      have hhead := List.head?_dropWhile_not (fun c : Byte => decide (c ≠ slash)) path
      rw [hrest] at hhead
      exact not_not.mp (of_decide_eq_false hhead)
    rw [hrest, hc] at hpath
    have hsplit : path.splitOn slash = path.takeWhile (· ≠ slash) :: rest.splitOn slash := by
      conv_lhs => rw [hpath]
      exact List.splitOn_append_cons_self_of_not_mem hname rest
    rw [hsplit, hc, List.splitOn_cons_eq_if_modifyHead, if_pos (beq_self_eq_true slash)]
    rfl

/-- **The loop takes the components one by one.** -/
theorem normalizeLoop_eq (s : Normalizing) (rest : PathBytes) :
    normalizeLoop capacity absolute s rest =
      normalizeAll capacity absolute (rest.splitOn slash) s := by
  fun_induction normalizeLoop capacity absolute s rest with
  | case1 s => rfl
  | case2 s c cs start result hfailed =>
    rw [← normalizeAll_skip, normalizeAll_take, hfailed]
  | case3 s c cs start s' hcomponent ih =>
    rw [← normalizeAll_skip, normalizeAll_take, hcomponent]
    exact ih

/-- `normalize_path`, over the components of its input. -/
theorem normalizePath_eq (memory : Bool) (input : PathBytes) (capacity : Nat) :
    normalizePath memory input capacity =
      let absolute : Bool := input.head? = some slash
      if memory = false then .error .ioError
      else if absolute = true ∧ capacity < 2 then .error .pathTooLong
      else
        match normalizeAll capacity absolute (input.splitOn slash)
          ⟨if absolute then [slash] else [], []⟩ with
        | .error result => .error result
        | .ok s =>
          if s.output = [] then if capacity < 2 then .error .pathTooLong else .ok here
          else .ok s.output := by
  dsimp only
  rw [← normalizeLoop_eq]
  rfl

/-! ## Trails, written out -/

/-- The separator that a component needs behind the output. -/
def separatorAfter (output : PathBytes) : PathBytes :=
  if output ≠ [] ∧ output.getLast? ≠ some slash then [slash] else []

/-- The buffer and the two arrays, for the names written so far, the last one first. -/
def rendered (absolute : Bool) : List PathBytes → Normalizing
  | [] => ⟨if absolute then [slash] else [], []⟩
  | name :: names =>
    let s := rendered absolute names
    { output := s.output ++ separatorAfter s.output ++ name
      components := (s.output.length, decide (name = parent)) :: s.components }

/-- The names of a trail as a path has them. -/
def trailNames (t : Trail PathBytes) : List PathBytes :=
  t.names ++ List.replicate t.climbs parent

/-- A component that is the name of a file or a directory. -/
structure IsName (name : PathBytes) : Prop where
  ne_nil : name ≠ []
  ne_here : name ≠ here
  ne_parent : name ≠ parent
  no_slash : slash ∉ name

theorem moveOf_name {name : PathBytes} (h : IsName name) : moveOf name = .enter name := by
  unfold moveOf
  rw [if_neg (not_or.mpr ⟨h.ne_nil, h.ne_here⟩), if_neg h.ne_parent]

theorem appendComponent_rendered {names : List PathBytes} {component : PathBytes}
    {s : Normalizing}
    (h : appendComponent capacity (rendered absolute names) component
      (decide (component = parent)) = .ok s) :
    s = rendered absolute (component :: names) ∧ s.output.length < capacity := by
  have hseparator : (if ((rendered absolute names).output ≠ [] &&
      (rendered absolute names).output.getLast? ≠ some slash : Bool) then [slash] else []) =
        separatorAfter (rendered absolute names).output := by
    unfold separatorAfter
    simp only [Bool.and_eq_true, decide_eq_true_eq]
  have hlength : (separatorAfter (rendered absolute names).output).length =
      if ((rendered absolute names).output ≠ [] &&
        (rendered absolute names).output.getLast? ≠ some slash : Bool) then 1 else 0 := by
    rw [← hseparator]
    split <;> rfl
  unfold appendComponent at h
  dsimp only at h
  rw [hseparator, ← hlength] at h
  by_cases hlong : capacity < (rendered absolute names).output.length + component.length + 1 +
      (separatorAfter (rendered absolute names).output).length
  · rw [if_pos hlong] at h
    cases h
  · rw [if_neg hlong] at h
    obtain rfl := Except.ok.inj h
    refine ⟨rfl, ?_⟩
    simp only [List.length_append]
    omega

/-- **One component is one move.** -/
theorem normalizeComponent_rendered {t : Trail PathBytes} {component : PathBytes}
    {s : Normalizing} (hnames : ∀ name ∈ t.names, IsName name) (hslash : slash ∉ component)
    (hlength : (rendered absolute (trailNames t)).output.length < capacity)
    (h : normalizeComponent capacity absolute (rendered absolute (trailNames t)) component =
      .ok s) :
    s = rendered absolute (trailNames (t.move (moveOf component))) ∧
      s.output.length < capacity ∧ ∀ name ∈ (t.move (moveOf component)).names, IsName name := by
  unfold normalizeComponent at h
  unfold moveOf
  by_cases hstay : component = [] ∨ component = here
  · rw [if_pos hstay] at h ⊢
    obtain rfl := Except.ok.inj h
    exact ⟨rfl, hlength, hnames⟩
  rw [if_neg hstay] at h ⊢
  by_cases hparent : component = parent
  · rw [if_pos hparent]
    obtain ⟨climbs, names⟩ := t
    cases names with
    | nil =>
      -- nothing to cancel: the output begins with one more parent
      have hpush : appendComponent capacity (rendered absolute (List.replicate climbs parent))
          component (decide (component = parent)) = .ok s := by
        cases climbs with
        | zero =>
          simp only [trailNames, rendered, hparent, List.replicate_zero, List.nil_append,
            decide_true, Bool.true_and] at h ⊢
          cases absolute with
          | true => cases h
          | false => exact h
        | succ climbs =>
          simp only [trailNames, rendered, hparent, List.replicate_succ, List.nil_append,
            decide_true, Bool.true_and] at h ⊢
          cases absolute with
          | true => cases h
          | false => exact h
      obtain ⟨hs, hshort⟩ := appendComponent_rendered hpush
      rw [hparent] at hs
      exact ⟨hs, hshort, hnames⟩
    | cons name names =>
      have hname := hnames name List.mem_cons_self
      simp only [trailNames, rendered, List.cons_append, hparent, decide_true,
        decide_eq_false hname.ne_parent] at h hlength
      obtain rfl := Except.ok.inj h
      rw [List.append_assoc, List.take_left]
      refine ⟨rfl, ?_, fun name' hmem => hnames name' (List.mem_cons_of_mem _ hmem)⟩
      simp only [List.length_append] at hlength
      dsimp only
      omega
  · rw [if_neg hparent]
    have hpush : appendComponent capacity (rendered absolute (trailNames t)) component
        (decide (component = parent)) = .ok s := by
      rw [decide_eq_false hparent] at h ⊢
      exact h
    obtain ⟨rfl, hshort⟩ := appendComponent_rendered hpush
    refine ⟨rfl, hshort, fun name hmem => ?_⟩
    rcases List.mem_cons.mp hmem with rfl | hmem
    · rw [not_or] at hstay
      exact ⟨hstay.1, hstay.2, hparent, hslash⟩
    · exact hnames name hmem

theorem normalizeAll_rendered {components : List PathBytes} {t : Trail PathBytes}
    {s : Normalizing} (hnames : ∀ name ∈ t.names, IsName name)
    (hslash : ∀ component ∈ components, slash ∉ component)
    (hlength : (rendered absolute (trailNames t)).output.length < capacity)
    (h : normalizeAll capacity absolute components (rendered absolute (trailNames t)) = .ok s) :
    s = rendered absolute (trailNames (t.walk (components.map moveOf))) ∧
      s.output.length < capacity ∧
      ∀ name ∈ (t.walk (components.map moveOf)).names, IsName name := by
  induction components generalizing t with
  | nil =>
    obtain rfl := Except.ok.inj h
    exact ⟨rfl, hlength, hnames⟩
  | cons component components ih =>
    unfold normalizeAll at h
    cases hone : normalizeComponent capacity absolute (rendered absolute (trailNames t)) component with
    | error result =>
      rw [hone] at h
      cases h
    | ok s' =>
      rw [hone] at h
      obtain ⟨rfl, hlength', hnames'⟩ := normalizeComponent_rendered hnames
        (hslash component List.mem_cons_self) hlength hone
      exact ih hnames' (fun c hc => hslash c (List.mem_cons_of_mem _ hc)) hlength' h

/-- The trail of a path. -/
def trailOf (path : PathBytes) : Trail PathBytes :=
  Trail.start.walk (pathMoves path)

theorem slash_not_mem_of_mem_splitOn {path component : PathBytes}
    (h : component ∈ path.splitOn slash) : slash ∉ component := by
  induction path generalizing component with
  | nil =>
    rw [List.splitOn_nil, List.mem_singleton] at h
    rw [h]
    exact List.not_mem_nil
  | cons c cs ih =>
    rw [List.splitOn_cons_eq_if_modifyHead] at h
    by_cases hc : c = slash
    · rw [if_pos (by rw [hc]; exact beq_self_eq_true slash)] at h
      rcases List.mem_cons.mp h with rfl | h
      · exact List.not_mem_nil
      · exact ih h
    · rw [if_neg (by simpa using hc)] at h
      cases hsplit : cs.splitOn slash with
      | nil => exact absurd hsplit (List.splitOn_ne_nil slash cs)
      | cons first components =>
        rw [hsplit, List.modifyHead_cons] at h
        rw [hsplit] at ih
        rcases List.mem_cons.mp h with rfl | h
        · intro hmem
          rcases List.mem_cons.mp hmem with heq | hmem
          · exact hc heq.symm
          · exact ih List.mem_cons_self hmem
        · exact ih (List.mem_cons_of_mem _ h)

/-- **The output of `normalize_path` is the trail of its input, written out.** -/
theorem normalizePath_eq_ok {memory : Bool} {input output : PathBytes} (hcapacity : 2 ≤ capacity)
    (h : normalizePath memory input capacity = .ok output) :
    let written := (rendered (decide (input.head? = some slash)) (trailNames (trailOf input))).output
    output = (if written = [] then here else written) ∧ output.length < capacity ∧
      ∀ name ∈ (trailOf input).names, IsName name := by
  intro written
  rw [normalizePath_eq] at h
  dsimp only at h
  split at h
  · cases h
  split at h
  · cases h
  split at h
  · cases h
  rename_i s hloop
  have hstart : (rendered (decide (input.head? = some slash)) (trailNames Trail.start)).output.length
      < capacity := by
    show (if decide (input.head? = some slash) = true then [slash] else []).length < capacity
    split
    · exact hcapacity
    · exact Nat.lt_of_lt_of_le (by decide) hcapacity
  obtain ⟨rfl, hlength, hnames⟩ := normalizeAll_rendered (t := Trail.start)
    (fun name hname => absurd hname List.not_mem_nil) (fun _ => slash_not_mem_of_mem_splitOn) hstart hloop
  change (if written = [] then _ else Except.ok written) = Except.ok output at h
  by_cases hempty : written = []
  · rw [if_pos hempty, if_neg (by omega)] at h
    obtain rfl := Except.ok.inj h
    exact ⟨(if_pos hempty).symm, hcapacity, hnames⟩
  · rw [if_neg hempty] at h
    obtain rfl := Except.ok.inj h
    exact ⟨(if_neg hempty).symm, hlength, hnames⟩

/-! ## The beginning of a path -/

/-- A written path begins with its first name, and a separator ends that. -/
theorem rendered_first (absolute : Bool) {first : PathBytes} (hne : first ≠ [])
    (hslash : slash ∉ first) (names : List PathBytes) :
    ∃ rest, (rendered absolute (names ++ [first])).output =
        (if absolute then [slash] else []) ++ first ++ rest ∧
      (rest = [] ∨ rest.head? = some slash) := by
  induction names with
  | nil =>
    refine ⟨[], ?_, Or.inl rfl⟩
    cases absolute <;> simp [rendered, separatorAfter]
  | cons name names ih =>
    obtain ⟨rest, houtput, hrest⟩ := ih
    refine ⟨rest ++ separatorAfter (rendered absolute (names ++ [first])).output ++ name, ?_, ?_⟩
    · simp only [List.cons_append, rendered]
      conv_lhs => rw [houtput]
      simp only [houtput, List.append_assoc]
    · right
      rcases hrest with rfl | hrest
      · have hlast : (rendered absolute (names ++ [first])).output.getLast? ≠ some slash := by
          rw [houtput, List.append_nil, List.getLast?_append_of_ne_nil _ hne]
          exact fun h => hslash (List.mem_of_getLast? h)
        have hwritten : (rendered absolute (names ++ [first])).output ≠ [] := by
          rw [houtput, List.append_nil]
          exact List.append_ne_nil_of_right_ne_nil _ hne
        rw [separatorAfter, if_pos ⟨hwritten, hlast⟩]
        rfl
      · match rest, hrest with
        | c :: rest, hrest => exact hrest

/-- The name that a path keeps first, if any, or its first parent. -/
def firstWritten (t : Trail PathBytes) : Option PathBytes :=
  (trailNames t).getLast?

theorem firstWritten_eq (t : Trail PathBytes) :
    firstWritten t = if t.climbs = 0 then t.names.getLast? else some parent := by
  unfold firstWritten trailNames
  by_cases hclimbs : t.climbs = 0
  · rw [if_pos hclimbs, hclimbs, List.replicate_zero, List.append_nil]
  · obtain ⟨n, hn⟩ := Nat.exists_eq_succ_of_ne_zero hclimbs
    rw [if_neg hclimbs, hn, List.replicate_succ', ← List.append_assoc, List.getLast?_append_of_ne_nil _
      (List.cons_ne_nil _ _), List.getLast?_singleton]

/-! ## The trail of a written path -/

/-- A slash joins the moves of two paths. -/
theorem pathMoves_join (path path' : PathBytes) :
    pathMoves (path ++ slash :: path') = pathMoves path ++ pathMoves path' := by
  unfold pathMoves
  rw [List.splitOn_append_cons_self, List.map_append]

theorem pathMoves_component {component : PathBytes} (hslash : slash ∉ component) :
    pathMoves component = [moveOf component] := by
  unfold pathMoves
  rw [List.splitOn_eq_singleton hslash, List.map_singleton]

/-- Writing a component behind a path is one more move. -/
theorem trailOf_append {output component : PathBytes} (hslash : slash ∉ component) :
    trailOf (output ++ separatorAfter output ++ component) =
      (trailOf output).move (moveOf component) := by
  unfold trailOf separatorAfter
  by_cases hsep : output ≠ [] ∧ output.getLast? ≠ some slash
  · rw [if_pos hsep, List.append_assoc, List.singleton_append, pathMoves_join,
      pathMoves_component hslash, Trail.walk_append]
    rfl
  · rw [if_neg hsep, List.append_nil]
    rcases not_and_or.mp hsep with hempty | hlast
    · rw [not_not.mp hempty, List.nil_append, pathMoves_component hslash]
      rfl
    · obtain ⟨before, rfl⟩ := List.getLast?_eq_some_iff.mp (not_not.mp hlast)
      rw [List.append_assoc, List.singleton_append, pathMoves_join, pathMoves_join,
        pathMoves_component hslash, Trail.walk_append, Trail.walk_append]
      rfl

/-- The trail of a written path has the names it was written from. -/
theorem trailOf_rendered (absolute : Bool) {names : List PathBytes}
    (hslash : ∀ name ∈ names, slash ∉ name) :
    trailOf (rendered absolute names).output = Trail.start.walk (names.reverse.map moveOf) := by
  induction names with
  | nil =>
    cases absolute with
    | true => rfl
    | false => rfl
  | cons name names ih =>
    have houtput : (rendered absolute (name :: names)).output =
        (rendered absolute names).output ++ separatorAfter (rendered absolute names).output ++ name :=
      rfl
    rw [houtput, trailOf_append (hslash name List.mem_cons_self),
      ih fun name' hmem => hslash name' (List.mem_cons_of_mem _ hmem), List.reverse_cons,
      List.map_append, Trail.walk_append]
    rfl

/-- Only an absolute path is written with a slash first. -/
theorem rendered_head (absolute : Bool) {names : List PathBytes}
    (hnames : ∀ name ∈ names, name ≠ [] ∧ slash ∉ name) :
    (rendered absolute names).output.head? = some slash ↔ absolute = true := by
  rcases List.eq_nil_or_concat names with rfl | ⟨names, first, rfl⟩
  · cases absolute with
    | true => exact iff_of_true rfl rfl
    | false => exact iff_of_false nofun nofun
  · rw [List.concat_eq_append] at hnames ⊢
    obtain ⟨hne, hslash⟩ := hnames first (List.mem_append_right _ List.mem_cons_self)
    obtain ⟨rest, houtput, -⟩ := rendered_first absolute hne hslash names
    rw [houtput]
    match first with
    | [] => exact absurd rfl hne
    | c :: cs =>
      cases absolute with
      | true => exact iff_of_true rfl rfl
      | false =>
        refine iff_of_false ?_ nofun
        exact fun h => hslash (Option.some.inj h ▸ List.mem_cons_self)

theorem slash_not_mem_parent : slash ∉ parent := by decide

theorem trailNames_component {t : Trail PathBytes} (hnames : ∀ name ∈ t.names, IsName name) :
    ∀ name ∈ trailNames t, name ≠ [] ∧ slash ∉ name := by
  intro name hmem
  rcases List.mem_append.mp hmem with hmem | hmem
  · exact ⟨(hnames name hmem).ne_nil, (hnames name hmem).no_slash⟩
  · rw [List.eq_of_mem_replicate hmem]
    exact ⟨List.cons_ne_nil _ _, slash_not_mem_parent⟩

theorem walk_parents (climbs n : Nat) :
    (⟨climbs, []⟩ : Trail PathBytes).walk (List.replicate n .up) = ⟨climbs + n, []⟩ := by
  induction n generalizing climbs with
  | zero => rfl
  | succ n ih =>
    have hone : (⟨climbs, []⟩ : Trail PathBytes).move .up = ⟨climbs + 1, []⟩ := rfl
    rw [List.replicate_succ, Trail.walk_cons, hone, ih, Nat.add_right_comm]
    rfl

theorem walk_names {names : List PathBytes} (hnames : ∀ name ∈ names, IsName name)
    (t : Trail PathBytes) :
    t.walk (names.reverse.map moveOf) = { t with names := names ++ t.names } := by
  induction names with
  | nil => rfl
  | cons name names ih =>
    rw [List.reverse_cons, List.map_append, Trail.walk_append,
      ih fun name' hmem => hnames name' (List.mem_cons_of_mem _ hmem), List.map_singleton,
      moveOf_name (hnames name List.mem_cons_self)]
    rfl

/-- **Writing a trail out and reading it back changes nothing.** -/
theorem trailOf_written (absolute : Bool) {t : Trail PathBytes}
    (hnames : ∀ name ∈ t.names, IsName name) :
    trailOf (rendered absolute (trailNames t)).output = t := by
  rw [trailOf_rendered absolute fun name hmem => (trailNames_component hnames name hmem).2]
  unfold trailNames
  have hup : moveOf parent = .up := by decide
  rw [List.reverse_append, List.map_append, Trail.walk_append, List.reverse_replicate,
    List.map_replicate, hup, Trail.start, walk_parents, walk_names hnames, Nat.zero_add,
    List.append_nil]

end DualBoy.Frontend
