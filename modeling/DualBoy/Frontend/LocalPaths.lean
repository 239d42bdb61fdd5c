import DualBoy.Frontend.Grammar

/-!
# Local paths

Which entries of an accepted playlist are local. A line is checked before it is normalized, and
normalizing takes away what stands before its first lasting name, so that a name the check would
have refused at the front of a line can come to the front.

* `normalizePath_local_iff`: the output is local unless it begins with a name that looks foreign.
* `playlistDirectory_eq_ok`: the directory is what the playlist's path keeps without its last name.
* **`entries_local_iff`**, and `scheme_comes_to_the_front`: a playlist whose first entry becomes a
  URI.
-/

namespace DualBoy.Frontend

open DualBoy.Lib

/-! ## Names that look foreign -/

/-- A name that makes a relative path look like a network path or a URI. -/
def Foreign (name : PathBytes) : Prop :=
  name.head? = some backslash ∨ startsUriScheme name = true

/-- No scheme goes on behind a name. -/
theorem schemeEnds_append {name rest : PathBytes} (hslash : slash ∉ name)
    (hrest : rest = [] ∨ rest.head? = some slash) :
    schemeEnds (name ++ rest) = schemeEnds name := by
  induction name with
  | nil =>
    match rest, hrest with
    | [], _ => rfl
    | c :: rest, Or.inr hc =>
      obtain rfl := Option.some.inj hc
      rfl
  | cons c cs ih =>
    rw [List.cons_append, schemeEnds, schemeEnds, ih fun h => hslash (List.mem_cons_of_mem _ h)]

theorem startsUriScheme_append {name rest : PathBytes} (hne : name ≠ []) (hslash : slash ∉ name)
    (hrest : rest = [] ∨ rest.head? = some slash) :
    startsUriScheme (name ++ rest) = startsUriScheme name := by
  match name with
  | [] => exact absurd rfl hne
  | c :: cs =>
    rw [List.cons_append, startsUriScheme, startsUriScheme,
      schemeEnds_append (fun h => hslash (List.mem_cons_of_mem _ h)) hrest]

theorem isLetter_slash : isLetter slash = false := by decide

/-- **What makes a written path local**: it is absolute, or its first name is not foreign. -/
theorem validateLocalPath_written {absolute : Bool} {first rest : PathBytes} (hne : first ≠ [])
    (hslash : slash ∉ first) (hrest : rest = [] ∨ rest.head? = some slash)
    (hlength : ((if absolute then [slash] else []) ++ first ++ rest).length < playlistPathCapacity) :
    validateLocalPath ((if absolute then [slash] else []) ++ first ++ rest) = .ok ↔
      absolute = true ∨ ¬Foreign first := by
  match first with
  | [] => exact absurd rfl hne
  | c :: cs =>
    have hc : c ≠ slash := fun h => hslash (h ▸ List.mem_cons_self)
    unfold validateLocalPath
    rw [if_neg (by simp), if_neg (by omega)]
    cases absolute with
    | true =>
      have hnetwork : startsNetworkPath (slash :: c :: (cs ++ rest)) = false := by
        simp [startsNetworkPath, hc, show ¬slash = backslash by decide]
      have hscheme : startsUriScheme (slash :: c :: (cs ++ rest)) = false := by
        rw [startsUriScheme, isLetter_slash, Bool.false_and]
      refine iff_of_true (if_neg ?_) (Or.inl rfl)
      rintro (h | h | h)
      · exact absurd (hnetwork.symm.trans h) Bool.false_ne_true
      · exact absurd (Option.some.inj h) (by decide)
      · exact absurd (hscheme.symm.trans h) Bool.false_ne_true
    | false =>
      have hbad : (startsNetworkPath (c :: cs ++ rest) = true ∨
          (c :: cs ++ rest).head? = some backslash ∨ startsUriScheme (c :: cs ++ rest) = true) ↔
            Foreign (c :: cs) := by
        rw [startsUriScheme_append hne hslash hrest]
        constructor
        · rintro (h | h | h)
          · left
            unfold startsNetworkPath at h
            split at h
            · rename_i c' c'' cs' heq
              obtain ⟨rfl, -⟩ := List.cons.inj heq
              simp only [Bool.or_eq_true, Bool.and_eq_true, decide_eq_true_eq] at h
              rcases h with h | h
              · exact absurd h.1 hc
              · rw [h.1]
                rfl
            · cases h
          · exact Or.inl h
          · exact Or.inr h
        · rintro (h | h)
          · exact Or.inr (Or.inl h)
          · exact Or.inr (Or.inr h)
      have hpath : (if false = true then [slash] else []) ++ (c :: cs) ++ rest = c :: cs ++ rest :=
        rfl
      rw [hpath]
      by_cases hforeign : Foreign (c :: cs)
      · rw [if_pos (hbad.mpr hforeign)]
        exact iff_of_false (by simp) (by simpa using hforeign)
      · rw [if_neg (mt hbad.mp hforeign)]
        exact iff_of_true rfl (Or.inr hforeign)

/-! ## Normalized paths -/

/-- The path is absolute, or the first name it enters for good is not foreign. -/
def NamesLocally (path : PathBytes) : Prop :=
  path.head? = some slash ∨ ∀ name, EntersFirst name (pathMoves path) → ¬Foreign name

theorem not_foreign_parent : ¬Foreign parent := by
  rintro (h | h)
  · exact absurd h (by decide)
  · exact absurd h (by decide)

/-- The first name of a relative path, if it keeps one, is a parent or a name it enters for good. -/
theorem firstWritten_foreign {path first : PathBytes} (h : firstWritten (trailOf path) = some first)
    : ¬Foreign first ↔ ∀ name, EntersFirst name (pathMoves path) → ¬Foreign name := by
  rw [firstWritten_eq] at h
  by_cases hclimbs : (trailOf path).climbs = 0
  · rw [if_pos hclimbs] at h
    constructor
    · intro hfirst name hname
      obtain ⟨-, hlast⟩ := (first_name_iff _).mpr hname
      obtain rfl := Option.some.inj (h.symm.trans hlast)
      exact hfirst
    · intro hnames
      exact hnames first ((first_name_iff _).mp ⟨hclimbs, h⟩)
  · rw [if_neg hclimbs] at h
    obtain rfl := Option.some.inj h
    refine iff_of_true not_foreign_parent fun name hname => ?_
    exact absurd ((first_name_iff _).mpr hname).1 hclimbs

/-- **What normalizing leaves local**: what names locally. -/
theorem normalizePath_local_iff {memory : Bool} {input output : PathBytes}
    (h : normalizePath memory input playlistPathCapacity = .ok output) :
    validateLocalPath output = .ok ↔ NamesLocally input := by
  obtain ⟨houtput, hlength, hnames⟩ := normalizePath_eq_ok (by decide) h
  rcases List.eq_nil_or_concat (trailNames (trailOf input)) with hnone | ⟨names, first, hfirst⟩
  · -- nothing is left but the root or the place itself
    rw [hnone] at houtput
    have hnever (name : PathBytes) : ¬EntersFirst name (pathMoves input) := by
      intro hname
      obtain ⟨-, hlast⟩ := (first_name_iff _).mpr hname
      have hempty : (trailOf input).names = [] := (List.append_eq_nil_iff.mp hnone).1
      rw [show (Trail.start.walk (pathMoves input)).names = [] from hempty] at hlast
      cases hlast
    refine iff_of_true ?_ (Or.inr fun name hname => absurd hname (hnever name))
    rw [houtput]
    cases decide (input.head? = some slash) with
    | true => decide
    | false => decide
  · rw [List.concat_eq_append] at hfirst
    have hwritten : firstWritten (trailOf input) = some first := by
      unfold firstWritten
      rw [hfirst, List.getLast?_append_of_ne_nil _ (List.cons_ne_nil _ _), List.getLast?_singleton]
    have hname : first ≠ [] ∧ slash ∉ first :=
      trailNames_component hnames first (hfirst ▸ List.mem_append_right _ List.mem_cons_self)
    obtain ⟨rest, hrendered, hrest⟩ :=
      rendered_first (decide (input.head? = some slash)) hname.1 hname.2 names
    rw [hfirst, hrendered, if_neg (by simp [hname.1])] at houtput
    rw [houtput] at hlength ⊢
    rw [validateLocalPath_written hname.1 hname.2 hrest hlength, decide_eq_true_eq,
      firstWritten_foreign hwritten]
    exact Iff.rfl

/-! ## The playlist's directory -/

theorem not_slash_reverse {name : PathBytes} (hslash : slash ∉ name) :
    ∀ c ∈ name.reverse, decide (c ≠ slash) = true := by
  intro c hc
  exact decide_eq_true fun heq => hslash (heq ▸ List.mem_reverse.mp hc)

theorem beforeLastSlash_join {name : PathBytes} (hslash : slash ∉ name) (before : PathBytes) :
    beforeLastSlash (before ++ slash :: name) = some before := by
  have hdrop : (slash :: before.reverse).dropWhile (· ≠ slash) = slash :: before.reverse :=
    List.dropWhile_cons_of_neg (by simp)
  unfold beforeLastSlash
  rw [List.reverse_append, List.reverse_cons, List.append_assoc, List.singleton_append,
    List.dropWhile_append_of_pos (not_slash_reverse hslash), hdrop]
  dsimp only
  rw [List.reverse_reverse]

theorem beforeLastSlash_name {name : PathBytes} (hslash : slash ∉ name) :
    beforeLastSlash name = none := by
  have hdrop : name.reverse.dropWhile (· ≠ slash) = [] := by
    rw [← List.append_nil name.reverse,
      List.dropWhile_append_of_pos (not_slash_reverse hslash), List.dropWhile_nil]
  unfold beforeLastSlash
  rw [hdrop]

/-- A slash at the end is no move. -/
theorem trailOf_slash (path : PathBytes) : trailOf (path ++ [slash]) = trailOf path := by
  unfold trailOf
  rw [pathMoves_join, Trail.walk_append]
  rfl

/-- What `playlist_directory` makes of what it cuts off. -/
def directoryOf (before : Option PathBytes) : PathBytes :=
  match before with
  | none => here
  | some [] => [slash]
  | some before => before

/-- The directory has the trail of what is written before the last name. -/
theorem directoryOf_written (output : PathBytes) {name : PathBytes} (hslash : slash ∉ name) :
    trailOf (directoryOf (beforeLastSlash (output ++ separatorAfter output ++ name))) =
        trailOf output ∧
      directoryOf (beforeLastSlash (output ++ separatorAfter output ++ name)) ≠ [] ∧
      ((directoryOf (beforeLastSlash (output ++ separatorAfter output ++ name))).head? =
        some slash ↔ output.head? = some slash) := by
  unfold separatorAfter
  by_cases hsep : output ≠ [] ∧ output.getLast? ≠ some slash
  · rw [if_pos hsep, List.append_assoc, List.singleton_append, beforeLastSlash_join hslash]
    match output, hsep.1 with
    | c :: cs, _ => exact ⟨rfl, List.cons_ne_nil _ _, Iff.rfl⟩
  · rw [if_neg hsep, List.append_nil]
    rcases not_and_or.mp hsep with hempty | hlast
    · rw [not_not.mp hempty, List.nil_append, beforeLastSlash_name hslash]
      exact ⟨by decide, List.cons_ne_nil _ _, by decide⟩
    · obtain ⟨before, rfl⟩ := List.getLast?_eq_some_iff.mp (not_not.mp hlast)
      rw [List.append_assoc, List.singleton_append, beforeLastSlash_join hslash, trailOf_slash]
      match before with
      | [] => exact ⟨by decide, List.cons_ne_nil _ _, Iff.rfl⟩
      | c :: cs => exact ⟨rfl, List.cons_ne_nil _ _, Iff.rfl⟩

/-- **The directory of a playlist**: what its path keeps without its last name. -/
theorem playlistDirectory_eq_ok {memory : Bool} {playlistPath directory : PathBytes}
    {capacity : Nat} (h : playlistDirectory memory playlistPath capacity = .ok directory) :
    ∃ name names, trailNames (trailOf playlistPath) = name :: names ∧
      (rendered (decide (playlistPath.head? = some slash)) (name :: names)).output ≠ parent ∧
      trailOf directory =
        trailOf (rendered (decide (playlistPath.head? = some slash)) names).output ∧
      directory ≠ [] ∧ (directory.head? = some slash ↔ playlistPath.head? = some slash) ∧
      ∀ name ∈ (trailOf playlistPath).names, IsName name := by
  unfold playlistDirectory at h
  split at h
  · cases h
  split at h
  · cases h
  split at h
  · cases h
  rename_i normalized hnormalized
  obtain ⟨houtput, -, hnames⟩ := normalizePath_eq_ok (by decide) hnormalized
  split at h
  · cases h
  rename_i hplain
  rw [not_or, not_or, not_or] at hplain
  have hcomponents := trailNames_component hnames
  cases htrail : trailNames (trailOf playlistPath) with
  | nil =>
    rw [htrail] at houtput
    cases habsolute : decide (playlistPath.head? = some slash) with
    | true =>
      rw [habsolute] at houtput
      exact absurd houtput hplain.1
    | false =>
      rw [habsolute] at houtput
      exact absurd houtput hplain.2.1
  | cons name names =>
    rw [htrail] at houtput hcomponents
    have hwritten : (rendered (decide (playlistPath.head? = some slash)) (name :: names)).output =
        (rendered (decide (playlistPath.head? = some slash)) names).output ++
          separatorAfter (rendered (decide (playlistPath.head? = some slash)) names).output ++
          name := rfl
    have hne : (rendered (decide (playlistPath.head? = some slash)) (name :: names)).output ≠ [] := by
      rw [hwritten]
      exact List.append_ne_nil_of_right_ne_nil _ (hcomponents name List.mem_cons_self).1
    rw [if_neg hne] at houtput
    obtain ⟨htrailOf, hdirectory, hhead⟩ := directoryOf_written
      (rendered (decide (playlistPath.head? = some slash)) names).output
      (hcomponents name List.mem_cons_self).2
    rw [← hwritten, ← houtput] at htrailOf hdirectory hhead
    rw [rendered_head _ fun name' hmem => hcomponents name' (List.mem_cons_of_mem _ hmem),
      decide_eq_true_eq] at hhead
    have hsame : directory = directoryOf (beforeLastSlash normalized) := by
      split at h
      · rename_i hcut
        rw [hcut]
        split at h
        · cases h
        · exact (Except.ok.inj h).symm
      · rename_i hcut
        rw [hcut]
        split at h
        · cases h
        · exact (Except.ok.inj h).symm
      · rename_i before hnonempty hcut
        rw [hcut]
        split at h
        · cases h
        · obtain rfl := Except.ok.inj h
          cases before with
          | nil => exact absurd rfl hnonempty
          | cons _ _ => rfl
    rw [← hsame] at htrailOf hdirectory hhead
    exact ⟨name, names, rfl, houtput ▸ hplain.2.2.1, htrailOf, hdirectory, hhead, hnames⟩

/-! ## Entries -/

/-- The line is absolute, or the playlist's path is, or the first name entered for good on the way
along the playlist's path, one step up, and along the line is not foreign. -/
def EntersLocally (playlistPath line : PathBytes) : Prop :=
  playlistPath.head? = some slash ∨ line.head? = some slash ∨
    ∀ name, EntersFirst name (pathMoves playlistPath ++ .up :: pathMoves line) → ¬Foreign name

/-- What a line is joined to has the trail of the directory and then of the line. -/
theorem joinEntry_trail {directory line joined : PathBytes} (hdirectory : directory ≠ [])
    (hline : line.head? ≠ some slash) (h : joinEntry directory line = .ok joined) :
    trailOf joined = (trailOf directory).walk (pathMoves line) ∧
      (joined.head? = some slash ↔ directory.head? = some slash) := by
  unfold joinEntry at h
  by_cases hhere : directory = here
  · rw [if_pos (Or.inr hhere)] at h
    obtain rfl := Except.ok.inj h
    rw [hhere]
    exact ⟨rfl, iff_of_false hline (by decide)⟩
  rw [if_neg (not_or.mpr ⟨hline, hhere⟩)] at h
  split at h
  · cases h
  by_cases hlast : directory.getLast? = some slash
  · rw [if_neg (not_or.mpr ⟨hdirectory, not_not.mpr hlast⟩)] at h
    obtain rfl := Except.ok.inj h
    obtain ⟨before, rfl⟩ := List.getLast?_eq_some_iff.mp hlast
    rw [trailOf_slash, List.append_assoc, List.singleton_append]
    unfold trailOf
    rw [pathMoves_join, Trail.walk_append]
    refine ⟨rfl, ?_⟩
    match before with
    | [] => exact Iff.rfl
    | c :: cs => exact Iff.rfl
  · rw [if_pos (Or.inr hlast)] at h
    obtain rfl := Except.ok.inj h
    unfold trailOf
    rw [pathMoves_join, Trail.walk_append]
    refine ⟨rfl, ?_⟩
    match directory, hdirectory with
    | c :: cs, _ => exact Iff.rfl

/-- Where a playlist's directory is, as its path goes. -/
theorem playlistDirectory_trail {memory : Bool} {playlistPath directory : PathBytes}
    {capacity : Nat} (h : playlistDirectory memory playlistPath capacity = .ok directory)
    (hrelative : playlistPath.head? ≠ some slash) :
    trailOf directory = (trailOf playlistPath).move .up ∨
      (trailOf directory).climbs ≠ 0 ∧ (trailOf playlistPath).climbs ≠ 0 := by
  obtain ⟨name, names, htrail, hparent, hdirectory, -, -, hnames⟩ := playlistDirectory_eq_ok h
  rw [hdirectory]
  generalize trailOf playlistPath = t at htrail hnames
  obtain ⟨climbs, entered⟩ := t
  cases entered with
  | cons first entered =>
    obtain ⟨-, rfl⟩ := List.cons.inj htrail
    exact Or.inl (trailOf_written _ (t := ⟨climbs, entered⟩)
      fun name hmem => hnames name (List.mem_cons_of_mem _ hmem))
  | nil =>
    right
    cases climbs with
    | zero => cases htrail
    | succ climbs =>
      obtain ⟨rfl, rfl⟩ := List.cons.inj htrail
      refine ⟨?_, Nat.succ_ne_zero _⟩
      have hwritten := trailOf_written (decide (playlistPath.head? = some slash))
        (t := ⟨climbs, []⟩) nofun
      have hsame : trailNames ⟨climbs, []⟩ = List.replicate climbs parent := List.nil_append _
      rw [hsame] at hwritten
      change (trailOf (rendered _ (List.replicate climbs parent)).output).climbs ≠ 0
      rw [hwritten]
      rintro rfl
      rw [decide_eq_false hrelative] at hparent
      exact hparent rfl

/-- **What `resolve_entry` leaves local**: what enters locally. -/
theorem resolveEntry_local_iff {memory memory' : Bool} {playlistPath directory line entry : PathBytes}
    {capacity : Nat} (hdirectory : playlistDirectory memory playlistPath capacity = .ok directory)
    (h : resolveEntry memory' directory line = .ok entry) :
    validateLocalPath entry = .ok ↔ EntersLocally playlistPath line := by
  obtain ⟨-, -, -, -, -, hne, hhead, -⟩ := playlistDirectory_eq_ok hdirectory
  have hjoined : ∃ joined, joinEntry directory line = .ok joined ∧
      normalizePath memory' joined playlistPathCapacity = .ok entry := by
    unfold resolveEntry at h
    split_ifs at h
    split at h
    · cases h
    · rename_i joined hjoin
      exact ⟨joined, hjoin, h⟩
  obtain ⟨joined, hjoin, hnormalize⟩ := hjoined
  rw [normalizePath_local_iff hnormalize]
  by_cases hline : line.head? = some slash
  · refine iff_of_true ?_ (Or.inr (Or.inl hline))
    unfold joinEntry at hjoin
    rw [if_pos (Or.inl hline)] at hjoin
    obtain rfl := Except.ok.inj hjoin
    exact Or.inl hline
  obtain ⟨htrail, hjoinedHead⟩ := joinEntry_trail hne hline hjoin
  by_cases hpath : playlistPath.head? = some slash
  · exact iff_of_true (Or.inl (hjoinedHead.mpr (hhead.mpr hpath))) (Or.inl hpath)
  have hrelative : joined.head? ≠ some slash := fun h => hpath (hhead.mp (hjoinedHead.mp h))
  have hsame (name : PathBytes) : EntersFirst name (pathMoves joined) ↔
      EntersFirst name (pathMoves playlistPath ++ .up :: pathMoves line) := by
    rw [← first_name_iff, ← first_name_iff, Trail.walk_append, Trail.walk_cons]
    change (trailOf joined).climbs = 0 ∧ (trailOf joined).names.getLast? = some name ↔
      (((trailOf playlistPath).move .up).walk (pathMoves line)).climbs = 0 ∧
        (((trailOf playlistPath).move .up).walk (pathMoves line)).names.getLast? = some name
    rw [htrail]
    rcases playlistDirectory_trail hdirectory hpath with heq | ⟨hclimbs, hclimbs'⟩
    · rw [heq]
    · have hle := climbs_le_walk (trailOf directory) (pathMoves line)
      have hle' := climbs_le_walk (trailOf playlistPath) (.up :: pathMoves line)
      rw [Trail.walk_cons] at hle'
      exact iff_of_false (fun h => hclimbs (by omega)) (fun h => hclimbs' (by omega))
  unfold NamesLocally EntersLocally
  rw [or_iff_right hrelative, or_iff_right hpath, or_iff_right hline]
  exact forall_congr' fun name => imp_congr_left (hsame name)

/-- **Which playlists yield local paths**: those whose lines all enter locally. -/
theorem entries_local_iff (memory : Nat → Bool) (playlistPath : PathBytes) (data : List Byte)
    (playlist entries : List PathBytes)
    (h : playlistParse memory playlistPath data playlist = (.ok, entries)) :
    (∀ entry ∈ entries, validateLocalPath entry = .ok) ↔
      ∀ line ∈ entryLines (skipByteOrderMark data), EntersLocally playlistPath line := by
  obtain ⟨directory, hdirectory, -, -, first, second, entry0, entry1, hlines, rfl, h0, h1⟩ :=
    (parseEntries_eq_ok _ _ _ _).mp (playlistParse_eq_ok.mp h)
  rw [hlines]
  simp only [List.forall_mem_cons, List.not_mem_nil, false_implies, implies_true, and_true]
  rw [resolveEntry_local_iff hdirectory h0, resolveEntry_local_iff hdirectory h1]

/-- A playlist that is accepted. -/
theorem sample_accepted :
    playlistParse (fun _ => true) (bytesOf "pair.m3u") (bytesOf "./http:/a\nb\n") [] =
      (.ok, [bytesOf "http:/a", bytesOf "b"]) := by
  refine playlistParse_eq_ok.mpr ((parseEntries_eq_ok _ _ _ _).mpr ⟨here, ?_, by decide, by decide,
    bytesOf "./http:/a", bytesOf "b", bytesOf "http:/a", bytesOf "b", by decide, rfl, ?_, ?_⟩)
  · unfold playlistDirectory
    rw [normalizePath_eq]
    decide
  · unfold resolveEntry
    rw [show joinEntry here (bytesOf "./http:/a") = .ok (bytesOf "./http:/a") by decide]
    dsimp only
    rw [normalizePath_eq]
    decide
  · unfold resolveEntry
    rw [show joinEntry here (bytesOf "b") = .ok (bytesOf "b") by decide]
    dsimp only
    rw [normalizePath_eq]
    decide

/-- **A scheme comes to the front**: `./http:/a` is a local path, what it normalizes to is a URI. -/
theorem scheme_comes_to_the_front :
    playlistParse (fun _ => true) (bytesOf "pair.m3u") (bytesOf "./http:/a\nb\n") [] =
        (.ok, [bytesOf "http:/a", bytesOf "b"]) ∧
      validateLocalPath (bytesOf "./http:/a") = .ok ∧
      validateLocalPath (bytesOf "http:/a") = .unsafePath :=
  ⟨sample_accepted, by decide, by decide⟩

/-- One of its lines does not enter locally. -/
theorem sample_line_foreign :
    ∃ line ∈ entryLines (skipByteOrderMark (bytesOf "./http:/a\nb\n")),
      ¬EntersLocally (bytesOf "pair.m3u") line := by
  by_contra hnone
  have hlocal := (entries_local_iff _ _ _ _ _ sample_accepted).mpr fun line hline =>
    not_not.mp fun hforeign => hnone ⟨line, hline, hforeign⟩
  exact absurd (hlocal _ List.mem_cons_self) (by decide)

end DualBoy.Frontend
